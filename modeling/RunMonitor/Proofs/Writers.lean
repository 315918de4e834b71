import RunMonitor.Proofs.Cache.Key
import RunMonitor.Proofs.Procedure
import RunMonitor.Proofs.Store.Frame
import RunMonitor.Proofs.Sync.Staleness
import RunMonitor.Proofs.View.Lookup

namespace RunMonitor

/-! Who writes to the store that all share. The keys of each are its own. -/

inductive Writer where
  | synchronizer (kind : Kind)
  | cacheAside
  | janitor
  deriving DecidableEq

namespace Writer

def Owns : Writer → String → Prop
  | .synchronizer .cronJob, key => key = Key.cronJobs
  | .synchronizer .job, key => key = Key.jobs
  | .synchronizer .pod, key => Sync.IsPodKey key
  | .cacheAside, key => Key.IsLookup key
  | .janitor, _ => False

/-- The first character and the eighth tell whose key it is. -/
def owner? (key : String) : Option Writer :=
  match key.toList[0]?, key.toList[7]? with
  | some 'p', _ => some (.synchronizer .pod)
  | some 'c', some '/' => some .cacheAside
  | some 'c', _ => some (.synchronizer .cronJob)
  | some 'j', none => some (.synchronizer .job)
  | some 'j', _ => some .cacheAside
  | _, _ => none

theorem owner?_of_owns {writer : Writer} {key : String} (h : writer.Owns key) :
    owner? key = some writer := by
  match writer, h with
  | .synchronizer .cronJob, rfl => decide
  | .synchronizer .job, rfl => decide
  | .synchronizer .pod, ⟨ns, job, rfl⟩ => simp [owner?, Key.podsOf]
  | .cacheAside, .inl rfl => decide
  | .cacheAside, .inr ⟨ns, name, rfl⟩ => simp [owner?, Key.definition]

theorem eq_of_owns {writer other : Writer} {key : String} (h : writer.Owns key)
    (h' : other.Owns key) : writer = other :=
  Option.some.inj ((owner?_of_owns h).symm.trans (owner?_of_owns h'))

/-- On one of the writer's own keys, or a purge by the janitor. -/
def Allows {β : Type} (writer : Writer) (call : StoreCall β) : Prop :=
  call.Within writer.Owns ∨ writer = .janitor ∧ call.isPurge = true

def rules (writer : Writer) : Procedure.Rules (fun β => StoreCall β ⊕ Inquiry β) Unit where
  Allows
    | .inl call, _ => writer.Allows call
    | .inr _, _ => True
  after _ _ _ := ()

/-- However its calls and inquiries are replied to, the view makes no call but these. -/
def Binds {α : Type} (writer : Writer) (view : View α) : Prop :=
  view.Obeys writer.rules (fun _ _ => True) ()

def BindsAccess {α : Type} (writer : Writer) (access : Access α) : Prop :=
  access.Obeys (writer.rules.comap Sum.inl) (fun _ _ => True) ()

variable {α β : Type} {writer : Writer}

theorem BindsAccess.view {access : Access α} (h : writer.BindsAccess access) :
    writer.Binds (liftM access : View α) :=
  Procedure.Obeys.mapCalls h

theorem BindsAccess.andThen {access : Access α} {f : α → Access β} (h : writer.BindsAccess access)
    (hf : ∀ value, writer.BindsAccess (f value)) : writer.BindsAccess (access >>= f) :=
  Procedure.Obeys.andThen h (fun value _ _ => hf value) fun _ _ _ => trivial

theorem Binds.andThen {view : View α} {f : α → View β} (h : writer.Binds view)
    (hf : ∀ value, writer.Binds (f value)) : writer.Binds (view >>= f) :=
  Procedure.Obeys.andThen h (fun value _ _ => hf value) fun _ _ _ => trivial

theorem binds_seek {key : String} (howns : writer.Owns key) {missed : View ByteArray}
    (h : writer.Binds missed) : writer.Binds (View.seek key missed) := by
  refine ⟨.inl howns, fun reply => ?_⟩
  rcases reply with error | (_ | hit)
  · trivial
  · exact h
  · trivial

theorem binds_lookUp {key : String} (howns : writer.Owns key) (ttl : Nat) {fetch : View ByteArray}
    {inquiry : Inquiry β} {f : Except Error β → Except Error ByteArray}
    (hfetch : fetch = View.fetching inquiry f) : writer.Binds (View.lookUp ttl key fetch) := by
  have hkeep : ∀ value, writer.Binds (View.keep ttl key value) :=
    fun value => ⟨.inl howns, fun _ => trivial⟩
  have hinquire : writer.Binds (View.fetching inquiry f) := ⟨trivial, fun _ => trivial⟩
  rw [View.lookUp_eq, hfetch]
  exact binds_seek howns (binds_seek howns (hinquire.andThen hkeep))

theorem binds_runIndex (ttl : Nat) : cacheAside.Binds (View.runIndex ttl) := by
  have howns : cacheAside.Owns Key.runIndex := .inl rfl
  have hlookUp := binds_lookUp howns ttl View.fetching_jobs
  refine Procedure.Obeys.andThen hlookUp.attempt (fun found _ _ => ?_) fun _ _ _ => trivial
  cases found <;> trivial

theorem binds_definition (ttl : Nat) (ns name : String) :
    cacheAside.Binds (View.definition ttl ns name) := by
  have howns : cacheAside.Owns (Key.definition ns name) := .inr ⟨ns, name, rfl⟩
  refine (binds_lookUp howns ttl (View.fetching_object ns name)).andThen fun bytes => ?_
  split <;> trivial

section Synchronizers

variable {K : Type} [Collected K]

structure Keeps (writer : Writer) (K : Type) [Collected K] : Prop where
  fixed : ∀ key, Collected.collection K = some key → writer.Owns key
  filed : ∀ (object : K) (key : String), Collected.collectionKey? object = some key →
    writer.Owns key

theorem keeps_synchronizer (kind : Kind) : (synchronizer kind).Keeps kind.Object := by
  cases kind with
  | cronJob => exact ⟨fun _ h => (Option.some.inj h).symm, fun _ _ h => (Option.some.inj h).symm⟩
  | job => exact ⟨fun _ h => (Option.some.inj h).symm, fun _ _ h => (Option.some.inj h).symm⟩
  | pod =>
      refine ⟨fun key h => ?_, fun pod key h => Sync.isPodKey_of_collectionKey? h⟩
      cases h

def OwnsAll (writer : Writer) (written : Sync.Written) : Prop :=
  ∀ key, written.contains key = true → writer.Owns key

variable {written : Sync.Written}

theorem Keeps.owns_of_filed (h : writer.Keeps K) {key : String} {items : List K}
    (hfiled : Sync.filed key items ≠ []) : writer.Owns key := by
  obtain ⟨object, member⟩ := List.exists_mem_of_ne_nil _ hfiled
  exact h.filed object key (of_decide_eq_true (List.mem_filter.mp member).2)

theorem Keeps.ownsAll_withFixed (h : writer.Keeps K) (hwritten : writer.OwnsAll written) :
    writer.OwnsAll (written.withFixed K) := by
  intro key hkey
  unfold Sync.Written.withFixed at hkey
  split at hkey
  case h_1 fixed hfixed =>
    rw [SortedMap.contains, SortedMap.find?_insert] at hkey
    split at hkey
    case isTrue heq => exact h.fixed key (heq ▸ hfixed)
    case isFalse => exact hwritten key hkey
  case h_2 => exact hwritten key hkey

theorem bindsAccess_writeAll {writes : List (Sync.Write K)}
    (howns : ∀ write ∈ writes, writer.Owns write.key) :
    writer.BindsAccess (Sync.writeAll writes) := by
  induction writes with
  | nil => trivial
  | cons write rest ih =>
      have hwrite : writer.BindsAccess write.access := by
        cases write with
        | replace key items => exact ⟨.inl (howns _ List.mem_cons_self), fun _ => trivial⟩
        | remove key => exact ⟨.inl (howns _ List.mem_cons_self), fun _ => trivial⟩
      exact hwrite.andThen fun _ =>
        ih fun other member => howns other (List.mem_cons_of_mem _ member)

theorem Keeps.call (h : writer.Keeps K) (hwritten : writer.OwnsAll written)
    (call : Sync.Call K) :
    writer.BindsAccess (call.access written).2 ∧ writer.OwnsAll (call.access written).1 := by
  cases call with
  | resync items order =>
      constructor
      · refine bindsAccess_writeAll fun write member => ?_
        rcases Sync.mem_map_key_writes.mp (List.mem_map_of_mem member) with hfiled | hcontains
        · exact h.owns_of_filed hfiled
        · exact h.ownsAll_withFixed hwritten _ hcontains
      · exact fun key hkey => h.owns_of_filed ((Sync.contains_plan_written written order).mp hkey)
  | apply event =>
      change writer.BindsAccess (Sync.apply written event).2 ∧
        writer.OwnsAll (Sync.apply written event).1
      cases hkey : Collected.collectionKey? event.object with
      | none =>
          rw [Sync.apply_of_homeless hkey]
          exact ⟨trivial, hwritten⟩
      | some key =>
          rw [Sync.apply_of_filed hkey]
          refine ⟨⟨.inl (h.filed event.object key hkey), fun _ => trivial⟩, fun k hk => ?_⟩
          rw [SortedMap.contains, SortedMap.find?_insert] at hk
          split at hk
          case isTrue heq => exact heq ▸ h.filed event.object key hkey
          case isFalse => exact hwritten k hk

end Synchronizers

end Writer
end RunMonitor
