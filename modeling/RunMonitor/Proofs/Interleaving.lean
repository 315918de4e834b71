import RunMonitor.Proofs.Writers

namespace RunMonitor

/-! Everybody at work on one store, a call at a time and in any order. -/

/-- Any calls of a synchronizer, with nothing remembered before the first; a lookup that fills the
store; a purge. -/
inductive Duty where
  | synchronize (kind : Kind) (calls : List (Sync.Call kind.Object))
  | definition (ttl : Nat) (ns name : String)
  | runIndex (ttl : Nat)
  | purge

structure Errand where
  {α : Type}
  rest : View α

def Sync.accessAll {K : Type} [Collected K] (written : Written) : List (Call K) → Access Unit
  | [] => pure ()
  | call :: rest => do
      let (written, access) := call.access written
      access
      accessAll written rest

namespace Duty

def writer : Duty → Writer
  | .synchronize kind _ => .synchronizer kind
  | .definition _ _ _ | .runIndex _ => .cacheAside
  | .purge => .janitor

def errand : Duty → Errand
  | .synchronize _ calls => ⟨(liftM (Sync.accessAll SortedMap.empty calls) : View Unit)⟩
  | .definition ttl ns name => ⟨View.definition ttl ns name⟩
  | .runIndex ttl => ⟨View.runIndex ttl⟩
  | .purge => ⟨(liftM Store.purge : View Nat)⟩

theorem bindsAccess_accessAll {K : Type} [Collected K] {writer : Writer} (h : writer.Keeps K)
    {written : Sync.Written} (hwritten : writer.OwnsAll written) (calls : List (Sync.Call K)) :
    writer.BindsAccess (Sync.accessAll written calls) := by
  induction calls generalizing written with
  | nil => trivial
  | cons call rest ih =>
      obtain ⟨haccess, hnext⟩ := h.call hwritten call
      exact haccess.andThen fun _ => ih hnext

theorem binds (duty : Duty) : duty.writer.Binds duty.errand.rest := by
  cases duty with
  | synchronize kind calls =>
      have hempty : (Writer.synchronizer kind).OwnsAll SortedMap.empty := by
        intro key hkey
        cases hkey
      exact (bindsAccess_accessAll (Writer.keeps_synchronizer kind) hempty calls).view
  | definition ttl ns name => exact Writer.binds_definition ttl ns name
  | runIndex ttl => exact Writer.binds_runIndex ttl
  | purge => exact ⟨.inr ⟨rfl, rfl⟩, fun _ => trivial⟩

end Duty

structure Turn (ι : Type) where
  time : Int
  worker : ι
  answer : {β : Type} → Inquiry β → Except Error β

variable {ι : Type}

def Errand.proceed (turn : Turn ι) (rows : Rows) : Errand → Errand × Rows
  | ⟨.done result⟩ => (⟨.done result⟩, rows)
  | ⟨.call (.inl call) next⟩ =>
      let (reply, rows) := call.perform turn.time rows
      (⟨next reply⟩, rows)
  | ⟨.call (.inr inquiry) next⟩ => (⟨next (turn.answer inquiry)⟩, rows)

namespace Errand

variable {writer other : Writer} {turn : Turn ι} {rows others : Rows} {errand : Errand}

theorem binds_proceed (h : writer.Binds errand.rest) (turn : Turn ι) (rows : Rows) :
    writer.Binds (errand.proceed turn rows).1.rest := by
  match errand, h with
  | ⟨.done result⟩, h => exact h
  | ⟨.call (.inl call) next⟩, ⟨_, hnext⟩ => exact hnext (call.perform turn.time rows).1
  | ⟨.call (.inr inquiry) next⟩, ⟨_, hnext⟩ => exact hnext (turn.answer inquiry)

theorem proceed_alike (h : writer.Binds errand.rest) (howner : ∃ key, writer.Owns key)
    (hrows : rows.AgreesOn writer.Owns turn.time others) :
    (errand.proceed turn rows).1 = (errand.proceed turn others).1 ∧
      (errand.proceed turn rows).2.AgreesOn writer.Owns turn.time
        (errand.proceed turn others).2 := by
  match errand, h with
  | ⟨.done result⟩, _ => exact ⟨rfl, hrows⟩
  | ⟨.call (.inr inquiry) next⟩, _ => exact ⟨rfl, hrows⟩
  | ⟨.call (.inl call) next⟩, ⟨hcall, _⟩ =>
      rcases hcall with hwithin | ⟨rfl, _⟩
      · obtain ⟨hreply, hafter⟩ := hrows.perform hwithin
        exact ⟨congrArg (fun reply => Errand.mk (next reply)) hreply, hafter⟩
      -- what a purge is replied depends on the rows of all, but whoever purges owns none
      · exact howner.elim fun _ howns => howns.elim

theorem proceed_apart (h : other.Binds errand.rest) (hne : other ≠ writer) (rows : Rows) :
    (errand.proceed turn rows).2.AgreesOn writer.Owns turn.time rows := by
  match errand, h with
  | ⟨.done result⟩, _ => exact .refl _ _ rows
  | ⟨.call (.inr inquiry) next⟩, _ => exact .refl _ _ rows
  | ⟨.call (.inl call) next⟩, ⟨hcall, _⟩ =>
      rcases hcall with hwithin | ⟨_, hpurge⟩
      · exact .of_within hwithin (fun _ howns hother => hne (Writer.eq_of_owns hother howns)) _ _
      · exact .of_isPurge hpurge _ _

end Errand

structure Workplace (ι : Type) where
  rows : Rows
  errands : ι → Errand

namespace Workplace

def start (duties : ι → Duty) (rows : Rows) : Workplace ι :=
  ⟨rows, fun worker => (duties worker).errand⟩

def Bound (duties : ι → Duty) (place : Workplace ι) : Prop :=
  ∀ worker, (duties worker).writer.Binds (place.errands worker).rest

theorem bound_start (duties : ι → Duty) (rows : Rows) : (start duties rows).Bound duties :=
  fun worker => (duties worker).binds

variable [DecidableEq ι]

def step (place : Workplace ι) (turn : Turn ι) : Workplace ι :=
  let (errand, rows) := (place.errands turn.worker).proceed turn place.rows
  ⟨rows, Function.update place.errands turn.worker errand⟩

def after (place : Workplace ι) (turns : List (Turn ι)) : Workplace ι := turns.foldl step place

def alone (duties : ι → Duty) (writer : Writer) (turns : List (Turn ι)) : List (Turn ι) :=
  turns.filter fun turn => (duties turn.worker).writer = writer

/-- To the writer one place is like the other, from the given time on. -/
structure Alike (duties : ι → Duty) (writer : Writer) (t : Int) (place other : Workplace ι) :
    Prop where
  rows : place.rows.AgreesOn writer.Owns t other.rows
  errands : ∀ worker, (duties worker).writer = writer →
    place.errands worker = other.errands worker

variable {duties : ι → Duty} {writer : Writer} {place other : Workplace ι} {turn : Turn ι}
  {turns : List (Turn ι)} {t t' : Int}

theorem Bound.step (h : place.Bound duties) (turn : Turn ι) : (place.step turn).Bound duties := by
  intro worker
  change (duties worker).writer.Binds (Function.update place.errands turn.worker _ worker).rest
  by_cases hworker : worker = turn.worker
  · subst hworker
    rw [Function.update_self]
    exact Errand.binds_proceed (h turn.worker) turn place.rows
  · rw [Function.update_of_ne hworker]
    exact h worker

theorem Alike.own (h : Alike duties writer t place other) (hbound : place.Bound duties)
    (howner : ∃ key, writer.Owns key) (hle : t ≤ turn.time)
    (hown : (duties turn.worker).writer = writer) :
    Alike duties writer turn.time (place.step turn) (other.step turn) := by
  have hsame := h.errands turn.worker hown
  obtain ⟨herrand, hrows⟩ :=
    Errand.proceed_alike (hown ▸ hbound turn.worker) howner (h.rows.later hle)
  refine ⟨?_, fun worker hworker => ?_⟩
  · simpa only [step, ← hsame] using hrows
  · simp only [step, ← hsame, herrand, Function.update_apply, h.errands worker hworker]

theorem Alike.foreign (h : Alike duties writer t place other) (hbound : place.Bound duties)
    (hle : t ≤ turn.time) (hforeign : (duties turn.worker).writer ≠ writer) :
    Alike duties writer turn.time (place.step turn) other := by
  refine ⟨?_, fun worker hworker => ?_⟩
  · exact (Errand.proceed_apart (hbound turn.worker) hforeign place.rows).trans (h.rows.later hle)
  · have hne : worker ≠ turn.worker := fun heq => hforeign (heq ▸ hworker)
    simp only [step, Function.update_of_ne hne, h.errands worker hworker]

theorem Alike.after (h : Alike duties writer t place other) (hbound : place.Bound duties)
    (howner : ∃ key, writer.Owns key) (forward : turns.Pairwise fun a b => a.time ≤ b.time)
    (hle : ∀ turn ∈ turns, t ≤ turn.time) (past : ∀ turn ∈ turns, turn.time ≤ t') (htt' : t ≤ t') :
    Alike duties writer t' (place.after turns) (other.after (alone duties writer turns)) := by
  induction turns generalizing t place other with
  | nil => exact ⟨h.rows.later htt', h.errands⟩
  | cons turn rest ih =>
      obtain ⟨hfirst, hrest⟩ := List.pairwise_cons.mp forward
      have hnow := hle turn List.mem_cons_self
      have hend := past turn List.mem_cons_self
      have hpast : ∀ turn ∈ rest, turn.time ≤ t' :=
        fun turn member => past turn (List.mem_cons_of_mem _ member)
      -- the likeness is about later times only, so purges and expiries up to now do not count
      by_cases hown : (duties turn.worker).writer = writer
      · have hkept : alone duties writer (turn :: rest) = turn :: alone duties writer rest :=
          List.filter_cons_of_pos (decide_eq_true hown)
        rw [hkept]
        exact ih (h.own hbound howner hnow hown) (hbound.step turn) hrest hfirst hpast hend
      · have hdropped : alone duties writer (turn :: rest) = alone duties writer rest :=
          List.filter_cons_of_neg (by simpa using hown)
        rw [hdropped]
        exact ih (h.foreign hbound hnow hown) (hbound.step turn) hrest hfirst hpast hend

/-- Whatever the others do in between, at the end a writer finds under its keys what it would have
found if it had worked alone, at the same times and from the same store. -/
theorem live_alone (duties : ι → Duty) (rows : Rows) {turns : List (Turn ι)}
    (forward : turns.Pairwise fun a b => a.time ≤ b.time) {t : Int}
    (past : ∀ turn ∈ turns, turn.time ≤ t) {writer : Writer} {key : String}
    (owns : writer.Owns key) :
    ((start duties rows).after turns).rows.live t key =
      ((start duties rows).after (alone duties writer turns)).rows.live t key := by
  have hbound := bound_start duties rows
  have halike : ∀ t, Alike duties writer t (start duties rows) (start duties rows) :=
    fun t => ⟨.refl writer.Owns t rows, fun _ _ => rfl⟩
  cases turns with
  | nil => rfl
  | cons turn rest =>
      have hfirst := (List.pairwise_cons.mp forward).1
      have hle : ∀ other ∈ turn :: rest, turn.time ≤ other.time := by
        intro other member
        rcases List.mem_cons.mp member with rfl | member
        · exact Int.le_refl _
        · exact hfirst other member
      have hafter := (halike turn.time).after hbound ⟨key, owns⟩ forward hle past
        (past turn List.mem_cons_self)
      exact hafter.rows t (Int.le_refl t) key owns

section Crew

def crew : Nat → Duty
  | 0 => .synchronize .cronJob [.resync [], .resync []]
  | 1 => .definition 1000 "default" "nightly"
  | _ => .purge

def nightlyFound : {β : Type} → Inquiry β → Except Error β
  | _, .object .cronJob _ _ => .ok (some { metadata := { name := some "nightly" } })
  | _, .object .job _ _ | _, .object .pod _ _ => .ok none
  | _, .jobs => .ok []
  | _, .time => .ok ⟨0, 0⟩

def shift : List (Turn Nat) :=
  [(0, 1), (5, 0), (5, 1), (6, 1), (7, 2), (8, 1), (8, 0), (9, 3)].map fun turn : Int × Nat =>
    ⟨turn.1, turn.2, nightlyFound⟩

theorem live_alone_crew :
    ((start crew SortedMap.empty).after shift).rows.live 9 (Key.definition "default" "nightly") =
        ((start crew SortedMap.empty).after (alone crew .cacheAside shift)).rows.live 9
          (Key.definition "default" "nightly") ∧
      (((start crew SortedMap.empty).after shift).rows.live 9
        (Key.definition "default" "nightly")).isSome = true :=
  ⟨live_alone crew SortedMap.empty (by decide) (by decide) (.inr ⟨_, _, rfl⟩), by decide +kernel⟩

end Crew

end Workplace
end RunMonitor
