import RunMonitor.Proofs.Sync.Plan

namespace RunMonitor.Sync

inductive Call (K : Type) where
  | resync (items : List K) (order : Order := .ascending)
  | apply (event : WatchEvent K)

/-- What a synchronizer remembers between two calls, and the store that it writes to. -/
structure Keeper (γ : Type) where
  written : Written := SortedMap.empty
  store : Store γ

abbrev History (K : Type) : Type := List (Int × Call K)

variable {γ K : Type} [Gate γ] [Collected K]

namespace Call

def access (written : Written) : Call K → Written × Access Unit
  | .resync items order => Sync.resync written items order
  | .apply event => Sync.apply written event

def Mentions (key : String) : Call K → Prop
  | .resync items _ => filed key items ≠ []
  | .apply event => Collected.collectionKey? event.object = some key

end Call

namespace Keeper

def perform (now : Int) (call : Call K) (keeper : Keeper γ) : Except Error Unit × Keeper γ :=
  let (written, access) := call.access keeper.written
  let (result, store) := access.run now keeper.store
  (result, ⟨written, store⟩)

def after (keeper : Keeper γ) (history : History K) : Keeper γ :=
  history.foldl (fun keeper entry => (keeper.perform entry.1 entry.2).2) keeper

theorem after_append (keeper : Keeper γ) (earlier later : History K) :
    keeper.after (earlier ++ later) = (keeper.after earlier).after later :=
  List.foldl_append

theorem after_snoc (keeper : Keeper γ) (history : History K) (now : Int) (call : Call K) :
    keeper.after (history ++ [(now, call)]) = ((keeper.after history).perform now call).2 :=
  keeper.after_append history [(now, call)]

def Remembers (keeper : Keeper γ) (key : String) : Prop := keeper.written.contains key = true

instance (keeper : Keeper γ) (key : String) : Decidable (keeper.Remembers key) :=
  inferInstanceAs (Decidable (_ = true))

def Stores (keeper : Keeper γ) (key : String) : Prop :=
  ∃ t, keeper.store.rows.live t key ≠ none

variable {keeper : Keeper γ} {now : Int} {key : String}

theorem remembers_resync {items : List K} {order : Order} :
    (keeper.perform now (.resync items order)).2.Remembers key ↔ filed key items ≠ [] :=
  contains_plan_written keeper.written order

theorem remembers_apply {event : WatchEvent K} :
    (keeper.perform now (.apply event)).2.Remembers key ↔
      Collected.collectionKey? event.object = some key ∨ keeper.Remembers key := by
  unfold Remembers
  change (apply keeper.written event).1.contains key = true ↔ _
  cases h : Collected.collectionKey? event.object with
  | none => simp [apply_of_homeless h]
  | some k =>
      rw [apply_of_filed h, SortedMap.contains, SortedMap.contains, SortedMap.find?_insert]
      by_cases hk : key = k
      · simp [hk]
      · simp [hk, Ne.symm hk]

theorem run_update_of_filed (keeper : Keeper γ) (now : Int) {event : WatchEvent K}
    (h : Collected.collectionKey? event.object = some key) :
    (Collection.update key event.applyTo).run now keeper.store =
      ((keeper.perform now (.apply event)).1, (keeper.perform now (.apply event)).2.store) := by
  change _ = (apply keeper.written event).2.run now keeper.store
  rw [apply_of_filed h]

theorem live_apply_of_filed {event : WatchEvent K}
    (h : Collected.collectionKey? event.object = some key)
    (hok : (keeper.perform now (.apply event)).1 = .ok ()) (t : Int) :
    (keeper.perform now (.apply event)).2.store.rows.live t key =
      some (Resource.encodeAll
        (event.applyTo (Collection.decodeOrEmpty (keeper.store.rows.live now key)))) := by
  have hrun := keeper.run_update_of_filed now h
  rw [hok] at hrun
  rcases live_update now keeper.store key event.applyTo with ⟨gate, heq⟩ | ⟨error, gate, heq⟩
  · rw [(Prod.mk.inj (hrun.symm.trans heq)).2, Rows.live_insert, if_pos rfl]
  · cases hrun.symm.trans heq

theorem live_apply_of_ne {event : WatchEvent K}
    (h : Collected.collectionKey? event.object ≠ some key) (t : Int) :
    (keeper.perform now (.apply event)).2.store.rows.live t key =
      keeper.store.rows.live t key := by
  change ((apply keeper.written event).2.run now keeper.store).2.rows.live t key = _
  cases hkey : Collected.collectionKey? event.object with
  | none =>
      rw [apply_of_homeless hkey]
      rfl
  | some k =>
      have hne : key ≠ k := fun heq => h (heq ▸ hkey)
      rw [apply_of_filed hkey]
      rcases live_update now keeper.store k event.applyTo with
        ⟨gate, hrun⟩ | ⟨error, gate, hrun⟩
      · rw [hrun, Rows.live_insert, if_neg hne]
      · rw [hrun]

/-! A store that refuses nothing. -/

theorem writeAll_ok (writes : List (Write K)) (now : Int) (store : Store Unit) :
    ((writeAll writes).run now store).1 = .ok () := by
  induction writes generalizing store with
  | nil => rfl
  | cons write rest ih =>
      rw [writeAll, Store.run_bind_ok _ (write.run_access_ok now store)]
      exact ih _

theorem perform_ok (keeper : Keeper Unit) (now : Int) (call : Call K) :
    (keeper.perform now call).1 = .ok () := by
  cases call with
  | resync items order => exact writeAll_ok _ now keeper.store
  | apply event =>
      change ((Sync.apply keeper.written event).2.run now keeper.store).1 = .ok ()
      unfold Sync.apply
      split <;> rfl

section Pods

theorem live_resync_cases (keeper : Keeper γ) (now : Int) (items : List Pod) (order : Order)
    (t : Int) (key : String) :
    (keeper.perform now (.resync items order)).2.store.rows.live t key =
        keeper.store.rows.live t key ∨
      ((filed key items ≠ [] ∨ keeper.Remembers key) ∧
        (keeper.perform now (.resync items order)).2.store.rows.live t key =
          target? key items) :=
  Sync.live_resync_cases rfl t key

theorem live_resync {items : List Pod} {order : Order}
    (h : (keeper.perform now (.resync items order)).1 = .ok ()) (t : Int) (key : String) :
    (keeper.perform now (.resync items order)).2.store.rows.live t key =
      if filed key items ≠ [] ∨ keeper.Remembers key then target? key items
      else keeper.store.rows.live t key := by
  have hrun : (resync keeper.written items order).2.run now keeper.store =
      (.ok (), (keeper.perform now (.resync items order)).2.store) := Prod.ext h rfl
  exact Sync.live_resync hrun t key

end Pods
end Keeper
end RunMonitor.Sync
