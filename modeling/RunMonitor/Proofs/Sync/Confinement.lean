import RunMonitor.Proofs.Cache.Key
import RunMonitor.Proofs.Sync.History

namespace RunMonitor.Sync

open Key

structure Confined (run : Address) (event : WatchEvent Pod) (now : Int)
    (result : Except Error Unit) (before after : Rows) : Prop where
  folded : result = .ok () → ∀ t, after.live t (Slot.pods run).key =
    some (Resource.encodeAll
      (event.applyTo (Collection.decodeOrEmpty (before.live now (Slot.pods run).key))))
  elsewhere : ∀ key, key ≠ (Slot.pods run).key → ∀ t, after.live t key = before.live t key
  others : ∀ slot, slot ≠ Slot.pods run → ∀ t, after.live t slot.key = before.live t slot.key

/-- The pods of different runs, different cron jobs and the fixed collections all have keys of their
own, and so have the entries of the run index. A change to a pod of one run shows in none of the
others. -/
theorem confined_of_apply :
    Function.Injective Slot.key ∧ Function.Injective Address.entryKey ∧
    ∀ {γ : Type} [Gate γ] (keeper : Keeper γ) (now : Int) (event : WatchEvent Pod) (run : Address),
      Collected.collectionKey? event.object = some (Slot.pods run).key →
        Confined run event now (keeper.perform now (.apply event)).1 keeper.store.rows
          (keeper.perform now (.apply event)).2.store.rows := by
  refine ⟨Slot.key_injective, Address.entryKey_injective, ?_⟩
  intro γ _ keeper now event run hrun
  have helsewhere : ∀ key, key ≠ (Slot.pods run).key → ∀ t,
      (keeper.perform now (.apply event)).2.store.rows.live t key =
        keeper.store.rows.live t key := by
    intro key hne t
    apply Keeper.live_apply_of_ne
    rw [hrun]
    exact fun heq => hne (Option.some.inj heq).symm
  constructor
  case folded => exact fun hok t => Keeper.live_apply_of_filed hrun hok t
  case elsewhere => exact helsewhere
  case others => exact fun slot hne => helsewhere slot.key (Slot.key_injective.ne hne)

section Nested

def nestedRun : Address := ⟨"team", "nightly/run", by decide⟩

def nestedPod : Pod where
  metadata := {
    name := some "run-x"
    ns := some "team"
    ownerReferences := some [{ kind := "Job", name := "nightly/run" }] }

def strayRun : Address := ⟨"", "team/nightly/run", by decide⟩

theorem confined_of_apply_nested :
    Collected.collectionKey? (WatchEvent.added nestedPod).object =
        some (Slot.pods nestedRun).key ∧
      strayRun.entryKey ≠ nestedRun.entryKey ∧
      let keeper : Keeper Unit := { store := { gate := () } }
      let after := (keeper.perform 0 (.apply (.added nestedPod))).2.store.rows
      after.live 1 (Slot.pods nestedRun).key = some (Resource.encodeAll [nestedPod]) ∧
        after.live 1 (Slot.pods strayRun).key = none := by
  obtain ⟨-, hentry, hconfined⟩ := confined_of_apply
  have hkey : Collected.collectionKey? (WatchEvent.added nestedPod).object =
      some (Slot.pods nestedRun).key := by decide
  have hne : strayRun ≠ nestedRun := fun h => absurd (congrArg Address.ns h) (by decide)
  have h := hconfined { store := { gate := () } } 0 (.added nestedPod) nestedRun hkey
  exact ⟨hkey, hentry.ne hne, h.folded rfl 1, h.others _ (fun heq => hne (Slot.pods.inj heq)) 1⟩

end Nested
end RunMonitor.Sync
