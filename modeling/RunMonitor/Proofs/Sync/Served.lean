import Mathlib.Data.List.Induction
import RunMonitor.Proofs.Cache.Pods
import RunMonitor.Proofs.Sync.Mirror
import RunMonitor.Proofs.Sync.Staleness

namespace RunMonitor.Sync

open Resource

section Histories

variable {K : Type} [Collected K]

def Call.objects : Call K → List K
  | .resync items _ => items
  | .apply event => [event.object]

def Call.outcome (live : Live K) : Call K → Live K
  | .resync items _ => Live.ofItems items
  | .apply event => live.change event

namespace History

def objects (history : History K) : List K := history.flatMap fun entry => entry.2.objects

/-- What was in the last listing and has not been deleted since, or has been added or modified
since, each object in its latest version. -/
def live (history : History K) : Live K :=
  history.foldl (fun live entry => entry.2.outcome live) Live.empty

theorem live_snoc (history : History K) (now : Int) (call : Call K) :
    (history ++ [(now, call)]).live = call.outcome history.live :=
  List.foldl_append

omit [Collected K] in
theorem objects_snoc (history : History K) (now : Int) (call : Call K) :
    (history ++ [(now, call)]).objects = history.objects ++ call.objects := by
  simp [objects]

/-- Listings have each object once, every object has a name and a namespace without a slash, never
moves from one collection to another, and can be stored. -/
structure Orderly [Truncated K] (history : History K) : Prop where
  distinct : ∀ now items order, (now, .resync items order) ∈ history →
    items.Pairwise fun a b => identity a ≠ identity b
  named : ∀ object ∈ history.objects, (metadata object).name ≠ none
  placed : ∀ object ∈ history.objects, (metadata object).ns ≠ none
  slashless : ∀ object ∈ history.objects, '/' ∉ (metadata object).nsOrEmpty.toList
  settled : ∀ a ∈ history.objects, ∀ b ∈ history.objects, identity a = identity b →
    Collected.collectionKey? a = Collected.collectionKey? b
  storable : ∀ object ∈ history.objects, Storable object

variable [Truncated K] {history : History K}

theorem Orderly.init {now : Int} {call : Call K} (h : Orderly (history ++ [(now, call)])) :
    Orderly history := by
  have hsub : ∀ object ∈ history.objects, object ∈ (history ++ [(now, call)]).objects := by
    intro object member
    rw [objects_snoc]
    exact List.mem_append_left _ member
  exact {
    distinct := fun at' items order member =>
      h.distinct at' items order (List.mem_append_left _ member)
    named := fun object member => h.named object (hsub object member)
    placed := fun object member => h.placed object (hsub object member)
    slashless := fun object member => h.slashless object (hsub object member)
    settled := fun a ha b hb => h.settled a (hsub a ha) b (hsub b hb)
    storable := fun object member => h.storable object (hsub object member) }

theorem Orderly.exists_lists (h : Orderly history) :
    ∃ items, Live.Lists history.live items ∧ ∀ object ∈ items, object ∈ history.objects := by
  induction history using List.reverseRecOn with
  | nil => exact ⟨[], Live.lists_empty, List.forall_mem_nil _⟩
  | append_singleton history entry ih =>
      obtain ⟨now, call⟩ := entry
      simp only [live_snoc, objects_snoc, List.mem_append]
      cases call with
      | resync items order =>
          refine ⟨items, Live.lists_ofItems ?_, fun object member => .inr member⟩
          exact h.distinct now items order (List.mem_append_right _ List.mem_cons_self)
      | apply event =>
          obtain ⟨items, hlists, hobjects⟩ := ih h.init
          refine ⟨event.applyTo items, hlists.change event, ?_⟩
          intro object member
          rcases WatchEvent.mem_applyTo.mp member with ⟨member, -⟩ | hsurvivor
          · exact .inl (hobjects object member)
          · refine .inr (List.mem_singleton.mpr (WatchEvent.identity_of_survivor? hsurvivor))

end History
end Histories

/-! Every pod collection mirrors what is live in it, and counts as written if it is there. -/

namespace Keeper

structure Synced {γ : Type} (keeper : Keeper γ) (live : Live Pod) : Prop where
  mirrors : ∀ key, IsPodKey key → ∀ t, Mirrors (live.within key) key keeper.store.rows t
  remembers : ∀ key, IsPodKey key → keeper.Stores key → keeper.Remembers key

section Steps

variable {γ : Type} [Gate γ] {keeper : Keeper γ} {live : Live Pod} {now : Int}

theorem Synced.resync {items : List Pod} {order : Order} (h : keeper.Synced live)
    (hok : (keeper.perform now (.resync items order)).1 = .ok ())
    (distinct : items.Pairwise fun a b => identity a ≠ identity b)
    (hstorable : ∀ pod ∈ items, Storable pod) :
    (keeper.perform now (.resync items order)).2.Synced (Live.ofItems items) := by
  constructor
  · intro key hkey t
    have hlists := Live.lists_within (Live.lists_ofItems distinct) key
    refine Mirrors.of_target hlists hstorable ((live_resync hok t key).trans ?_)
    split
    case isTrue => rfl
    case isFalse hnot =>
      rw [not_or, Classical.not_not] at hnot
      rw [target?, if_pos hnot.1]
      exact Classical.byContradiction fun hstored =>
        hnot.2 (h.remembers key hkey ⟨t, hstored⟩)
  · intro key hkey hstores
    obtain ⟨t, hstored⟩ := hstores
    rw [live_resync hok t key] at hstored
    refine remembers_resync.mpr fun hnil => hstored ?_
    split
    case isTrue => exact if_pos hnil
    case isFalse hnot =>
      exact Classical.byContradiction fun hstored =>
        hnot (.inr (h.remembers key hkey ⟨t, hstored⟩))

theorem Synced.apply {event : WatchEvent Pod} (h : keeper.Synced live)
    (hok : (keeper.perform now (.apply event)).1 = .ok ())
    (hstorable : ∀ pod, event.survivor? = some pod → Storable pod)
    (hsettled : ∀ pod, live (identity event.object) = some pod →
      Collected.collectionKey? pod = Collected.collectionKey? event.object) :
    (keeper.perform now (.apply event)).2.Synced (live.change event) := by
  constructor
  · intro key hkey t
    by_cases hevent : Collected.collectionKey? event.object = some key
    · have hrun := keeper.run_update_of_filed now hevent
      rw [hok] at hrun
      rw [Live.within_change hevent]
      exact mirrors_update (h.mirrors key hkey now) hstorable hrun t
    · rw [Live.within_change_of_ne hevent fun pod hpod => hsettled pod hpod ▸ hevent]
      exact (h.mirrors key hkey t).congr (live_apply_of_ne hevent t)
  · intro key hkey hstores
    obtain ⟨t, hstored⟩ := hstores
    refine remembers_apply.mpr ?_
    by_cases hevent : Collected.collectionKey? event.object = some key
    · exact .inl hevent
    · rw [live_apply_of_ne hevent] at hstored
      exact .inr (h.remembers key hkey ⟨t, hstored⟩)

end Steps

section Run

variable {start : Keeper Unit} {history : History Pod}
  (hempty : ∀ key, IsPodKey key → ¬ start.Stores key)

include hempty

theorem synced_after (h : history.Orderly) : (start.after history).Synced history.live := by
  induction history using List.reverseRecOn with
  | nil =>
      constructor
      · intro key hkey t
        apply Mirrors.of_none
        exact Classical.byContradiction fun hstored => hempty key hkey ⟨t, hstored⟩
      · intro key hkey hstored
        exact absurd hstored (hempty key hkey)
  | append_singleton history entry ih =>
      obtain ⟨now, call⟩ := entry
      have hsynced := ih h.init
      have hobjects : ∀ pod ∈ call.objects, pod ∈ History.objects (history ++ [(now, call)]) := by
        intro pod member
        rw [History.objects_snoc]
        exact List.mem_append_right _ member
      rw [after_snoc, History.live_snoc]
      cases call with
      | resync items order =>
          apply hsynced.resync (perform_ok _ now _)
          · exact h.distinct now items order (List.mem_append_right _ List.mem_cons_self)
          · intro pod member
            exact h.storable pod (hobjects pod member)
      | apply event =>
          have hevent := hobjects event.object List.mem_cons_self
          apply hsynced.apply (perform_ok _ now _)
          · intro pod hsurvivor
            exact WatchEvent.identity_of_survivor? hsurvivor ▸ h.storable _ hevent
          · intro pod hlive
            obtain ⟨items, hlists, hitems⟩ := h.init.exists_lists
            obtain ⟨member, hid⟩ := (hlists.live_iff _ pod).mp hlive
            refine h.settled pod ?_ _ hevent hid
            rw [History.objects_snoc]
            exact List.mem_append_left _ (hitems pod member)

end Run
end Keeper

theorem History.Orderly.mem_objects {K : Type} [Collected K] [Truncated K] {history : History K}
    (h : history.Orderly) {object : K} (hlive : history.live (identity object) = some object) :
    object ∈ history.objects := by
  obtain ⟨known, hknown, hobjects⟩ := h.exists_lists
  exact hobjects object (hknown.mem_iff.mpr hlive)

section Lookups

variable {history : History Pod} (h : history.Orderly) {job : Job}
  (hjob : '/' ∉ job.metadata.nsOrEmpty.toList) {items : List Pod}
  (hlists : (history.live.within
    (Key.podsOf job.metadata.nsOrEmpty job.metadata.displayName)).Lists items)

include h hjob hlists

theorem mem_collection_iff {pod : Pod} :
    pod ∈ items ↔ history.live (identity pod) = some pod ∧
      pod.metadata.nsOrEmpty = job.metadata.nsOrEmpty ∧
        pod.jobOwner? = some job.metadata.displayName := by
  rw [hlists.mem_iff, Live.within, Option.filter_eq_some_iff, decide_eq_true_eq]
  apply and_congr_right
  intro hlive
  exact Pod.collectionKey?_eq_podsOf (h.slashless pod (h.mem_objects hlive)) hjob

theorem distinct_names_collection :
    items.Pairwise fun a b => a.metadata.displayName ≠ b.metadata.displayName := by
  apply hlists.distinct.imp_of_mem
  intro a b ha hb hne hname
  obtain ⟨hlive_a, hns_a, -⟩ := (mem_collection_iff h hjob hlists).mp ha
  obtain ⟨hlive_b, hns_b, -⟩ := (mem_collection_iff h hjob hlists).mp hb
  have hmem_a := h.mem_objects hlive_a
  have hmem_b := h.mem_objects hlive_b
  apply hne
  exact Pod.identity_eq_of_displayName (h.named a hmem_a) (h.placed a hmem_a) (h.named b hmem_b)
    (h.placed b hmem_b) hname (hns_a.trans hns_b.symm)

end Lookups

/-- The pods of a job are its live pods that have started, in ascending order of their names. -/
theorem podsOf_after {history : History Pod} (start : Keeper Unit)
    (hempty : ∀ key, IsPodKey key → ¬ start.Stores key) (h : history.Orderly) (job : Job)
    (hjob : '/' ∉ job.metadata.nsOrEmpty.toList) (now : Int) :
    ∃ pods, (Collection.podsOf job).run now (start.after history).store =
        (.ok pods, (start.after history).store) ∧
      pods.Pairwise (fun a b => a.metadata.displayName < b.metadata.displayName) ∧
      ∀ pod, pod ∈ pods ↔ ∃ original, history.live (identity original) = some original ∧
        original.BelongsTo job ∧ original.isStarted ∧ pod = Truncated.truncate original := by
  have hkey : IsPodKey (Key.podsOf job.metadata.nsOrEmpty job.metadata.displayName) := ⟨_, _, rfl⟩
  obtain ⟨items, hlists, -, hread⟩ := (Keeper.synced_after hempty h).mirrors _ hkey now
  have distinct : (items.map Truncated.truncate).Pairwise
      fun a b : Pod => a.metadata.displayName ≠ b.metadata.displayName :=
    List.pairwise_map.mpr (distinct_names_collection h hjob hlists)
  refine ⟨Pod.newestOwned job.metadata.displayName (items.map Truncated.truncate), ?_,
    Pod.pairwise_newestOwned _ _, ?_⟩
  · change (Except.ok (Pod.newestOwned _ (Collection.decodeOrEmpty _)), _) = _
    rw [hread]
  · intro pod
    rw [Pod.mem_newestOwned distinct, List.mem_map]
    constructor
    · intro given
      obtain ⟨⟨original, member, rfl⟩, hstarted, howner⟩ := given
      obtain ⟨hlive, hns, hjobOwner⟩ := (mem_collection_iff h hjob hlists).mp member
      rw [Pod.isStarted_truncate] at hstarted
      exact ⟨original, hlive, ⟨hns, hjobOwner, howner⟩, hstarted, rfl⟩
    · intro given
      obtain ⟨original, hlive, hbelongs, hstarted, rfl⟩ := given
      have member := (mem_collection_iff h hjob hlists).mpr ⟨hlive, hbelongs.ns, hbelongs.jobOwner⟩
      rw [Pod.isStarted_truncate]
      exact ⟨⟨original, member, rfl⟩, hstarted, hbelongs.owner⟩

section Replacement

def firstRun : Job := { metadata := { name := some "run-1", ns := some "default" } }

def worker (name : String) (second : Int) : Pod where
  metadata := {
    name := some name
    ns := some "default"
    ownerReferences := some [{ kind := "Job", name := "run-1" }] }
  status := some { startTime := some ⟨second, 500000000⟩ }

def replacement : History Pod :=
  [(0, .resync [worker "run-1-a" 3, worker "run-1-b" 3]),
    (1, .apply (.deleted (worker "run-1-b" 3))), (2, .apply (.modified (worker "run-1-a" 4)))]

theorem orderly_replacement : replacement.Orderly where
  distinct now items order member := by
    obtain ⟨-, rfl, -⟩ : now = 0 ∧ items = [worker "run-1-a" 3, worker "run-1-b" 3] ∧
        order = .ascending := by
      simpa [replacement] using member
    decide +kernel
  named := by decide +kernel
  placed := by decide +kernel
  slashless := by decide +kernel
  settled := by decide +kernel
  storable := by decide +kernel

theorem podsOf_after_replacement :
    ∃ pods, (Collection.podsOf firstRun).run 5
        (({ store := { gate := () } } : Keeper Unit).after replacement).store =
          (.ok pods, (({ store := { gate := () } } : Keeper Unit).after replacement).store) ∧
      Truncated.truncate (worker "run-1-a" 4) ∈ pods := by
  obtain ⟨pods, hrun, -, hmem⟩ := podsOf_after { store := { gate := () } }
    (fun key _ ⟨_, h⟩ => h rfl) orderly_replacement firstRun (by decide) 5
  refine ⟨pods, hrun, (hmem _).mpr ⟨worker "run-1-a" 4, ?_, ⟨rfl, rfl, ?_⟩, rfl, rfl⟩⟩
  · decide +kernel
  · decide +kernel

end Replacement
end RunMonitor.Sync
