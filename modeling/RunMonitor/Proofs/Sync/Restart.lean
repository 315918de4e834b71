import Mathlib.Data.List.Induction
import RunMonitor.Proofs.Sync.Staleness

namespace RunMonitor.Sync

/-! A new synchronizer does not know of the collections that an earlier one has left. -/

open Resource

def Call.IsListing {K : Type} : Call K → Prop
  | .resync _ _ => True
  | .apply _ => False

/-- The last listing or a change since then has had an object for the collection. -/
def History.Leaves {K : Type} [Collected K] (history : History K) (key : String) : Prop :=
  ∃ earlier entry later, history = earlier ++ entry :: later ∧ entry.2.Mentions key ∧
    ∀ other ∈ later, ¬ other.2.IsListing

section Leaving

variable {K : Type} [Collected K] {history : History K} {now : Int} {key : String}

theorem History.not_leaves_nil : ¬ History.Leaves ([] : History K) key := by
  intro h
  obtain ⟨earlier, entry, later, heq, -⟩ := h
  cases (List.nil_eq_append_iff.mp heq).2

theorem History.leaves_of_mentions {call : Call K} (h : call.Mentions key) :
    History.Leaves (history ++ [(now, call)]) key :=
  ⟨history, (now, call), [], rfl, h, List.forall_mem_nil _⟩

theorem History.leaves_snoc {call : Call K} :
    History.Leaves (history ++ [(now, call)]) key ↔
      call.Mentions key ∨ ¬ call.IsListing ∧ history.Leaves key := by
  constructor
  · intro h
    obtain ⟨earlier, entry, later, heq, hmentions, hlater⟩ := h
    cases later using List.reverseRecOn with
    | nil =>
        obtain ⟨-, hentry⟩ := List.append_inj' heq rfl
        obtain rfl := (List.cons.inj hentry).1
        exact .inl hmentions
    | append_singleton later last =>
        rw [← List.cons_append, ← List.append_assoc] at heq
        obtain ⟨rfl, hlast⟩ := List.append_inj' heq rfl
        obtain rfl := (List.cons.inj hlast).1
        refine .inr ⟨hlater _ (List.mem_append_right _ List.mem_cons_self), earlier, entry, later,
          rfl, hmentions, fun other member => hlater other (List.mem_append_left _ member)⟩
  · intro h
    rcases h with hmentions | ⟨hcall, earlier, entry, later, rfl, hmentions, hlater⟩
    · exact History.leaves_of_mentions hmentions
    · refine ⟨earlier, entry, later ++ [(now, call)], by simp, hmentions, ?_⟩
      intro other member
      rcases List.mem_append.mp member with member | member
      · exact hlater other member
      · rw [List.mem_singleton.mp member]
        exact hcall

theorem History.Leaves.mentions (h : history.Leaves key) : history.Mentions key := by
  obtain ⟨earlier, entry, later, rfl, hmentions, -⟩ := h
  exact ⟨entry, List.mem_append_right _ List.mem_cons_self, hmentions⟩

theorem History.Leaves.isPodKey {history : History Pod} (h : history.Leaves key) :
    IsPodKey key := by
  obtain ⟨_, _, hmentions⟩ := h.mentions
  exact hmentions.isPodKey

end Leaving

namespace Keeper

def restart {γ δ : Type} (keeper : Keeper γ) (gate : δ) : Keeper δ :=
  { store := { rows := keeper.store.rows, gate := gate } }

/-- The collection has only pods of the listing, and is not there if the listing has none for it. -/
def Swept {γ : Type} (keeper : Keeper γ) (items : List Pod) (key : String) : Prop :=
  ∀ t, (∀ pod ∈ (Collection.decodeOrEmpty (keeper.store.rows.live t key) : List Pod),
      ∃ listed ∈ items, pod = Truncated.truncate listed) ∧
    (filed key items = [] → keeper.store.rows.live t key = none)

section Left

variable {start : Keeper Unit} (hwritten : start.written = SortedMap.empty)
  {history : History Pod} {key : String}

include hwritten

theorem remembers_iff_leaves :
    (start.after history).Remembers key ↔ history.Leaves key := by
  induction history using List.reverseRecOn with
  | nil =>
      constructor
      · intro h
        change start.written.contains key = true at h
        rw [hwritten] at h
        cases h
      · exact fun h => absurd h History.not_leaves_nil
  | append_singleton history entry ih =>
      obtain ⟨now, call⟩ := entry
      rw [after_snoc, History.leaves_snoc]
      cases call with
      | resync items order =>
          rw [remembers_resync]
          exact (or_iff_left fun h => h.1 trivial).symm
      | apply event =>
          rw [remembers_apply, ih]
          exact or_congr_right (and_iff_right id).symm

theorem stores_iff_remembers (hempty : ∀ key, IsPodKey key → ¬ start.Stores key)
    (hkey : IsPodKey key) :
    (start.after history).Stores key ↔ (start.after history).Remembers key := by
  induction history using List.reverseRecOn with
  | nil =>
      refine iff_of_false (hempty key hkey) ?_
      rw [remembers_iff_leaves hwritten]
      exact History.not_leaves_nil
  | append_singleton history entry ih =>
      obtain ⟨now, call⟩ := entry
      have hok := perform_ok (start.after history) now call
      rw [after_snoc]
      unfold Stores
      cases call with
      | resync items order =>
          simp only [live_resync hok, remembers_resync]
          by_cases hfiled : filed key items = []
          · refine iff_of_false ?_ (not_not_intro hfiled)
            intro h
            obtain ⟨t, hstored⟩ := h
            split at hstored
            case isTrue => exact hstored (if_pos hfiled)
            case isFalse hnot => exact hnot (.inr (ih.mp ⟨t, hstored⟩))
          · refine iff_of_true ⟨now, ?_⟩ hfiled
            rw [if_pos (.inl hfiled), target?, if_neg hfiled]
            exact Option.some_ne_none _
      | apply event =>
          rw [remembers_apply]
          by_cases hevent : Collected.collectionKey? event.object = some key
          · refine iff_of_true ⟨now, ?_⟩ (.inl hevent)
            rw [live_apply_of_filed hevent hok]
            exact Option.some_ne_none _
          · simp only [live_apply_of_ne hevent]
            exact ih.trans (or_iff_right hevent).symm

end Left

section Sweep

variable {γ : Type} [Gate γ]

section Listing

variable {keeper : Keeper γ} {now : Int} {items : List Pod} {order : Order} {key : String}

theorem swept_of_filed (hok : (keeper.perform now (.resync items order)).1 = .ok ())
    (hstorable : ∀ pod ∈ items, Storable pod) (hfiled : filed key items ≠ []) :
    (keeper.perform now (.resync items order)).2.Swept items key := by
  intro t
  have hitems : ∀ pod ∈ filed key items, Storable pod := fun pod member =>
    hstorable pod (List.mem_filter.mp member).1
  have hlive := live_resync hok t key
  rw [if_pos (.inl hfiled), target?, if_neg hfiled] at hlive
  rw [hlive, Collection.decodeOrEmpty_encodeAll hitems]
  refine ⟨fun pod member => ?_, fun hnil => absurd hnil hfiled⟩
  obtain ⟨listed, hlisted, rfl⟩ := List.mem_map.mp member
  exact ⟨listed, (List.mem_filter.mp hlisted).1, rfl⟩

theorem swept_iff_of_forgotten (hfiled : filed key items = [])
    (hforgotten : ¬ keeper.Remembers key) :
    (keeper.perform now (.resync items order)).2.Swept items key ↔ ¬ keeper.Stores key := by
  have hlive : ∀ t, (keeper.perform now (.resync items order)).2.store.rows.live t key =
      keeper.store.rows.live t key :=
    live_resync_of_forgotten hfiled hforgotten
  constructor
  · intro hswept hstored
    obtain ⟨t, hstored⟩ := hstored
    exact hstored ((hlive t).symm.trans ((hswept t).2 hfiled))
  · intro hnot t
    have hnone : keeper.store.rows.live t key = none :=
      Classical.byContradiction fun hstored => hnot ⟨t, hstored⟩
    rw [hlive t, hnone]
    exact ⟨List.forall_mem_nil _, fun _ => rfl⟩

end Listing

/-- Whatever an earlier synchronizer has left, the first listing of a new one settles the
collections that it has pods for. So no others are left exactly if it has a pod for every collection
that the last listing before or a change since then has had one for. -/
theorem swept_iff_left_listed (start : Keeper Unit) (history : History Pod) {gate : γ} {now : Int}
    {items : List Pod} {order : Order} {final : Keeper γ}
    (hwritten : start.written = SortedMap.empty)
    (hempty : ∀ key, IsPodKey key → ¬ start.Stores key)
    (hok : ((start.after history).restart gate).perform now (.resync items order) = (.ok (), final))
    (hstorable : ∀ pod ∈ items, Storable pod) :
    (∀ key, IsPodKey key → final.Swept items key) ↔
      ∀ key, history.Leaves key → filed key items ≠ [] := by
  have hleft : ∀ key, IsPodKey key →
      (((start.after history).restart gate).Stores key ↔ history.Leaves key) := fun key hkey =>
    (stores_iff_remembers hwritten hempty hkey).trans (remembers_iff_leaves hwritten)
  have hforgotten : ∀ key, ¬ ((start.after history).restart gate).Remembers key :=
    fun _ => Bool.false_ne_true
  have hswept : ∀ key, IsPodKey key →
      (final.Swept items key ↔ (history.Leaves key → filed key items ≠ [])) := by
    intro key hkey
    rw [show final = _ from (congrArg Prod.snd hok).symm]
    by_cases hfiled : filed key items = []
    · rw [swept_iff_of_forgotten hfiled (hforgotten key), hleft key hkey]
      exact imp_congr_right fun _ => (iff_false_intro (not_not_intro hfiled)).symm
    · exact iff_of_true (swept_of_filed (congrArg Prod.fst hok) hstorable hfiled) fun _ => hfiled
  constructor
  · intro h key hleaves
    exact (hswept key hleaves.isPodKey).mp (h key hleaves.isPodKey) hleaves
  · intro h key hkey
    exact (hswept key hkey).mpr (h key)

section Departure

def fresh : Keeper Unit := { store := { gate := () } }

def arrival : History Pod := [(0, .resync [straggler])]

theorem not_stores_fresh (key : String) (_ : IsPodKey key) : ¬ fresh.Stores key :=
  fun ⟨_, h⟩ => h rfl

def relisted (items : List Pod) : Keeper Unit :=
  (((fresh.after arrival).restart ()).perform 1 (.resync items)).2

theorem perform_relisted (items : List Pod) :
    ((fresh.after arrival).restart ()).perform 1 (.resync items) = (.ok (), relisted items) :=
  Prod.ext (perform_ok _ 1 _) rfl

theorem swept_relisted :
    (relisted [straggler]).Swept [straggler] (Key.podsOf "default" "run-1") := by
  refine (swept_iff_left_listed fresh arrival rfl not_stores_fresh (perform_relisted _) ?_).mpr ?_ _
    ⟨_, _, rfl⟩
  · decide +kernel
  · intro key hleaves
    obtain ⟨entry, member, hmentions⟩ := hleaves.mentions
    rw [List.mem_singleton.mp member] at hmentions
    exact hmentions

theorem not_swept_of_restart :
    ¬ ∀ (start : Keeper Unit) (history : History Pod) (now : Int) (items : List Pod)
        (order : Order) (final : Keeper Unit),
      start.written = SortedMap.empty → (∀ key, IsPodKey key → ¬ start.Stores key) →
      ((start.after history).restart ()).perform now (.resync items order) = (.ok (), final) →
      (∀ pod ∈ items, Storable pod) →
      ∀ key, IsPodKey key → final.Swept items key := by
  intro hall
  have hswept := hall fresh arrival 1 [] .ascending _ rfl not_stores_fresh (perform_relisted [])
    (List.forall_mem_nil _) (Key.podsOf "default" "run-1") ⟨_, _, rfl⟩
  have hkept : ((relisted []).store.rows.live 1 (Key.podsOf "default" "run-1")).isSome := by
    decide +kernel
  rw [(hswept 1).2 rfl] at hkept
  cases hkept

end Departure

end Sweep
end Keeper
end RunMonitor.Sync
