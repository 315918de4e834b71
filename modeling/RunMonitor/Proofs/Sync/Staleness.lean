import Mathlib.Data.List.Induction
import RunMonitor.Proofs.Cluster.Codec
import RunMonitor.Proofs.Sync.History

namespace RunMonitor.Sync

/-! A listing forgets the collections it has nothing for before it removes them. -/

def IsPodKey (key : String) : Prop := ∃ ns job, key = Key.podsOf ns job

theorem isPodKey_of_collectionKey? {pod : Pod} {key : String}
    (h : Collected.collectionKey? pod = some key) : IsPodKey key := by
  obtain ⟨job, -, hkey⟩ := Option.map_eq_some_iff.mp h
  exact ⟨_, job, hkey.symm⟩

theorem Call.Mentions.isPodKey {call : Call Pod} {key : String} (h : call.Mentions key) :
    IsPodKey key := by
  cases call with
  | resync items order =>
      obtain ⟨pod, member⟩ := List.exists_mem_of_ne_nil _ h
      exact isPodKey_of_collectionKey? (by simpa using (List.mem_filter.mp member).2)
  | apply event => exact isPodKey_of_collectionKey? h

def History.Mentions {K : Type} [Collected K] (history : History K) (key : String) : Prop :=
  ∃ entry ∈ history, entry.2.Mentions key

namespace Keeper

variable {γ : Type} [Gate γ]

/-- A listing without a pod for the collection was refused before it got to remove it, and no call
since has had one. -/
def GivenUp (start : Keeper γ) (history : History Pod) (key : String) : Prop :=
  ∃ earlier now items order later, history = earlier ++ (now, .resync items order) :: later ∧
    History.Mentions earlier key ∧ filed key items = [] ∧
    ((start.after earlier).perform now (.resync items order)).1 ≠ .ok () ∧
    ((start.after earlier).perform now (.resync items order)).2.Stores key ∧
    ¬ History.Mentions later key

/-- The collection holds the pods of the listing that belong in it, in their order, and is not there
at all if there are none. -/
def Settled (keeper : Keeper γ) (items : List Pod) (key : String) : Prop :=
  ∀ t, Collection.decodeOrEmpty (keeper.store.rows.live t key) =
      (filed key items).map Truncated.truncate ∧
    (filed key items = [] → keeper.store.rows.live t key = none)

variable {keeper : Keeper γ} {now : Int} {key : String} {items : List Pod} {order : Order}

theorem live_resync_of_forgotten (hfiled : filed key items = [])
    (hforgotten : ¬ keeper.Remembers key) (t : Int) :
    (keeper.perform now (.resync items order)).2.store.rows.live t key =
      keeper.store.rows.live t key := by
  rcases keeper.live_resync_cases now items order t key with h | ⟨h | h, -⟩
  · exact h
  · exact absurd hfiled h
  · exact absurd h hforgotten

theorem live_perform_of_unmentioned (now : Int) {call : Call Pod} (h : ¬ call.Mentions key)
    (hforgotten : ¬ keeper.Remembers key) (t : Int) :
    (keeper.perform now call).2.store.rows.live t key = keeper.store.rows.live t key := by
  cases call with
  | resync items order => exact live_resync_of_forgotten (Classical.not_not.mp h) hforgotten t
  | apply event => exact live_apply_of_ne h t

theorem not_remembers_perform (now : Int) {call : Call Pod} (h : ¬ call.Mentions key)
    (hforgotten : ¬ keeper.Remembers key) : ¬ (keeper.perform now call).2.Remembers key := by
  cases call with
  | resync items order => exact fun hremembers => h (remembers_resync.mp hremembers)
  | apply event => exact fun hremembers => (remembers_apply.mp hremembers).elim h hforgotten

theorem after_of_unmentioned (history : History Pod) (h : ¬ history.Mentions key)
    (hforgotten : ¬ keeper.Remembers key) :
    ¬ (keeper.after history).Remembers key ∧
      ∀ t, (keeper.after history).store.rows.live t key = keeper.store.rows.live t key := by
  induction history generalizing keeper with
  | nil => exact ⟨hforgotten, fun _ => rfl⟩
  | cons entry rest ih =>
      have hentry : ¬ entry.2.Mentions key := fun hm => h ⟨entry, List.mem_cons_self, hm⟩
      have hrest : ¬ History.Mentions rest key := fun ⟨other, member, hm⟩ =>
        h ⟨other, List.mem_cons_of_mem _ member, hm⟩
      obtain ⟨hafter, hlive⟩ := ih hrest (not_remembers_perform entry.1 hentry hforgotten)
      exact ⟨hafter, fun t => (hlive t).trans
        (live_perform_of_unmentioned entry.1 hentry hforgotten t)⟩

theorem GivenUp.mentions {start : Keeper γ} {history : History Pod}
    (h : GivenUp start history key) : history.Mentions key := by
  obtain ⟨earlier, now, items, order, later, rfl, ⟨entry, member, hentry⟩, -⟩ := h
  exact ⟨entry, List.mem_append_left _ member, hentry⟩

theorem GivenUp.abandoned {start : Keeper γ} {history : History Pod}
    (h : GivenUp start history key) :
    (start.after history).Stores key ∧ ¬ (start.after history).Remembers key := by
  obtain ⟨earlier, now, items, order, later, rfl, -, hfiled, -, ⟨t, hstored⟩, hlater⟩ := h
  have hforgotten : ¬ ((start.after earlier).perform now (.resync items order)).2.Remembers key :=
    fun hremembers => remembers_resync.mp hremembers hfiled
  obtain ⟨hafter, hlive⟩ := after_of_unmentioned later hlater hforgotten
  rw [after_append]
  exact ⟨⟨t, fun hnone => hstored ((hlive t).symm.trans hnone)⟩, hafter⟩

theorem GivenUp.snoc {start : Keeper γ} {history : History Pod} (h : GivenUp start history key)
    {call : Call Pod} (hcall : ¬ call.Mentions key) :
    GivenUp start (history ++ [(now, call)]) key := by
  obtain ⟨earlier, at', items, order, later, rfl, hearlier, hfiled, hfailed, hstored, hlater⟩ := h
  refine ⟨earlier, at', items, order, later ++ [(now, call)], by simp, hearlier, hfiled, hfailed,
    hstored, ?_⟩
  intro given
  obtain ⟨entry, member, hentry⟩ := given
  rcases List.mem_append.mp member with member | member
  · exact hlater ⟨entry, member, hentry⟩
  · rw [List.mem_singleton.mp member] at hentry
    exact hcall hentry

section Start

variable {start : Keeper γ} (hwritten : start.written = SortedMap.empty)
  (hempty : ∀ key, IsPodKey key → ¬ start.Stores key)

include hwritten hempty

theorem mentions_of_stores {history : History Pod} (hkey : IsPodKey key)
    (h : (start.after history).Stores key) : history.Mentions key := by
  apply Classical.byContradiction
  intro hnone
  have hforgotten : ¬ start.Remembers key := by
    rw [Remembers, hwritten]
    exact Bool.false_ne_true
  obtain ⟨t, hstored⟩ := h
  rw [(after_of_unmentioned history hnone hforgotten).2 t] at hstored
  exact hempty key hkey ⟨t, hstored⟩

theorem givenUp_of_refused {history : History Pod} (hkey : IsPodKey key)
    (hfiled : filed key items = []) (hremembers : (start.after history).Remembers key)
    (h : ((start.after history).perform now (.resync items order)).2.Stores key) :
    GivenUp start (history ++ [(now, .resync items order)]) key := by
  obtain ⟨t, hstored⟩ := h
  have htarget : target? key items = none := if_pos hfiled
  have hnothing : ¬ History.Mentions ([] : History Pod) key := by
    intro hmentions
    obtain ⟨entry, member, hentry⟩ := hmentions
    cases member
  refine ⟨history, now, items, order, [], rfl, ?_, hfiled, ?_, ⟨t, hstored⟩, hnothing⟩
  · apply mentions_of_stores hwritten hempty hkey
    refine ⟨t, fun hnone => hstored ?_⟩
    rcases (start.after history).live_resync_cases now items order t key with hsame | ⟨-, hgone⟩
    · exact hsame.trans hnone
    · exact hgone.trans htarget
  · intro hok
    exact hstored ((live_resync hok t key).trans ((if_pos (.inr hremembers)).trans htarget))

theorem remembers_or_givenUp (history : History Pod) (hkey : IsPodKey key)
    (h : (start.after history).Stores key) :
    (start.after history).Remembers key ∨ GivenUp start history key := by
  induction history using List.reverseRecOn with
  | nil => exact absurd h (hempty key hkey)
  | append_singleton history entry ih =>
      obtain ⟨now, call⟩ := entry
      rw [after_snoc] at h ⊢
      by_cases hcall : call.Mentions key
      · refine .inl ?_
        cases call with
        | resync items order => exact remembers_resync.mpr hcall
        | apply event => exact remembers_apply.mpr (.inl hcall)
      · cases call with
        | apply event =>
            obtain ⟨t, hstored⟩ := h
            rw [live_apply_of_ne hcall] at hstored
            exact (ih ⟨t, hstored⟩).imp (fun hremembers => remembers_apply.mpr (.inr hremembers))
              fun hgiven => hgiven.snoc hcall
        | resync items order =>
            have hfiled : filed key items = [] := Classical.not_not.mp hcall
            by_cases hremembers : (start.after history).Remembers key
            · exact .inr (givenUp_of_refused hwritten hempty hkey hfiled hremembers h)
            · obtain ⟨t, hstored⟩ := h
              rw [live_resync_of_forgotten hfiled hremembers] at hstored
              exact .inr (((ih ⟨t, hstored⟩).resolve_left hremembers).snoc hcall)

theorem live_resync_eq_none {history : History Pod}
    (hok : ((start.after history).perform now (.resync items order)).1 = .ok ())
    (hkey : IsPodKey key) (hfiled : filed key items = []) (hgiven : ¬ GivenUp start history key)
    (t : Int) :
    ((start.after history).perform now (.resync items order)).2.store.rows.live t key = none := by
  by_cases hremembers : (start.after history).Remembers key
  · rw [live_resync hok t key, if_pos (.inr hremembers)]
    exact if_pos hfiled
  · rw [live_resync_of_forgotten hfiled hremembers]
    apply Classical.byContradiction
    intro hstored
    rcases remembers_or_givenUp hwritten hempty history hkey ⟨t, hstored⟩ with h | h
    · exact hremembers h
    · exact hgiven h

/-- After a listing that was written to the end every collection that any call has had a pod for is
as the listing has it, unless an earlier listing gave it up. -/
theorem settled_iff_not_givenUp {history : History Pod} {final : Keeper γ}
    (hok : (start.after history).perform now (.resync items order) = (.ok (), final))
    (hstorable : ∀ pod ∈ items, Resource.Storable pod) :
    (∀ key, History.Mentions (history ++ [(now, .resync items order)]) key →
        final.Settled items key) ↔
      ∀ key, GivenUp start history key → filed key items ≠ [] := by
  have hresult : ((start.after history).perform now (.resync items order)).1 = .ok () :=
    congrArg Prod.fst hok
  have hfinal : final = ((start.after history).perform now (.resync items order)).2 :=
    (congrArg Prod.snd hok).symm
  subst hfinal
  constructor
  · intro hsettled key hgiven hfiled
    obtain ⟨entry, member, hentry⟩ := hgiven.mentions
    obtain ⟨⟨t, hstored⟩, hforgotten⟩ := hgiven.abandoned
    have hgone := (hsettled key ⟨entry, List.mem_append_left _ member, hentry⟩ t).2 hfiled
    exact hstored ((live_resync_of_forgotten hfiled hforgotten t).symm.trans hgone)
  · intro hgiven key hmentions t
    obtain ⟨entry, _, hentry⟩ := hmentions
    by_cases hfiled : filed key items = []
    · have hnever : ¬ GivenUp start history key := fun h => hgiven key h hfiled
      rw [live_resync_eq_none hwritten hempty hresult hentry.isPodKey hfiled hnever, hfiled]
      exact ⟨rfl, fun _ => rfl⟩
    · rw [live_resync hresult, if_pos (.inl hfiled), target?, if_neg hfiled,
        Collection.decodeOrEmpty_encodeAll]
      · exact ⟨rfl, fun hnil => absurd hnil hfiled⟩
      · exact fun pod member => hstorable pod (List.mem_filter.mp member).1

end Start

section Removal

def straggler : Pod where
  metadata := {
    name := some "run-1-x"
    ns := some "default"
    ownerReferences := some [{ kind := "Job", name := "run-1" }] }

def reluctant : Keeper (List Fault) := { store := { gate := [⟨.delete, none, some 1⟩] } }

def departure : History Pod := [(0, .resync [straggler]), (1, .resync [])]

theorem not_stores_reluctant (key : String) (_ : IsPodKey key) : ¬ reluctant.Stores key :=
  fun ⟨_, h⟩ => h rfl

theorem mentions_straggler : (Call.resync [straggler]).Mentions (Key.podsOf "default" "run-1") := by
  change filed _ _ ≠ []
  decide +kernel

theorem settled_once_listed_again :
    ((reluctant.after departure).perform 2 (.resync [straggler])).2.Settled [straggler]
      (Key.podsOf "default" "run-1") := by
  refine (settled_iff_not_givenUp rfl not_stores_reluctant (Prod.ext ?_ rfl) ?_).mpr ?_ _ ?_
  · decide +kernel
  · decide +kernel
  · intro key hgiven
    obtain ⟨entry, member, hentry⟩ := hgiven.mentions
    rcases List.mem_cons.mp member with rfl | member
    · exact hentry
    · rw [List.mem_singleton.mp member] at hentry
      exact absurd rfl hentry
  · exact ⟨_, List.mem_cons_self, mentions_straggler⟩

/-- One removal that is refused leaves its collection behind, and the next listing, which the store
takes without an error, does not remove it either. -/
theorem not_settled_of_refused :
    ¬ ∀ (start final : Keeper (List Fault)) (history : History Pod) (now : Int)
        (items : List Pod) (order : Order),
      start.written = SortedMap.empty → (∀ key, IsPodKey key → ¬ start.Stores key) →
      (start.after history).perform now (.resync items order) = (.ok (), final) →
      (∀ pod ∈ items, Resource.Storable pod) →
      ∀ key, History.Mentions (history ++ [(now, .resync items order)]) key →
        final.Settled items key := by
  intro hall
  have hok : ((reluctant.after departure).perform 2 (.resync ([] : List Pod))).1 = .ok () := by
    decide +kernel
  have hmentions : History.Mentions (departure ++ [(2, .resync [])])
      (Key.podsOf "default" "run-1") :=
    ⟨_, List.mem_cons_self, mentions_straggler⟩
  have hkept : (((reluctant.after departure).perform 2
      (.resync ([] : List Pod))).2.store.rows.live 2 (Key.podsOf "default" "run-1")).isSome := by
    decide +kernel
  have hsettled := hall reluctant ((reluctant.after departure).perform 2 (.resync [])).2 departure
    2 [] .ascending rfl not_stores_reluctant (Prod.ext hok rfl) (fun _ member => by cases member) _
    hmentions
  rw [(hsettled 2).2 rfl] at hkept
  cases hkept

end Removal
end Keeper
end RunMonitor.Sync
