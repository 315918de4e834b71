import Mathlib.Data.List.Induction
import RunMonitor.Proofs.Sync.Mirror
import RunMonitor.Proofs.Sync.Staleness

namespace RunMonitor.Sync

/-! A change goes by its own object alone, so that a pod stays where it was filed before. -/

open Resource

section Places

variable {K : Type} [Collected K]

def lastChange? (events : List (WatchEvent K)) (id : Identity) : Option (WatchEvent K) :=
  (events.filter fun event => identity event.object = id).getLast?

def lastFiled? (events : List (WatchEvent K)) (key : String) (id : Identity) :
    Option (WatchEvent K) :=
  (events.filter fun event =>
    identity event.object = id ∧ Collected.collectionKey? event.object = some key).getLast?

/-- What is live if only the changes that went into the collection count. -/
def filedLive (events : List (WatchEvent K)) (key : String) : Live K := fun id =>
  (lastFiled? events key id).bind WatchEvent.survivor?

/-- Of the changes of the object that went into the collection, the last was not its deletion. -/
def IsFiled (events : List (WatchEvent K)) (key : String) (id : Identity) : Prop :=
  ∃ event, lastFiled? events key id = some event ∧ event.survivor? ≠ none

/-- When the change comes its object is filed in another collection. Only a change that belongs
nowhere and does not delete the object is no matter then. -/
def LeavesBehind (events : List (WatchEvent K)) (event : WatchEvent K) : Prop :=
  ∃ key, IsFiled events key (identity event.object) ∧
    Collected.collectionKey? event.object ≠ some key ∧
    (event.survivor? = none ∨ Collected.collectionKey? event.object ≠ none)

variable {events : List (WatchEvent K)} {event : WatchEvent K} {key : String} {id : Identity}

omit [Collected K] in
theorem getLast?_filter_snoc (p : WatchEvent K → Bool) :
    ((events ++ [event]).filter p).getLast? =
      if p event then some event else (events.filter p).getLast? := by
  rw [List.filter_append]
  split
  case isTrue h => rw [List.filter_cons_of_pos h, List.filter_nil, List.getLast?_concat]
  case isFalse h => rw [List.filter_cons_of_neg h, List.filter_nil, List.append_nil]

theorem lastChange?_snoc :
    lastChange? (events ++ [event]) id =
      if identity event.object = id then some event else lastChange? events id := by
  unfold lastChange?
  simp only [getLast?_filter_snoc, decide_eq_true_eq]

theorem lastFiled?_snoc :
    lastFiled? (events ++ [event]) key id =
      if identity event.object = id ∧ Collected.collectionKey? event.object = some key then
        some event
      else lastFiled? events key id := by
  unfold lastFiled?
  simp only [getLast?_filter_snoc, decide_eq_true_eq]

theorem filedLive_snoc_of_filed (h : Collected.collectionKey? event.object = some key) :
    filedLive (events ++ [event]) key = (filedLive events key).change event := by
  funext id
  unfold filedLive Live.change
  rw [lastFiled?_snoc]
  by_cases hid : identity event.object = id
  · rw [if_pos ⟨hid, h⟩, if_pos hid]
    rfl
  · rw [if_neg fun both => hid both.1, if_neg hid]

theorem filedLive_snoc_of_ne (h : Collected.collectionKey? event.object ≠ some key) :
    filedLive (events ++ [event]) key = filedLive events key := by
  funext id
  unfold filedLive
  rw [lastFiled?_snoc, if_neg fun both => h both.2]

theorem isFiled_iff : IsFiled events key id ↔ filedLive events key id ≠ none := by
  unfold IsFiled filedLive
  cases lastFiled? events key id <;> simp

theorem isFiled_snoc_of_filed (hid : identity event.object = id)
    (hkey : Collected.collectionKey? event.object = some key) :
    IsFiled (events ++ [event]) key id ↔ event.survivor? ≠ none := by
  unfold IsFiled
  rw [lastFiled?_snoc, if_pos ⟨hid, hkey⟩]
  simp

theorem isFiled_snoc_of_other
    (h : ¬ (identity event.object = id ∧ Collected.collectionKey? event.object = some key)) :
    IsFiled (events ++ [event]) key id ↔ IsFiled events key id := by
  unfold IsFiled
  rw [lastFiled?_snoc, if_neg h]

theorem IsFiled.exists_mem (h : IsFiled events key id) :
    ∃ event ∈ events, identity event.object = id ∧
      Collected.collectionKey? event.object = some key := by
  obtain ⟨event, hlast, -⟩ := h
  have hmem := List.mem_filter.mp (List.mem_of_getLast? hlast)
  exact ⟨event, hmem.1, of_decide_eq_true hmem.2⟩

structure FiledOnce (events : List (WatchEvent K)) : Prop where
  alone : ∀ key other id, IsFiled events key id → IsFiled events other id → key = other
  gone : ∀ id event, lastChange? events id = some event → event.survivor? = none →
    ∀ key, ¬ IsFiled events key id

theorem filedOnce_nil : FiledOnce ([] : List (WatchEvent K)) where
  alone := by simp [IsFiled, lastFiled?]
  gone := by simp [lastChange?]

theorem not_leavesBehind_of_filedOnce (h : FiledOnce (events ++ [event])) :
    ¬ LeavesBehind events event := by
  intro behind
  obtain ⟨key, hfiled, hkey, heither⟩ := behind
  have hstill : IsFiled (events ++ [event]) key (identity event.object) :=
    (isFiled_snoc_of_other fun both => hkey both.2).mpr hfiled
  cases hsurvivor : event.survivor? with
  | none =>
      refine h.gone (identity event.object) event ?_ hsurvivor key hstill
      rw [lastChange?_snoc, if_pos rfl]
  | some object =>
      have hplace : Collected.collectionKey? event.object ≠ none := by
        rcases heither with hdeleted | hplace
        · cases hsurvivor.symm.trans hdeleted
        · exact hplace
      obtain ⟨other, hother⟩ := Option.ne_none_iff_exists'.mp hplace
      have hnew : IsFiled (events ++ [event]) other (identity event.object) := by
        rw [isFiled_snoc_of_filed rfl hother, hsurvivor]
        exact Option.some_ne_none _
      exact hkey (h.alone key other _ hstill hnew ▸ hother)

theorem FiledOnce.snoc (h : FiledOnce events) (hbehind : ¬ LeavesBehind events event) :
    FiledOnce (events ++ [event]) := by
  have hleft : ∀ key, IsFiled (events ++ [event]) key (identity event.object) →
      Collected.collectionKey? event.object = some key ∨
        IsFiled events key (identity event.object) ∧ event.survivor? ≠ none ∧
          Collected.collectionKey? event.object = none := by
    intro key hfiled
    by_cases hkey : Collected.collectionKey? event.object = some key
    · exact .inl hkey
    · have hbefore := (isFiled_snoc_of_other fun both => hkey both.2).mp hfiled
      refine .inr ⟨hbefore, fun hdeleted => ?_, Classical.byContradiction fun hplace => ?_⟩
      · exact hbehind ⟨key, hbefore, hkey, .inl hdeleted⟩
      · exact hbehind ⟨key, hbefore, hkey, .inr hplace⟩
  constructor
  case alone =>
    intro key other id hkey hother
    by_cases hid : identity event.object = id
    · subst hid
      rcases hleft key hkey with hplace | ⟨hbefore, -, hnowhere⟩ <;>
        rcases hleft other hother with hplace' | ⟨hbefore', -, hnowhere'⟩
      · exact Option.some.inj (hplace.symm.trans hplace')
      · cases hplace.symm.trans hnowhere'
      · cases hplace'.symm.trans hnowhere
      · exact h.alone key other _ hbefore hbefore'
    · have hsame : ∀ key, IsFiled (events ++ [event]) key id ↔ IsFiled events key id :=
        fun key => isFiled_snoc_of_other fun both => hid both.1
      exact h.alone key other id ((hsame key).mp hkey) ((hsame other).mp hother)
  case gone =>
    intro id last hlast hdeleted key hfiled
    rw [lastChange?_snoc] at hlast
    split at hlast
    case isTrue hid =>
      obtain rfl := Option.some.inj hlast
      subst hid
      rcases hleft key hfiled with hplace | ⟨-, hsurvives, -⟩
      · exact (isFiled_snoc_of_filed rfl hplace).mp hfiled hdeleted
      · exact hsurvives hdeleted
    case isFalse hid =>
      refine h.gone id last hlast hdeleted key ?_
      exact (isFiled_snoc_of_other fun both => hid both.1).mp hfiled

end Places

theorem IsFiled.isPodKey {events : List (WatchEvent Pod)} {key : String} {id : Identity}
    (h : IsFiled events key id) : IsPodKey key := by
  obtain ⟨event, -, -, hkey⟩ := h.exists_mem
  exact isPodKey_of_collectionKey? hkey

abbrev Changes (K : Type) : Type := List (Int × WatchEvent K)

namespace Changes

variable {K : Type}

def events (changes : Changes K) : List (WatchEvent K) := changes.map Prod.snd

def history (changes : Changes K) : History K :=
  changes.map fun change => (change.1, .apply change.2)

theorem events_snoc (changes : Changes K) (now : Int) (event : WatchEvent K) :
    events (changes ++ [(now, event)]) = changes.events ++ [event] :=
  List.map_append

theorem history_snoc (changes : Changes K) (now : Int) (event : WatchEvent K) :
    history (changes ++ [(now, event)]) = changes.history ++ [(now, .apply event)] :=
  List.map_append

variable [Collected K]

theorem filedOnce_iff_not_leavesBehind (changes : Changes K) :
    (∀ earlier : Changes K, earlier <+: changes → FiledOnce earlier.events) ↔
      ∀ (earlier : Changes K) now event later, changes = earlier ++ (now, event) :: later →
        ¬ LeavesBehind earlier.events event := by
  constructor
  · intro h earlier now event later heq
    apply not_leavesBehind_of_filedOnce
    rw [← events_snoc earlier now event]
    exact h _ ⟨later, by simp [heq]⟩
  · intro h earlier hinit
    obtain ⟨later, rfl⟩ := hinit
    induction earlier using List.reverseRecOn generalizing later with
    | nil => exact filedOnce_nil
    | append_singleton earlier change ih =>
        have hbefore : FiledOnce (events earlier) := ih (change :: later) (by simpa using h)
        rw [events_snoc]
        exact hbefore.snoc (h earlier change.1 change.2 later (by simp))

end Changes

namespace Keeper

def Holds {γ : Type} (keeper : Keeper γ) (t : Int) (key : String) (id : Identity) : Prop :=
  ∃ pod ∈ (Collection.decodeOrEmpty (keeper.store.rows.live t key) : List Pod), identity pod = id

/-- No pod is in two collections, or in one of them twice, and none is in any of them after its
deletion. -/
structure WellFiled {γ : Type} (keeper : Keeper γ) (events : List (WatchEvent Pod)) (t : Int) :
    Prop where
  once : ∀ key, IsPodKey key →
    (Collection.decodeOrEmpty (keeper.store.rows.live t key) : List Pod).Pairwise fun a b =>
      identity a ≠ identity b
  alone : ∀ key other id, IsPodKey key → IsPodKey other → keeper.Holds t key id →
    keeper.Holds t other id → key = other
  gone : ∀ id event, lastChange? events id = some event → event.survivor? = none →
    ∀ key, IsPodKey key → ¬ keeper.Holds t key id

section Run

variable {start : Keeper Unit} (hempty : ∀ key, IsPodKey key → ¬ start.Stores key)

include hempty

theorem mirrors_filedLive {changes : Changes Pod}
    (hstorable : ∀ event ∈ changes.events, ∀ pod, event.survivor? = some pod → Storable pod)
    {key : String} (hkey : IsPodKey key) (t : Int) :
    Mirrors (filedLive changes.events key) key (start.after changes.history).store.rows t := by
  induction changes using List.reverseRecOn generalizing t with
  | nil =>
      apply Mirrors.of_none
      exact Classical.byContradiction fun hstored => hempty key hkey ⟨t, hstored⟩
  | append_singleton changes change ih =>
      obtain ⟨now, event⟩ := change
      rw [Changes.events_snoc] at hstorable ⊢
      rw [Changes.history_snoc, after_snoc]
      have hbefore := ih fun event member => hstorable event (List.mem_append_left _ member)
      by_cases hevent : Collected.collectionKey? event.object = some key
      · have hrun := (start.after (Changes.history changes)).run_update_of_filed now hevent
        rw [perform_ok] at hrun
        rw [filedLive_snoc_of_filed hevent]
        exact mirrors_update (hbefore now)
          (hstorable event (List.mem_append_right _ List.mem_cons_self)) hrun t
      · rw [filedLive_snoc_of_ne hevent]
        exact (hbefore t).congr (live_apply_of_ne hevent t)

end Run

theorem holds_of_mirrors {γ : Type} {keeper : Keeper γ} {live : Live Pod} {key : String} {t : Int}
    (h : Mirrors live key keeper.store.rows t) (id : Identity) :
    keeper.Holds t key id ↔ live id ≠ none := by
  obtain ⟨items, hlists, -, hread⟩ := h
  unfold Holds
  rw [hread, Option.ne_none_iff_exists']
  constructor
  · intro given
    obtain ⟨pod, member, hid⟩ := given
    obtain ⟨original, horiginal, rfl⟩ := List.mem_map.mp member
    rw [identity_truncate] at hid
    exact ⟨original, (hlists.live_iff id original).mpr ⟨horiginal, hid⟩⟩
  · intro given
    obtain ⟨original, hlive⟩ := given
    obtain ⟨horiginal, hid⟩ := (hlists.live_iff id original).mp hlive
    exact ⟨_, List.mem_map_of_mem horiginal, (identity_truncate original).trans hid⟩

theorem wellFiled_iff {γ : Type} {keeper : Keeper γ} {events : List (WatchEvent Pod)} {t : Int}
    (h : ∀ key, IsPodKey key → Mirrors (filedLive events key) key keeper.store.rows t) :
    keeper.WellFiled events t ↔ FiledOnce events := by
  have hholds : ∀ key id, IsPodKey key → (keeper.Holds t key id ↔ IsFiled events key id) :=
    fun key id hkey => (holds_of_mirrors (h key hkey) id).trans isFiled_iff.symm
  constructor
  · intro hwell
    constructor
    · intro key other id hfiled hother
      exact hwell.alone key other id hfiled.isPodKey hother.isPodKey
        ((hholds key id hfiled.isPodKey).mpr hfiled) ((hholds other id hother.isPodKey).mpr hother)
    · intro id event hlast hdeleted key hfiled
      exact hwell.gone id event hlast hdeleted key hfiled.isPodKey
        ((hholds key id hfiled.isPodKey).mpr hfiled)
  · intro honce
    constructor
    · intro key hkey
      exact (h key hkey).lists.distinct
    · intro key other id hkey hother hholds_key hholds_other
      exact honce.alone key other id ((hholds key id hkey).mp hholds_key)
        ((hholds other id hother).mp hholds_other)
    · intro id event hlast hdeleted key hkey hholds_key
      exact honce.gone id event hlast hdeleted key ((hholds key id hkey).mp hholds_key)

/-- A pod is found in just the collections in which its last change there was not its deletion. So
it is in one at most after every change, and in none after its deletion, exactly if no change comes
while its pod is filed elsewhere. -/
theorem wellFiled_iff_not_leavesBehind (start : Keeper Unit)
    (hempty : ∀ key, IsPodKey key → ¬ start.Stores key) {changes : Changes Pod}
    (hstorable : ∀ event ∈ changes.events, ∀ pod, event.survivor? = some pod → Storable pod) :
    (∀ (earlier : Changes Pod) (key : String) (t : Int), earlier <+: changes → IsPodKey key →
        (Collection.decodeOrEmpty ((start.after earlier.history).store.rows.live t key) :
          List Pod).Pairwise (fun a b => identity a ≠ identity b) ∧
        ∀ id, (start.after earlier.history).Holds t key id ↔ IsFiled earlier.events key id) ∧
    ((∀ (earlier : Changes Pod) (t : Int), earlier <+: changes →
        (start.after earlier.history).WellFiled earlier.events t) ↔
      ∀ (earlier : Changes Pod) (now : Int) (event : WatchEvent Pod) (later : Changes Pod),
        changes = earlier ++ (now, event) :: later → ¬ LeavesBehind earlier.events event) := by
  have hmirrors : ∀ (earlier : Changes Pod) (t : Int), earlier <+: changes → ∀ key, IsPodKey key →
      Mirrors (filedLive earlier.events key) key (start.after earlier.history).store.rows t := by
    intro earlier t hinit key hkey
    refine mirrors_filedLive hempty (fun event member => hstorable event ?_) hkey t
    exact (hinit.map Prod.snd).subset member
  constructor
  · intro earlier key t hinit hkey
    have h := hmirrors earlier t hinit key hkey
    exact ⟨h.lists.distinct, fun id => (holds_of_mirrors h id).trans isFiled_iff.symm⟩
  · rw [← Changes.filedOnce_iff_not_leavesBehind]
    constructor
    · intro hwell earlier hinit
      exact (wellFiled_iff (hmirrors earlier 0 hinit)).mp (hwell earlier 0 hinit)
    · intro honce earlier t hinit
      exact (wellFiled_iff (hmirrors earlier t hinit)).mpr (honce earlier hinit)

section Migration

def migrant (job : String) : Pod where
  metadata := {
    name := some "worker"
    ns := some "default"
    ownerReferences := some [{ kind := "Job", name := job }] }

def stay : Changes Pod :=
  [(0, .added (migrant "run-1")), (1, .modified (migrant "run-1")), (2, .deleted (migrant "run-1"))]

def migration : Changes Pod :=
  [(0, .added (migrant "run-1")), (1, .modified (migrant "run-2")), (2, .deleted (migrant "run-2"))]

theorem not_leavesBehind_stay (earlier : Changes Pod) (now : Int) (event : WatchEvent Pod)
    (later : Changes Pod) (h : stay = earlier ++ (now, event) :: later) :
    ¬ LeavesBehind earlier.events event := by
  have hevents : stay.events = earlier.events ++ event :: later.events := by
    rw [h, Changes.events, List.map_append]
    rfl
  have hkey : ∀ other ∈ stay.events,
      Collected.collectionKey? other.object = some (Key.podsOf "default" "run-1") := by
    decide +kernel
  rw [hevents] at hkey
  intro behind
  obtain ⟨key, hfiled, hne, -⟩ := behind
  obtain ⟨other, member, -, hother⟩ := hfiled.exists_mem
  rw [hkey other (List.mem_append_left _ member)] at hother
  exact hne ((hkey event (List.mem_append_right _ List.mem_cons_self)).trans hother)

theorem wellFiled_stay :
    (({ store := { gate := () } } : Keeper Unit).after stay.history).WellFiled stay.events 5 :=
  (wellFiled_iff_not_leavesBehind { store := { gate := () } } (fun key _ ⟨_, h⟩ => h rfl)
    (by decide +kernel)).2.mpr not_leavesBehind_stay stay 5 List.prefix_rfl

/-- The pod is still in the collection of the job that it was taken over from when it has been
deleted. -/
theorem not_wellFiled_of_migration :
    ¬ ∀ (start : Keeper Unit) (changes : Changes Pod),
      (∀ key, IsPodKey key → ¬ start.Stores key) →
      (∀ event ∈ changes.events, ∀ pod, event.survivor? = some pod → Storable pod) →
      ∀ (earlier : Changes Pod) (t : Int), earlier <+: changes →
        (start.after earlier.history).WellFiled earlier.events t := by
  intro hall
  have hempty : ∀ key, IsPodKey key → ¬ ({ store := { gate := () } } : Keeper Unit).Stores key :=
    fun key _ ⟨_, h⟩ => h rfl
  have hstorable : ∀ event ∈ migration.events, ∀ pod, event.survivor? = some pod →
      Storable pod := by
    decide +kernel
  have honce := (wellFiled_iff fun key hkey => mirrors_filedLive hempty hstorable hkey 5).mp
    (hall _ migration hempty hstorable migration 5 List.prefix_rfl)
  refine honce.gone (identity (migrant "run-2")) (.deleted (migrant "run-2")) ?_ rfl
    (Key.podsOf "default" "run-1") ⟨.added (migrant "run-1"), ?_, ?_⟩
  · decide +kernel
  · decide +kernel
  · decide +kernel

end Migration

end Keeper
end RunMonitor.Sync
