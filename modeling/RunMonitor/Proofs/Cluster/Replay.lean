import RunMonitor.Cluster.Pod
import RunMonitor.Proofs.Cluster.Live

namespace RunMonitor.WatchEvent

open Resource

variable {K : Type} [Resource K]

def Mentions (events : List (WatchEvent K)) (id : Identity) : Prop :=
  ∃ event ∈ events, identity event.object = id

instance (events : List (WatchEvent K)) (id : Identity) : Decidable (Mentions events id) :=
  inferInstanceAs (Decidable (∃ event ∈ events, identity event.object = id))

theorem mentions_cons {event : WatchEvent K} {later : List (WatchEvent K)} {id : Identity} :
    Mentions (event :: later) id ↔ identity event.object = id ∨ Mentions later id := by
  simp [Mentions]

/-- The changes that no later one of the same object follows. -/
def lastOfEach : List (WatchEvent K) → List (WatchEvent K)
  | [] => []
  | event :: later =>
      if Mentions later (identity event.object) then lastOfEach later
      else event :: lastOfEach later

theorem mentions_iff_filter_ne_nil {events : List (WatchEvent K)} {id : Identity} :
    Mentions events id ↔ events.filter (fun event => identity event.object = id) ≠ [] := by
  simp [Mentions]

theorem filter_lastOfEach (events : List (WatchEvent K)) (id : Identity) :
    (lastOfEach events).filter (fun event => identity event.object = id) =
      (events.filter fun event => identity event.object = id).getLast?.toList := by
  induction events with
  | nil => rfl
  | cons event later ih =>
      by_cases hid : identity event.object = id
      · subst hid
        rw [List.filter_cons_of_pos (l := later) (by simp), lastOfEach]
        split
        case isTrue hmentions =>
          rw [ih, List.getLast?_cons_of_ne_nil (mentions_iff_filter_ne_nil.mp hmentions)]
        case isFalse hmentions =>
          have hnil := Classical.not_not.mp (mt mentions_iff_filter_ne_nil.mpr hmentions)
          rw [List.filter_cons_of_pos (by simp), ih, hnil]
          rfl
      · rw [List.filter_cons_of_neg (l := later) (by simpa using hid), ← ih, lastOfEach]
        split
        case isTrue => rfl
        case isFalse => exact List.filter_cons_of_neg (by simpa using hid)

theorem mentions_lastOfEach {events : List (WatchEvent K)} {id : Identity} :
    Mentions (lastOfEach events) id ↔ Mentions events id := by
  rw [mentions_iff_filter_ne_nil, mentions_iff_filter_ne_nil, filter_lastOfEach]
  simp

theorem lastOfEach_lastOfEach (events : List (WatchEvent K)) :
    lastOfEach (lastOfEach events) = lastOfEach events := by
  induction events with
  | nil => rfl
  | cons event later ih =>
      rw [lastOfEach]
      split
      case isTrue => exact ih
      case isFalse hmentions => rw [lastOfEach, if_neg (mt mentions_lastOfEach.mp hmentions), ih]

theorem filter_survivor? (event : WatchEvent K) (later : List (WatchEvent K)) :
    event.survivor?.toList.filter (fun item => ¬ Mentions later (identity item)) =
      if Mentions later (identity event.object) then [] else event.survivor?.toList := by
  cases hsurvivor : event.survivor? with
  | none => simp
  | some object =>
      rw [identity_of_survivor? hsurvivor]
      by_cases h : Mentions later (identity event.object) <;> simp [h]

theorem filterMap_lastOfEach_cons (event : WatchEvent K) (later : List (WatchEvent K)) :
    (lastOfEach (event :: later)).filterMap survivor? =
      (if Mentions later (identity event.object) then [] else event.survivor?.toList) ++
        (lastOfEach later).filterMap survivor? := by
  rw [lastOfEach]
  split
  case isTrue => rfl
  case isFalse =>
    rw [List.filterMap_cons]
    cases event.survivor? <;> rfl

theorem filter_not_mentions_cons (items : List K) (event : WatchEvent K)
    (later : List (WatchEvent K)) :
    (items.filter fun item => identity item ≠ identity event.object).filter
        (fun item => ¬ Mentions later (identity item)) =
      items.filter fun item => ¬ Mentions (event :: later) (identity item) := by
  rw [List.filter_filter]
  apply List.filter_congr
  intro item _
  simp [mentions_cons, eq_comm, and_comm]

theorem replay_eq (items : List K) (events : List (WatchEvent K)) :
    replay items events =
      items.filter (fun item => ¬ Mentions events (identity item)) ++
        (lastOfEach events).filterMap survivor? := by
  induction events generalizing items with
  | nil =>
      have hall : ∀ item ∈ items,
          decide (¬ Mentions ([] : List (WatchEvent K)) (identity item)) = true := by
        simp [Mentions]
      rw [List.filter_eq_self.mpr hall, lastOfEach, List.filterMap_nil, List.append_nil]
      rfl
  | cons event later ih =>
      -- what the first change leaves is subject to the later ones like any other item
      calc replay items (event :: later)
          = replay (event.applyTo items) later := rfl
        _ = items.filter (fun item => ¬ Mentions (event :: later) (identity item)) ++
              event.survivor?.toList.filter (fun item => ¬ Mentions later (identity item)) ++
                (lastOfEach later).filterMap survivor? := by
            rw [ih, applyTo_eq, List.filter_append, filter_not_mentions_cons]
        _ = _ := by rw [filter_survivor?, List.append_assoc, filterMap_lastOfEach_cons]

theorem distinct_replay {items : List K}
    (distinct : items.Pairwise fun a b => identity a ≠ identity b) (events : List (WatchEvent K)) :
    (replay items events).Pairwise fun a b => identity a ≠ identity b := by
  induction events generalizing items with
  | nil => exact distinct
  | cons event later ih => exact ih (distinct_applyTo distinct event)

/-- To replay changes is to replay the last of each object alone. The items that no change is of
stay in their order, and what the last changes leave follows in the order of these; distinct items
stay distinct. -/
theorem replay_lastOfEach (items : List K) (events : List (WatchEvent K)) :
    replay items events = replay items (lastOfEach events) ∧
      replay items events =
        items.filter (fun item => ¬ Mentions events (identity item)) ++
          (lastOfEach events).filterMap survivor? ∧
      (items.Pairwise (fun a b => identity a ≠ identity b) →
        (replay items events).Pairwise fun a b => identity a ≠ identity b) := by
  refine ⟨?_, replay_eq items events, fun distinct => distinct_replay distinct events⟩
  have hkept : items.filter (fun item => ¬ Mentions (lastOfEach events) (identity item)) =
      items.filter fun item => ¬ Mentions events (identity item) := by
    simp only [mentions_lastOfEach]
  rw [replay_eq, replay_eq items (lastOfEach events), hkept, lastOfEach_lastOfEach]

section Rollout

def podVersion (name version : String) : Pod where
  metadata := { name := some name, ns := some "default", resourceVersion := some version }

def rollout : List (WatchEvent Pod) :=
  [.modified (podVersion "a" "2"), .deleted (podVersion "a" "3"), .added (podVersion "c" "4"),
    .modified (podVersion "b" "5"), .added (podVersion "a" "6"), .deleted (podVersion "c" "7")]

theorem replay_rollout :
    replay [podVersion "a" "1", podVersion "d" "1", podVersion "b" "1"] rollout =
        [podVersion "d" "1", podVersion "b" "5", podVersion "a" "6"] ∧
      (replay [podVersion "a" "1", podVersion "d" "1", podVersion "b" "1"] rollout).Pairwise
        fun a b => identity a ≠ identity b := by
  obtain ⟨-, heq, hdistinct⟩ := replay_lastOfEach
    [podVersion "a" "1", podVersion "d" "1", podVersion "b" "1"] rollout
  refine ⟨heq.trans ?_, hdistinct ?_⟩
  · decide +kernel
  · decide +kernel

end Rollout

end RunMonitor.WatchEvent
