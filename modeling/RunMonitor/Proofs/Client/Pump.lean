import RunMonitor.Client.Basic

namespace RunMonitor.Client

variable {K : Type} {item : Item K} {rest : List (Item K)}

theorem changes_of_passed (hchange : item.change? = none) (hexpiry : item.isExpiry = false) :
    changes (item :: rest) = changes rest := by
  rw [changes, List.takeWhile_cons_of_pos (by simp [hexpiry]), List.filterMap_cons_none hchange]
  rfl

theorem changes_of_isExpiry (hexpiry : item.isExpiry = true) : changes (item :: rest) = [] := by
  rw [changes, List.takeWhile_cons_of_neg (by simp [hexpiry])]
  rfl

namespace Pump

def start (capacity : Nat) (items : List (Item K)) : Pump K :=
  { capacity := capacity, items := items }

def after? (pump : Pump K) (moves : List Move) : Option (Pump K) := moves.foldlM step? pump

def ahead (pump : Pump K) : List (WatchEvent K) := if pump.isDone then [] else changes pump.items

def isOver (pump : Pump K) : Bool := pump.isDone && pump.buffer.isEmpty && !pump.isAbandoned

/-- An item is read and its change is taken; the end is read, and the consumer may leave. -/
def stepsLeft (pump : Pump K) : Nat :=
  (if pump.isDone then 0 else 2 * pump.items.length + 1) + pump.buffer.length +
    if pump.isAbandoned then 0 else 1

inductive Reads (pump : Pump K) : Pump K → Prop where
  | finish (ahead : pump.isAbandoned = false → changes pump.items = []) :
      Reads pump { pump with isDone := true }
  | pass (item : Item K) (rest : List (Item K)) (items : pump.items = item :: rest)
      (ahead : changes (item :: rest) = changes rest) : Reads pump { pump with items := rest }
  | relay (event : WatchEvent K) (rest : List (Item K)) (items : pump.items = .change event :: rest)
      (room : pump.buffer.length < pump.capacity) :
      Reads pump { pump with items := rest, buffer := pump.buffer ++ [event] }

variable {pump next : Pump K} {move : Move} {capacity : Nat} {items : List (Item K)}

theorem reads_of_read? (h : pump.read? = some next) : pump.isDone = false ∧ Reads pump next := by
  obtain ⟨_, items, buffer, taken, isDone, isAbandoned⟩ := pump
  rw [read?] at h
  split at h
  case isTrue => cases h
  case isFalse hdone =>
    refine ⟨by simpa using hdone, ?_⟩
    cases items with
    | nil =>
        cases h
        exact .finish fun _ => rfl
    | cons item rest =>
        cases item with
        | bookmark | unreadable =>
            cases h
            exact .pass _ rest rfl (changes_of_passed rfl rfl)
        | failure status =>
            simp only at h
            split at h
            case isTrue hexpired =>
              cases h
              exact .finish fun _ => changes_of_isExpiry hexpired
            case isFalse hexpired =>
              cases h
              exact .pass _ rest rfl (changes_of_passed rfl (Bool.eq_false_iff.mpr hexpired))
        | change event =>
            simp only at h
            split at h
            case isTrue habandoned =>
              cases h
              exact .finish fun hattended => by simp [habandoned] at hattended
            case isFalse =>
              split at h
              case isTrue hroom =>
                cases h
                exact .relay event rest rfl hroom
              case isFalse => cases h

theorem isDone_or_full_of_read? (h : pump.read? = none) :
    pump.isDone = true ∨ pump.capacity ≤ pump.buffer.length := by
  rw [read?] at h
  split at h
  case isTrue hdone => exact .inl hdone
  case isFalse =>
    split at h
    case h_5 =>
      split at h
      case isTrue => cases h
      case isFalse =>
        split at h
        case isTrue => cases h
        case isFalse hfull => exact .inr (Nat.le_of_not_lt hfull)
    case h_4 => split at h <;> cases h
    all_goals cases h

theorem take?_eq_some_iff :
    pump.take? = some next ↔ pump.isAbandoned = false ∧ ∃ event rest, pump.buffer = event :: rest ∧
      { pump with buffer := rest, taken := pump.taken ++ [event] } = next := by
  rw [take?]
  cases hattended : pump.isAbandoned with
  | true => simp
  | false =>
      cases hbuffer : pump.buffer with
      | nil => simp
      | cons event rest =>
          simp only [Option.some.injEq, true_and, List.cons.injEq]
          constructor
          · intro h
            exact ⟨event, rest, ⟨rfl, rfl⟩, h⟩
          · rintro ⟨_, _, ⟨rfl, rfl⟩, h⟩
            exact h

theorem isOver_iff :
    pump.isOver = true ↔ pump.isDone = true ∧ pump.buffer = [] ∧ pump.isAbandoned = false := by
  simp [isOver, and_assoc]

theorem still_of_isOver (h : pump.isOver = true) : pump.read? = none ∧ pump.take? = none := by
  obtain ⟨hdone, hbuffer, -⟩ := isOver_iff.mp h
  constructor
  · rw [read?, if_pos hdone]
  · rw [take?, hbuffer]
    cases pump.isAbandoned <;> rfl

theorem abandon?_eq_some_iff :
    pump.abandon? = some next ↔
      pump.isAbandoned = false ∧ { pump with buffer := [], isAbandoned := true } = next := by
  rw [abandon?]
  cases pump.isAbandoned <;> simp

/-- Nothing is lost between the pump and its consumer, as long as the consumer stays. -/
structure Sound (capacity : Nat) (items : List (Item K)) (pump : Pump K) : Prop where
  capacity_eq : pump.capacity = capacity
  buffered : pump.buffer.length ≤ capacity
  received : pump.taken <+: changes items
  flows : pump.isAbandoned = false → pump.taken ++ pump.buffer ++ pump.ahead = changes items

theorem sound_start (capacity : Nat) (items : List (Item K)) :
    Sound capacity items (start capacity items) :=
  ⟨rfl, Nat.zero_le _, List.nil_prefix, fun _ => rfl⟩

theorem Sound.read (h : Sound capacity items pump) (hread : pump.read? = some next) :
    Sound capacity items next := by
  obtain ⟨hdone, hreads⟩ := reads_of_read? hread
  have hahead : pump.ahead = changes pump.items := by simp [ahead, hdone]
  cases hreads with
  | finish hnil =>
      refine ⟨h.capacity_eq, h.buffered, h.received, fun hattended => ?_⟩
      have hflows := h.flows hattended
      rwa [hahead, hnil hattended] at hflows
  | pass item rest hitems hpass =>
      refine ⟨h.capacity_eq, h.buffered, h.received, fun hattended => ?_⟩
      have hflows := h.flows hattended
      rw [hahead, hitems, hpass] at hflows
      simpa [ahead, hdone] using hflows
  | relay event rest hitems hroom =>
      refine ⟨h.capacity_eq, ?_, h.received, fun hattended => ?_⟩
      · have hcapacity := h.capacity_eq
        simp only [List.length_append, List.length_cons, List.length_nil]
        omega
      · -- the change goes over from what is ahead to the end of the buffer
        have hflows := h.flows hattended
        rw [hahead, hitems] at hflows
        simpa [ahead, hdone, changes, Item.change?, Item.isExpiry] using hflows

theorem Sound.take (h : Sound capacity items pump) (htake : pump.take? = some next) :
    Sound capacity items next := by
  obtain ⟨hattended, event, rest, hbuffer, rfl⟩ := take?_eq_some_iff.mp htake
  have hflows := h.flows hattended
  have hbuffered := h.buffered
  rw [hbuffer, List.length_cons] at hbuffered
  rw [hbuffer, List.append_cons] at hflows
  refine ⟨h.capacity_eq, Nat.le_of_succ_le hbuffered, ?_, fun _ => hflows⟩
  exact ⟨rest ++ pump.ahead, by rw [← List.append_assoc]; exact hflows⟩

theorem Sound.abandon (h : Sound capacity items pump) (habandon : pump.abandon? = some next) :
    Sound capacity items next := by
  obtain ⟨-, rfl⟩ := abandon?_eq_some_iff.mp habandon
  exact ⟨h.capacity_eq, Nat.zero_le _, h.received, nofun⟩

theorem Sound.step (h : Sound capacity items pump) (hstep : pump.step? move = some next) :
    Sound capacity items next := by
  cases move with
  | read => exact h.read hstep
  | take => exact h.take hstep
  | abandon => exact h.abandon hstep

theorem Sound.taken_of_isOver (h : Sound capacity items pump) (hover : pump.isOver = true) :
    pump.taken = changes items := by
  obtain ⟨hdone, hbuffer, hattended⟩ := isOver_iff.mp hover
  have hflows := h.flows hattended
  rwa [hbuffer, ahead, if_pos hdone, List.append_nil, List.append_nil] at hflows

theorem Sound.moves_or_isOver (h : Sound capacity items pump) (hcapacity : 0 < capacity)
    (hattended : pump.isAbandoned = false) :
    (∃ move next, move ≠ .abandon ∧ pump.step? move = some next ∧
      pump.read?.or pump.take? = some next) ∨ pump.isOver = true := by
  cases hread : pump.read? with
  | some next => exact .inl ⟨.read, next, nofun, hread, rfl⟩
  | none =>
      cases hbuffer : pump.buffer with
      | cons event rest =>
          have htake := take?_eq_some_iff.mpr ⟨hattended, event, rest, hbuffer, rfl⟩
          exact .inl ⟨.take, _, nofun, htake, htake⟩
      | nil =>
          refine .inr ?_
          have hdone : pump.isDone = true := by
            rcases isDone_or_full_of_read? hread with hdone | hfull
            · exact hdone
            · rw [h.capacity_eq, hbuffer] at hfull
              exact absurd hcapacity (Nat.not_lt.mpr hfull)
          exact isOver_iff.mpr ⟨hdone, hbuffer, hattended⟩

structure Advances (pump : Pump K) (moves : List Move) (next : Pump K) : Prop where
  steps : moves.length + next.stepsLeft ≤ pump.stepsLeft
  taken : next.taken.length = pump.taken.length + moves.count .take
  abandoned : next.isAbandoned = (pump.isAbandoned || moves.contains .abandon)
  unattended : pump.isAbandoned = true → next.taken = pump.taken

theorem Advances.refl (pump : Pump K) : Advances pump [] pump where
  steps := Nat.le_of_eq (Nat.zero_add _)
  taken := rfl
  abandoned := (Bool.or_false _).symm
  unattended _ := rfl

theorem Advances.trans {middle : Pump K} {moves others : List Move}
    (h : Advances pump moves middle) (rest : Advances middle others next) :
    Advances pump (moves ++ others) next where
  steps := by
    have hsteps := h.steps
    have hrest := rest.steps
    rw [List.length_append]
    omega
  taken := by rw [rest.taken, h.taken, List.count_append, Nat.add_assoc]
  abandoned := by rw [rest.abandoned, h.abandoned, List.contains_append, Bool.or_assoc]
  unattended habandoned := by
    rw [rest.unattended (by rw [h.abandoned, habandoned, Bool.true_or]), h.unattended habandoned]

theorem advances_read (h : pump.read? = some next) : Advances pump [.read] next := by
  obtain ⟨hdone, hreads⟩ := reads_of_read? h
  cases hreads with
  | finish =>
      refine ⟨?_, rfl, (Bool.or_false _).symm, fun _ => rfl⟩
      simp only [stepsLeft, hdone, if_true, Bool.false_eq_true, if_false, List.length_singleton]
      omega
  | pass item rest hitems =>
      refine ⟨?_, rfl, (Bool.or_false _).symm, fun _ => rfl⟩
      simp only [stepsLeft, hdone, hitems, Bool.false_eq_true, if_false, List.length_cons,
        List.length_nil]
      omega
  | relay event rest hitems =>
      refine ⟨?_, rfl, (Bool.or_false _).symm, fun _ => rfl⟩
      simp only [stepsLeft, hdone, hitems, Bool.false_eq_true, if_false, List.length_cons,
        List.length_append, List.length_nil]
      omega

theorem advances_take (h : pump.take? = some next) : Advances pump [.take] next := by
  obtain ⟨hattended, event, rest, hbuffer, rfl⟩ := take?_eq_some_iff.mp h
  refine ⟨?_, List.length_append, (Bool.or_false _).symm, fun habandoned => ?_⟩
  · simp only [stepsLeft, hbuffer, List.length_cons, List.length_nil]
    omega
  · rw [hattended] at habandoned
    cases habandoned

theorem advances_abandon (h : pump.abandon? = some next) : Advances pump [.abandon] next := by
  obtain ⟨hattended, rfl⟩ := abandon?_eq_some_iff.mp h
  refine ⟨?_, rfl, (Bool.or_true _).symm, fun _ => rfl⟩
  simp only [stepsLeft, hattended, Bool.false_eq_true, if_false, if_true, List.length_cons,
    List.length_nil]
  omega

theorem advances_step (h : pump.step? move = some next) : Advances pump [move] next := by
  cases move with
  | read => exact advances_read h
  | take => exact advances_take h
  | abandon => exact advances_abandon h

theorem after?_append (pump : Pump K) (before behind : List Move) :
    pump.after? (before ++ behind) = (pump.after? before).bind (·.after? behind) :=
  List.foldlM_append ..

theorem Sound.after {moves : List Move} (h : Sound capacity items pump)
    (hafter : pump.after? moves = some next) :
    Sound capacity items next ∧ Advances pump moves next := by
  induction moves generalizing pump with
  | nil =>
      cases hafter
      exact ⟨h, .refl _⟩
  | cons move rest ih =>
      obtain ⟨middle, hstep, hrest⟩ := Option.bind_eq_some_iff.mp hafter
      obtain ⟨hsound, hadvances⟩ := ih (h.step hstep) hrest
      exact ⟨hsound, (advances_step hstep).trans hadvances⟩

theorem Sound.taken_drain {fuel : Nat} (h : Sound capacity items pump) (hcapacity : 0 < capacity)
    (hattended : pump.isAbandoned = false) (hfuel : pump.stepsLeft ≤ fuel + 1) :
    (drain fuel pump).taken = changes items := by
  induction fuel generalizing pump with
  | zero =>
      rcases h.moves_or_isOver hcapacity hattended with ⟨move, next, hmove, hstep, -⟩ | hover
      · -- the step that is left is the one of leaving
        have hadvances := advances_step hstep
        have hnext : next.isAbandoned = false := by
          rw [hadvances.abandoned, hattended]
          simpa using hmove.symm
        have hsteps := hadvances.steps
        have hleft : 1 ≤ next.stepsLeft := by simp [stepsLeft, hnext]
        rw [List.length_singleton] at hsteps
        omega
      · exact h.taken_of_isOver hover
  | succ fuel ih =>
      rw [drain]
      rcases h.moves_or_isOver hcapacity hattended with ⟨move, next, hmove, hstep, hnext⟩ | hover
      · have hadvances := advances_step hstep
        have hsteps := hadvances.steps
        rw [List.length_singleton] at hsteps
        rw [hnext]
        refine ih (h.step hstep) ?_ (by omega)
        rw [hadvances.abandoned, hattended]
        simpa using hmove.symm
      · obtain ⟨hread, htake⟩ := still_of_isOver hover
        rw [hread, htake]
        exact h.taken_of_isOver hover

theorem run_eq (hcapacity : 0 < capacity) (items : List (Item K)) :
    run capacity items = changes items :=
  (sound_start capacity items).taken_drain hcapacity rfl (Nat.le_of_eq rfl)

/-- What a consumer gets, after moves in any order. Each take brings the next change; one who has
left gets nothing more, and one who stays comes to the end of the feed with all changes taken. -/
structure Relays (capacity : Nat) (items : List (Item K)) (moves : List Move) (pump : Pump K) :
    Prop where
  received : pump.taken = (changes items).take (moves.count .take)
  present : moves.count .take ≤ (changes items).length
  left : ∀ before behind, moves = before ++ .abandon :: behind →
    pump.taken = (changes items).take (before.count .take)
  ended : pump.isOver = true → pump.taken = changes items ∧ pump.read? = none ∧ pump.take? = none
  moving : .abandon ∉ moves → pump.isOver = true ∨
    ∃ move next, move ≠ .abandon ∧ pump.step? move = some next
  bounded : moves.length ≤ 2 * items.length + 2
  buffered : pump.buffer.length ≤ capacity

theorem taken_of_after {moves : List Move} (h : (start capacity items).after? moves = some pump) :
    moves.count .take ≤ (changes items).length ∧
      pump.taken = (changes items).take (moves.count .take) := by
  obtain ⟨hsound, hadvances⟩ := (sound_start capacity items).after h
  have hlength : pump.taken.length = moves.count .take := hadvances.taken.trans (Nat.zero_add _)
  rw [← hlength]
  exact ⟨hsound.received.length_le, List.prefix_iff_eq_take.mp hsound.received⟩

/-- The feed of a watch has the changes up to its expiry, whatever the pace at which they are taken
from it. -/
theorem relays_of_after {moves : List Move} (hcapacity : 0 < capacity)
    (h : (start capacity items).after? moves = some pump) :
    Relays capacity items moves pump ∧ run capacity items = changes items := by
  obtain ⟨hsound, hadvances⟩ := (sound_start capacity items).after h
  obtain ⟨hpresent, htaken⟩ := taken_of_after h
  refine ⟨⟨htaken, hpresent, ?left, ?ended, ?moving, ?bounded, hsound.buffered⟩,
    run_eq hcapacity items⟩
  case left =>
    rintro before behind rfl
    rw [after?_append, Option.bind_eq_some_iff] at h
    obtain ⟨middle, hbefore, hbehind⟩ := h
    obtain ⟨gone, habandon, hgone⟩ := Option.bind_eq_some_iff.mp hbehind
    obtain ⟨-, rfl⟩ := abandon?_eq_some_iff.mp habandon
    have hsame := ((((sound_start capacity items).after hbefore).1.abandon habandon).after
      hgone).2.unattended rfl
    exact hsame.trans (taken_of_after hbefore).2
  case ended =>
    exact fun hover => ⟨hsound.taken_of_isOver hover, still_of_isOver hover⟩
  case moving =>
    intro hstays
    have hattended : pump.isAbandoned = false := by
      rw [hadvances.abandoned]
      simpa [start] using hstays
    rcases hsound.moves_or_isOver hcapacity hattended with ⟨move, next, hmove, hstep, -⟩ | hover
    · exact .inr ⟨move, next, hmove, hstep⟩
    · exact .inl hover
  case bounded =>
    have hsteps := hadvances.steps
    have hstart : (start capacity items).stepsLeft = 2 * items.length + 2 := rfl
    omega

section Rollout

def rollout (phase : String) : WatchEvent Job :=
  .modified { metadata := { name := some "run-1", resourceVersion := some phase } }

def expiring : List (Item Job) :=
  [.bookmark, .change (rollout "1"), .failure ⟨"Failure", "", "InternalError", 500⟩, .unreadable,
    .change (rollout "2"), .change (rollout "3"), .failure ⟨"Failure", "", "Expired", 410⟩,
    .change (rollout "4")]

def early : List Move :=
  [.read, .read, .read, .read, .take, .read, .take, .read, .abandon, .read]

theorem relays_early : 0 < 1 ∧
    ∃ pump, (start 1 expiring).after? early = some pump ∧ Relays 1 expiring early pump ∧
      pump.taken = [rollout "1", rollout "2"] ∧ run 1 expiring = changes expiring := by
  obtain ⟨pump, hafter, htaken⟩ : ∃ pump, (start 1 expiring).after? early = some pump ∧
      pump.taken = [rollout "1", rollout "2"] := ⟨_, rfl, rfl⟩
  obtain ⟨hrelays, hrun⟩ := relays_of_after (by decide) hafter
  exact ⟨by decide, pump, hafter, hrelays, htaken, hrun⟩

end Rollout

end Pump

section Watch

variable [Resource K] {τ : Type} [Transport τ]

theorem watch_of_send {version : String} {client next : Client τ} {reply : Reply}
    (h : send (collectionPath K client.watched ++ watchQuery version) client = .ok reply next) :
    watch K version client = .ok (changes ((lines reply).map Item.ofLine)) next := by
  have hfeed : Pump.run bufferSize ((lines reply).map Item.ofLine) =
      changes ((lines reply).map (Item.ofLine (K := K))) := Pump.run_eq (by decide) _
  rw [← hfeed]
  show EStateM.bind (send _) _ client = _
  rw [EStateM.bind, h]
  rfl

end Watch

end RunMonitor.Client
