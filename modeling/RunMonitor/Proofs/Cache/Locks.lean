import RunMonitor.Proofs.Cache.Turn
import RunMonitor.Proofs.SortedMap

namespace RunMonitor.Flight

/-! Nobody shares a lock with another caller, and no lock stays that nobody will release. -/

def Phase.isFilling : Phase → Bool
  | .checking _ | .starting _ | .fetching _ | .saving _ _ => true
  | _ => false

def Phase.owesRelease : Phase → Bool
  | .releasing _ => true
  | phase => phase.handle?.isSome

theorem Phase.owesRelease_of_handle? {phase : Phase} {lock : Lock}
    (h : phase.handle? = some lock) : phase.owesRelease = true := by
  cases phase with
  | releasing => rfl
  | _ => exact Option.isSome_iff_exists.mpr ⟨lock, h⟩

theorem Phase.handle?_of_taken? {phase : Phase} {lock : Lock} (h : phase.taken? = some lock) :
    phase.handle? = some lock := by
  cases phase with
  | waiting | closing => cases h
  | _ => exact h

theorem Phase.exists_taken? {phase : Phase} (h : phase.isFilling = true) :
    ∃ lock, phase.taken? = some lock := by
  cases phase with
  | checking lock | starting lock | fetching lock | saving lock => exact ⟨lock, rfl⟩
  | _ => cases h

theorem Phase.not_owesRelease_of_isOver {phase : Phase} (h : phase.isOver = true) :
    phase.owesRelease = false := by
  cases phase with
  | finished | dropped => rfl
  | _ => cases h

theorem callers_enter (flight : Flight) (i j : Nat) (phase : Phase) :
    (flight.enter i phase).callers[j]? =
      if i = j then (flight.callers[j]?).map fun caller => { caller with phase := phase }
      else flight.callers[j]? := by
  simp only [enter, List.getElem?_modify]
  split
  case isTrue h =>
    subst h
    rfl
  case isFalse => simp

theorem isHeld_iff {flight : Flight} {lock : Lock} :
    flight.isHeld lock = true ↔ ∃ (i : Nat) (caller : Caller),
      flight.callers[i]? = some caller ∧ caller.phase.handle? = some lock := by
  simp only [isHeld, List.any_eq_true, List.mem_iff_getElem?, decide_eq_true_eq]
  constructor
  · intro h
    obtain ⟨caller, ⟨i, hcaller⟩, hhandle⟩ := h
    exact ⟨i, caller, hcaller, hhandle⟩
  · intro h
    obtain ⟨i, caller, hcaller, hhandle⟩ := h
    exact ⟨caller, ⟨i, hcaller⟩, hhandle⟩

theorem taken?_ne_of_free {flight : Flight} {lock : Lock} (free : flight.isTaken lock = false)
    {i : Nat} {caller : Caller} (hcaller : flight.callers[i]? = some caller) :
    caller.phase.taken? ≠ some lock := by
  intro htaken
  have hany : flight.isTaken lock = true :=
    List.any_eq_true.mpr ⟨caller, List.mem_of_getElem? hcaller, decide_eq_true htaken⟩
  rw [free] at hany
  cases hany

/-- Every handle is of the lock in the table, each key has a lock of its own there, and whoever is
inside a lock is alone in it. -/
structure Sound (flight : Flight) : Prop where
  held : ∀ (i : Nat) (caller : Caller) (lock : Lock), flight.callers[i]? = some caller →
    caller.phase.handle? = some lock → flight.table.find? caller.key = some lock
  below : ∀ key lock, flight.table.find? key = some lock → lock < flight.fresh
  distinct : ∀ key other lock, flight.table.find? key = some lock →
    flight.table.find? other = some lock → key = other
  exclusive : ∀ (i j : Nat) (a b : Caller) (lock : Lock), flight.callers[i]? = some a →
    flight.callers[j]? = some b → a.phase.taken? = some lock → b.phase.taken? = some lock → i = j

theorem Sound.start : Sound { callers := [] } where
  held _ _ _ h := by cases h
  below _ _ h := by cases h
  distinct _ _ _ h := by cases h
  exclusive _ _ _ _ _ h := by cases h

/-- Every lock in the table is going to be released by someone. -/
def Tidy (flight : Flight) : Prop :=
  ∀ key lock, flight.table.find? key = some lock →
    ∃ (i : Nat) (caller : Caller), flight.callers[i]? = some caller ∧ caller.key = key ∧
      caller.phase.owesRelease = true

def IsOwed (flight : Flight) (key : String) : Prop :=
  ∃ (i : Nat) (caller : Caller), flight.callers[i]? = some caller ∧ caller.key = key ∧
    caller.phase.owesRelease = true

def TidyBut (left : String → Prop) (flight : Flight) : Prop :=
  ∀ key lock, flight.table.find? key = some lock → left key ∨ flight.IsOwed key

theorem tidyBut_iff {flight : Flight} : TidyBut (fun _ => False) flight ↔ Tidy flight := by
  simp [TidyBut, Tidy, IsOwed]

section Table

variable {flight : Flight} {i : Nat} {caller : Caller}

theorem Sound.enter (h : Sound flight) (hcaller : flight.callers[i]? = some caller) {phase : Phase}
    (hhandle : ∀ lock, phase.handle? = some lock → flight.table.find? caller.key = some lock)
    (htaken : ∀ lock, phase.taken? = some lock →
      caller.phase.taken? = some lock ∨ flight.isTaken lock = false) :
    Sound (flight.enter i phase) := by
  refine ⟨?_, h.below, h.distinct, ?_⟩
  · intro j other lock hother hlock
    rw [callers_enter] at hother
    split at hother
    case isTrue hij =>
      subst hij
      rw [hcaller] at hother
      cases hother
      exact hhandle lock hlock
    case isFalse => exact h.held j other lock hother hlock
  · intro j k a b lock ha hb htaken_a htaken_b
    -- whoever is inside the lock besides the caller was there before it
    have halone : ∀ (k : Nat) (b : Caller), flight.callers[k]? = some b →
        b.phase.taken? = some lock → phase.taken? = some lock → i = k := by
      intro k b hb htaken_b hphase
      rcases htaken lock hphase with hinside | hfree
      · exact h.exclusive i k caller b lock hcaller hb hinside htaken_b
      · exact absurd htaken_b (taken?_ne_of_free hfree hb)
    rw [callers_enter] at ha hb
    by_cases hj : i = j <;> by_cases hk : i = k
    · exact hj.symm.trans hk
    · subst hj
      rw [if_pos rfl, hcaller] at ha
      rw [if_neg hk] at hb
      cases ha
      exact halone k b hb htaken_b htaken_a
    · subst hk
      rw [if_neg hj] at ha
      rw [if_pos rfl, hcaller] at hb
      cases hb
      exact (halone j a ha htaken_a htaken_b).symm
    · rw [if_neg hj] at ha
      rw [if_neg hk] at hb
      exact h.exclusive j k a b lock ha hb htaken_a htaken_b

theorem Sound.enter_of_handle?_eq_none (h : Sound flight)
    (hcaller : flight.callers[i]? = some caller) {phase : Phase} (hnone : phase.handle? = none) :
    Sound (flight.enter i phase) := by
  apply h.enter hcaller
  · intro lock hlock
    cases hnone.symm.trans hlock
  · intro lock hlock
    cases hnone.symm.trans (Phase.handle?_of_taken? hlock)

theorem IsOwed.enter {key : String} (h : flight.IsOwed key)
    (hcaller : flight.callers[i]? = some caller) {phase : Phase}
    (howes : caller.key = key → caller.phase.owesRelease = true → phase.owesRelease = true) :
    (flight.enter i phase).IsOwed key := by
  obtain ⟨j, other, hother, hkey, howed⟩ := h
  by_cases hij : i = j
  · subst hij
    rw [hcaller] at hother
    cases hother
    refine ⟨i, { caller with phase := phase }, ?_, hkey, howes hkey howed⟩
    rw [callers_enter, if_pos rfl, hcaller]
    rfl
  · refine ⟨j, other, ?_, hkey, howed⟩
    rw [callers_enter, if_neg hij, hother]

variable {left : String → Prop}

theorem TidyBut.enter (h : TidyBut left flight) (hcaller : flight.callers[i]? = some caller)
    {phase : Phase} (howes : caller.phase.owesRelease = true → phase.owesRelease = true) :
    TidyBut left (flight.enter i phase) := by
  intro key lock hlock
  exact (h key lock hlock).imp_right fun howed => howed.enter hcaller fun _ => howes

theorem TidyBut.of_ne (h : TidyBut left flight) (hcaller : flight.callers[i]? = some caller)
    (phase : Phase) {key : String} {lock : Lock} (hlock : flight.table.find? key = some lock)
    (hkey : key ≠ caller.key) : left key ∨ (flight.enter i phase).IsOwed key :=
  (h key lock hlock).imp_right fun howed => howed.enter hcaller fun heq => absurd heq.symm hkey

theorem callers_lockFor (flight : Flight) (key : String) :
    (flight.lockFor key).2.callers = flight.callers := by
  unfold lockFor
  split <;> rfl

theorem callers_acquire (flight : Flight) (key : String) (i : Nat) (phase : Phase) :
    ((flight.lockFor key).2.enter i phase).callers = (flight.enter i phase).callers := by
  unfold enter
  rw [callers_lockFor]

theorem callers_release (flight : Flight) (key : String) :
    (flight.release key).callers = flight.callers := by
  unfold release
  split
  · split <;> rfl
  · rfl

theorem find?_lockFor (flight : Flight) (key k : String) :
    (flight.lockFor key).2.table.find? k =
      if k = key then some (flight.lockFor key).1 else flight.table.find? k := by
  unfold lockFor
  split
  case h_1 lock hlock =>
    split
    case isTrue hk => rw [hk, hlock]
    case isFalse => rfl
  case h_2 => exact SortedMap.find?_insert ..

theorem Sound.lockFor (h : Sound flight) (key : String) : Sound (flight.lockFor key).2 := by
  cases hkey : flight.table.find? key with
  | some lock =>
      have hsame : (flight.lockFor key).2 = flight := by
        rw [Flight.lockFor, hkey]
      rwa [hsame]
  | none =>
      have hnew : (flight.lockFor key).2 = { flight with
          table := flight.table.insert key flight.fresh
          fresh := flight.fresh + 1 } := by
        rw [Flight.lockFor, hkey]
      have hfind : ∀ k lock, (flight.table.insert key flight.fresh).find? k = some lock →
          k = key ∧ lock = flight.fresh ∨ flight.table.find? k = some lock := by
        intro k lock hlock
        rw [SortedMap.find?_insert] at hlock
        split at hlock
        case isTrue hk =>
          cases hlock
          exact .inl ⟨hk, rfl⟩
        case isFalse => exact .inr hlock
      rw [hnew]
      refine ⟨?_, ?_, ?_, h.exclusive⟩
      · intro j other lock hother hlock
        have hbefore := h.held j other lock hother hlock
        have hne : other.key ≠ key := by
          intro heq
          rw [heq, hkey] at hbefore
          cases hbefore
        exact (SortedMap.find?_insert ..).trans ((if_neg hne).trans hbefore)
      · intro k lock hlock
        rcases hfind k lock hlock with ⟨-, heq⟩ | hknown
        · rw [heq]
          exact Nat.lt_succ_self _
        · exact Nat.lt_succ_of_lt (h.below k lock hknown)
      · intro k k' lock hlock hlock'
        rcases hfind k lock hlock with ⟨hk, hfresh⟩ | hknown <;>
          rcases hfind k' lock hlock' with ⟨hk', hfresh'⟩ | hknown'
        · exact hk.trans hk'.symm
        · exact absurd (h.below k' lock hknown') (hfresh ▸ Nat.lt_irrefl _)
        · exact absurd (h.below k lock hknown) (hfresh' ▸ Nat.lt_irrefl _)
        · exact h.distinct k k' lock hknown hknown'

theorem Sound.acquire (h : Sound flight) (hcaller : flight.callers[i]? = some caller) :
    Sound ((flight.lockFor caller.key).2.enter i
      (.waiting (flight.lockFor caller.key).1)) := by
  have hstill : (flight.lockFor caller.key).2.callers[i]? = some caller := by
    rw [callers_lockFor, hcaller]
  apply (h.lockFor caller.key).enter hstill
  · intro lock hlock
    rw [find?_lockFor, if_pos rfl]
    exact hlock
  · intro lock hlock
    cases hlock

theorem TidyBut.acquire (h : TidyBut left flight) (hcaller : flight.callers[i]? = some caller) :
    TidyBut left
      ((flight.lockFor caller.key).2.enter i (.waiting (flight.lockFor caller.key).1)) := by
  intro key lock hlock
  have hlock : (flight.lockFor caller.key).2.table.find? key = some lock := hlock
  unfold IsOwed
  rw [callers_acquire]
  by_cases hkey : key = caller.key
  · refine .inr ⟨i, { caller with phase := .waiting (flight.lockFor caller.key).1 }, ?_, hkey.symm,
      rfl⟩
    rw [callers_enter, if_pos rfl, hcaller]
    rfl
  · rw [find?_lockFor, if_neg hkey] at hlock
    exact h.of_ne hcaller _ hlock hkey

theorem Sound.release (h : Sound flight) (key : String) : Sound (flight.release key) := by
  unfold Flight.release
  split
  case h_1 lock hlock =>
    split
    case isTrue => exact h
    case isFalse hheld =>
      have hfind : ∀ k l, (flight.table.erase key).find? k = some l →
          flight.table.find? k = some l := by
        intro k l hl
        rw [SortedMap.find?_erase] at hl
        split at hl
        case isTrue => cases hl
        case isFalse => exact hl
      refine ⟨?_, ?_, ?_, h.exclusive⟩
      · intro j other l hother hl
        have hbefore := h.held j other l hother hl
        have hne : other.key ≠ key := by
          intro heq
          rw [heq, hlock] at hbefore
          cases hbefore
          exact hheld (isHeld_iff.mpr ⟨j, other, hother, hl⟩)
        exact (SortedMap.find?_erase ..).trans ((if_neg hne).trans hbefore)
      · intro k l hl
        exact h.below k l (hfind k l hl)
      · intro k k' l hl hl'
        exact h.distinct k k' l (hfind k l hl) (hfind k' l hl')
  case h_2 => exact h

/-- The last of those that need the lock of a key removes it from the table. -/
theorem TidyBut.release (h : TidyBut left flight) (hsound : Sound flight)
    (hcaller : flight.callers[i]? = some caller) (result : Except Error ByteArray) :
    TidyBut (fun key => key ≠ caller.key ∧ left key)
      ((flight.enter i (.finished result)).release caller.key) := by
  have hentered : Sound (flight.enter i (.finished result)) :=
    hsound.enter_of_handle?_eq_none hcaller rfl
  have hother : ∀ key lock, flight.table.find? key = some lock → key ≠ caller.key →
      (key ≠ caller.key ∧ left key) ∨ (flight.enter i (.finished result)).IsOwed key :=
    fun key lock hlock hkey => (h.of_ne hcaller _ hlock hkey).imp_left (And.intro hkey)
  unfold Flight.release
  split
  case h_1 lock hlock =>
    split
    case isTrue hheld =>
      intro key l hl
      by_cases hkey : key = caller.key
      · subst hkey
        obtain ⟨j, other, hholder, hhandle⟩ := isHeld_iff.mp hheld
        have hsame := hentered.distinct _ _ lock (hentered.held j other lock hholder hhandle) hlock
        exact .inr ⟨j, other, hholder, hsame, Phase.owesRelease_of_handle? hhandle⟩
      · exact hother key l hl hkey
    case isFalse =>
      intro key l hl
      have hl : (flight.table.erase caller.key).find? key = some l := hl
      rw [SortedMap.find?_erase] at hl
      split at hl
      case isTrue => cases hl
      case isFalse hkey => exact hother key l hl hkey
  case h_2 hnone =>
    intro key l hl
    have hkey : key ≠ caller.key := by
      intro heq
      have hnone : flight.table.find? caller.key = none := hnone
      rw [heq] at hl
      cases hnone.symm.trans hl
    exact hother key l hl hkey

end Table

section Moves

variable {ttl : Nat} {now : Int} {flight flight' : Flight} {rows rows' : Rows} {key : String}
  {phase phase' : Phase}

theorem Turn.handle? (turn : Turn ttl now flight key rows phase phase' rows') {lock : Lock}
    (h : phase'.handle? = some lock) : phase.handle? = some lock := by
  cases turn with
  | answered | missed | closed => cases h
  | _ => exact h

theorem Turn.taken? (turn : Turn ttl now flight key rows phase phase' rows') {lock : Lock}
    (h : phase'.taken? = some lock) :
    phase.taken? = some lock ∨ flight.isTaken lock = false := by
  cases turn with
  | entered own free =>
      cases h
      exact .inr free
  | answered | missed | left | closed => cases h
  | _ => exact .inl h

theorem Turn.owesRelease (turn : Turn ttl now flight key rows phase phase' rows')
    (h : phase.owesRelease = true) : phase'.owesRelease = true := by
  cases turn with
  | answered | missed => cases h
  | _ => rfl

variable {i : Nat} {caller : Caller}

theorem Sound.moved (h : Sound flight) (hcaller : flight.callers[i]? = some caller)
    (moved : Moved ttl now flight rows i caller flight' rows') : Sound flight' := by
  cases moved with
  | turned turn =>
      apply h.enter hcaller
      · intro lock hlock
        exact h.held i caller lock hcaller (turn.handle? hlock)
      · intro lock hlock
        exact turn.taken? hlock
  | acquired => exact h.acquire hcaller
  | released => exact (h.enter_of_handle?_eq_none hcaller rfl).release _

theorem Tidy.moved (h : Tidy flight) (hsound : Sound flight)
    (hcaller : flight.callers[i]? = some caller)
    (moved : Moved ttl now flight rows i caller flight' rows') : Tidy flight' := by
  have h := tidyBut_iff.mpr h
  apply tidyBut_iff.mp
  cases moved with
  | turned turn => exact h.enter hcaller turn.owesRelease
  | acquired => exact h.acquire hcaller
  | released =>
      intro key lock hlock
      exact ((h.release hsound hcaller _) key lock hlock).imp_left And.right

def join (flight : Flight) (key : String) : Flight :=
  { flight with callers := flight.callers ++ [{ key := key }] }

theorem callers_join {flight : Flight} {key : String} {i : Nat} {caller : Caller}
    (h : (flight.join key).callers[i]? = some caller) :
    flight.callers[i]? = some caller ∨ caller = { key := key } := by
  rw [join, List.getElem?_append] at h
  split at h
  case isTrue => exact .inl h
  case isFalse => exact .inr (List.mem_singleton.mp (List.mem_of_getElem? h))

theorem Sound.join (h : Sound flight) (key : String) : Sound (flight.join key) := by
  refine ⟨?_, h.below, h.distinct, ?_⟩
  · intro j other lock hother hlock
    rcases callers_join hother with hother | rfl
    · exact h.held j other lock hother hlock
    · cases hlock
  · intro j k a b lock ha hb htaken_a htaken_b
    rcases callers_join ha with ha | rfl
    · rcases callers_join hb with hb | rfl
      · exact h.exclusive j k a b lock ha hb htaken_a htaken_b
      · cases htaken_b
    · cases htaken_a

theorem TidyBut.join {left : String → Prop} (h : TidyBut left flight) (key : String) :
    TidyBut left (flight.join key) := by
  intro k lock hlock
  refine (h k lock hlock).imp_right fun howed => ?_
  obtain ⟨j, other, hother, hkey, howed⟩ := howed
  have hlt := (List.getElem?_eq_some_iff.mp hother).1
  exact ⟨j, other, (List.getElem?_append_left hlt).trans hother, hkey, howed⟩

theorem Tidy.join (h : Tidy flight) (key : String) : Tidy (flight.join key) :=
  tidyBut_iff.mp ((tidyBut_iff.mpr h).join key)

end Moves

theorem Sound.eq_of_isFilling {flight : Flight} (h : Sound flight) {i j : Nat} {a b : Caller}
    (ha : flight.callers[i]? = some a) (hb : flight.callers[j]? = some b) (hkey : a.key = b.key)
    (hfilling_a : a.phase.isFilling = true) (hfilling_b : b.phase.isFilling = true) : i = j := by
  obtain ⟨lock, htaken_a⟩ := Phase.exists_taken? hfilling_a
  obtain ⟨lock', htaken_b⟩ := Phase.exists_taken? hfilling_b
  have hlock := h.held i a lock ha (Phase.handle?_of_taken? htaken_a)
  have hlock' := h.held j b lock' hb (Phase.handle?_of_taken? htaken_b)
  rw [hkey, hlock'] at hlock
  cases hlock
  exact h.exclusive i j a b lock ha hb htaken_a htaken_b

theorem not_isOwed_of_isOver {flight : Flight}
    (hover : ∀ caller ∈ flight.callers, caller.phase.isOver = true) (key : String) :
    ¬ flight.IsOwed key := by
  intro howed
  obtain ⟨i, caller, hcaller, -, howed⟩ := howed
  have hdone := hover caller (List.mem_of_getElem? hcaller)
  rw [Phase.not_owesRelease_of_isOver hdone] at howed
  cases howed

theorem Tidy.eq_empty {flight : Flight} (h : Tidy flight)
    (hover : ∀ caller ∈ flight.callers, caller.phase.isOver = true) :
    flight.table = SortedMap.empty := by
  apply SortedMap.eq_empty
  intro key
  apply Option.eq_none_iff_forall_ne_some.mpr
  intro lock hlock
  exact not_isOwed_of_isOver hover key (h key lock hlock)

end RunMonitor.Flight
