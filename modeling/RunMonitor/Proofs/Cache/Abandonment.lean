import Mathlib.Logic.Relation
import RunMonitor.Proofs.Cache.Locks

namespace RunMonitor.Flight

/-! A caller that gives up with a handle in hand releases nothing. -/

inductive Parting where
  | released (key : String)
  | givenUp (key : String)
  deriving DecidableEq

def Parting.key : Parting → String
  | .released key | .givenUp key => key

/-- The last to part with the lock of the key gave up. -/
def LeftBehind (partings : List Parting) (key : String) : Prop :=
  (partings.filter fun parting => parting.key = key).getLast? = some (.givenUp key)

instance (partings : List Parting) (key : String) : Decidable (LeftBehind partings key) :=
  inferInstanceAs (Decidable (_ = _))

theorem leftBehind_append_givenUp {partings : List Parting} {k key : String} :
    LeftBehind (partings ++ [.givenUp k]) key ↔ key = k ∨ LeftBehind partings key := by
  unfold LeftBehind
  by_cases hkey : k = key
  · simp [Parting.key, hkey]
  · simp [Parting.key, hkey, Ne.symm hkey]

theorem leftBehind_append_released {partings : List Parting} {k key : String} :
    LeftBehind (partings ++ [.released k]) key ↔ key ≠ k ∧ LeftBehind partings key := by
  unfold LeftBehind
  by_cases hkey : k = key
  · simp [Parting.key, hkey]
  · simp [Parting.key, hkey, Ne.symm hkey]

def Caller.release? (caller : Caller) : Option Parting :=
  match caller.phase with
  | .releasing _ => some (.released caller.key)
  | _ => none

def Caller.giveUp? (caller : Caller) : Option Parting :=
  match caller.phase.handle? with
  | some _ => some (.givenUp caller.key)
  | none => none

def parting? (flight : Flight) : Move → Option Parting
  | .drop i => flight.callers[i]?.bind Caller.giveUp?
  | .proceed i | .fetched i _ => flight.callers[i]?.bind Caller.release?

structure Crowd (γ : Type) where
  flight : Flight
  store : Store γ
  clock : Int
  partings : List Parting := []

namespace Crowd

variable {γ : Type} [Gate γ]

def start (store : Store γ) (clock : Int) : Crowd γ :=
  { flight := { callers := [] }, store := store, clock := clock }

def move? (ttl : Nat) (crowd : Crowd γ) (move : Move) : Option (Crowd γ) :=
  match crowd.flight.step ttl crowd.clock move crowd.store with
  | some (flight, store) => some {
      flight := flight
      store := store
      clock := crowd.clock
      partings := crowd.partings ++ (crowd.flight.parting? move).toList }
  | none => none

/-- Nothing is asked of the clock or of what others do with the store. -/
inductive Step (ttl : Nat) : Crowd γ → Crowd γ → Prop where
  | join (crowd : Crowd γ) (key : String) :
      Step ttl crowd { crowd with flight := crowd.flight.join key }
  | wait (crowd : Crowd γ) (time : Int) : Step ttl crowd { crowd with clock := time }
  | others (crowd : Crowd γ) (store : Store γ) : Step ttl crowd { crowd with store := store }
  | move {crowd crowd' : Crowd γ} (move : Move) (moved : crowd.move? ttl move = some crowd') :
      Step ttl crowd crowd'

abbrev Run (ttl : Nat) : Crowd γ → Crowd γ → Prop := Relation.ReflTransGen (Step ttl)

end Crowd

/-- A lock that nobody is going to release is in the table just where the last caller to part with
it gave up. -/
structure Accounted (flight : Flight) (partings : List Parting) : Prop where
  sound : Sound flight
  tidy : TidyBut (LeftBehind partings) flight
  kept : ∀ key, LeftBehind partings key → flight.table.find? key ≠ none

section Moves

variable {flight flight' : Flight} {partings : List Parting} {i : Nat} {caller : Caller}

theorem drop_cases (h : flight.drop i = some flight') :
    ∃ caller, flight.callers[i]? = some caller ∧ caller.phase.isSuspended = true ∧
      flight' = flight.enter i .dropped := by
  unfold drop at h
  obtain ⟨caller, hcaller, h⟩ := Option.bind_eq_some_iff.mp h
  split at h
  case isTrue hsuspended =>
    cases h
    exact ⟨caller, hcaller, hsuspended, rfl⟩
  case isFalse => cases h

theorem Phase.owesRelease_of_isSuspended {phase : Phase} (h : phase.isSuspended = true) :
    phase.owesRelease = phase.handle?.isSome := by
  cases phase with
  | releasing => cases h
  | _ => rfl

theorem find?_release_of_ne (flight : Flight) {key k : String} (h : k ≠ key) :
    (flight.release key).table.find? k = flight.table.find? k := by
  unfold release
  split
  case h_1 lock hlock =>
    split
    case isTrue => rfl
    case isFalse => exact (SortedMap.find?_erase ..).trans (if_neg h)
  case h_2 => rfl

theorem Accounted.start : Accounted { callers := [] } [] where
  sound := .start
  tidy _ _ h := by cases h
  kept _ h := by cases h

theorem Accounted.join (h : Accounted flight partings) (key : String) :
    Accounted (flight.join key) partings where
  sound := h.sound.join key
  tidy := h.tidy.join key
  kept := h.kept

theorem parting?_of_stays {move : Move} (stays : ∀ i, move ≠ .drop i)
    (hcaller : flight.callers[move.caller]? = some caller) :
    flight.parting? move = caller.release? := by
  cases move with
  | drop i => exact absurd rfl (stays i)
  | proceed | fetched => exact congrArg (Option.bind · Caller.release?) hcaller

theorem Turn.release?_eq_none {ttl : Nat} {now : Int} {key : String} {rows rows' : Rows}
    {phase phase' : Phase} (turn : Turn ttl now flight key rows phase phase' rows') :
    Caller.release? { key := key, phase := phase } = none := by
  cases turn <;> rfl

theorem Accounted.quiet (h : Accounted flight partings) (hsound : Sound flight')
    (htidy : TidyBut (LeftBehind partings) flight')
    (hkept : ∀ key, flight.table.find? key ≠ none → flight'.table.find? key ≠ none) :
    Accounted flight' (partings ++ (none : Option Parting).toList) := by
  rw [Option.toList_none, List.append_nil]
  exact ⟨hsound, htidy, fun key hleft => hkept key (h.kept key hleft)⟩

theorem Accounted.moved (h : Accounted flight partings) {ttl : Nat} {now : Int} {rows rows' : Rows}
    {move : Move} (stays : ∀ i, move ≠ .drop i)
    (hcaller : flight.callers[move.caller]? = some caller)
    (moved : Moved ttl now flight rows move.caller caller flight' rows') :
    Accounted flight' (partings ++ (flight.parting? move).toList) := by
  have hsound := h.sound.moved hcaller moved
  rw [parting?_of_stays stays hcaller]
  cases moved with
  | turned turn =>
      rw [turn.release?_eq_none]
      exact h.quiet hsound (h.tidy.enter hcaller turn.owesRelease) fun _ hfind => hfind
  | acquired missed =>
      rw [Caller.release?, missed]
      refine h.quiet hsound (h.tidy.acquire hcaller) fun key hfind => ?_
      change (flight.lockFor caller.key).2.table.find? key ≠ none
      rw [find?_lockFor]
      split
      case isTrue => exact Option.some_ne_none _
      case isFalse => exact hfind
  | @released result releasing =>
      rw [Caller.release?, releasing]
      refine ⟨hsound, ?_, ?_⟩
      · intro key lock hlock
        rw [Option.toList_some, leftBehind_append_released]
        exact h.tidy.release h.sound hcaller result key lock hlock
      · intro key hleft
        rw [Option.toList_some, leftBehind_append_released] at hleft
        rw [find?_release_of_ne _ hleft.1]
        exact h.kept key hleft.2

theorem Accounted.drop (h : Accounted flight partings) (dropped : flight.drop i = some flight') :
    Accounted flight' (partings ++ (flight.parting? (.drop i)).toList) := by
  obtain ⟨caller, hcaller, hsuspended, rfl⟩ := drop_cases dropped
  have hsound : Sound (flight.enter i .dropped) :=
    h.sound.enter_of_handle?_eq_none hcaller rfl
  have hparting : flight.parting? (.drop i) = caller.giveUp? :=
    congrArg (Option.bind · Caller.giveUp?) hcaller
  rw [hparting, Caller.giveUp?]
  cases hhandle : caller.phase.handle? with
  | none =>
      refine h.quiet hsound (h.tidy.enter hcaller fun howed => ?_) fun _ hfind => hfind
      rw [Phase.owesRelease_of_isSuspended hsuspended, hhandle] at howed
      cases howed
  | some own =>
      -- the lock of its handle is in the table, and there may be nobody else to release it
      refine ⟨hsound, ?_, ?_⟩
      · intro key lock hlock
        rw [Option.toList_some, leftBehind_append_givenUp]
        by_cases hkey : key = caller.key
        · exact .inl (.inl hkey)
        · exact (h.tidy.of_ne hcaller _ hlock hkey).imp_left .inr
      · intro key hleft
        rw [Option.toList_some, leftBehind_append_givenUp] at hleft
        rcases hleft with rfl | hleft
        · exact Option.ne_none_iff_exists'.mpr ⟨own, h.sound.held i caller own hcaller hhandle⟩
        · exact h.kept key hleft

end Moves

namespace Crowd

variable {γ : Type} [Gate γ] {ttl : Nat}

theorem Step.accounted {crowd crowd' : Crowd γ} (step : Step ttl crowd crowd')
    (h : Accounted crowd.flight crowd.partings) : Accounted crowd'.flight crowd'.partings := by
  cases step with
  | join key => exact h.join key
  | wait => exact h
  | others => exact h
  | move move moved =>
      unfold move? at moved
      split at moved
      case h_1 flight store hstep =>
        cases moved
        cases move with
        | drop i =>
            obtain ⟨dropped, hdrop, heq⟩ := Option.map_eq_some_iff.mp hstep
            cases heq
            exact h.drop hdrop
        | proceed | fetched =>
            obtain ⟨caller, hcaller, hmoved⟩ := step_cases hstep (fun _ heq => by cases heq)
            exact h.moved (fun _ heq => by cases heq) hcaller hmoved
      case h_2 => cases moved

section Reachable

variable {store : Store γ} {clock : Int} {crowd : Crowd γ} (run : Run ttl (start store clock) crowd)

include run

theorem Run.accounted : Accounted crowd.flight crowd.partings := by
  induction run with
  | refl => exact .start
  | tail _ step ih => exact step.accounted ih

/-- Wherever callers give up, no two callers of one key are filling at once, and once nobody is
under way the table has the locks of just those keys whose last caller to part with the lock gave
up. -/
theorem Run.left_behind :
    (∀ (i j : Nat) (a b : Caller), crowd.flight.callers[i]? = some a →
      crowd.flight.callers[j]? = some b → a.key = b.key → a.phase.isFilling = true →
      b.phase.isFilling = true → i = j) ∧
    ((∀ caller ∈ crowd.flight.callers, caller.phase.isOver = true) →
      ∀ key, crowd.flight.table.find? key ≠ none ↔ LeftBehind crowd.partings key) := by
  have haccounted := run.accounted
  refine ⟨?_, fun hover key => ⟨fun hfind => ?_, haccounted.kept key⟩⟩
  · intro i j a b ha hb hkey hfill_a hfill_b
    exact haccounted.sound.eq_of_isFilling ha hb hkey hfill_a hfill_b
  · obtain ⟨lock, hlock⟩ := Option.ne_none_iff_exists'.mp hfind
    rcases haccounted.tidy key lock hlock with hleft | howed
    · exact hleft
    · exact absurd howed (not_isOwed_of_isOver hover key)

end Reachable

section Impatient

def play (ttl : Nat) : List Move → Crowd γ → Option (Crowd γ)
  | [], crowd => some crowd
  | move :: rest, crowd => (crowd.move? ttl move).bind (play ttl rest)

theorem run_play {moves : List Move} {crowd crowd' : Crowd γ}
    (h : play ttl moves crowd = some crowd') : Run ttl crowd crowd' := by
  induction moves generalizing crowd with
  | nil =>
      cases h
      exact .refl
  | cons move rest ih =>
      obtain ⟨next, hnext, hrest⟩ := Option.bind_eq_some_iff.mp h
      exact .head (.move move hnext) (ih hrest)

def alone : Crowd Unit :=
  { flight := { callers := [{ key := "k" }] }
    store := { gate := () }
    clock := 0 }

def givingUp : List Move :=
  [.proceed 0, .proceed 0, .proceed 0, .proceed 0, .proceed 0, .drop 0]

def quit : Crowd Unit := (play 1000 givingUp alone).getD alone

theorem run_quit : Run 1000 (start { gate := () } 0) quit := by
  have hsome : (play 1000 givingUp alone).isSome = true := by decide +kernel
  have hplay : play 1000 givingUp alone = some quit := by
    rw [quit, ← Option.get_eq_getD _ (h := hsome), Option.some_get]
  exact .head (.join _ "k") (run_play hplay)

/-- Nobody is under way, and yet the table has a lock. -/
theorem left_behind_quit :
    (∀ caller ∈ quit.flight.callers, caller.phase.isOver = true) ∧
      quit.flight.table ≠ SortedMap.empty := by
  have hover : ∀ caller ∈ quit.flight.callers, caller.phase.isOver = true := by decide +kernel
  have hfind := (run_quit.left_behind.2 hover "k").mpr (by decide +kernel)
  refine ⟨hover, fun hempty => ?_⟩
  rw [hempty] at hfind
  exact hfind rfl

end Impatient
end Crowd
end RunMonitor.Flight
