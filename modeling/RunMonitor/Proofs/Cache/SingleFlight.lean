import Mathlib.Logic.Relation
import RunMonitor.Proofs.Cache.Locks

namespace RunMonitor.Flight

/-! Fetches that begin and values that are stored are noted in a log. -/

inductive Note where
  | began (key : String) (time : Int)
  | stored (key : String) (time : Int)
  deriving DecidableEq

def Note.of? (key : String) (time : Int) : Phase → Phase → Option Note
  | .starting _, .fetching _ => some (.began key time)
  | .saving _ _, .leaving _ (.ok _) => some (.stored key time)
  | _, _ => none

def note? (before after : Flight) (i : Nat) (time : Int) : Option Note := do
  let a ← before.callers[i]?
  let b ← after.callers[i]?
  Note.of? a.key time a.phase b.phase

structure Session (γ : Type) where
  flight : Flight
  store : Store γ
  clock : Int
  log : List Note := []

namespace Session

variable {γ : Type} [Gate γ]

def start (store : Store γ) (clock : Int) : Session γ :=
  { flight := { callers := [] }, store := store, clock := clock }

/-- Others leave what is visible under the keys of the callers as it is, now and later on. -/
inductive Step (ttl : Nat) : Session γ → Session γ → Prop where
  | join (s : Session γ) (key : String) : Step ttl s { s with flight := s.flight.join key }
  | wait (s : Session γ) (time : Int) (later : s.clock ≤ time) :
      Step ttl s { s with clock := time }
  | others (s : Session γ) (store : Store γ)
      (elsewhere : ∀ caller ∈ s.flight.callers, ∀ t, s.clock ≤ t →
        store.rows.live t caller.key = s.store.rows.live t caller.key) :
      Step ttl s { s with store := store }
  | move (s : Session γ) (move : Move) (flight : Flight) (store : Store γ)
      (stays : ∀ i, move ≠ .drop i)
      (moved : s.flight.step ttl s.clock move s.store = some (flight, store)) :
      Step ttl s {
        flight := flight
        store := store
        clock := s.clock
        log := s.log ++ (s.flight.note? flight move.caller s.clock).toList }

abbrev Run (ttl : Nat) : Session γ → Session γ → Prop := Relation.ReflTransGen (Step ttl)

/-- What has been stored is live for a while, so that whoever is about to fetch after that has found
it expired. -/
structure Fresh (ttl : Nat) (s : Session γ) : Prop where
  past : ∀ (key : String) (time : Int), .stored key time ∈ s.log → time ≤ s.clock
  known : ∀ (key : String) (time : Int), .stored key time ∈ s.log →
    ∃ caller ∈ s.flight.callers, caller.key = key
  live : ∀ (key : String) (time : Int), .stored key time ∈ s.log →
    ∀ t, s.clock ≤ t → t < time + ttl → s.store.rows.live t key ≠ none
  expired : ∀ caller ∈ s.flight.callers, ∀ lock, caller.phase = .starting lock →
    ∀ time : Int, .stored caller.key time ∈ s.log → time + ttl ≤ s.clock
  apart : s.log.Pairwise fun earlier later => ∀ (key : String) (time time' : Int),
    earlier = .stored key time → later = .began key time' → time + ttl ≤ time'

end Session

inductive Effect (ttl : Nat) (now : Int) (rows : Rows) (key : String) :
    Phase → Phase → Rows → Prop where
  | quiet {phase phase' : Phase} (unnoted : Note.of? key now phase phase' = none)
      (absent : ∀ lock, phase' = .starting lock → rows.live now key = none) :
      Effect ttl now rows key phase phase' rows
  | begins (lock : Lock) : Effect ttl now rows key (.starting lock) (.fetching lock) rows
  | stores (lock : Lock) (value : ByteArray) : Effect ttl now rows key
      (.saving lock value) (.leaving lock (.ok value)) (rows.put now key value (some ttl))

section Effects

variable {ttl : Nat} {now : Int} {flight flight' : Flight} {rows rows' : Rows} {i : Nat}
  {caller : Caller}

theorem Turn.effect {key : String} {phase phase' : Phase}
    (turn : Turn ttl now flight key rows phase phase' rows') :
    Effect ttl now rows key phase phase' rows' := by
  cases turn with
  | unfilled lock absent => exact .quiet rfl fun _ _ => absent
  | started lock => exact .begins lock
  | saved lock value => exact .stores lock value
  | _ => exact .quiet rfl fun _ h => by cases h

theorem Moved.effect (moved : Moved ttl now flight rows i caller flight' rows') :
    ∃ phase, flight'.callers = (flight.enter i phase).callers ∧
      Effect ttl now rows caller.key caller.phase phase rows' := by
  cases moved with
  | turned turn => exact ⟨_, rfl, turn.effect⟩
  | acquired missed =>
      refine ⟨.waiting (flight.lockFor caller.key).1, callers_acquire .., .quiet ?_ ?_⟩
      · rw [missed]
        rfl
      · intro lock h
        cases h
  | @released result releasing =>
      exact ⟨.finished result, callers_release .., .quiet (by rw [releasing]; rfl)
        fun _ h => by cases h⟩

theorem note?_of_callers (hcaller : flight.callers[i]? = some caller) {phase : Phase}
    (hcallers : flight'.callers = (flight.enter i phase).callers) (time : Int) :
    flight.note? flight' i time = Note.of? caller.key time caller.phase phase := by
  rw [note?, hcallers, callers_enter, if_pos rfl, hcaller]
  rfl

theorem mem_enter {phase : Phase} (hcaller : flight.callers[i]? = some caller) {other : Caller}
    (h : other ∈ (flight.enter i phase).callers) :
    other = { caller with phase := phase } ∨
      ∃ j, i ≠ j ∧ flight.callers[j]? = some other := by
  obtain ⟨j, hj⟩ := List.mem_iff_getElem?.mp h
  rw [callers_enter] at hj
  split at hj
  case isTrue hij =>
    subst hij
    rw [hcaller] at hj
    exact .inl (Option.some.inj hj).symm
  case isFalse hij => exact .inr ⟨j, hij, hj⟩

theorem exists_key_enter {phase : Phase} {key : String}
    (h : ∃ caller ∈ flight.callers, caller.key = key) :
    ∃ caller ∈ (flight.enter i phase).callers, caller.key = key := by
  obtain ⟨other, member, hkey⟩ := h
  obtain ⟨j, hj⟩ := List.mem_iff_getElem?.mp member
  by_cases hij : i = j
  · refine ⟨{ other with phase := phase }, List.mem_of_getElem? (i := j) ?_, hkey⟩
    rw [callers_enter, if_pos hij, hj]
    rfl
  · refine ⟨other, List.mem_of_getElem? (i := j) ?_, hkey⟩
    rw [callers_enter, if_neg hij, hj]

end Effects

namespace Session

variable {γ : Type} {ttl : Nat} {s : Session γ}

theorem Fresh.start (store : Store γ) (clock : Int) : Fresh ttl (start store clock) where
  past _ _ member := by cases member
  known _ _ member := by cases member
  live _ _ member := by cases member
  expired _ member := by cases member
  apart := .nil

theorem Fresh.join (h : Fresh ttl s) (key : String) :
    Fresh ttl { s with flight := s.flight.join key } where
  past := h.past
  known k time member := by
    obtain ⟨caller, hcaller, hkey⟩ := h.known k time member
    exact ⟨caller, List.mem_append_left _ hcaller, hkey⟩
  live := h.live
  expired caller member lock hstarting := by
    rcases List.mem_append.mp member with member | member
    · exact h.expired caller member lock hstarting
    · rw [List.mem_singleton.mp member] at hstarting
      cases hstarting
  apart := h.apart

theorem Fresh.wait (h : Fresh ttl s) {time : Int} (later : s.clock ≤ time) :
    Fresh ttl { s with clock := time } where
  past key stored member := Int.le_trans (h.past key stored member) later
  known := h.known
  live key stored member t ht := h.live key stored member t (Int.le_trans later ht)
  expired caller member lock hstarting stored hstored :=
    Int.le_trans (h.expired caller member lock hstarting stored hstored) later
  apart := h.apart

theorem Fresh.others (h : Fresh ttl s) {store : Store γ}
    (elsewhere : ∀ caller ∈ s.flight.callers, ∀ t, s.clock ≤ t →
      store.rows.live t caller.key = s.store.rows.live t caller.key) :
    Fresh ttl { s with store := store } where
  past := h.past
  known := h.known
  live key stored member t ht hlive := by
    obtain ⟨caller, hcaller, rfl⟩ := h.known key stored member
    have hsame : store.rows.live t caller.key = s.store.rows.live t caller.key :=
      elsewhere caller hcaller t ht
    exact hsame ▸ h.live caller.key stored member t ht hlive
  expired := h.expired
  apart := h.apart

section Move

variable {flight : Flight} {store : Store γ} {i : Nat} {caller : Caller} {phase : Phase}
  (hcaller : s.flight.callers[i]? = some caller)
  (hcallers : flight.callers = (s.flight.enter i phase).callers)

include hcaller hcallers

theorem Fresh.quiet (h : Fresh ttl s) (hrows : store.rows = s.store.rows)
    (absent : ∀ lock, phase = .starting lock → s.store.rows.live s.clock caller.key = none) :
    Fresh ttl { s with flight := flight, store := store } where
  past := h.past
  known key time member := by
    rw [hcallers]
    exact exists_key_enter (h.known key time member)
  live := by
    rw [hrows]
    exact h.live
  expired other member lock hstarting time hstored := by
    rw [hcallers] at member
    rcases mem_enter hcaller member with rfl | ⟨j, -, hother⟩
    · apply Int.not_lt.mp
      intro hlt
      exact h.live caller.key time hstored s.clock (Int.le_refl _) hlt (absent lock hstarting)
    · exact h.expired other (List.mem_of_getElem? hother) lock hstarting time hstored
  apart := h.apart

theorem Fresh.begins (h : Fresh ttl s) (hrows : store.rows = s.store.rows) {lock : Lock}
    (hstarting : caller.phase = .starting lock) (hphase : phase = .fetching lock) :
    Fresh ttl { s with
      flight := flight
      store := store
      log := s.log ++ [.began caller.key s.clock] } := by
  have hquiet := h.quiet hcaller hcallers hrows fun lock hstarts => by
    rw [hphase] at hstarts
    cases hstarts
  have hstored : ∀ {key : String} {time : Int},
      Note.stored key time ∈ s.log ++ [.began caller.key s.clock] →
        Note.stored key time ∈ s.log := by
    intro key time member
    rcases List.mem_append.mp member with member | member
    · exact member
    · cases List.mem_singleton.mp member
  refine ⟨?_, ?_, ?_, ?_, ?_⟩
  · intro key time member
    exact hquiet.past key time (hstored member)
  · intro key time member
    exact hquiet.known key time (hstored member)
  · intro key time member
    exact hquiet.live key time (hstored member)
  · intro other hother own hstarts time member
    exact hquiet.expired other hother own hstarts time (hstored member)
  refine List.pairwise_append.mpr ⟨h.apart, List.pairwise_singleton _ _, ?_⟩
  intro earlier member later hlater key time time' hstored hbegan
  subst hstored hbegan
  obtain ⟨rfl, rfl⟩ := Note.began.inj (List.mem_singleton.mp hlater)
  exact h.expired caller (List.mem_of_getElem? hcaller) lock hstarting time member

end Move

theorem Fresh.stores (h : Fresh ttl s) (hsound : Sound s.flight)
    (inRange : Rows.InRange (s.clock + ttl)) {flight : Flight} {store : Store γ} {i : Nat}
    {caller : Caller} (hcaller : s.flight.callers[i]? = some caller) {lock : Lock}
    {value : ByteArray} (hsaving : caller.phase = .saving lock value)
    (hcallers : flight.callers = (s.flight.enter i (.leaving lock (.ok value))).callers)
    (hrows : store.rows = s.store.rows.put s.clock caller.key value (some ttl)) :
    Fresh ttl { s with
      flight := flight
      store := store
      log := s.log ++ [.stored caller.key s.clock] } := by
  have hstored : ∀ {key : String} {time : Int},
      Note.stored key time ∈ s.log ++ [.stored caller.key s.clock] →
        Note.stored key time ∈ s.log ∨ key = caller.key ∧ time = s.clock := by
    intro key time member
    rcases List.mem_append.mp member with member | member
    · exact .inl member
    · exact .inr (Note.stored.inj (List.mem_singleton.mp member))
  constructor
  case past =>
    intro key time member
    rcases hstored member with member | ⟨-, rfl⟩
    · exact h.past key time member
    · exact Int.le_refl _
  case known =>
    intro key time member
    rw [hcallers]
    rcases hstored member with member | ⟨rfl, -⟩
    · exact exists_key_enter (h.known key time member)
    · exact exists_key_enter ⟨caller, List.mem_of_getElem? hcaller, rfl⟩
  case live =>
    intro key time member t ht hlt
    have htime : time ≤ s.clock := by
      rcases hstored member with member | ⟨-, rfl⟩
      · exact h.past key time member
      · exact Int.le_refl _
    rw [hrows, Rows.live_put_of_inRange _ inRange]
    split
    case isTrue =>
      have hin : t < s.clock + ttl := by omega
      rw [if_pos hin]
      exact Option.some_ne_none _
    case isFalse hkey =>
      rcases hstored member with member | ⟨heq, -⟩
      · exact h.live key time member t ht hlt
      · exact absurd heq hkey
  case expired =>
    intro other hother own hstarting time member
    rw [hcallers] at hother
    rcases mem_enter hcaller hother with rfl | ⟨j, hij, hj⟩
    · cases hstarting
    · rcases hstored member with member | ⟨hkey, -⟩
      · exact h.expired other (List.mem_of_getElem? hj) own hstarting time member
      · -- two callers of one key would be inside the lock at once
        refine absurd (hsound.eq_of_isFilling hcaller hj hkey.symm ?_ ?_) hij
        · rw [hsaving]
          rfl
        · rw [hstarting]
          rfl
  case apart =>
    refine List.pairwise_append.mpr ⟨h.apart, List.pairwise_singleton _ _, ?_⟩
    intro earlier _ later hlater key time time' _ hbegan
    subst hbegan
    cases List.mem_singleton.mp hlater

theorem Fresh.move (h : Fresh ttl s) (hsound : Sound s.flight)
    (inRange : Rows.InRange (s.clock + ttl)) {flight : Flight} {store : Store γ} {i : Nat}
    {caller : Caller} (hcaller : s.flight.callers[i]? = some caller)
    (moved : Moved ttl s.clock s.flight s.store.rows i caller flight store.rows) :
    Fresh ttl { s with
      flight := flight
      store := store
      log := s.log ++ (s.flight.note? flight i s.clock).toList } := by
  obtain ⟨phase, hcallers, heffect⟩ := moved.effect
  rw [note?_of_callers hcaller hcallers]
  generalize hbefore : caller.phase = before at heffect
  generalize hrows : store.rows = rows at heffect
  cases heffect with
  | quiet unnoted absent =>
      rw [unnoted, Option.toList_none, List.append_nil]
      exact h.quiet hcaller hcallers hrows absent
  | begins lock => exact h.begins hcaller hcallers hrows hbefore rfl
  | stores lock value => exact h.stores hsound inRange hcaller hbefore hcallers hrows

section Runs

variable [Gate γ]

theorem Step.clock_le {s' : Session γ} (step : Step ttl s s') : s.clock ≤ s'.clock := by
  cases step with
  | wait time later => exact later
  | _ => exact Int.le_refl _

theorem Step.sound {s' : Session γ} (step : Step ttl s s') (h : Sound s.flight) :
    Sound s'.flight := by
  cases step with
  | join key => exact h.join key
  | wait => exact h
  | others => exact h
  | move move flight store stays moved =>
      obtain ⟨caller, hcaller, hmoved⟩ := step_cases moved stays
      exact h.moved hcaller hmoved

theorem Step.tidy {s' : Session γ} (step : Step ttl s s') (hsound : Sound s.flight)
    (h : Tidy s.flight) : Tidy s'.flight := by
  cases step with
  | join key => exact h.join key
  | wait => exact h
  | others => exact h
  | move move flight store stays moved =>
      obtain ⟨caller, hcaller, hmoved⟩ := step_cases moved stays
      exact h.moved hsound hcaller hmoved

theorem Step.fresh {s' : Session γ} (step : Step ttl s s') (hsound : Sound s.flight)
    (inRange : Rows.InRange (s.clock + ttl)) (h : Fresh ttl s) :
    Fresh ttl s' := by
  cases step with
  | join key => exact h.join key
  | wait time later => exact h.wait later
  | others store elsewhere => exact h.others elsewhere
  | move move flight store stays moved =>
      obtain ⟨caller, hcaller, hmoved⟩ := step_cases moved stays
      exact h.move hsound inRange hcaller hmoved

section Reachable

variable {store : Store γ} {clock : Int} (run : Run ttl (start store clock) s)

include run

theorem Run.clock_le : clock ≤ s.clock := by
  induction run with
  | refl => exact Int.le_refl _
  | tail _ step ih => exact Int.le_trans ih step.clock_le

theorem Run.sound : Sound s.flight := by
  induction run with
  | refl => exact .start
  | tail _ step ih => exact step.sound ih

theorem Run.tidy : Tidy s.flight := by
  induction run with
  | refl => exact fun _ _ h => by cases h
  | tail run step ih => exact step.tidy (Run.sound run) ih

theorem Run.fresh (past : Rows.InRange clock) (future : Rows.InRange (s.clock + ttl)) :
    Fresh ttl s := by
  induction run with
  | refl => exact .start store clock
  | @tail before after run step ih =>
      have hstart : clock ≤ before.clock + ttl :=
        Int.le_trans (Run.clock_le run) (Int.le_add_of_nonneg_right (Int.natCast_nonneg ttl))
      have hbefore : Rows.InRange (before.clock + ttl) :=
        past.between future hstart (Int.add_le_add_right step.clock_le _)
      exact step.fresh (Run.sound run) hbefore (ih hbefore)

/-- However the callers take turns, whatever the store refuses and the fetches bring: every handle
is of the lock in the table, no two callers of one key are filling at once, nothing is fetched again
while it has not expired, and the table is empty once nobody is under way. -/
theorem Run.single_flight (past : Rows.InRange clock) (future : Rows.InRange (s.clock + ttl)) :
    (∀ caller ∈ s.flight.callers, ∀ lock, caller.phase.handle? = some lock →
      s.flight.table.find? caller.key = some lock) ∧
    (∀ (i j : Nat) (a b : Caller), s.flight.callers[i]? = some a →
      s.flight.callers[j]? = some b → a.key = b.key → a.phase.isFilling = true →
      b.phase.isFilling = true → i = j) ∧
    (s.log.Pairwise fun earlier later => ∀ (key : String) (time time' : Int),
      earlier = .stored key time → later = .began key time' → time + ttl ≤ time') ∧
    ((∀ caller ∈ s.flight.callers, caller.phase.isOver = true) →
      s.flight.table = SortedMap.empty) := by
  refine ⟨?_, ?_, (run.fresh past future).apart, run.tidy.eq_empty⟩
  · intro caller member lock hlock
    obtain ⟨i, hcaller⟩ := List.mem_iff_getElem?.mp member
    exact run.sound.held i caller lock hcaller hlock
  · intro i j a b ha hb hkey hfill_a hfill_b
    exact run.sound.eq_of_isFilling ha hb hkey hfill_a hfill_b

end Reachable
end Runs
section Shared

def play {γ : Type} [Gate γ] (ttl : Nat) : List Move → Session γ → Option (Session γ)
  | [], s => some s
  | move :: rest, s =>
      match s.flight.step ttl s.clock move s.store with
      | some (flight, store) => play ttl rest {
          flight := flight
          store := store
          clock := s.clock
          log := s.log ++ (s.flight.note? flight move.caller s.clock).toList }
      | none => none

theorem run_play {γ : Type} [Gate γ] {ttl : Nat} {moves : List Move} {s s' : Session γ}
    (h : play ttl moves s = some s') (stays : ∀ i, .drop i ∉ moves) : Run ttl s s' := by
  induction moves generalizing s with
  | nil =>
      cases h
      exact .refl
  | cons move rest ih =>
      rw [play] at h
      split at h
      case h_1 flight store hmoved =>
        refine .head (.move s move flight store ?_ hmoved) (ih h fun i member => ?_)
        · intro i heq
          subst heq
          exact stays i List.mem_cons_self
        · exact stays i (List.mem_cons_of_mem _ member)
      case h_2 => cases h

def pair : Session Unit :=
  { flight := { callers := [{ key := "k" }, { key := "k" }] }
    store := { gate := () }
    clock := 0 }

def sharing : List Move :=
  [.proceed 0, .proceed 1, .proceed 0, .proceed 1, .proceed 0, .proceed 0, .proceed 0,
    .fetched 0 (.ok ⟨#[7]⟩), .proceed 0, .proceed 0, .proceed 1, .proceed 0, .proceed 0,
    .proceed 1, .proceed 1, .proceed 1, .proceed 1]

def shared : Session Unit := (play 1000 sharing pair).getD pair

theorem run_shared : Run 1000 (start { gate := () } 0) shared := by
  have hjoined : Run 1000 (start { gate := () } 0) pair :=
    .tail (.single (.join _ "k")) (.join _ "k")
  have hsome : (play 1000 sharing pair).isSome = true := by decide +kernel
  have hplay : play 1000 sharing pair = some shared := by
    rw [shared, ← Option.get_eq_getD _ (h := hsome), Option.some_get]
  exact hjoined.trans (run_play hplay fun i member => by simp [sharing] at member)

theorem single_flight_shared :
    shared.log = [.began "k" 0, .stored "k" 0] ∧ shared.flight.table = SortedMap.empty := by
  have hover : ∀ caller ∈ shared.flight.callers, caller.phase.isOver = true := by decide +kernel
  refine ⟨by decide +kernel, (Run.single_flight run_shared (by decide) ?_).2.2.2 hover⟩
  decide +kernel

end Shared

end Session
end RunMonitor.Flight
