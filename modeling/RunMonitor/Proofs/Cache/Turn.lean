import RunMonitor.Cache.Flight
import RunMonitor.Proofs.Store.Access

namespace RunMonitor.Flight

/-! All that a move of one caller can do. -/

variable {γ : Type} [Gate γ]

/-- A turn leaves the table as it is, and only a turn that saves a value changes the rows. -/
inductive Turn (ttl : Nat) (now : Int) (flight : Flight) (key : String) (rows : Rows) :
    Phase → Phase → Rows → Prop where
  | answered (result : Except Error ByteArray) : Turn ttl now flight key rows
      .asking (.finished result) rows
  | missed (absent : rows.live now key = none) : Turn ttl now flight key rows
      .asking .missed rows
  | entered (lock : Lock) (free : flight.isTaken lock = false) : Turn ttl now flight key rows
      (.waiting lock) (.checking lock) rows
  | shared (lock : Lock) (result : Except Error ByteArray) : Turn ttl now flight key rows
      (.checking lock) (.leaving lock result) rows
  | unfilled (lock : Lock) (absent : rows.live now key = none) : Turn ttl now flight key rows
      (.checking lock) (.starting lock) rows
  | started (lock : Lock) : Turn ttl now flight key rows
      (.starting lock) (.fetching lock) rows
  | fetched (lock : Lock) (value : ByteArray) : Turn ttl now flight key rows
      (.fetching lock) (.saving lock value) rows
  | failed (lock : Lock) (error : Error) : Turn ttl now flight key rows
      (.fetching lock) (.leaving lock (.error error)) rows
  | saved (lock : Lock) (value : ByteArray) : Turn ttl now flight key rows
      (.saving lock value) (.leaving lock (.ok value)) (rows.put now key value (some ttl))
  | unsaved (lock : Lock) (value : ByteArray) (error : Error) : Turn ttl now flight key rows
      (.saving lock value) (.leaving lock (.error error)) rows
  | left (lock : Lock) (result : Except Error ByteArray) : Turn ttl now flight key rows
      (.leaving lock result) (.closing lock result) rows
  | closed (lock : Lock) (result : Except Error ByteArray) : Turn ttl now flight key rows
      (.closing lock result) (.releasing result) rows

def Move.caller : Move → Nat
  | .proceed i | .fetched i _ | .drop i => i

inductive Moved (ttl : Nat) (now : Int) (flight : Flight) (rows : Rows) (i : Nat)
    (caller : Caller) : Flight → Rows → Prop where
  | turned {phase : Phase} {rows' : Rows}
      (turn : Turn ttl now flight caller.key rows caller.phase phase rows') :
      Moved ttl now flight rows i caller (flight.enter i phase) rows'
  | acquired (missed : caller.phase = .missed) :
      Moved ttl now flight rows i caller
        ((flight.lockFor caller.key).2.enter i (.waiting (flight.lockFor caller.key).1)) rows
  | released {result : Except Error ByteArray} (releasing : caller.phase = .releasing result) :
      Moved ttl now flight rows i caller
        ((flight.enter i (.finished result)).release caller.key) rows

theorem get_cases (key : String) (now : Int) (store : Store γ) :
    (∃ gate, (Store.get key).run now store =
      (.ok (store.rows.live now key), ⟨store.rows, gate⟩)) ∨
    ∃ error gate, (Store.get key).run now store = (.error error, ⟨store.rows, gate⟩) :=
  Store.reply_cases now (.get key) store

theorem set_cases (key : String) (value : ByteArray) (ttl : Option Nat) (now : Int)
    (store : Store γ) :
    (∃ gate, (Store.set key value ttl).run now store =
      (.ok (), ⟨store.rows.put now key value ttl, gate⟩)) ∨
    ∃ error gate, (Store.set key value ttl).run now store = (.error error, ⟨store.rows, gate⟩) :=
  Store.reply_cases now (.set key value ttl) store

section Cases

variable {ttl : Nat} {now : Int} {flight flight' : Flight} {store store' : Store γ} {i : Nat}

theorem proceed_cases (h : flight.proceed ttl now i store = some (flight', store')) :
    ∃ caller, flight.callers[i]? = some caller ∧
      Moved ttl now flight store.rows i caller flight' store'.rows := by
  unfold proceed at h
  obtain ⟨⟨key, phase⟩, hcaller, h⟩ := Option.bind_eq_some_iff.mp h
  refine ⟨⟨key, phase⟩, hcaller, ?_⟩
  cases phase with
  | asking =>
      simp only at h
      rcases get_cases key now store with ⟨gate, hget⟩ | ⟨error, gate, hget⟩
      · rw [hget] at h
        cases hlive : store.rows.live now key with
        | none =>
            simp only [hlive] at h
            cases h
            exact .turned (.missed hlive)
        | some hit =>
            simp only [hlive] at h
            cases h
            exact .turned (.answered _)
      · rw [hget] at h
        cases h
        exact .turned (.answered _)
  | missed =>
      cases h
      exact .acquired rfl
  | waiting lock =>
      simp only at h
      split at h
      case isTrue => cases h
      case isFalse hfree =>
        cases h
        exact .turned (.entered lock (Bool.eq_false_iff.mpr hfree))
  | checking lock =>
      simp only at h
      rcases get_cases key now store with ⟨gate, hget⟩ | ⟨error, gate, hget⟩
      · rw [hget] at h
        cases hlive : store.rows.live now key with
        | none =>
            simp only [hlive] at h
            cases h
            exact .turned (.unfilled lock hlive)
        | some hit =>
            simp only [hlive] at h
            cases h
            exact .turned (.shared lock _)
      · rw [hget] at h
        cases h
        exact .turned (.shared lock _)
  | starting lock =>
      cases h
      exact .turned (.started lock)
  | fetching lock => cases h
  | saving lock value =>
      simp only at h
      rcases set_cases key value (some ttl) now store with ⟨gate, hset⟩ | ⟨error, gate, hset⟩
      · rw [hset] at h
        cases h
        exact .turned (.saved lock value)
      · rw [hset] at h
        cases h
        exact .turned (.unsaved lock value error)
  | leaving lock result =>
      cases h
      exact .turned (.left lock result)
  | closing lock result =>
      cases h
      exact .turned (.closed lock result)
  | releasing result =>
      cases h
      exact .released rfl
  | finished result => cases h
  | dropped => cases h

theorem fetched_cases {result : Except Error ByteArray} (h : flight.fetched i result = some flight')
    (rows : Rows) :
    ∃ caller, flight.callers[i]? = some caller ∧
      Moved ttl now flight rows i caller flight' rows := by
  unfold fetched at h
  obtain ⟨⟨key, phase⟩, hcaller, h⟩ := Option.bind_eq_some_iff.mp h
  refine ⟨⟨key, phase⟩, hcaller, ?_⟩
  cases phase with
  | fetching lock =>
      cases result with
      | ok value =>
          cases h
          exact .turned (.fetched lock value)
      | error error =>
          cases h
          exact .turned (.failed lock error)
  | _ => cases h

theorem step_cases {move : Move} (h : flight.step ttl now move store = some (flight', store'))
    (hdrop : ∀ i, move ≠ .drop i) :
    ∃ caller, flight.callers[move.caller]? = some caller ∧
      Moved ttl now flight store.rows move.caller caller flight' store'.rows := by
  cases move with
  | proceed i => exact proceed_cases h
  | fetched i result =>
      obtain ⟨flight', hfetched, heq⟩ := Option.map_eq_some_iff.mp h
      cases heq
      exact fetched_cases hfetched store.rows
  | drop i => exact absurd rfl (hdrop i)

end Cases
end RunMonitor.Flight
