import RunMonitor.Proofs.Cache.Locks
import RunMonitor.Proofs.View.Lookup

namespace RunMonitor

/-! A lookup that waits for its turn makes the calls of one that does not wait. -/

namespace View

variable {α β γ : Type} [Gate γ]

inductive Goes (now : Int) (store : Store γ) : View α → View α → Store γ → Prop where
  | stay (view : View α) : Goes now store view view store
  | call {β : Type} (call : StoreCall β) (next : Except Error β → View α) :
      Goes now store (.call (.inl call) next) (next (Store.reply now call store).1)
        (Store.reply now call store).2
  | inquire {β : Type} (inquiry : Inquiry β) (next : Except Error β → View α)
      (reply : Except Error β) : Goes now store (.call (.inr inquiry) next) (next reply) store

end View

namespace Flight

open View

/-- What a lookup has left to do; nothing is to be said of one that has been given up. -/
def Phase.rest? (ttl : Nat) (key : String) (fetch : View ByteArray) :
    Phase → Option (View ByteArray)
  | .asking => some (lookUp ttl key fetch)
  | .missed | .waiting _ | .checking _ => some (seek key (fetch >>= keep ttl key))
  | .starting _ | .fetching _ => some (fetch >>= keep ttl key)
  | .saving _ value => some (keep ttl key value)
  | .leaving _ result | .closing _ result | .releasing result | .finished result =>
      some (.done result)
  | .dropped => none

variable {γ : Type} [Gate γ] {ttl : Nat} {now : Int} {flight flight' : Flight}
  {store store' : Store γ} {i : Nat} {key : String} {phase : Phase}

theorem goes_seek (now : Int) (store : Store γ) (key : String) (missed : View ByteArray) :
    (∃ hit store', (Store.get key).run now store = (.ok (some hit), store') ∧
      Goes now store (seek key missed) (.done (.ok hit)) store') ∨
    (∃ store', (Store.get key).run now store = (.ok none, store') ∧
      Goes now store (seek key missed) missed store') ∨
    ∃ error store', (Store.get key).run now store = (.error error, store') ∧
      Goes now store (seek key missed) (.done (.error error)) store' := by
  have hgoes : Goes now store (seek key missed) _ _ := .call (StoreCall.get key) _
  have hrun : (Store.get key).run now store = Store.reply now (.get key) store := rfl
  rw [hrun]
  generalize Store.reply now (.get key) store = outcome at hgoes ⊢
  obtain ⟨reply, store'⟩ := outcome
  cases reply with
  | error error => exact .inr (.inr ⟨error, store', rfl, hgoes⟩)
  | ok found =>
      cases found with
      | none => exact .inr (.inl ⟨store', rfl, hgoes⟩)
      | some hit => exact .inl ⟨hit, store', rfl, hgoes⟩

theorem goes_keep (ttl : Nat) (now : Int) (store : Store γ) (key : String) (value : ByteArray) :
    (∃ store', (Store.set key value (some ttl)).run now store = (.ok (), store') ∧
      Goes now store (keep ttl key value) (.done (.ok value)) store') ∨
    ∃ error store', (Store.set key value (some ttl)).run now store = (.error error, store') ∧
      Goes now store (keep ttl key value) (.done (.error error)) store' := by
  have hgoes : Goes now store (keep ttl key value) _ _ := .call (.set key value (some ttl)) _
  have hrun : (Store.set key value (some ttl)).run now store =
      Store.reply now (.set key value (some ttl)) store := rfl
  rw [hrun]
  generalize Store.reply now (.set key value (some ttl)) store = outcome at hgoes ⊢
  obtain ⟨reply, store'⟩ := outcome
  cases reply with
  | error error => exact .inr ⟨error, store', rfl, hgoes⟩
  | ok _ => exact .inl ⟨store', rfl, hgoes⟩

def Advances (ttl : Nat) (now : Int) (fetch : View ByteArray) (i : Nat) (caller : Caller)
    (flight : Flight) (store : Store γ) (flight' : Flight) (store' : Store γ) : Prop :=
  ∃ phase rest rest', flight'.callers = (flight.enter i phase).callers ∧
    caller.phase.rest? ttl caller.key fetch = some rest ∧
    phase.rest? ttl caller.key fetch = some rest' ∧ Goes now store rest rest' store'

theorem advances_proceed (hcaller : flight.callers[i]? = some ⟨key, phase⟩)
    (h : flight.proceed ttl now i store = some (flight', store')) (fetch : View ByteArray) :
    Advances ttl now fetch i ⟨key, phase⟩ flight store flight' store' := by
  unfold proceed at h
  simp only [hcaller, Option.bind_eq_bind, Option.bind_some] at h
  cases phase with
  | asking =>
      simp only at h
      rcases goes_seek now store key (seek key (fetch >>= keep ttl key)) with
        ⟨hit, _, hget, hgoes⟩ | ⟨_, hget, hgoes⟩ | ⟨error, _, hget, hgoes⟩
      all_goals
        rw [hget] at h
        cases h
        rw [← lookUp_eq] at hgoes
        exact ⟨_, _, _, rfl, rfl, rfl, hgoes⟩
  | missed =>
      cases h
      exact ⟨.waiting _, _, _, callers_acquire .., rfl, rfl, .stay _⟩
  | waiting lock =>
      simp only at h
      split at h
      case isTrue => cases h
      case isFalse =>
        cases h
        exact ⟨.checking lock, _, _, rfl, rfl, rfl, .stay _⟩
  | checking lock =>
      simp only at h
      rcases goes_seek now store key (fetch >>= keep ttl key) with
        ⟨hit, _, hget, hgoes⟩ | ⟨_, hget, hgoes⟩ | ⟨error, _, hget, hgoes⟩
      all_goals
        rw [hget] at h
        cases h
        exact ⟨_, _, _, rfl, rfl, rfl, hgoes⟩
  | starting lock =>
      cases h
      exact ⟨.fetching lock, _, _, rfl, rfl, rfl, .stay _⟩
  | fetching lock => cases h
  | saving lock value =>
      simp only at h
      rcases goes_keep ttl now store key value with ⟨_, hset, hgoes⟩ | ⟨error, _, hset, hgoes⟩
      all_goals
        rw [hset] at h
        cases h
        exact ⟨_, _, _, rfl, rfl, rfl, hgoes⟩
  | leaving lock result =>
      cases h
      exact ⟨.closing lock result, _, _, rfl, rfl, rfl, .stay _⟩
  | closing lock result =>
      cases h
      exact ⟨.releasing result, _, _, rfl, rfl, rfl, .stay _⟩
  | releasing result =>
      cases h
      exact ⟨.finished result, _, _, callers_release .., rfl, rfl, .stay _⟩
  | finished result => cases h
  | dropped => cases h

theorem advances_fetched {β : Type} {f : Except Error β → Except Error ByteArray}
    (hcaller : flight.callers[i]? = some ⟨key, phase⟩) {reply : Except Error β}
    (h : flight.fetched i (f reply) = some flight') (ttl : Nat) (inquiry : Inquiry β) (now : Int)
    (store : Store γ) :
    ∃ phase' rest rest', flight'.callers = (flight.enter i phase').callers ∧
      phase.rest? ttl key (fetching inquiry f) = some rest ∧
      phase'.rest? ttl key (fetching inquiry f) = some rest' ∧ Goes now store rest rest' store := by
  unfold fetched at h
  simp only [hcaller, Option.bind_eq_bind, Option.bind_some] at h
  cases phase with
  | fetching lock =>
      have hgoes : Goes now store (fetching inquiry f >>= keep ttl key)
          ((Procedure.done (f reply) : View ByteArray).andThen (keep ttl key)) store :=
        .inquire inquiry _ reply
      generalize f reply = outcome at h hgoes
      cases outcome with
      | ok value =>
          cases h
          exact ⟨.saving lock value, _, _, rfl, rfl, rfl, hgoes⟩
      | error error =>
          cases h
          exact ⟨.leaving lock (.error error), _, _, rfl, rfl, rfl, hgoes⟩
  | _ => cases h

section Step

variable (ttl : Nat) (fetch : String → View ByteArray)

def Caller.rest? (caller : Caller) : Option (View ByteArray) :=
  caller.phase.rest? ttl caller.key (fetch caller.key)

def rests (flight : Flight) : List (Option (View ByteArray)) :=
  flight.callers.map (Caller.rest? ttl fetch)

theorem rests_of_callers (hcaller : flight.callers[i]? = some ⟨key, phase⟩) {phase' : Phase}
    (hcallers : flight'.callers = (flight.enter i phase').callers) :
    flight'.rests ttl fetch =
      (flight.rests ttl fetch).set i (phase'.rest? ttl key (fetch key)) := by
  unfold rests
  rw [hcallers]
  refine List.ext_getElem? fun j => ?_
  rw [List.getElem?_map, callers_enter, List.getElem?_set, List.length_map, List.getElem?_map]
  by_cases hij : i = j
  · subst hij
    obtain ⟨hlt, -⟩ := List.getElem?_eq_some_iff.mp hcaller
    rw [if_pos rfl, if_pos rfl, if_pos hlt, hcaller]
    rfl
  · rw [if_neg hij, if_neg hij]

def Move.Replies (flight : Flight) : Move → Prop
  | .proceed _ => True
  | .fetched i outcome => ∀ caller, flight.callers[i]? = some caller →
      ∃ (β : Type) (inquiry : Inquiry β) (f : Except Error β → Except Error ByteArray)
        (reply : Except Error β), fetch caller.key = fetching inquiry f ∧ outcome = f reply
  | .drop _ => False

theorem goes_step {move : Move} (h : flight.step ttl now move store = some (flight', store'))
    (hmove : move.Replies fetch flight) :
    ∃ rest rest', (flight.rests ttl fetch)[move.caller]? = some (some rest) ∧
      Goes now store rest rest' store' ∧
      flight'.rests ttl fetch = (flight.rests ttl fetch).set move.caller (some rest') := by
  have hadvances : ∃ caller, flight.callers[move.caller]? = some caller ∧
      Advances ttl now (fetch caller.key) move.caller caller flight store flight' store' := by
    cases move with
    | proceed i =>
        obtain ⟨⟨key, phase⟩, hcaller, -⟩ := proceed_cases h
        exact ⟨_, hcaller, advances_proceed hcaller h (fetch key)⟩
    | fetched i outcome =>
        obtain ⟨_, hfetched, heq⟩ := Option.map_eq_some_iff.mp h
        cases heq
        have hmoved : ∃ caller, flight.callers[i]? = some caller ∧
            Moved ttl now flight store.rows i caller flight' store.rows :=
          fetched_cases hfetched store.rows
        obtain ⟨⟨key, phase⟩, hcaller, -⟩ := hmoved
        obtain ⟨β, inquiry, f, reply, hfetch, rfl⟩ := hmove _ hcaller
        refine ⟨_, hcaller, ?_⟩
        rw [hfetch]
        exact advances_fetched hcaller hfetched ttl inquiry now store
    | drop i => exact hmove.elim
  obtain ⟨caller, hcaller, phase, rest, rest', hcallers, hrest, hrest', hgoes⟩ := hadvances
  refine ⟨rest, rest', ?_, hgoes, ?_⟩
  · rw [rests, List.getElem?_map, hcaller, Option.map_some]
    exact congrArg some hrest
  · rw [rests_of_callers ttl fetch hcaller hcallers, hrest']

end Step

end Flight
end RunMonitor
