import Mathlib.Data.List.Chain
import RunMonitor.Delivery.Rehearsal

namespace RunMonitor.Delivery

/-! The source and the subscriber are any, and may keep account of what is asked of them. -/

/-- What a loop asks its source and its subscriber for, from when to when, with what comes of it. At
the end of a wait it learns whether the subscriber is cancelled. -/
inductive Deed (α : Type) where
  | produce (began ended : Nat) (result : Except Error α)
  | push (message : α) (began ended : Nat) (result : Except Error Unit)
  | wait (began ended : Nat) (cancelled : Bool)

namespace Deed

variable {π σ α : Type}

def produced? : Deed α → Option α
  | .produce _ _ (.ok message) => some message
  | _ => none

def pushed? : Deed α → Option α
  | .push message _ _ _ => some message
  | _ => none

def ending? : Deed α → Option (Except Error Unit)
  | .produce _ _ (.error error) | .push _ _ _ (.error error) => some (.error error)
  | .wait _ _ true => some (.ok ())
  | _ => none

/-- The deed that comes next, without delay: a message is pushed once it has been produced, one
interval goes by after it has been pushed, and then another one is produced. -/
def Precedes (interval : Nat) : Deed α → Deed α → Prop
  | .produce _ ended (.ok message), .push pushed began _ _ => pushed = message ∧ began = ended
  | .push _ _ ended (.ok ()), .wait began until_ _ => began = ended ∧ until_ = began + interval
  | .wait _ ended false, .produce began _ _ => began = ended
  | _, _ => False

inductive Changes (produce : Producer π α) (behaviour : Subscriber σ α) :
    Nat × π × σ → Deed α → Nat × π × σ → Prop where
  | produce {time ended : Nat} {producer next : π} {result : Except Error α} (subscriber : σ)
      (h : produce time producer = (result, ended, next)) :
      Changes produce behaviour (time, producer, subscriber) (.produce time ended result)
        (ended, next, subscriber)
  | push {time ended : Nat} {message : α} {subscriber next : σ} {result : Except Error Unit}
      (producer : π) (h : behaviour.push message time subscriber = (result, ended, next)) :
      Changes produce behaviour (time, producer, subscriber) (.push message time ended result)
        (ended, producer, next)
  | wait (time ended : Nat) (producer : π) (subscriber : σ) :
      Changes produce behaviour (time, producer, subscriber)
        (.wait time ended
          (behaviour.isCancelled ended (behaviour.pause time ended subscriber)))
        (ended, producer, behaviour.pause time ended subscriber)

end Deed

inductive Leads {π σ α : Type} (produce : Producer π α) (behaviour : Subscriber σ α) :
    Nat × π × σ → List (Deed α) → Nat × π × σ → Prop where
  | nil (state : Nat × π × σ) : Leads produce behaviour state [] state
  | cons {state middle last : Nat × π × σ} {deed : Deed α} {deeds : List (Deed α)}
      (h : deed.Changes produce behaviour state middle)
      (rest : Leads produce behaviour middle deeds last) :
      Leads produce behaviour state (deed :: deeds) last

/-- What a loop does that begins at a time. It has come to an end, or is about to go on. -/
structure Delivers {α : Type} (interval start : Nat) (deeds : List (Deed α))
    (ending : Option (Except Error Unit)) : Prop where
  begins : ∀ deed ∈ deeds.head?, ∃ ended result, deed = .produce start ended result
  chain : deeds.IsChain (Deed.Precedes interval)
  pushes : deeds.filterMap Deed.pushed? = deeds.filterMap Deed.produced?
  unended : ∀ before deed behind, deeds = before ++ deed :: behind → deed.ending?.isSome = true →
    behind = []
  ends : deeds.getLast?.bind Deed.ending? = ending
  goesOn : ending = none → ∀ deed ∈ deeds.getLast?, ∃ began ended, deed = .wait began ended false

variable {π σ α : Type} {produce : Producer π α} {behaviour : Subscriber σ α}
  {interval time produced pushed : Nat} {message : α} {ending : Option (Except Error Unit)}
  {deeds : List (Deed α)}

def turn (interval time produced pushed : Nat) (message : α) : List (Deed α) :=
  [.produce time produced (.ok message), .push message produced pushed (.ok ()),
    .wait pushed (pushed + interval) false]

theorem Leads.append {state middle last : Nat × π × σ} {others : List (Deed α)}
    (h : Leads produce behaviour state deeds middle)
    (rest : Leads produce behaviour middle others last) :
    Leads produce behaviour state (deeds ++ others) last := by
  induction h with
  | nil => exact rest
  | cons changes _ ih => exact .cons changes (ih rest)

theorem Deed.Precedes.ending? {deed next : Deed α} (h : deed.Precedes interval next) :
    deed.ending? = none := by
  cases deed with
  | produce _ _ result =>
      cases result with
      | error => cases next <;> exact h.elim
      | ok => rfl
  | push _ _ _ result =>
      cases result with
      | error => cases next <;> exact h.elim
      | ok => rfl
  | wait _ _ cancelled =>
      cases cancelled with
      | true => cases next <;> exact h.elim
      | false => rfl

theorem eq_nil_of_isChain (chain : deeds.IsChain (Deed.Precedes interval))
    {before behind : List (Deed α)} {deed : Deed α} (h : deeds = before ++ deed :: behind)
    (hending : deed.ending?.isSome = true) : behind = [] := by
  cases behind with
  | nil => rfl
  | cons next rest =>
      subst h
      have hnext := (List.isChain_cons_cons.mp (List.isChain_append.mp chain).2.1).1
      rw [hnext.ending?] at hending
      cases hending

namespace Delivers

theorem nil (interval start : Nat) : Delivers interval start ([] : List (Deed α)) none where
  begins _ h := nomatch h
  chain := .nil
  pushes := rfl
  unended _ _ _ h := by simp at h
  ends := rfl
  goesOn _ _ h := nomatch h

theorem of_ends {start ended : Nat} {result : Except Error α} {outcome : Except Error Unit}
    {rest : List (Deed α)}
    (chain : (.produce start ended result :: rest).IsChain (Deed.Precedes interval))
    (pushes : rest.filterMap Deed.pushed? =
      (.produce start ended result :: rest).filterMap Deed.produced?)
    (ends : (.produce start ended result :: rest).getLast?.bind Deed.ending? = some outcome) :
    Delivers interval start (.produce start ended result :: rest) (some outcome) where
  begins _ h := by
    cases h
    exact ⟨ended, result, rfl⟩
  chain := chain
  pushes := pushes
  unended _ _ _ := eq_nil_of_isChain chain
  ends := ends
  goesOn h := nomatch h

theorem of_produceError (interval time produced : Nat) (error : Error) :
    Delivers interval time ([.produce time produced (.error error)] : List (Deed α))
      (some (.error error)) :=
  .of_ends (.singleton _) rfl rfl

theorem of_pushError (interval time produced pushed : Nat) (message : α) (error : Error) :
    Delivers interval time
      [.produce time produced (.ok message), .push message produced pushed (.error error)]
      (some (.error error)) :=
  .of_ends (List.isChain_cons_cons.mpr ⟨⟨rfl, rfl⟩, .singleton _⟩) rfl rfl

theorem of_cancelled (interval time produced pushed : Nat) (message : α) :
    Delivers interval time
      [.produce time produced (.ok message), .push message produced pushed (.ok ()),
        .wait pushed (pushed + interval) true]
      (some (.ok ())) := by
  refine .of_ends ?_ rfl rfl
  exact List.isChain_cons_cons.mpr ⟨⟨rfl, rfl⟩,
    List.isChain_cons_cons.mpr ⟨⟨rfl, rfl⟩, .singleton _⟩⟩

theorem turn_append (h : Delivers interval (pushed + interval) deeds ending) :
    Delivers interval time (turn interval time produced pushed message ++ deeds) ending := by
  have chain : (turn interval time produced pushed message ++ deeds).IsChain
      (Deed.Precedes interval) := by
    refine List.isChain_cons_cons.mpr ⟨⟨rfl, rfl⟩, List.isChain_cons_cons.mpr ⟨⟨rfl, rfl⟩, ?_⟩⟩
    refine List.isChain_cons.mpr ⟨fun deed hdeed => ?_, h.chain⟩
    obtain ⟨ended, result, rfl⟩ := h.begins deed hdeed
    rfl
  refine ⟨?begins, chain, ?pushes, fun _ _ _ => eq_nil_of_isChain chain, ?ends, ?goesOn⟩
  case begins =>
    intro deed hdeed
    cases hdeed
    exact ⟨produced, .ok message, rfl⟩
  case pushes =>
    rw [List.filterMap_append, List.filterMap_append, h.pushes]
    rfl
  case ends =>
    rw [← h.ends]
    cases deeds with
    | nil => rfl
    | cons deed rest => rw [turn, List.getLast?_append_cons]
  case goesOn =>
    intro hending deed hdeed
    cases deeds with
    | nil =>
        cases hdeed
        exact ⟨_, _, rfl⟩
    | cons first rest =>
        rw [turn, List.getLast?_append_cons] at hdeed
        exact h.goesOn hending deed hdeed

end Delivers

theorem round_cases (interval : Nat) (produce : Producer π α) (behaviour : Subscriber σ α)
    (time : Nat) (producer : π) (subscriber : σ) :
    (∃ outcome deeds, round interval produce behaviour time producer subscriber = .inl outcome ∧
      Leads produce behaviour (time, producer, subscriber) deeds
        (outcome.time, outcome.producer, outcome.subscriber) ∧
      Delivers interval time deeds (some outcome.result)) ∨
    ∃ produced message pushed producer' subscriber',
      round interval produce behaviour time producer subscriber =
        .inr (pushed + interval, producer', subscriber') ∧
      Leads produce behaviour (time, producer, subscriber)
        (turn interval time produced pushed message)
        (pushed + interval, producer', subscriber') := by
  rw [round]
  obtain ⟨result, produced, producer', hproduce⟩ :
    ∃ result produced producer', produce time producer = (result, produced, producer') :=
    ⟨_, _, _, rfl⟩
  have hfirst : Deed.Changes produce behaviour (time, producer, subscriber)
    (.produce time produced result) (produced, producer', subscriber) :=
    .produce subscriber hproduce
  rw [hproduce]
  cases result with
  | error error =>
      exact .inl ⟨_, _, rfl, .cons hfirst (.nil _), .of_produceError ..⟩
  | ok message =>
      obtain ⟨accepted, pushed, subscriber', hpush⟩ : ∃ accepted pushed subscriber',
        behaviour.push message produced subscriber = (accepted, pushed, subscriber') :=
        ⟨_, _, _, rfl⟩
      have hsecond : Deed.Changes produce behaviour (produced, producer', subscriber)
        (.push message produced pushed accepted) (pushed, producer', subscriber') :=
        .push producer' hpush
      simp only [hpush]
      cases accepted with
      | error error =>
          exact .inl ⟨_, _, rfl, .cons hfirst (.cons hsecond (.nil _)), .of_pushError ..⟩
      | ok =>
          have hthird : Deed.Changes produce behaviour (pushed, producer', subscriber')
            (.wait pushed (pushed + interval) _) (pushed + interval, producer', _) :=
            .wait pushed (pushed + interval) producer' subscriber'
          simp only
          split
          case isTrue hcancelled =>
            rw [hcancelled] at hthird
            exact .inl ⟨_, _, rfl, .cons hfirst (.cons hsecond (.cons hthird (.nil _))),
              .of_cancelled ..⟩
          case isFalse hcancelled =>
            rw [Bool.eq_false_iff.mpr hcancelled] at hthird
            exact .inr ⟨produced, message, pushed, producer', _, rfl,
              .cons hfirst (.cons hsecond (.cons hthird (.nil _)))⟩

/-- A loop pushes what it produces, one interval after the other, until an error or a cancellation
ends it. As long as it has not ended, each round has pushed a message. -/
theorem delivers_deliver (interval : Nat) (produce : Producer π α) (behaviour : Subscriber σ α)
    (rounds time : Nat) (producer : π) (subscriber : σ) :
    ∃ deeds state, Leads produce behaviour (time, producer, subscriber) deeds state ∧
      Delivers interval time deeds
        ((deliver interval produce behaviour rounds time producer subscriber).map
          Outcome.result) ∧
      (∀ outcome, deliver interval produce behaviour rounds time producer subscriber =
        some outcome → state = (outcome.time, outcome.producer, outcome.subscriber)) ∧
      (deliver interval produce behaviour rounds time producer subscriber = none →
        (deeds.filterMap Deed.pushed?).length = rounds) := by
  induction rounds generalizing time producer subscriber with
  | zero => exact ⟨[], _, .nil _, .nil _ _, fun _ h => (nomatch h), fun _ => rfl⟩
  | succ rounds ih =>
      rcases round_cases interval produce behaviour time producer subscriber with
        ⟨outcome, deeds, hround, hleads, hdelivers⟩ |
        ⟨produced, message, pushed, producer', subscriber', hround, hleads⟩
      · have hdeliver : deliver interval produce behaviour (rounds + 1) time producer subscriber =
            some outcome := by rw [deliver, hround]
        rw [hdeliver]
        refine ⟨deeds, _, hleads, hdelivers, fun outcome' h => ?_, fun h => nomatch h⟩
        rw [Option.some.inj h]
      · have hdeliver :
            deliver interval produce behaviour (rounds + 1) time producer subscriber =
              deliver interval produce behaviour rounds (pushed + interval) producer'
                subscriber' := by
          rw [deliver, hround]
        obtain ⟨deeds, state, hrest, hdelivers, hended, hcount⟩ :=
          ih (pushed + interval) producer' subscriber'
        rw [hdeliver]
        refine ⟨_, state, hleads.append hrest, hdelivers.turn_append, hended, fun h => ?_⟩
        rw [List.filterMap_append, List.length_append, hcount h, Nat.add_comm]
        rfl

example : (deliver 10 Script.produce Recording.subscriber 3 0 ⟨[(0, .ok "a"), (5, .ok "b")], 0⟩
    { cancelAfter := 2 }).map (fun outcome => (outcome.time, outcome.subscriber.pushed)) =
      some (25, [(0, "a"), (15, "b")]) := rfl

end RunMonitor.Delivery
