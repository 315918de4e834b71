import RunMonitor.Error

namespace RunMonitor.Delivery

/-! Produce, push, wait for an interval, and go on unless cancelled. Times are in milliseconds. -/

/-- A source of messages. It is told when it begins, and tells when it is done. -/
abbrev Producer (π α : Type) : Type := Nat → π → Except Error α × Nat × π

structure Subscriber (σ α : Type) where
  push : α → Nat → σ → Except Error Unit × Nat × σ
  pause : Nat → Nat → σ → σ
  isCancelled : Nat → σ → Bool

structure Outcome (π σ : Type) where
  result : Except Error Unit
  time : Nat
  producer : π
  subscriber : σ

variable {π σ α : Type}

/-- One round, which either ends the loop or gives the time and the states with which the next one
begins. -/
def round (interval : Nat) (produce : Producer π α) (behaviour : Subscriber σ α) (time : Nat)
    (producer : π) (subscriber : σ) : Outcome π σ ⊕ Nat × π × σ :=
  match produce time producer with
  | (.error error, time, producer) => .inl ⟨.error error, time, producer, subscriber⟩
  | (.ok message, time, producer) =>
      match behaviour.push message time subscriber with
      | (.error error, time, subscriber) => .inl ⟨.error error, time, producer, subscriber⟩
      | (.ok (), time, subscriber) =>
          let subscriber := behaviour.pause time (time + interval) subscriber
          if behaviour.isCancelled (time + interval) subscriber then
            .inl ⟨.ok (), time + interval, producer, subscriber⟩
          else .inr (time + interval, producer, subscriber)

/-- Nothing is known of a loop that takes more rounds than it is given. -/
def deliver (interval : Nat) (produce : Producer π α) (behaviour : Subscriber σ α) :
    Nat → Nat → π → σ → Option (Outcome π σ)
  | 0, _, _, _ => none
  | rounds + 1, time, producer, subscriber =>
      match round interval produce behaviour time producer subscriber with
      | .inl outcome => some outcome
      | .inr (time, producer, subscriber) =>
          deliver interval produce behaviour rounds time producer subscriber

end RunMonitor.Delivery
