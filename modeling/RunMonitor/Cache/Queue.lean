import RunMonitor.Cache.Flight
import RunMonitor.Time.Instant

namespace RunMonitor

/-! Lookups of one key that begin together, and are served in the order in which they came. -/

structure Queue (γ : Type) where
  flight : Flight
  store : Store γ
  elapsed : Nat
  outcomes : List (Except Error ByteArray)
  fetches : Nat := 0

namespace Queue

variable {γ : Type} [Gate γ]

def move (start : Instant) (ttl : Nat) (queue : Queue γ) (move : Flight.Move) : Queue γ :=
  match queue.flight.step ttl (start.addMillis queue.elapsed).millis move queue.store with
  | some (flight, store) => { queue with flight := flight, store := store }
  | none => queue

def isFetching (queue : Queue γ) (i : Nat) : Bool :=
  match queue.flight.callers[i]? with
  | some ⟨_, .fetching _⟩ => true
  | _ => false

def proceed (start : Instant) (ttl steps : Nat) (queue : Queue γ) (i : Nat) : Queue γ :=
  Nat.repeat (fun queue => queue.move start ttl (.proceed i)) steps queue

/-- Takes the lock, reads, and if need be fetches and saves. A fetch takes a while. -/
def serve (start : Instant) (ttl delay : Nat) (queue : Queue γ) (i : Nat) : Queue γ :=
  let queue := queue.proceed start ttl 5 i
  if queue.isFetching i then
    match queue.outcomes with
    | [] => queue
    | outcome :: rest =>
        let queue := { queue with
          elapsed := queue.elapsed + delay
          outcomes := rest
          fetches := queue.fetches + 1 }
        (queue.move start ttl (.fetched i outcome)).proceed start ttl 4 i
  else queue

/-- There has to be an outcome for every caller, as each of them may have to fetch. -/
def run (start : Instant) (ttl delay : Nat) (queue : Queue γ) : Queue γ :=
  let callers := List.range queue.flight.callers.length
  let asked := callers.foldl (proceed start ttl 2) queue
  callers.foldl (serve start ttl delay) asked

def results (queue : Queue γ) : List (Except Error ByteArray) :=
  queue.flight.callers.filterMap fun caller =>
    match caller.phase with
    | .finished result => some result
    | _ => none

end Queue
end RunMonitor
