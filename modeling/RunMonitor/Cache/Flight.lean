import RunMonitor.Store.Access

namespace RunMonitor

/-! Concurrent lookups. One that misses takes the lock of its key and reads once more. -/

namespace Flight

abbrev Lock : Type := Nat

/-- Where a lookup stands. Several of them run at once, so others may act between any two phases. -/
inductive Phase where
  | asking
  | missed
  | waiting (lock : Lock)
  | checking (lock : Lock)
  | starting (lock : Lock)
  | fetching (lock : Lock)
  | saving (lock : Lock) (value : ByteArray)
  | leaving (lock : Lock) (result : Except Error ByteArray)
  | closing (lock : Lock) (result : Except Error ByteArray)
  | releasing (result : Except Error ByteArray)
  | finished (result : Except Error ByteArray)
  | dropped

namespace Phase

def handle? : Phase → Option Lock
  | .waiting lock | .checking lock | .starting lock | .fetching lock | .saving lock _
  | .leaving lock _ | .closing lock _ => some lock
  | .asking | .missed | .releasing _ | .finished _ | .dropped => none

def taken? : Phase → Option Lock
  | .checking lock | .starting lock | .fetching lock | .saving lock _ | .leaving lock _ => some lock
  | .asking | .missed | .waiting _ | .closing _ _ | .releasing _ | .finished _ | .dropped => none

/-- Whether the lookup waits for something other than itself. Only then can it be given up. -/
def isSuspended : Phase → Bool
  | .asking | .waiting _ | .checking _ | .fetching _ | .saving _ _ => true
  | .missed | .starting _ | .leaving _ _ | .closing _ _ | .releasing _ | .finished _
  | .dropped => false

def isOver : Phase → Bool
  | .finished _ | .dropped => true
  | _ => false

end Phase

structure Caller where
  key : String
  phase : Phase := .asking

end Flight

structure Flight where
  callers : List Flight.Caller
  table : SortedMap Flight.Lock := SortedMap.empty
  fresh : Flight.Lock := 0

namespace Flight

variable {γ : Type} [Gate γ]

def isHeld (flight : Flight) (lock : Lock) : Bool :=
  flight.callers.any fun caller => caller.phase.handle? = some lock

def isTaken (flight : Flight) (lock : Lock) : Bool :=
  flight.callers.any fun caller => caller.phase.taken? = some lock

def enter (flight : Flight) (i : Nat) (phase : Phase) : Flight :=
  { flight with
    callers := flight.callers.modify i fun caller => { caller with phase := phase } }

def lockFor (flight : Flight) (key : String) : Lock × Flight :=
  match flight.table.find? key with
  | some lock => (lock, flight)
  | none =>
      (flight.fresh,
        { flight with
          table := flight.table.insert key flight.fresh
          fresh := flight.fresh + 1 })

def release (flight : Flight) (key : String) : Flight :=
  match flight.table.find? key with
  | some lock =>
      if flight.isHeld lock then flight else { flight with table := flight.table.erase key }
  | none => flight

inductive Move where
  | proceed (i : Nat)
  | fetched (i : Nat) (result : Except Error ByteArray)
  | drop (i : Nat)

def proceed (ttl : Nat) (now : Int) (i : Nat) (flight : Flight) (store : Store γ) :
    Option (Flight × Store γ) := do
  let caller ← flight.callers[i]?
  match caller.phase with
  | .asking =>
      match (Store.get caller.key).run now store with
      | (.error error, store) => some (flight.enter i (.finished (.error error)), store)
      | (.ok (some hit), store) => some (flight.enter i (.finished (.ok hit)), store)
      | (.ok none, store) => some (flight.enter i .missed, store)
  | .missed =>
      let (lock, flight) := flight.lockFor caller.key
      some (flight.enter i (.waiting lock), store)
  | .waiting lock =>
      if flight.isTaken lock then none else some (flight.enter i (.checking lock), store)
  | .checking lock =>
      match (Store.get caller.key).run now store with
      | (.error error, store) => some (flight.enter i (.leaving lock (.error error)), store)
      | (.ok (some hit), store) => some (flight.enter i (.leaving lock (.ok hit)), store)
      | (.ok none, store) => some (flight.enter i (.starting lock), store)
  | .starting lock => some (flight.enter i (.fetching lock), store)
  | .saving lock value =>
      match (Store.set caller.key value (some ttl)).run now store with
      | (.error error, store) => some (flight.enter i (.leaving lock (.error error)), store)
      | (.ok (), store) => some (flight.enter i (.leaving lock (.ok value)), store)
  | .leaving lock result => some (flight.enter i (.closing lock result), store)
  | .closing _ result => some (flight.enter i (.releasing result), store)
  | .releasing result => some ((flight.enter i (.finished result)).release caller.key, store)
  | .fetching _ | .finished _ | .dropped => none

def fetched (i : Nat) (result : Except Error ByteArray) (flight : Flight) : Option Flight := do
  let caller ← flight.callers[i]?
  match caller.phase, result with
  | .fetching lock, .ok value => some (flight.enter i (.saving lock value))
  | .fetching lock, .error error => some (flight.enter i (.leaving lock (.error error)))
  | _, _ => none

/-- A caller that gives up lets go of its lock and its handle, and leaves the table as it is. -/
def drop (i : Nat) (flight : Flight) : Option Flight := do
  let caller ← flight.callers[i]?
  if caller.phase.isSuspended then some (flight.enter i .dropped) else none

def step (ttl : Nat) (now : Int) (move : Move) (flight : Flight) (store : Store γ) :
    Option (Flight × Store γ) :=
  match move with
  | .proceed i => flight.proceed ttl now i store
  | .fetched i result => (flight.fetched i result).map fun flight => (flight, store)
  | .drop i => (flight.drop i).map fun flight => (flight, store)

end Flight
end RunMonitor
