import RunMonitor.Client.Feed

namespace RunMonitor.Client

/-! The pump reads one item at a time, and waits while the buffer is full. -/

structure Pump (K : Type) where
  capacity : Nat
  items : List (Item K)
  buffer : List (WatchEvent K) := []
  taken : List (WatchEvent K) := []
  isDone : Bool := false
  isAbandoned : Bool := false

namespace Pump

variable {K : Type}

/-- Reads an item; a change needs room in the buffer. -/
def read? (pump : Pump K) : Option (Pump K) :=
  if pump.isDone then none
  else
    match pump.items with
    | [] => some { pump with isDone := true }
    | .bookmark :: rest | .unreadable :: rest => some { pump with items := rest }
    | .failure status :: rest =>
        if status.isExpired then some { pump with isDone := true }
        else some { pump with items := rest }
    | .change event :: rest =>
        if pump.isAbandoned then some { pump with isDone := true }
        else if pump.buffer.length < pump.capacity then
          some { pump with items := rest, buffer := pump.buffer ++ [event] }
        else none

def take? (pump : Pump K) : Option (Pump K) :=
  match pump.isAbandoned, pump.buffer with
  | false, event :: rest => some { pump with buffer := rest, taken := pump.taken ++ [event] }
  | _, _ => none

def abandon? (pump : Pump K) : Option (Pump K) :=
  if pump.isAbandoned then none else some { pump with buffer := [], isAbandoned := true }

inductive Move where
  | read
  | take
  | abandon
  deriving DecidableEq

def step? (pump : Pump K) : Move → Option (Pump K)
  | .read => pump.read?
  | .take => pump.take?
  | .abandon => pump.abandon?

def drain : Nat → Pump K → Pump K
  | 0, pump => pump
  | fuel + 1, pump =>
      match pump.read?.or pump.take? with
      | some pump => drain fuel pump
      | none => pump

def run (capacity : Nat) (items : List (Item K)) : List (WatchEvent K) :=
  (drain (2 * items.length + 1) { capacity := capacity, items := items }).taken

end Pump
end RunMonitor.Client
