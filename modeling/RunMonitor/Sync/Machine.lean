import RunMonitor.Cluster.Listing
import RunMonitor.Sync.Plan
import RunMonitor.Sync.State

namespace RunMonitor.Sync

/-! One synchronizer as a machine that is fed with what the cluster answers. -/

structure Backoff where
  initial : Nat := 1000
  max : Nat := 30000

def Backoff.next (backoff : Backoff) (wait : Nat) : Nat := min (2 * wait) backoff.max

inductive Stage (K : Type) where
  | listing
  | writing (pending : List (Write K)) (version : String)
  | opening (version : String)
  | streaming
  | waiting (ms : Nat)
  | stopped

inductive Request where
  | list
  | watch (version : String)
  deriving DecidableEq

namespace Stage

variable {K : Type}

def state : Stage K → State
  | .listing | .writing _ _ | .opening _ => .connecting
  | .streaming => .streaming
  | .waiting _ => .reconnecting
  | .stopped => .terminated

def request? : Stage K → Option Request
  | .listing => some .list
  | .opening version => some (.watch version)
  | _ => none

end Stage

structure Machine (K : Type) where
  stage : Stage K := .listing
  written : Written := SortedMap.empty
  wait : Nat

inductive Input (K : Type) where
  | listed (result : Except Error (Listing K)) (order : Order := .ascending)
  | proceed
  | opened (result : Except Error Unit)
  | event (event : WatchEvent K)
  | closed
  | waited
  | shutdown

namespace Machine

variable {γ K : Type} [Gate γ] [Collected K]

def start (backoff : Backoff) : Machine K := { wait := backoff.initial }

def fail (backoff : Backoff) (machine : Machine K) : Machine K :=
  { machine with stage := .waiting machine.wait, wait := backoff.next machine.wait }

/-- A machine takes only what its stage is waiting for, and a shutdown at any time. An event that
cannot be stored is lost. -/
def step (backoff : Backoff) (now : Int) (input : Input K) (machine : Machine K)
    (store : Store γ) : Machine K × Store γ :=
  match machine.stage, input with
  | .stopped, _ => (machine, store)
  | _, .shutdown => ({ machine with stage := .stopped }, store)
  | .listing, .listed (.ok listing) order =>
      let plan := plan machine.written listing.items order
      ({ machine with stage := .writing plan.writes listing.version, written := plan.written },
        store)
  | .listing, .listed (.error _) _ => (machine.fail backoff, store)
  | .writing [] version, .proceed => ({ machine with stage := .opening version }, store)
  | .writing (write :: rest) version, .proceed =>
      match write.access.run now store with
      | (.ok (), store) => ({ machine with stage := .writing rest version }, store)
      | (.error _, store) => (machine.fail backoff, store)
  | .opening _, .opened (.ok ()) =>
      ({ machine with stage := .streaming, wait := backoff.initial }, store)
  | .opening _, .opened (.error _) => (machine.fail backoff, store)
  | .streaming, .event event =>
      let (written, access) := apply machine.written event
      ({ machine with written := written }, (access.run now store).2)
  | .streaming, .closed => ({ machine with stage := .listing }, store)
  | .waiting _, .waited => ({ machine with stage := .listing }, store)
  | _, _ => (machine, store)

def settle (backoff : Backoff) (now : Int) (machine : Machine K) (store : Store γ) :
    Machine K × Store γ :=
  match machine.stage with
  | .writing pending _ =>
      Nat.repeat (fun state => state.1.step backoff now .proceed state.2) (pending.length + 1)
        (machine, store)
  | _ => (machine, store)

/-- The states that the step publishes. One that is published twice in a row is heard of once. -/
def publishes (before : Machine K) (input : Input K) (after : Machine K) : List State :=
  match before.stage, input with
  | .streaming, .closed => [.reconnecting, .connecting]
  | _, _ =>
      if before.stage.state = after.stage.state then [] else [after.stage.state]

end Machine
end RunMonitor.Sync
