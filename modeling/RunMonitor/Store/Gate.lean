import RunMonitor.Error

namespace RunMonitor

inductive Operation where
  | get
  | set
  | update
  | delete
  | purge
  deriving DecidableEq

namespace Operation

def name : Operation → String
  | .get => "get"
  | .set => "set"
  | .update => "update"
  | .delete => "delete"
  | .purge => "purge"

def ofName? (name : String) : Option Operation :=
  [get, set, update, delete, purge].find? fun operation => operation.name = name

end Operation

/-- Admits or refuses each call in turn, by its operation and its key, and may change by doing so.
The key of a purge is empty. -/
class Gate (γ : Type) where
  allow : Operation → String → γ → Except Error Unit × γ

instance : Gate Unit := ⟨fun _ _ gate => (.ok (), gate)⟩

structure Fault where
  operation : Operation
  key : Option String := none
  left : Option Nat := none
  deriving DecidableEq

namespace Fault

def fires (fault : Fault) (operation : Operation) (key : String) : Bool :=
  fault.operation = operation && fault.key.all (· = key) && fault.left.all (0 < ·)

def spend (fault : Fault) : Fault := { fault with left := fault.left.map (· - 1) }

def spendFirst (operation : Operation) (key : String) : List Fault → Option (List Fault)
  | [] => none
  | fault :: rest =>
      if fault.fires operation key then some (fault.spend :: rest)
      else (spendFirst operation key rest).map (fault :: ·)

def refusal (operation : Operation) (key : String) : Error :=
  .internal ("injected " ++ operation.name ++ " " ++ key)

end Fault

instance : Gate (List Fault) where
  allow operation key faults :=
    match Fault.spendFirst operation key faults with
    | some faults => (.error (Fault.refusal operation key), faults)
    | none => (.ok (), faults)

end RunMonitor
