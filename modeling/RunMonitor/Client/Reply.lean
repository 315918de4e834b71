import RunMonitor.Cluster.Metadata
import RunMonitor.Error

namespace RunMonitor.Client

structure Reply where
  status : Nat := 200
  body : ByteArray
  isBroken : Bool := false

structure Failure where
  status : String
  message : String
  reason : String
  code : Nat
  deriving DecidableEq

namespace Failure

def ofJson? (json : Json) : Option Failure := do
  let fields ← json.record? ["status", "message", "reason", "code"]
  let text (key : String) : Option String :=
    if (Json.valuesOf fields key).isEmpty then some "" else Json.sole? fields key Json.str?
  return {
    status := ← Json.sole? fields "status" Json.str?
    message := ← text "message"
    reason := ← text "reason"
    code := ← Json.sole? fields "code" fun code => (code.intIn? 0 65535).map Int.toNat }

def isNotFound (failure : Failure) : Bool := failure.reason = "NotFound"

def isExpired (failure : Failure) : Bool := failure.code = 410

def toError (failure : Failure) : Error :=
  .cluster (failure.message ++ ": " ++ failure.reason)

end Failure

def unreadable : Error := .cluster "unreadable reply"

def connectionLost : Error := .cluster "connection lost"

def badRequest : Error := .cluster "malformed request"

namespace Reply

def isFailure (reply : Reply) : Bool := 400 ≤ reply.status && reply.status < 600

def text? (reply : Reply) : Except Error String :=
  if reply.isBroken then .error connectionLost
  else
    match String.fromUTF8? reply.body with
    | some text => .ok text
    | none => .error unreadable

def failure? (reply : Reply) : Option Failure := do
  guard reply.isFailure
  guard !reply.isBroken
  Failure.ofJson? (← Json.parse? reply.body)

def read (reply : Reply) (ofJson? : Json → Option α) : Except Error α := do
  let text ← reply.text?
  if reply.isFailure then
    throw ((reply.failure?.map Failure.toError).getD unreadable)
  match (Json.parse? text.toByteArray).bind ofJson? with
  | some value => return value
  | none => throw unreadable

def object? [Resource K] (reply : Reply) : Except Error (Option K) :=
  if reply.failure?.any Failure.isNotFound then .ok none
  else (reply.read Resource.ofJson?).map some

end Reply

end RunMonitor.Client
