import RunMonitor.Json.Fields

namespace RunMonitor

open Json

structure Condition where
  type : String := ""
  status : String := ""
  reason : Option String := none
  message : Option String := none
  lastTransitionTime : Option Instant := none
  lastProbeTime : Option Instant := none
  deriving DecidableEq

namespace Condition

def ofJson? (json : Json) : Option Condition := do
  let fields ← json.obj?
  return {
    type := ← orDefault? fields "type" str? ""
    status := ← orDefault? fields "status" str? ""
    reason := ← optional? fields "reason" str?
    message := ← optional? fields "message" str?
    lastTransitionTime := ← optional? fields "lastTransitionTime" instant?
    lastProbeTime := ← optional? fields "lastProbeTime" instant? }

def toJson (condition : Condition) : Json :=
  present [
    ("lastProbeTime", condition.lastProbeTime.map fun t => .str t.wholeText),
    ("lastTransitionTime", condition.lastTransitionTime.map fun t => .str t.wholeText),
    ("message", condition.message.map .str),
    ("reason", condition.reason.map .str),
    ("status", some (.str condition.status)),
    ("type", some (.str condition.type))]

def failedType : String := "Failed"

end Condition
end RunMonitor
