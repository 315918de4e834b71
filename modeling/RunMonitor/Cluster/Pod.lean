import RunMonitor.Cluster.Metadata
import RunMonitor.Cluster.Condition
import RunMonitor.Cluster.Container

namespace RunMonitor

open Json

structure PodStatus where
  phase : Option String := none
  startTime : Option Instant := none
  conditions : Option (List Condition) := none
  containerStatuses : Option (List ContainerStatus) := none
  initContainerStatuses : Option (List ContainerStatus) := none
  ephemeralContainerStatuses : Option (List ContainerStatus) := none
  deriving DecidableEq

structure Pod where
  metadata : Metadata := {}
  status : Option PodStatus := none
  deriving DecidableEq

namespace PodStatus

def ofJson? (json : Json) : Option PodStatus := do
  let fields ← json.obj?
  let statuses? := listOf? ContainerStatus.ofJson?
  return {
    phase := ← optional? fields "phase" str?
    startTime := ← optional? fields "startTime" instant?
    conditions := ← optional? fields "conditions" (listOf? Condition.ofJson?)
    containerStatuses := ← optional? fields "containerStatuses" statuses?
    initContainerStatuses := ← optional? fields "initContainerStatuses" statuses?
    ephemeralContainerStatuses := ← optional? fields "ephemeralContainerStatuses" statuses? }

def toJson (status : PodStatus) : Json :=
  let statuses := ofList ContainerStatus.toJson
  present [
    ("conditions", status.conditions.map (ofList Condition.toJson)),
    ("containerStatuses", status.containerStatuses.map statuses),
    ("ephemeralContainerStatuses", status.ephemeralContainerStatuses.map statuses),
    ("initContainerStatuses", status.initContainerStatuses.map statuses),
    ("phase", status.phase.map .str),
    ("startTime", status.startTime.map fun t => .str t.wholeText)]

end PodStatus

namespace Pod

instance : Resource Pod where
  kind := "Pod"
  apiVersion := "v1"
  metadata := Pod.metadata
  ofFields? fields := do
    return {
      metadata := ← orDefault? fields "metadata" Metadata.ofJson? {}
      status := ← optional? fields "status" PodStatus.ofJson? }
  bodyFields pod := [("status", pod.status.map PodStatus.toJson)]

def startTime? (pod : Pod) : Option Instant := do
  (← pod.status).startTime

def isStarted (pod : Pod) : Bool := pod.startTime?.isSome

def runningPhase : String := "Running"

end Pod
end RunMonitor
