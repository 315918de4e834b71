import RunMonitor.Summary.Termination

namespace RunMonitor

open Json

structure PodSummary where
  name : String := ""
  ns : String := ""
  uid : String := ""
  resourceVersion : Option String := none
  phase : String := ""
  startTime : Option Instant := none
  terminatedContainers : ContainerGroups ContainerReport := {}
  failedContainers : ContainerGroups ContainerReport := {}
  terminationReasons : List TerminationReason := []
  failed : Bool := false
  finishedAt : Option Instant := none
  deriving DecidableEq

namespace PodSummary

def latest (times : List Instant) : Option Instant :=
  times.foldl (fun latest t => some (latest.elim t (·.later t))) none

/-- A pod has finished when the last of its main containers has terminated. -/
def ofPod (pod : Pod) : PodSummary :=
  let termination := PodTermination.ofPod pod
  { name := pod.metadata.displayName
    ns := pod.metadata.nsOrEmpty
    uid := pod.metadata.uid.getD ""
    resourceVersion := pod.metadata.resourceVersion
    phase := (do (← pod.status).phase).getD ""
    startTime := pod.startTime?
    terminatedContainers := termination.terminated
    failedContainers := termination.failed
    terminationReasons := termination.reasons
    failed := termination.isFailed
    finishedAt := latest (termination.terminated.containers.filterMap
      ContainerReport.finishedAt?) }

def isRunning (pod : PodSummary) : Bool := pod.phase = Pod.runningPhase

def toJson (pod : PodSummary) : Json :=
  .obj [
    ("name", .str pod.name),
    ("namespace", .str pod.ns),
    ("uid", .str pod.uid),
    ("resourceVersion", ofOption .str pod.resourceVersion),
    ("phase", .str pod.phase),
    ("startTime", ofOption (fun t => .str t.text) pod.startTime),
    ("terminatedContainers", pod.terminatedContainers.toJson ContainerReport.toJson),
    ("failedContainers", pod.failedContainers.toJson ContainerReport.toJson),
    ("terminationReasons", ofList TerminationReason.toJson pod.terminationReasons),
    ("failed", .bool pod.failed),
    ("finishedAt", ofOption (fun t => .str t.text) pod.finishedAt)]

end PodSummary
end RunMonitor
