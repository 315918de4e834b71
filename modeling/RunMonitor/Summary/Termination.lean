import RunMonitor.Cluster.Pod

namespace RunMonitor

/-! A container that is being restarted may have both a waiting state and a terminated one. -/

open Json

structure TerminationReason where
  containerName : String
  reason : Option String
  message : Option String
  exitCode : Option Int
  finishedAt : Option Instant
  deriving DecidableEq

structure ContainerReport where
  name : String
  phase : String
  state : Option ContainerState
  podConditions : List Condition
  terminationReason : Option TerminationReason
  deriving DecidableEq

structure ContainerGroups (α : Type) where
  initContainers : List α := []
  containers : List α := []
  ephemeralContainers : List α := []
  deriving DecidableEq, Inhabited

structure PodTermination where
  terminated : ContainerGroups ContainerReport := {}
  failed : ContainerGroups ContainerReport := {}
  reasons : List TerminationReason := []
  deriving DecidableEq

namespace ContainerGroups

variable {α β : Type}

def isEmpty (groups : ContainerGroups α) : Bool :=
  groups.initContainers.isEmpty && groups.containers.isEmpty && groups.ephemeralContainers.isEmpty

def mapGroups (f : List α → List β) (groups : ContainerGroups α) : ContainerGroups β :=
  ⟨f groups.initContainers, f groups.containers, f groups.ephemeralContainers⟩

def toJson (write : α → Json) (groups : ContainerGroups α) : Json :=
  .obj [
    ("initContainers", ofList write groups.initContainers),
    ("containers", ofList write groups.containers),
    ("ephemeralContainers", ofList write groups.ephemeralContainers)]

end ContainerGroups

def Waiting.configError : String := "CreateContainerConfigError"

def Terminated.error : String := "Error"

namespace ContainerStatus

def waitingReason? (container : ContainerStatus) (podStarted : Option Instant)
    (waiting : Waiting) : Option TerminationReason :=
  if waiting.reason = some Waiting.configError then
    some ⟨container.name, waiting.reason, waiting.message, none, podStarted⟩
  else none

def terminatedReason? (container : ContainerStatus) (terminated : Terminated) :
    Option TerminationReason :=
  if terminated.reason = some Terminated.error then
    some ⟨container.name, terminated.reason, terminated.message, some terminated.exitCode,
      terminated.finishedAt⟩
  else none

/-- One entry for each state to report, with the reason if the state is a failure. -/
def outcomes (container : ContainerStatus) (podStarted : Option Instant) :
    List (Option TerminationReason) :=
  match container.state with
  | none => []
  | some state =>
      (state.waiting.map (container.waitingReason? podStarted)).toList ++
        (state.terminated.map container.terminatedReason?).toList

def reports (pod : PodStatus) (container : ContainerStatus) : List ContainerReport :=
  (container.outcomes pod.startTime).map fun reason =>
    ⟨container.name, pod.phase.getD "", container.state, pod.conditions.getD [], reason⟩

end ContainerStatus

def ContainerReport.isFailed (report : ContainerReport) : Bool :=
  report.terminationReason.isSome

def ContainerReport.finishedAt? (report : ContainerReport) : Option Instant := do
  (← (← report.state).terminated).finishedAt

namespace PodTermination

def reportGroups (status : PodStatus) : ContainerGroups ContainerReport :=
  ContainerGroups.mapGroups (List.flatMap (ContainerStatus.reports status))
    ⟨status.initContainerStatuses.getD [], status.containerStatuses.getD [],
      status.ephemeralContainerStatuses.getD []⟩

def reasonsOf (reports : List ContainerReport) : List TerminationReason :=
  reports.filterMap ContainerReport.terminationReason

def ofGroups (groups : ContainerGroups ContainerReport) : PodTermination where
  terminated := groups
  failed := groups.mapGroups (List.filter ContainerReport.isFailed)
  reasons := reasonsOf groups.ephemeralContainers ++ reasonsOf groups.initContainers ++
    reasonsOf groups.containers

def ofPod (pod : Pod) : PodTermination :=
  match pod.status with
  | none => {}
  | some status => ofGroups (reportGroups status)

def isFailed (termination : PodTermination) : Bool := !termination.reasons.isEmpty

end PodTermination

def TerminationReason.toJson (reason : TerminationReason) : Json :=
  .obj [
    ("containerName", .str reason.containerName),
    ("reason", ofOption .str reason.reason),
    ("message", ofOption .str reason.message),
    ("exitCode", ofOption .int reason.exitCode),
    ("finishedAt", ofOption (fun t => .str t.text) reason.finishedAt)]

def ContainerReport.toJson (report : ContainerReport) : Json :=
  .obj [
    ("name", .str report.name),
    ("phase", .str report.phase),
    ("state", ofOption ContainerState.toJson report.state),
    ("podConditions", ofList Condition.toJson report.podConditions),
    ("terminationReason", ofOption TerminationReason.toJson report.terminationReason)]

end RunMonitor
