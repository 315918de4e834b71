import RunMonitor.Cluster.Job
import RunMonitor.Summary.Pod

namespace RunMonitor

open Json

structure FailureState where
  failed : Bool
  failureCondition : Option Condition
  conditions : List Condition
  deriving DecidableEq

def Job.failureState (job : Job) (pods : List PodSummary) : FailureState :=
  let condition := job.conditions.find? fun c => c.type = Condition.failedType
  ⟨condition.isSome || pods.any PodSummary.failed, condition, job.conditions⟩

def Job.duration (job : Job) (failed : Bool) (failureCondition : Option Condition)
    (now : Instant) : Span :=
  let failedAt? := if failed then failureCondition.bind Condition.lastTransitionTime else none
  match job.startTime? with
  | none => Span.zero
  | some started => ((failedAt?.or job.completionTime?).getD now).since started

def Job.completionSeconds (job : Job) : Int :=
  (job.completionTime?.map Instant.seconds).getD 0

def Container.sidecarPolicy : String := "Always"

def Job.hasSidecar (job : Job) : Bool :=
  ((do (← job.podSpec?).initContainers).getD []).any fun c =>
    c.restartPolicy = some Container.sidecarPolicy

def Instant.orEmpty (time : Option Instant) : String :=
  (time.map Instant.wholeText).getD ""

structure JobSummary where
  name : String := ""
  ns : String := ""
  uid : String := ""
  creationTimestamp : String := ""
  generation : Int := 0
  duration : String := ""
  durationSeconds : Int := 0
  completionSeconds : Int := 0
  startTime : Option Instant := none
  completionTime : Option Instant := none
  active : Int := 0
  ready : Int := 0
  succeededPods : Int := 0
  failedPods : Int := 0
  conditions : List Condition := []
  succeeded : Bool := false
  failed : Bool := false
  failureReason : Option Condition := none
  pods : List PodSummary := []
  terminationReasons : List TerminationReason := []
  withSidecarContainers : Bool := false
  deriving DecidableEq

namespace JobSummary

/-- A completion time is set only on success. -/
def ofJob (job : Job) (pods : List Pod) (now : Instant) : JobSummary :=
  let summaries := pods.map PodSummary.ofPod
  let failure := job.failureState summaries
  let duration := job.duration failure.failed failure.failureCondition now
  let status := job.status.getD {}
  { name := job.metadata.displayName
    ns := job.metadata.nsOrEmpty
    uid := job.metadata.uid.getD ""
    creationTimestamp := Instant.orEmpty job.metadata.creationTimestamp
    generation := job.metadata.generation.getD 0
    duration := duration.text
    durationSeconds := duration.seconds
    completionSeconds := job.completionSeconds
    startTime := status.startTime
    completionTime := status.completionTime
    active := status.active.getD 0
    ready := status.ready.getD 0
    succeededPods := status.succeeded.getD 0
    failedPods := status.failed.getD 0
    conditions := failure.conditions
    succeeded := status.completionTime.isSome
    failed := failure.failed
    failureReason := failure.failureCondition
    pods := summaries
    terminationReasons := summaries.flatMap PodSummary.terminationReasons
    withSidecarContainers := job.hasSidecar }

def isRunning (run : JobSummary) : Bool := 0 < run.active

def isCompleted (run : JobSummary) : Bool :=
  run.completionTime.isSome || (run.failed && !run.isRunning)

def createdAt? (run : JobSummary) : Option Instant :=
  Instant.ofRfc3339? run.creationTimestamp

/-- Runs without a readable creation time come first. -/
def sortByCreation (runs : List JobSummary) : List JobSummary :=
  runs.mergeSort fun a b => Instant.absentFirst a.createdAt? b.createdAt?

/-- The duration of the completed run before the last one, so that a run that has only just ended
does not move the figure; the only one's if there is no other. -/
def lastDuration (sortedRuns : List JobSummary) : Int :=
  match (sortedRuns.filter isCompleted).reverse with
  | [] => 0
  | [only] => only.durationSeconds
  | _ :: previous :: _ => previous.durationSeconds

def currentDuration (sortedRunningRuns : List JobSummary) : Int :=
  (sortedRunningRuns.getLast?.map durationSeconds).getD 0

def toJson (run : JobSummary) : Json :=
  .obj [
    ("name", .str run.name),
    ("namespace", .str run.ns),
    ("uid", .str run.uid),
    ("creationTimestamp", .str run.creationTimestamp),
    ("generation", .int run.generation),
    ("duration", .str run.duration),
    ("durationSeconds", .int run.durationSeconds),
    ("completionSeconds", .int run.completionSeconds),
    ("startTime", ofOption (fun t => .str t.text) run.startTime),
    ("completionTime", ofOption (fun t => .str t.text) run.completionTime),
    ("active", .int run.active),
    ("ready", .int run.ready),
    ("succeededPods", .int run.succeededPods),
    ("failedPods", .int run.failedPods),
    ("conditions", ofList Condition.toJson run.conditions),
    ("succeeded", .bool run.succeeded),
    ("failed", .bool run.failed),
    ("failureReason", ofOption Condition.toJson run.failureReason),
    ("pods", ofList PodSummary.toJson run.pods),
    ("terminationReasons", ofList TerminationReason.toJson run.terminationReasons),
    ("withSidecarContainers", .bool run.withSidecarContainers)]

end JobSummary
end RunMonitor
