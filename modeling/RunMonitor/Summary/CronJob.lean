import RunMonitor.Cluster.CronJob
import RunMonitor.Summary.Job

namespace RunMonitor

open Json

def CronJob.containerCommands (cronJob : CronJob) : ContainerGroups String :=
  match cronJob.podSpec? with
  | none => {}
  | some spec =>
      ContainerGroups.mapGroups (List.map fun c => " ".intercalate (c.command.getD []))
        ⟨spec.initContainers.getD [], spec.containers, spec.ephemeralContainers.getD []⟩

structure CronJobSummary where
  name : String := ""
  ns : String := ""
  uid : String := ""
  definition : String := ""
  concurrencyPolicy : Option String := none
  creationTimestamp : String := ""
  lastScheduleTime : String := ""
  lastSuccessfulTime : String := ""
  active : Bool := false
  lastDuration : Int := 0
  currentDuration : Int := 0
  containerCommands : ContainerGroups String := {}
  allRuns : List JobSummary := []
  runningRuns : List JobSummary := []
  allPods : List PodSummary := []
  runningPods : List PodSummary := []
  failed : Bool := false
  deriving DecidableEq

namespace CronJobSummary

def assemble (cronJob : CronJob) (runs : List JobSummary) : CronJobSummary :=
  let allRuns := JobSummary.sortByCreation runs
  let runningRuns := allRuns.filter JobSummary.isRunning
  let allPods := allRuns.flatMap JobSummary.pods
  let status := cronJob.status.getD {}
  { name := cronJob.metadata.displayName
    ns := cronJob.metadata.nsOrEmpty
    uid := cronJob.metadata.uid.getD ""
    definition := (cronJob.spec.map CronJobSpec.schedule).getD ""
    concurrencyPolicy := cronJob.spec.bind CronJobSpec.concurrencyPolicy
    creationTimestamp := Instant.orEmpty cronJob.metadata.creationTimestamp
    lastScheduleTime := Instant.orEmpty status.lastScheduleTime
    lastSuccessfulTime := Instant.orEmpty status.lastSuccessfulTime
    active := !(status.active.getD []).isEmpty
    lastDuration := JobSummary.lastDuration allRuns
    currentDuration := JobSummary.currentDuration runningRuns
    containerCommands := cronJob.containerCommands
    allRuns := allRuns
    runningRuns := runningRuns
    allPods := allPods
    runningPods := allPods.filter PodSummary.isRunning
    failed := allRuns.any JobSummary.failed }

def toJson (summary : CronJobSummary) : Json :=
  .obj [
    ("name", .str summary.name),
    ("namespace", .str summary.ns),
    ("uid", .str summary.uid),
    ("definition", .str summary.definition),
    ("concurrencyPolicy", ofOption .str summary.concurrencyPolicy),
    ("creationTimestamp", .str summary.creationTimestamp),
    ("lastScheduleTime", .str summary.lastScheduleTime),
    ("lastSuccessfulTime", .str summary.lastSuccessfulTime),
    ("active", .bool summary.active),
    ("lastDuration", .int summary.lastDuration),
    ("currentDuration", .int summary.currentDuration),
    ("containerCommands", summary.containerCommands.toJson .str),
    ("allRuns", ofList JobSummary.toJson summary.allRuns),
    ("runningRuns", ofList JobSummary.toJson summary.runningRuns),
    ("allPods", ofList PodSummary.toJson summary.allPods),
    ("runningPods", ofList PodSummary.toJson summary.runningPods),
    ("failed", .bool summary.failed)]

end CronJobSummary

structure CronJobPods where
  pods : List PodSummary
  name : String
  ns : String
  runs : List JobSummary
  deriving DecidableEq

namespace CronJobPods

def ofSummary (summary : CronJobSummary) : CronJobPods where
  pods := summary.allPods.mergeSort fun a b => Instant.absentFirst a.startTime b.startTime
  name := summary.name
  ns := summary.ns
  runs := summary.allRuns

def toJson (listing : CronJobPods) : Json :=
  .obj [
    ("pods", ofList PodSummary.toJson listing.pods),
    ("cronjob", .obj [
      ("name", .str listing.name),
      ("namespace", .str listing.ns),
      ("runs", ofList JobSummary.toJson listing.runs)])]

end CronJobPods
end RunMonitor
