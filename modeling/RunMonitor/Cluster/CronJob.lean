import RunMonitor.Cluster.Job

namespace RunMonitor

open Json

structure ObjectReference where
  kind : Option String := none
  name : Option String := none
  deriving DecidableEq

structure JobTemplate where
  spec : Option JobSpec := none
  deriving DecidableEq

structure CronJobSpec where
  schedule : String := ""
  concurrencyPolicy : Option String := none
  suspend : Option Bool := none
  successfulJobsHistoryLimit : Option Int := none
  jobTemplate : JobTemplate := {}
  deriving DecidableEq

structure CronJobStatus where
  active : Option (List ObjectReference) := none
  lastScheduleTime : Option Instant := none
  lastSuccessfulTime : Option Instant := none
  deriving DecidableEq

structure CronJob where
  metadata : Metadata := {}
  spec : Option CronJobSpec := none
  status : Option CronJobStatus := none
  deriving DecidableEq

namespace ObjectReference

def ofJson? (json : Json) : Option ObjectReference := do
  let fields ← json.obj?
  return {
    kind := ← optional? fields "kind" str?
    name := ← optional? fields "name" str? }

def toJson (reference : ObjectReference) : Json :=
  present [
    ("kind", reference.kind.map .str),
    ("name", reference.name.map .str)]

end ObjectReference

namespace JobTemplate

def ofJson? (json : Json) : Option JobTemplate := do
  let fields ← json.obj?
  return { spec := ← optional? fields "spec" JobSpec.ofJson? }

def toJson (template : JobTemplate) : Json :=
  present [("spec", template.spec.map JobSpec.toJson)]

end JobTemplate

namespace CronJobSpec

def ofJson? (json : Json) : Option CronJobSpec := do
  let fields ← json.obj?
  return {
    schedule := ← orDefault? fields "schedule" str? ""
    concurrencyPolicy := ← optional? fields "concurrencyPolicy" str?
    suspend := ← optional? fields "suspend" bool?
    successfulJobsHistoryLimit := ← optional? fields "successfulJobsHistoryLimit" int32?
    jobTemplate := ← orDefault? fields "jobTemplate" JobTemplate.ofJson? {} }

def toJson (spec : CronJobSpec) : Json :=
  present [
    ("concurrencyPolicy", spec.concurrencyPolicy.map .str),
    ("jobTemplate", some spec.jobTemplate.toJson),
    ("schedule", some (.str spec.schedule)),
    ("successfulJobsHistoryLimit", spec.successfulJobsHistoryLimit.map .int),
    ("suspend", spec.suspend.map .bool)]

end CronJobSpec

namespace CronJobStatus

def ofJson? (json : Json) : Option CronJobStatus := do
  let fields ← json.obj?
  return {
    active := ← optional? fields "active" (listOf? ObjectReference.ofJson?)
    lastScheduleTime := ← optional? fields "lastScheduleTime" instant?
    lastSuccessfulTime := ← optional? fields "lastSuccessfulTime" instant? }

def toJson (status : CronJobStatus) : Json :=
  present [
    ("active", status.active.map (ofList ObjectReference.toJson)),
    ("lastScheduleTime", status.lastScheduleTime.map fun t => .str t.wholeText),
    ("lastSuccessfulTime", status.lastSuccessfulTime.map fun t => .str t.wholeText)]

end CronJobStatus

namespace CronJob

instance : Resource CronJob where
  kind := "CronJob"
  apiVersion := "batch/v1"
  metadata := CronJob.metadata
  ofFields? fields := do
    return {
      metadata := ← orDefault? fields "metadata" Metadata.ofJson? {}
      spec := ← optional? fields "spec" CronJobSpec.ofJson?
      status := ← optional? fields "status" CronJobStatus.ofJson? }
  bodyFields cronJob := [
    ("spec", cronJob.spec.map CronJobSpec.toJson),
    ("status", cronJob.status.map CronJobStatus.toJson)]

def podSpec? (cronJob : CronJob) : Option PodSpec := do
  (← (← (← cronJob.spec).jobTemplate.spec).template.spec)

end CronJob
end RunMonitor
