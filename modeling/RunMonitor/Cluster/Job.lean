import RunMonitor.Cluster.Metadata
import RunMonitor.Cluster.Condition
import RunMonitor.Cluster.Container

namespace RunMonitor

open Json

structure PodTemplate where
  spec : Option PodSpec := none
  deriving DecidableEq

structure JobSpec where
  backoffLimit : Option Int := none
  template : PodTemplate := {}
  deriving DecidableEq

structure JobStatus where
  active : Option Int := none
  ready : Option Int := none
  succeeded : Option Int := none
  failed : Option Int := none
  startTime : Option Instant := none
  completionTime : Option Instant := none
  conditions : Option (List Condition) := none
  deriving DecidableEq

structure Job where
  metadata : Metadata := {}
  spec : Option JobSpec := none
  status : Option JobStatus := none
  deriving DecidableEq

namespace PodTemplate

def ofJson? (json : Json) : Option PodTemplate := do
  let fields ← json.obj?
  return { spec := ← optional? fields "spec" PodSpec.ofJson? }

def toJson (template : PodTemplate) : Json :=
  present [("spec", template.spec.map PodSpec.toJson)]

end PodTemplate

namespace JobSpec

def ofJson? (json : Json) : Option JobSpec := do
  let fields ← json.obj?
  return {
    backoffLimit := ← optional? fields "backoffLimit" int32?
    template := ← orDefault? fields "template" PodTemplate.ofJson? {} }

def toJson (spec : JobSpec) : Json :=
  present [
    ("backoffLimit", spec.backoffLimit.map .int),
    ("template", some spec.template.toJson)]

end JobSpec

namespace JobStatus

def ofJson? (json : Json) : Option JobStatus := do
  let fields ← json.obj?
  return {
    active := ← optional? fields "active" int32?
    ready := ← optional? fields "ready" int32?
    succeeded := ← optional? fields "succeeded" int32?
    failed := ← optional? fields "failed" int32?
    startTime := ← optional? fields "startTime" instant?
    completionTime := ← optional? fields "completionTime" instant?
    conditions := ← optional? fields "conditions" (listOf? Condition.ofJson?) }

def toJson (status : JobStatus) : Json :=
  present [
    ("active", status.active.map .int),
    ("completionTime", status.completionTime.map fun t => .str t.wholeText),
    ("conditions", status.conditions.map (ofList Condition.toJson)),
    ("failed", status.failed.map .int),
    ("ready", status.ready.map .int),
    ("startTime", status.startTime.map fun t => .str t.wholeText),
    ("succeeded", status.succeeded.map .int)]

end JobStatus

namespace Job

instance : Resource Job where
  kind := "Job"
  apiVersion := "batch/v1"
  metadata := Job.metadata
  ofFields? fields := do
    return {
      metadata := ← orDefault? fields "metadata" Metadata.ofJson? {}
      spec := ← optional? fields "spec" JobSpec.ofJson?
      status := ← optional? fields "status" JobStatus.ofJson? }
  bodyFields job := [
    ("spec", job.spec.map JobSpec.toJson),
    ("status", job.status.map JobStatus.toJson)]

def startTime? (job : Job) : Option Instant := do
  (← job.status).startTime

def completionTime? (job : Job) : Option Instant := do
  (← job.status).completionTime

def conditions (job : Job) : List Condition :=
  (do (← job.status).conditions).getD []

def podSpec? (job : Job) : Option PodSpec := do
  (← job.spec).template.spec

end Job
end RunMonitor
