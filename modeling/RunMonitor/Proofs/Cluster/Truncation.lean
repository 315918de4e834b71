import RunMonitor.Cache.Collected

namespace RunMonitor

/-! Writing an object cuts its times to whole seconds. -/

open Json

namespace Instant

@[simp] theorem isLeap_truncate (t : Instant) : t.truncate.isLeap = t.isLeap := by
  unfold truncate
  cases h : t.isLeap <;> simp [isLeap]

@[simp] theorem truncate_truncate (t : Instant) : t.truncate.truncate = t.truncate := by
  unfold truncate
  rw [show Instant.isLeap ⟨t.seconds, if t.isLeap = true then 1000000000 else 0⟩ = t.isLeap from
    isLeap_truncate t]

@[simp] theorem wholeText_truncate (t : Instant) : t.truncate.wholeText = t.wholeText := by
  have hseconds : t.truncate.seconds = t.seconds := rfl
  simp [wholeText, dateTimeChars, secondOfDay, hseconds]

end Instant

@[simp] theorem Json.ofList_map {α β : Type} (write : β → Json) (f : α → β) (items : List α) :
    ofList write (items.map f) = ofList (fun a => write (f a)) items := by
  simp [ofList]

namespace Metadata

def truncate (metadata : Metadata) : Metadata :=
  { metadata with creationTimestamp := metadata.creationTimestamp.map Instant.truncate }

@[simp] theorem truncate_truncate (metadata : Metadata) :
    metadata.truncate.truncate = metadata.truncate := by
  simp [truncate, Function.comp_def]

@[simp] theorem toJson_truncate (metadata : Metadata) :
    metadata.truncate.toJson = metadata.toJson := by
  simp [truncate, toJson, Function.comp_def]

end Metadata

namespace Condition

def truncate (condition : Condition) : Condition :=
  { condition with
    lastTransitionTime := condition.lastTransitionTime.map Instant.truncate
    lastProbeTime := condition.lastProbeTime.map Instant.truncate }

@[simp] theorem truncate_truncate (condition : Condition) :
    condition.truncate.truncate = condition.truncate := by
  simp [truncate, Function.comp_def]

@[simp] theorem toJson_truncate (condition : Condition) :
    condition.truncate.toJson = condition.toJson := by
  simp [truncate, toJson, Function.comp_def]

end Condition

namespace Running

def truncate (state : Running) : Running :=
  { state with startedAt := state.startedAt.map Instant.truncate }

@[simp] theorem truncate_truncate (state : Running) : state.truncate.truncate = state.truncate := by
  simp [truncate, Function.comp_def]

@[simp] theorem toJson_truncate (state : Running) : state.truncate.toJson = state.toJson := by
  simp [truncate, toJson, Function.comp_def]

end Running

namespace Terminated

def truncate (state : Terminated) : Terminated :=
  { state with
    startedAt := state.startedAt.map Instant.truncate
    finishedAt := state.finishedAt.map Instant.truncate }

@[simp] theorem truncate_truncate (state : Terminated) :
    state.truncate.truncate = state.truncate := by
  simp [truncate, Function.comp_def]

@[simp] theorem toJson_truncate (state : Terminated) : state.truncate.toJson = state.toJson := by
  simp [truncate, toJson, Function.comp_def]

end Terminated

namespace ContainerState

def truncate (state : ContainerState) : ContainerState :=
  { state with
    running := state.running.map Running.truncate
    terminated := state.terminated.map Terminated.truncate }

@[simp] theorem truncate_truncate (state : ContainerState) :
    state.truncate.truncate = state.truncate := by
  simp [truncate, Function.comp_def]

@[simp] theorem toJson_truncate (state : ContainerState) :
    state.truncate.toJson = state.toJson := by
  simp [truncate, toJson, Function.comp_def]

end ContainerState

namespace ContainerStatus

def truncate (status : ContainerStatus) : ContainerStatus :=
  { status with
    state := status.state.map ContainerState.truncate
    lastState := status.lastState.map ContainerState.truncate }

@[simp] theorem truncate_truncate (status : ContainerStatus) :
    status.truncate.truncate = status.truncate := by
  simp [truncate, Function.comp_def]

@[simp] theorem toJson_truncate (status : ContainerStatus) :
    status.truncate.toJson = status.toJson := by
  simp [truncate, toJson, Function.comp_def]

end ContainerStatus

namespace PodStatus

def truncate (status : PodStatus) : PodStatus :=
  { status with
    startTime := status.startTime.map Instant.truncate
    conditions := status.conditions.map (·.map Condition.truncate)
    containerStatuses := status.containerStatuses.map (·.map ContainerStatus.truncate)
    initContainerStatuses := status.initContainerStatuses.map (·.map ContainerStatus.truncate)
    ephemeralContainerStatuses :=
      status.ephemeralContainerStatuses.map (·.map ContainerStatus.truncate) }

@[simp] theorem truncate_truncate (status : PodStatus) :
    status.truncate.truncate = status.truncate := by
  simp [truncate, Function.comp_def]

@[simp] theorem toJson_truncate (status : PodStatus) : status.truncate.toJson = status.toJson := by
  simp [truncate, toJson, Function.comp_def]

end PodStatus

namespace JobStatus

def truncate (status : JobStatus) : JobStatus :=
  { status with
    startTime := status.startTime.map Instant.truncate
    completionTime := status.completionTime.map Instant.truncate
    conditions := status.conditions.map (·.map Condition.truncate) }

@[simp] theorem truncate_truncate (status : JobStatus) :
    status.truncate.truncate = status.truncate := by
  simp [truncate, Function.comp_def]

@[simp] theorem toJson_truncate (status : JobStatus) : status.truncate.toJson = status.toJson := by
  simp [truncate, toJson, Function.comp_def]

end JobStatus

namespace CronJobStatus

def truncate (status : CronJobStatus) : CronJobStatus :=
  { status with
    lastScheduleTime := status.lastScheduleTime.map Instant.truncate
    lastSuccessfulTime := status.lastSuccessfulTime.map Instant.truncate }

@[simp] theorem truncate_truncate (status : CronJobStatus) :
    status.truncate.truncate = status.truncate := by
  simp [truncate, Function.comp_def]

@[simp] theorem toJson_truncate (status : CronJobStatus) :
    status.truncate.toJson = status.toJson := by
  simp [truncate, toJson, Function.comp_def]

end CronJobStatus

/-- Kinds of objects whose times lose their fraction of a second when they are written. -/
class Truncated (K : Type) [Resource K] where
  truncate : K → K
  truncate_truncate : ∀ object, truncate (truncate object) = truncate object
  metadata_truncate : ∀ object,
    Resource.metadata (truncate object) = (Resource.metadata object).truncate
  toJson_truncate : ∀ object, Resource.toJson (truncate object) = Resource.toJson object

namespace Pod

def truncate (pod : Pod) : Pod :=
  { pod with
    metadata := pod.metadata.truncate
    status := pod.status.map PodStatus.truncate }

instance : Truncated Pod where
  truncate := truncate
  truncate_truncate pod := by simp [truncate, Function.comp_def]
  metadata_truncate _ := rfl
  toJson_truncate pod := by
    simp [Resource.toJson, Resource.metadata, Resource.bodyFields, truncate, Function.comp_def]

end Pod

namespace Job

def truncate (job : Job) : Job :=
  { job with
    metadata := job.metadata.truncate
    status := job.status.map JobStatus.truncate }

instance : Truncated Job where
  truncate := truncate
  truncate_truncate job := by simp [truncate, Function.comp_def]
  metadata_truncate _ := rfl
  toJson_truncate job := by
    simp [Resource.toJson, Resource.metadata, Resource.bodyFields, truncate, Function.comp_def]

end Job

namespace CronJob

def truncate (cronJob : CronJob) : CronJob :=
  { cronJob with
    metadata := cronJob.metadata.truncate
    status := cronJob.status.map CronJobStatus.truncate }

instance : Truncated CronJob where
  truncate := truncate
  truncate_truncate cronJob := by simp [truncate, Function.comp_def]
  metadata_truncate _ := rfl
  toJson_truncate cronJob := by
    simp [Resource.toJson, Resource.metadata, Resource.bodyFields, truncate, Function.comp_def]

end CronJob

instance : (kind : Kind) → Truncated kind.Object
  | .cronJob => inferInstanceAs (Truncated CronJob)
  | .job => inferInstanceAs (Truncated Job)
  | .pod => inferInstanceAs (Truncated Pod)

end RunMonitor
