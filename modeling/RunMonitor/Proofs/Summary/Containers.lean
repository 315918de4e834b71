import Mathlib.Data.List.Forall2
import Mathlib.Data.List.Induction
import RunMonitor.Proofs.Summary.Failure

namespace RunMonitor

inductive Stop where
  | waiting (state : Waiting)
  | terminated (state : Terminated)

inductive ContainerKind where
  | init
  | main
  | ephemeral

theorem ContainerKind.forall_iff {p : ContainerKind → Prop} :
    (∀ kind, p kind) ↔ p .ephemeral ∧ p .init ∧ p .main := by
  constructor
  · exact fun h => ⟨h _, h _, h _⟩
  · intro h kind
    cases kind
    case init => exact h.2.1
    case main => exact h.2.2
    case ephemeral => exact h.1

def ContainerGroups.ofKind {α : Type} (groups : ContainerGroups α) : ContainerKind → List α
  | .init => groups.initContainers
  | .main => groups.containers
  | .ephemeral => groups.ephemeralContainers

namespace Stop

def reason? : Stop → Option String
  | .waiting state => state.reason
  | .terminated state => state.reason

def message? : Stop → Option String
  | .waiting state => state.message
  | .terminated state => state.message

def exitCode? : Stop → Option Int
  | .waiting _ => none
  | .terminated state => some state.exitCode

def finishedAt? (podStarted : Option Instant) : Stop → Option Instant
  | .waiting _ => podStarted
  | .terminated state => state.finishedAt

/-- It waits for a configuration that can never be resolved, or its program exited in error. -/
def IsFailure : Stop → Prop
  | .waiting state => state.reason = some "CreateContainerConfigError"
  | .terminated state => state.reason = some "Error"

end Stop

namespace ContainerStatus

/-- A container that waits to be restarted may still show how it terminated before. -/
def stops (container : ContainerStatus) : List Stop :=
  match container.state with
  | none => []
  | some state =>
      (state.waiting.map .waiting).toList ++ (state.terminated.map .terminated).toList

def allStops (containers : List ContainerStatus) : List (ContainerStatus × Stop) :=
  containers.flatMap fun container => container.stops.map fun stop => (container, stop)

end ContainerStatus

namespace ContainerReport

structure IsOn (pod : PodStatus) (report : ContainerReport) (container : ContainerStatus)
    (stop : Stop) : Prop where
  name : report.name = container.name
  phase : report.phase = pod.phase.getD ""
  state : report.state = container.state
  podConditions : report.podConditions = pod.conditions.getD []
  failed_iff : report.terminationReason.isSome ↔ stop.IsFailure
  reason : ∀ reason ∈ report.terminationReason,
    reason = ⟨container.name, stop.reason?, stop.message?, stop.exitCode?,
      stop.finishedAt? pod.startTime⟩

end ContainerReport

namespace ContainerStatus

variable {pod : PodStatus} {container : ContainerStatus}

def report (pod : PodStatus) (container : ContainerStatus) (outcome : Option TerminationReason) :
    ContainerReport :=
  ⟨container.name, pod.phase.getD "", container.state, pod.conditions.getD [], outcome⟩

theorem isOn_waiting (waiting : Waiting) :
    (container.report pod (container.waitingReason? pod.startTime waiting)).IsOn pod container
      (.waiting waiting) := by
  refine ⟨rfl, rfl, rfl, rfl, isSome_waitingReason?, fun reason hreason => ?_⟩
  simp only [report, waitingReason?, Option.mem_ite_none_right, Option.mem_some] at hreason
  exact hreason.2.symm

theorem isOn_terminated (terminated : Terminated) :
    (container.report pod (container.terminatedReason? terminated)).IsOn pod container
      (.terminated terminated) := by
  refine ⟨rfl, rfl, rfl, rfl, isSome_terminatedReason?, fun reason hreason => ?_⟩
  simp only [report, terminatedReason?, Option.mem_ite_none_right, Option.mem_some] at hreason
  exact hreason.2.symm

theorem forall₂_reports (pod : PodStatus) (container : ContainerStatus) :
    List.Forall₂ (fun report stop => report.IsOn pod container stop) (container.reports pod)
      container.stops := by
  refine List.forall₂_map_left_iff.mpr ?_
  change List.Forall₂ (fun outcome stop => (container.report pod outcome).IsOn pod container stop)
    (container.outcomes pod.startTime) container.stops
  unfold outcomes stops
  cases container.state with
  | none => exact .nil
  | some state =>
      obtain ⟨waiting, running, terminated⟩ := state
      cases waiting <;> cases terminated
      case none.none => exact .nil
      case none.some terminated => exact .cons (isOn_terminated terminated) .nil
      case some.none waiting => exact .cons (isOn_waiting waiting) .nil
      case some.some waiting terminated =>
        exact .cons (isOn_waiting waiting) (.cons (isOn_terminated terminated) .nil)

theorem forall₂_flatMap_reports (pod : PodStatus) (containers : List ContainerStatus) :
    List.Forall₂ (fun report source => report.IsOn pod source.1 source.2)
      (containers.flatMap (reports pod)) (allStops containers) := by
  induction containers with
  | nil => exact .nil
  | cons container rest ih =>
      have hfirst : List.Forall₂ (fun report source => report.IsOn pod source.1 source.2)
          (container.reports pod) (container.stops.map fun stop => (container, stop)) :=
        List.forall₂_map_right_iff.mpr (forall₂_reports pod container)
      exact List.rel_append hfirst ih

def FinishedAt (container : ContainerStatus) (t : Instant) : Prop :=
  ∃ state ∈ container.state, ∃ terminated ∈ state.terminated, terminated.finishedAt = some t

theorem exists_report_finishedAt (pod : PodStatus) {t : Instant} :
    (∃ report ∈ container.reports pod, report.finishedAt? = some t) ↔ container.FinishedAt t := by
  rw [FinishedAt]
  cases hstate : container.state with
  | none => simp [reports, outcomes, hstate]
  | some state =>
      obtain ⟨waiting, running, terminated⟩ := state
      cases waiting <;> cases terminated <;>
        simp [reports, outcomes, hstate, ContainerReport.finishedAt?]

end ContainerStatus

namespace PodTermination

theorem ofPod_eq (pod : Pod) : ofPod pod = ofGroups (reportGroups (pod.status.getD {})) := by
  unfold ofPod
  cases pod.status <;> rfl

theorem map_some_reasonsOf (reports : List ContainerReport) :
    (reasonsOf reports).map some =
      (reports.filter ContainerReport.isFailed).map ContainerReport.terminationReason := by
  rw [reasonsOf, List.map_filterMap_some_eq_filter_map_isSome, List.filter_map]
  rfl

end PodTermination

theorem Instant.le_antisymm {a b : Instant} (hab : a ≤ b) (hba : b ≤ a) : a = b := by
  obtain ⟨seconds, nanos⟩ := a
  obtain ⟨seconds', nanos'⟩ := b
  simp only [le_def] at hab hba
  rw [mk.injEq]
  omega

theorem Instant.le_later (a b : Instant) : a ≤ a.later b ∧ b ≤ a.later b := by
  unfold later
  split
  case isTrue hle => exact ⟨hle, le_refl b⟩
  case isFalse hnot => exact ⟨le_refl a, (le_total a b).resolve_left hnot⟩

theorem Instant.later_eq_or (a b : Instant) : a.later b = a ∨ a.later b = b := by
  unfold later
  split
  · exact .inr rfl
  · exact .inl rfl

namespace PodSummary

theorem latest_concat (times : List Instant) (t : Instant) :
    latest (times ++ [t]) = some ((latest times).elim t (·.later t)) := by
  rw [latest, List.foldl_append]
  rfl

theorem latest_eq_none_iff {times : List Instant} : latest times = none ↔ times = [] := by
  induction times using List.reverseRecOn with
  | nil => exact iff_of_true rfl rfl
  | append_singleton times t ih => simp [latest_concat]

theorem mem_of_latest {times : List Instant} {last : Instant} (h : latest times = some last) :
    last ∈ times := by
  induction times using List.reverseRecOn generalizing last with
  | nil => cases h
  | append_singleton times t ih =>
      obtain rfl := Option.some.inj ((latest_concat times t).symm.trans h)
      cases hinit : latest times with
      | none => exact List.mem_append_right _ List.mem_cons_self
      | some known =>
          rcases known.later_eq_or t with heq | heq <;> rw [Option.elim_some, heq]
          · exact List.mem_append_left _ (ih hinit)
          · exact List.mem_append_right _ List.mem_cons_self

theorem le_of_latest {times : List Instant} {last t : Instant} (h : latest times = some last)
    (member : t ∈ times) : t ≤ last := by
  induction times using List.reverseRecOn generalizing last with
  | nil => cases h
  | append_singleton times later ih =>
      obtain rfl := Option.some.inj ((latest_concat times later).symm.trans h)
      cases hinit : latest times with
      | none =>
          obtain rfl := latest_eq_none_iff.mp hinit
          exact List.mem_singleton.mp member ▸ Instant.le_refl later
      | some known =>
          obtain ⟨hknown, hlater⟩ := known.le_later later
          rcases List.mem_append.mp member with member | member
          · exact Instant.le_trans (ih hinit member) hknown
          · exact List.mem_singleton.mp member ▸ hlater

theorem latest_eq_some_iff {times : List Instant} {last : Instant} :
    latest times = some last ↔ last ∈ times ∧ ∀ t ∈ times, t ≤ last := by
  constructor
  · exact fun h => ⟨mem_of_latest h, fun t => le_of_latest h⟩
  · intro given
    obtain ⟨member, hle⟩ := given
    cases hlatest : latest times with
    | none =>
        rw [latest_eq_none_iff.mp hlatest] at member
        cases member
    | some known =>
        have hknown := hle known (mem_of_latest hlatest)
        exact congrArg some (Instant.le_antisymm hknown (le_of_latest hlatest member))

end PodSummary

def Pod.containers (pod : Pod) (kind : ContainerKind) : List ContainerStatus :=
  let status := pod.status.getD {}
  match kind with
  | .init => status.initContainerStatuses.getD []
  | .main => status.containerStatuses.getD []
  | .ephemeral => status.ephemeralContainerStatuses.getD []

def Pod.HasMainFinishedAt (pod : Pod) (t : Instant) : Prop :=
  ∃ container ∈ pod.containers .main, container.FinishedAt t

namespace PodSummary

/-- What a summary says of the containers of a pod. -/
structure Covers (pod : Pod) (summary : PodSummary) : Prop where
  terminated : ∀ kind, List.Forall₂
    (fun report source => report.IsOn (pod.status.getD {}) source.1 source.2)
    (summary.terminatedContainers.ofKind kind) (ContainerStatus.allStops (pod.containers kind))
  failed : ∀ kind, summary.failedContainers.ofKind kind =
    (summary.terminatedContainers.ofKind kind).filter fun report => report.terminationReason.isSome
  reasons : summary.terminationReasons.map some =
    (summary.failedContainers.ofKind .ephemeral ++ summary.failedContainers.ofKind .init ++
      summary.failedContainers.ofKind .main).map ContainerReport.terminationReason
  length_reasons : summary.terminationReasons.length =
    (summary.failedContainers.ofKind .ephemeral).length +
      (summary.failedContainers.ofKind .init).length +
      (summary.failedContainers.ofKind .main).length
  failed_iff : summary.failed ↔ ∃ kind, summary.failedContainers.ofKind kind ≠ []
  finishedAt_eq_some : ∀ t, summary.finishedAt = some t ↔
    pod.HasMainFinishedAt t ∧ ∀ other, pod.HasMainFinishedAt other → other ≤ t
  finishedAt_eq_none : summary.finishedAt = none ↔ ∀ t, ¬ pod.HasMainFinishedAt t

variable (pod : Pod)

theorem terminatedContainers_ofPod (kind : ContainerKind) :
    (ofPod pod).terminatedContainers.ofKind kind =
      (pod.containers kind).flatMap (ContainerStatus.reports (pod.status.getD {})) := by
  change (PodTermination.ofPod pod).terminated.ofKind kind = _
  rw [PodTermination.ofPod_eq]
  cases kind <;> rfl

theorem failedContainers_ofPod (kind : ContainerKind) :
    (ofPod pod).failedContainers.ofKind kind =
      ((ofPod pod).terminatedContainers.ofKind kind).filter ContainerReport.isFailed := by
  change (PodTermination.ofPod pod).failed.ofKind kind =
    ((PodTermination.ofPod pod).terminated.ofKind kind).filter _
  rw [PodTermination.ofPod_eq]
  cases kind <;> rfl

theorem terminationReasons_ofPod :
    (ofPod pod).terminationReasons.map some =
      ((ofPod pod).failedContainers.ofKind .ephemeral ++
        (ofPod pod).failedContainers.ofKind .init ++
          (ofPod pod).failedContainers.ofKind .main).map ContainerReport.terminationReason := by
  change (PodTermination.ofPod pod).reasons.map some =
    ((PodTermination.ofPod pod).failed.ofKind .ephemeral ++
      (PodTermination.ofPod pod).failed.ofKind .init ++
        (PodTermination.ofPod pod).failed.ofKind .main).map _
  simp only [PodTermination.ofPod_eq, PodTermination.ofGroups, List.map_append,
    PodTermination.map_some_reasonsOf]
  rfl

theorem terminationReasons_ofPod_eq_nil_iff :
    (ofPod pod).terminationReasons = [] ↔
      ∀ kind, (ofPod pod).failedContainers.ofKind kind = [] := by
  rw [← List.map_eq_nil_iff (f := some), terminationReasons_ofPod, List.map_eq_nil_iff,
    ContainerKind.forall_iff, List.append_eq_nil_iff, List.append_eq_nil_iff, and_assoc]

theorem mem_finishTimes_ofPod {t : Instant} :
    t ∈ ((ofPod pod).terminatedContainers.ofKind .main).filterMap ContainerReport.finishedAt? ↔
      pod.HasMainFinishedAt t := by
  rw [List.mem_filterMap, terminatedContainers_ofPod, Pod.HasMainFinishedAt]
  simp only [List.mem_flatMap, ← ContainerStatus.exists_report_finishedAt (pod.status.getD {})]
  constructor
  · intro given
    obtain ⟨report, ⟨container, hcontainer, hreport⟩, ht⟩ := given
    exact ⟨container, hcontainer, report, hreport, ht⟩
  · intro given
    obtain ⟨container, hcontainer, report, hreport, ht⟩ := given
    exact ⟨report, ⟨container, hcontainer, hreport⟩, ht⟩

theorem covers_ofPod (pod : Pod) : (ofPod pod).Covers pod := by
  have hreasons := terminationReasons_ofPod pod
  have hlength := congrArg List.length hreasons
  simp only [List.length_map, List.length_append] at hlength
  have hfinished : (ofPod pod).finishedAt = latest
      (((ofPod pod).terminatedContainers.ofKind .main).filterMap ContainerReport.finishedAt?) := rfl
  constructor
  case terminated =>
    intro kind
    rw [terminatedContainers_ofPod]
    exact ContainerStatus.forall₂_flatMap_reports _ _
  case failed => exact failedContainers_ofPod pod
  case reasons => exact hreasons
  case length_reasons => exact hlength
  case failed_iff =>
    rw [failed_iff_of_ofPod, ne_eq, terminationReasons_ofPod_eq_nil_iff, not_forall]
  case finishedAt_eq_some =>
    intro t
    rw [hfinished, latest_eq_some_iff]
    simp only [mem_finishTimes_ofPod]
  case finishedAt_eq_none =>
    rw [hfinished, latest_eq_none_iff, List.eq_nil_iff_forall_not_mem]
    simp only [mem_finishTimes_ofPod]

end PodSummary
end RunMonitor
