import Mathlib.Data.List.Forall2
import RunMonitor.Proofs.Summary.Reading

namespace RunMonitor

/-! The verdict goes from containers to pods, from pods to runs, and from runs to the cron job. -/

def ContainerState.IsFailure (state : ContainerState) : Prop :=
  (∃ waiting ∈ state.waiting, waiting.reason = some "CreateContainerConfigError") ∨
    ∃ terminated ∈ state.terminated, terminated.reason = some "Error"

def ContainerStatus.IsFailed (container : ContainerStatus) : Prop :=
  ∃ state ∈ container.state, state.IsFailure

def PodStatus.allContainers (status : PodStatus) : List ContainerStatus :=
  status.ephemeralContainerStatuses.getD [] ++ status.initContainerStatuses.getD [] ++
    status.containerStatuses.getD []

def Pod.HasFailedContainer (pod : Pod) : Prop :=
  ∃ status ∈ pod.status, ∃ container ∈ status.allContainers, container.IsFailed

def Job.IsPostedFailed (job : Job) : Prop := ∃ condition ∈ job.conditions, condition.type = "Failed"

namespace ContainerStatus

variable {container : ContainerStatus} {podStarted : Option Instant}

theorem isSome_waitingReason? {waiting : Waiting} :
    (container.waitingReason? podStarted waiting).isSome ↔
      waiting.reason = some "CreateContainerConfigError" := by
  rw [waitingReason?, Waiting.configError]
  split <;> simp_all

theorem isSome_terminatedReason? {terminated : Terminated} :
    (container.terminatedReason? terminated).isSome ↔ terminated.reason = some "Error" := by
  rw [terminatedReason?, Terminated.error]
  split <;> simp_all

theorem exists_isFailed_report {status : PodStatus} :
    (∃ report ∈ container.reports status, report.isFailed) ↔ container.IsFailed := by
  rw [IsFailed]
  cases hstate : container.state with
  | none => simp [reports, outcomes, hstate]
  | some state =>
      obtain ⟨waiting, running, terminated⟩ := state
      cases waiting <;> cases terminated <;>
        simp [reports, outcomes, ContainerReport.isFailed, ContainerState.IsFailure, hstate,
          isSome_waitingReason?, isSome_terminatedReason?]

end ContainerStatus

namespace PodTermination

theorem reasonsOf_ne_nil_iff {reports : List ContainerReport} :
    reasonsOf reports ≠ [] ↔ ∃ report ∈ reports, report.isFailed := by
  simp [reasonsOf, ContainerReport.isFailed, List.filterMap_eq_nil_iff, Option.isSome_iff_ne_none]

theorem reasonsOf_reports_ne_nil_iff {status : PodStatus} {containers : List ContainerStatus} :
    reasonsOf (containers.flatMap (ContainerStatus.reports status)) ≠ [] ↔
      ∃ container ∈ containers, container.IsFailed := by
  rw [reasonsOf_ne_nil_iff]
  constructor
  · intro given
    obtain ⟨report, member, hreport⟩ := given
    obtain ⟨container, hcontainer, member⟩ := List.mem_flatMap.mp member
    exact ⟨container, hcontainer,
      ContainerStatus.exists_isFailed_report.mp ⟨report, member, hreport⟩⟩
  · intro given
    obtain ⟨container, hcontainer, hfailed⟩ := given
    obtain ⟨report, member, hreport⟩ := ContainerStatus.exists_isFailed_report.mpr hfailed
    exact ⟨report, List.mem_flatMap.mpr ⟨container, hcontainer, member⟩, hreport⟩

theorem isFailed_iff {termination : PodTermination} :
    termination.isFailed ↔ termination.reasons ≠ [] := by
  simp [isFailed]

theorem isFailed_ofPod {pod : Pod} : (ofPod pod).isFailed ↔ pod.HasFailedContainer := by
  rw [isFailed_iff, Pod.HasFailedContainer, ofPod]
  cases pod.status with
  | none => simp
  | some status =>
      -- the reasons of the three groups are listed one after the other
      simp only [ofGroups, reportGroups, ContainerGroups.mapGroups, ne_eq, List.append_eq_nil_iff,
        Classical.not_and_iff_not_or_not, reasonsOf_reports_ne_nil_iff]
      simp [PodStatus.allContainers, or_and_right, exists_or, or_assoc]

end PodTermination

theorem PodSummary.failed_ofPod {pod : Pod} : (ofPod pod).failed ↔ pod.HasFailedContainer :=
  PodTermination.isFailed_ofPod

theorem PodSummary.failed_iff_of_ofPod (pod : Pod) :
    (ofPod pod).failed ↔ (ofPod pod).terminationReasons ≠ [] :=
  PodTermination.isFailed_iff

theorem Job.isSome_failureCondition (job : Job) (pods : List PodSummary) :
    (job.failureState pods).failureCondition.isSome ↔ job.IsPostedFailed := by
  rw [failureState, List.find?_isSome]
  exact exists_congr fun condition => and_congr_right fun _ => decide_eq_true_iff

namespace JobSummary

variable {job : Job} {pods : List Pod} {now : Instant}

theorem failed_ofJob :
    (ofJob job pods now).failed ↔ job.IsPostedFailed ∨ ∃ pod ∈ pods, pod.HasFailedContainer := by
  have h : (ofJob job pods now).failed =
      ((job.failureState (pods.map PodSummary.ofPod)).failureCondition.isSome ||
        (pods.map PodSummary.ofPod).any PodSummary.failed) := rfl
  rw [h, Bool.or_eq_true, Job.isSome_failureCondition]
  simp [PodSummary.failed_ofPod]

theorem terminationReasons_ofJob_ne_nil_iff :
    (ofJob job pods now).terminationReasons ≠ [] ↔ ∃ pod ∈ pods, pod.HasFailedContainer := by
  simp [ofJob, ← PodSummary.failed_ofPod, PodSummary.failed_iff_of_ofPod]

/-- How the verdict on a run is accounted for. -/
structure Explains (job : Job) (run : JobSummary) : Prop where
  conditions : run.conditions = job.conditions
  failureReason : run.failureReason = run.conditions.find? (·.type = "Failed")
  unposted : run.failed → run.failureReason = none → run.terminationReasons ≠ []
  sound : ¬ run.failed → run.terminationReasons = [] ∧ ∀ pod ∈ run.pods, ¬ pod.failed

theorem explains_ofJob (job : Job) (pods : List Pod) (now : Instant) :
    Explains job (ofJob job pods now) := by
  refine ⟨rfl, rfl, fun hfailed hnone => ?_, fun hnot => ?_⟩
  · refine terminationReasons_ofJob_ne_nil_iff.mpr ((failed_ofJob.mp hfailed).resolve_left ?_)
    intro hposted
    have hsome : (ofJob job pods now).failureReason.isSome :=
      (job.isSome_failureCondition (pods.map PodSummary.ofPod)).mpr hposted
    rw [hnone] at hsome
    cases hsome
  · rw [failed_ofJob, not_or] at hnot
    refine ⟨?_, ?_⟩
    · exact not_not.mp (terminationReasons_ofJob_ne_nil_iff.not.mpr hnot.2)
    · intro pod member hfailed
      obtain ⟨original, horiginal, rfl⟩ := List.mem_map.mp member
      exact hnot.2 ⟨original, horiginal, PodSummary.failed_ofPod.mp hfailed⟩

end JobSummary

namespace CronJobSummary

theorem failed_assemble {cronJob : CronJob} {runs : List JobSummary} :
    (assemble cronJob runs).failed ↔ ∃ run ∈ runs, run.failed := by
  simp [assemble, JobSummary.sortByCreation]

/-- What the summary of a cron job says about the failures of its runs. -/
structure Accounts (t : Int) (store : Store Unit) (jobs : List Job) (summary : CronJobSummary) :
    Prop where
  failed_iff : summary.failed ↔ ∃ job ∈ jobs, job.IsPostedFailed ∨
    ∃ pods, ((Collection.podsOf job).run t store).1 = .ok pods ∧
      ∃ pod ∈ pods, pod.HasFailedContainer
  runs : ∃ runs, List.Forall₂ JobSummary.Explains jobs runs ∧ summary.allRuns.Perm runs

theorem accounts_read (now : Instant) (cronJob : CronJob) (jobs : List Job) (t : Int)
    (store : Store Unit) :
    ∃ summary, (CronJobSummary.read now cronJob jobs).run t store = (.ok summary, store) ∧
      summary.Accounts t store jobs := by
  refine ⟨_, run_read now t store cronJob jobs, ?_, jobs.map (store.rows.runSummary t now), ?_, ?_⟩
  · rw [failed_assemble]
    simp [Rows.runSummary, JobSummary.failed_ofJob, Collection.run_podsOf]
  · rw [List.forall₂_map_right_iff, List.forall₂_same]
    exact fun job _ => JobSummary.explains_ofJob job _ now
  · exact List.mergeSort_perm _ _

end CronJobSummary
end RunMonitor
