import RunMonitor.Proofs.Summary.Reading

namespace RunMonitor

/-! A run that is known to have failed from its pods alone has no end, and grows older. -/

/-- When it was posted that the run has failed, or else when it completed. -/
def Job.endedAt? (job : Job) : Option Instant :=
  ((job.conditions.find? fun c => c.type = Condition.failedType).bind
    Condition.lastTransitionTime).or job.completionTime?

def Job.IsOpen (job : Job) : Prop := job.startTime?.isSome ∧ job.endedAt? = none

def Job.isActive (job : Job) : Bool := 0 < (job.status.getD {}).active.getD 0

/-- Completed, or failed with nothing left running. -/
def Job.isDone (job : Job) (pods : List Pod) : Bool :=
  job.completionTime?.isSome ||
    ((job.failureState (pods.map PodSummary.ofPod)).failed && !job.isActive)

def Job.createdAt? (job : Job) : Option Instant :=
  Instant.ofRfc3339? (Instant.orEmpty job.metadata.creationTimestamp)

def Job.sortByCreation (jobs : List Job) : List Job :=
  jobs.mergeSort fun a b => Instant.absentFirst a.createdAt? b.createdAt?

theorem Rows.sortByCreation_runSummary (rows : Rows) (t : Int) (now : Instant) (jobs : List Job) :
    JobSummary.sortByCreation (jobs.map (rows.runSummary t now)) =
      (Job.sortByCreation jobs).map (rows.runSummary t now) :=
  (List.map_mergeSort (f := rows.runSummary t now) fun _ _ _ _ => rfl).symm

def beforeLast? {α : Type} (items : List α) : Option α :=
  match items.reverse with
  | [] => none
  | [only] => some only
  | _ :: previous :: _ => some previous

theorem beforeLast?_map {α β : Type} (f : α → β) (items : List α) :
    beforeLast? (items.map f) = (beforeLast? items).map f := by
  unfold beforeLast?
  rw [← List.map_reverse]
  rcases items.reverse with _ | ⟨last, _ | ⟨previous, rest⟩⟩ <;> rfl

def Rows.counted? (rows : Rows) (t : Int) (jobs : List Job) : Option Job :=
  beforeLast? ((Job.sortByCreation jobs).filter fun job => job.isDone (rows.podsOf t job))

theorem Rows.counted?_singleton {rows : Rows} {t : Int} {job : Job}
    (h : job.isDone (rows.podsOf t job) = true) : rows.counted? t [job] = some job := by
  simp [counted?, Job.sortByCreation, beforeLast?, h]

theorem Instant.seconds_since_self (t : Instant) : (t.since t).seconds = 0 := by
  simp [since, Span.seconds]

theorem Instant.seconds_since_day_before (t : Instant) :
    (Instant.since ⟨t.seconds + 86400, t.nanos⟩ t).seconds = 86400 := by
  have hday : Instant.secondOfDay ⟨t.seconds + 86400, t.nanos⟩ = t.secondOfDay := by
    simp [secondOfDay]
  have hspan : t.seconds + 86400 - t.seconds = 86400 := by omega
  simp [since, Span.seconds, hday, hspan]

theorem Job.failed_of_failureCondition {job : Job} {pods : List PodSummary}
    (h : (job.failureState pods).failureCondition.isSome) :
    (job.failureState pods).failed = true :=
  Bool.or_eq_true_iff.mpr (.inl h)

theorem Job.duration_failureState (job : Job) (pods : List PodSummary) (now : Instant) :
    job.duration (job.failureState pods).failed (job.failureState pods).failureCondition now =
      (job.startTime?.map fun started => (job.endedAt?.getD now).since started).getD Span.zero := by
  have hended : job.endedAt? = ((job.failureState pods).failureCondition.bind
      Condition.lastTransitionTime).or job.completionTime? := rfl
  rw [duration, hended]
  cases hposted : (job.failureState pods).failureCondition with
  | none => cases job.startTime? <;> simp
  | some condition =>
      have hfailed : (job.failureState pods).failed = true :=
        failed_of_failureCondition (by rw [hposted]; rfl)
      rw [hfailed]
      cases job.startTime? <;> rfl

namespace JobSummary

variable {job : Job} {pods : List Pod}

theorem durationSeconds_ofJob (now : Instant) :
    (ofJob job pods now).durationSeconds =
      (job.startTime?.map fun started =>
        ((job.endedAt?.getD now).since started).seconds).getD 0 := by
  have heq : (ofJob job pods now).durationSeconds =
      (job.duration (job.failureState (pods.map PodSummary.ofPod)).failed
        (job.failureState (pods.map PodSummary.ofPod)).failureCondition now).seconds := rfl
  rw [heq, Job.duration_failureState]
  cases job.startTime? <;> rfl

theorem isCompleted_ofJob (now : Instant) : (ofJob job pods now).isCompleted = job.isDone pods := by
  have hcompletion : (ofJob job pods now).completionTime = job.completionTime? := by
    unfold ofJob Job.completionTime?
    cases job.status <;> rfl
  rw [isCompleted, hcompletion]
  rfl

theorem durationSeconds_of_not_isOpen (h : ¬ job.IsOpen) (now now' : Instant) :
    (ofJob job pods now).durationSeconds = (ofJob job pods now').durationSeconds := by
  rw [durationSeconds_ofJob, durationSeconds_ofJob]
  cases hstarted : job.startTime? with
  | none => rfl
  | some started =>
      cases hended : job.endedAt? with
      | none => exact absurd ⟨by rw [hstarted]; rfl, hended⟩ h
      | some ended => rfl

theorem exists_durationSeconds_ne (h : job.IsOpen) :
    ∃ now now', (ofJob job pods now).durationSeconds ≠ (ofJob job pods now').durationSeconds := by
  obtain ⟨hstarted, hended⟩ := h
  obtain ⟨started, hstarted⟩ := Option.isSome_iff_exists.mp hstarted
  refine ⟨started, ⟨started.seconds + 86400, started.nanos⟩, ?_⟩
  rw [durationSeconds_ofJob, durationSeconds_ofJob, hstarted, hended]
  simp only [Option.map_some, Option.getD_some, Option.getD_none, Instant.seconds_since_self,
    Instant.seconds_since_day_before]
  decide

theorem lastDuration_eq (runs : List JobSummary) :
    lastDuration runs =
      ((beforeLast? (runs.filter isCompleted)).map durationSeconds).getD 0 := by
  unfold lastDuration beforeLast?
  rcases (runs.filter isCompleted).reverse with _ | ⟨last, _ | ⟨previous, rest⟩⟩ <;> rfl

end JobSummary

namespace CronJobSummary

theorem lastDuration_assemble (cronJob : CronJob) (jobs : List Job) (rows : Rows) (t : Int)
    (now : Instant) :
    (assemble cronJob (jobs.map (rows.runSummary t now))).lastDuration =
      ((rows.counted? t jobs).map fun job =>
        (rows.runSummary t now job).durationSeconds).getD 0 := by
  have hdone : JobSummary.isCompleted ∘ rows.runSummary t now =
      fun job => job.isDone (rows.podsOf t job) :=
    funext fun _ => JobSummary.isCompleted_ofJob now
  change JobSummary.lastDuration (JobSummary.sortByCreation _) = _
  rw [rows.sortByCreation_runSummary, JobSummary.lastDuration_eq, List.filter_map, beforeLast?_map,
    hdone, Option.map_map]
  rfl

/-- The last duration does not depend on when the summary is drawn up. -/
def IsSteady (cronJob : CronJob) (jobs : List Job) (t : Int) (store : Store Unit) : Prop :=
  ∀ now now' : Instant, ∃ summary summary',
    (read now cronJob jobs).run t store = (.ok summary, store) ∧
    (read now' cronJob jobs).run t store = (.ok summary', store) ∧
    summary.lastDuration = summary'.lastDuration

theorem not_isSteady_of_isOpen {cronJob : CronJob} {jobs : List Job} {t : Int} {store : Store Unit}
    {job : Job} (hcounted : store.rows.counted? t jobs = some job) (hopen : job.IsOpen) :
    ¬ IsSteady cronJob jobs t store := by
  intro hsteady
  obtain ⟨now, now', hne⟩ := JobSummary.exists_durationSeconds_ne hopen
  obtain ⟨summary, summary', hsummary, hsummary', heq⟩ := hsteady now now'
  rw [run_read] at hsummary hsummary'
  cases hsummary
  cases hsummary'
  rw [lastDuration_assemble, lastDuration_assemble, hcounted] at heq
  exact hne heq

/-- The last duration does not move with the present exactly if the run that counts has an end, or
has never begun. -/
theorem isSteady_iff (cronJob : CronJob) (jobs : List Job) (t : Int) (store : Store Unit) :
    IsSteady cronJob jobs t store ↔
      ∀ job, store.rows.counted? t jobs = some job → ¬ job.IsOpen := by
  constructor
  · intro hsteady job hcounted hopen
    exact not_isSteady_of_isOpen hcounted hopen hsteady
  · intro hclosed now now'
    refine ⟨_, _, run_read now t store cronJob jobs, run_read now' t store cronJob jobs, ?_⟩
    rw [lastDuration_assemble, lastDuration_assemble]
    cases hcounted : store.rows.counted? t jobs with
    | none => rfl
    | some job => exact JobSummary.durationSeconds_of_not_isOpen (hclosed job hcounted) now now'

section Crash

def crashedJob : Job where
  metadata := { name := some "nightly-1", ns := some "default" }
  status := some { startTime := some ⟨1709258400, 0⟩, failed := some 1 }

def crashedPod : Pod where
  metadata := {
    name := some "nightly-1-x"
    ns := some "default"
    ownerReferences := some [{ kind := "Job", name := "nightly-1" }] }
  status := some {
    startTime := some ⟨1709258401, 0⟩
    containerStatuses := some [{
      name := "main"
      state := some { terminated := some {
        exitCode := 1
        reason := some "Error"
        finishedAt := some ⟨1709258410, 0⟩ } } }] }

def crashStore : Store Unit where
  rows := SortedMap.empty.insert (Key.podsOf "default" "nightly-1")
    ⟨Resource.encodeAll [crashedPod], none⟩
  gate := ()

theorem podsOf_crashStore : crashStore.rows.podsOf 0 crashedJob = [crashedPod] := by
  have hstorable : ∀ pod ∈ [crashedPod], Resource.Storable pod := by decide +kernel
  have hcollection : crashStore.rows.podCollection 0 crashedJob = [crashedPod] :=
    Rows.podCollection_insert hstorable SortedMap.empty 0 crashedJob
  rw [Rows.podsOf_eq, hcollection]
  decide +kernel

/-- The only pod of a job has failed and nothing has been posted on the job. It counts as completed,
and its duration grows on. -/
theorem not_isSteady_of_crash :
    ¬ ∀ (cronJob : CronJob) (jobs : List Job) (t : Int) (store : Store Unit),
      IsSteady cronJob jobs t store := by
  intro hall
  have hdone : crashedJob.isDone (crashStore.rows.podsOf 0 crashedJob) = true := by
    rw [podsOf_crashStore]
    decide +kernel
  exact not_isSteady_of_isOpen (Rows.counted?_singleton hdone) ⟨rfl, rfl⟩
    (hall {} [crashedJob] 0 crashStore)

end Crash

end CronJobSummary
end RunMonitor
