import RunMonitor.Proofs.Cache.Selection
import RunMonitor.Proofs.Json.Fields
import RunMonitor.Proofs.StableOrder
import RunMonitor.Proofs.Summary.Duration

namespace RunMonitor

/-! A run is placed by the text of its creation time. -/

theorem Instant.absentFirst_antisymm {a b : Option Instant} (hab : absentFirst a b)
    (hba : absentFirst b a) : a = b := by
  cases a with
  | none => cases b with
    | none => rfl
    | some b => cases hba
  | some a => cases b with
    | none => cases hab
    | some b =>
        obtain ⟨seconds, nanos⟩ := a
        obtain ⟨seconds', nanos'⟩ := b
        simp only [absentFirst, decide_eq_true_eq, le_def] at hab hba
        have hseconds : seconds = seconds' := by omega
        have hnanos : nanos = nanos' := by omega
        rw [hseconds, hnanos]

namespace Job

def createdSecond? (job : Job) : Option Instant :=
  job.metadata.creationTimestamp.map Instant.truncate

/-- If it has a creation time, then one whose year has four digits. -/
def IsDatable (job : Job) : Prop :=
  ∀ created ∈ job.metadata.creationTimestamp,
    created.IsProper ∧ 0 ≤ created.date.year ∧ created.date.year ≤ 9999

instance (job : Job) : Decidable job.IsDatable :=
  inferInstanceAs (Decidable (∀ created ∈ job.metadata.creationTimestamp, _ ∧ _))

theorem createdAt?_eq {job : Job} (h : job.IsDatable) : job.createdAt? = job.createdSecond? := by
  unfold createdAt? createdSecond?
  cases hcreated : job.metadata.creationTimestamp with
  | none => rfl
  | some created =>
      obtain ⟨hproper, hyear⟩ := h created hcreated
      exact Instant.ofRfc3339?_wholeText hyear hproper

theorem stableOrder_sortByCreation {jobs : List Job} (h : ∀ job ∈ jobs, job.IsDatable) :
    StableOrder createdSecond? Instant.absentFirst jobs (sortByCreation jobs) :=
  (stableOrder_mergeSort createdAt? Instant.absentFirst
    (fun _ _ _ => Instant.absentFirst_trans) Instant.absentFirst_total jobs).congr
    fun job member => createdAt?_eq (h job member)

theorem sortByCreation_eq_of_perm {jobs others : List Job} (hperm : jobs.Perm others)
    (h : ∀ job ∈ jobs, job.IsDatable) (distinct : (jobs.map createdSecond?).Nodup) :
    sortByCreation jobs = sortByCreation others :=
  (stableOrder_sortByCreation h).eq_of_perm
    (stableOrder_sortByCreation fun job member => h job (hperm.mem_iff.mpr member))
    (fun _ _ => Instant.absentFirst_antisymm) hperm distinct

end Job

theorem Metadata.isProper_of_ofJson? {json : Json} {metadata : Metadata}
    (h : Metadata.ofJson? json = some metadata) {created : Instant}
    (hcreated : metadata.creationTimestamp = some created) : created.IsProper := by
  simp only [Metadata.ofJson?, Option.bind_eq_bind, Option.bind_eq_some_iff] at h
  obtain ⟨fields, -, _, -, _, -, _, -, _, -, _, -, _, -, time, htime, _, -, _, -, _, -, heq⟩ := h
  obtain rfl := Option.some.inj heq
  obtain rfl : time = some created := hcreated
  obtain ⟨json, hjson⟩ := Json.exists_of_optional? htime
  obtain ⟨text, -, htext⟩ := Option.bind_eq_some_iff.mp hjson
  exact (Instant.isReadable_of_ofText? htext).proper

theorem Job.isDatable_of_ofJson? {json : Json} {job : Job} (h : Resource.ofJson? json = some job)
    (hyear : ∀ created ∈ job.metadata.creationTimestamp,
      0 ≤ created.date.year ∧ created.date.year ≤ 9999) : job.IsDatable := by
  intro created hcreated
  refine ⟨?_, hyear created hcreated⟩
  simp only [Resource.ofJson?, Resource.ofFields?, Json.orDefault?, Option.bind_eq_bind,
    Option.bind_eq_some_iff] at h
  obtain ⟨fields, -, -, -, -, -, metadata, ⟨read?, hread, hmetadata⟩, _, -, _, -, heq⟩ := h
  obtain rfl := Option.some.inj heq
  cases read? with
  | none =>
      cases hmetadata
      cases hcreated
  | some read =>
      obtain rfl : read = metadata := Option.some.inj hmetadata
      obtain ⟨json, hjson⟩ := Json.exists_of_optional? hread
      exact Metadata.isProper_of_ofJson? hjson hcreated

namespace Rows

variable {rows rows' : Rows} {t : Int} {jobs others : List Job}

def SamePods (rows rows' : Rows) (t : Int) (jobs : List Job) : Prop :=
  ∀ job ∈ jobs, (rows.podCollection t job).Perm (rows'.podCollection t job)

/-- No two pods that could be a job's share a name. -/
def HasDistinctPods (rows : Rows) (t : Int) (jobs : List Job) : Prop :=
  ∀ job ∈ jobs,
    (Pod.candidates job.metadata.displayName (rows.podCollection t job)).Pairwise fun a b =>
      a.metadata.displayName ≠ b.metadata.displayName

theorem runSummary_eq_of_samePods (hsame : rows.SamePods rows' t jobs)
    (hdistinct : rows.HasDistinctPods t jobs) (now : Instant) {job : Job} (member : job ∈ jobs) :
    rows.runSummary t now job = rows'.runSummary t now job := by
  have hpods : rows.podsOf t job = rows'.podsOf t job :=
    Pod.newestOwned_eq_of_perm (hsame job member) (hdistinct job member)
  rw [runSummary, hpods, runSummary]

theorem sortByCreation_eq_of_samePods (hperm : jobs.Perm others)
    (hdatable : ∀ job ∈ jobs, job.IsDatable) (hcreated : (jobs.map Job.createdSecond?).Nodup)
    (hsame : rows.SamePods rows' t jobs) (hdistinct : rows.HasDistinctPods t jobs) (now : Instant) :
    JobSummary.sortByCreation (jobs.map (rows.runSummary t now)) =
      JobSummary.sortByCreation (others.map (rows'.runSummary t now)) := by
  have hsummaries : jobs.map (rows.runSummary t now) = jobs.map (rows'.runSummary t now) :=
    List.map_congr_left fun _ member => runSummary_eq_of_samePods hsame hdistinct now member
  rw [hsummaries, sortByCreation_runSummary, sortByCreation_runSummary,
    Job.sortByCreation_eq_of_perm hperm hdatable hcreated]

end Rows

namespace CronJobSummary

theorem assemble_eq_of_sortByCreation_eq (cronJob : CronJob) {runs others : List JobSummary}
    (h : JobSummary.sortByCreation runs = JobSummary.sortByCreation others) :
    assemble cronJob runs = assemble cronJob others := by
  simp only [assemble, h]

theorem allRuns_stableOrder (now : Instant) (t : Int) (store : Store Unit) (cronJob : CronJob)
    {jobs : List Job} (h : ∀ job ∈ jobs, job.IsDatable) :
    ∃ summary sorted, (read now cronJob jobs).run t store = (.ok summary, store) ∧
      StableOrder Job.createdSecond? Instant.absentFirst jobs sorted ∧
      summary.allRuns = sorted.map (store.rows.runSummary t now) :=
  ⟨_, _, run_read now t store cronJob jobs, Job.stableOrder_sortByCreation h,
    store.rows.sortByCreation_runSummary t now jobs⟩

section Nightly

def datedJob (name : String) (created : Option Instant) : Job where
  metadata := { name := some name, ns := some "default", creationTimestamp := created }

/-- Two runs were created in one second, one in a leap second and one at an unknown time. -/
def nightlyJobs : List Job := [
  datedJob "nightly-4" (some ⟨1483228800, 900000000⟩),
  datedJob "nightly-3" (some ⟨1483228799, 1500000000⟩),
  datedJob "nightly-2" (some ⟨1483228800, 100000000⟩),
  datedJob "nightly-1" none]

theorem allRuns_stableOrder_nightly :
    ∃ summary sorted,
      (read ⟨1483232400, 0⟩ {} nightlyJobs).run 0 crashStore = (.ok summary, crashStore) ∧
      StableOrder Job.createdSecond? Instant.absentFirst nightlyJobs sorted ∧
      summary.allRuns = sorted.map (crashStore.rows.runSummary 0 ⟨1483232400, 0⟩) :=
  allRuns_stableOrder ⟨1483232400, 0⟩ 0 crashStore {} (by decide +kernel)

end Nightly

theorem read_eq_of_perm (now : Instant) (t : Int) (cronJob : CronJob) {jobs others : List Job}
    {store store' : Store Unit} (hperm : jobs.Perm others)
    (hdatable : ∀ job ∈ jobs, job.IsDatable) (hcreated : (jobs.map Job.createdSecond?).Nodup)
    (hsame : store.rows.SamePods store'.rows t jobs)
    (hdistinct : store.rows.HasDistinctPods t jobs) :
    ∃ summary, (read now cronJob jobs).run t store = (.ok summary, store) ∧
      (read now cronJob others).run t store' = (.ok summary, store') := by
  have hsorted :=
    Rows.sortByCreation_eq_of_samePods hperm hdatable hcreated hsame hdistinct now
  refine ⟨_, run_read now t store cronJob jobs, ?_⟩
  rw [run_read, assemble_eq_of_sortByCreation_eq cronJob hsorted]

section Reordered

def workerPod (name : String) : Pod :=
  { crashedPod with metadata := { crashedPod.metadata with name := some name } }

def podStore (pods : List Pod) : Store Unit where
  rows := SortedMap.empty.insert (Key.podsOf "default" "nightly-1") ⟨Resource.encodeAll pods, none⟩
  gate := ()

def firstJob : Job := datedJob "nightly-1" (some ⟨1483228799, 1500000000⟩)

def secondJob : Job := datedJob "nightly-2" (some ⟨1483228800, 100000000⟩)

theorem podCollection_firstJob {pods : List Pod} (h : ∀ pod ∈ pods, Resource.Storable pod) :
    (podStore pods).rows.podCollection 0 firstJob = pods.map Truncated.truncate :=
  Rows.podCollection_insert h SortedMap.empty 0 firstJob

theorem podCollection_secondJob (pods : List Pod) :
    (podStore pods).rows.podCollection 0 secondJob = [] := by
  have hlive : (podStore pods).rows.live 0
      (Key.podsOf secondJob.metadata.nsOrEmpty secondJob.metadata.displayName) = none :=
    (Rows.live_insert ..).trans (if_neg (by decide))
  rw [Rows.podCollection, hlive]
  rfl

theorem read_eq_of_perm_reordered :
    ∃ summary,
      (read ⟨1483232400, 0⟩ {} [firstJob, secondJob]).run 0
        (podStore [workerPod "a", workerPod "b"]) =
          (.ok summary, podStore [workerPod "a", workerPod "b"]) ∧
      (read ⟨1483232400, 0⟩ {} [secondJob, firstJob]).run 0
        (podStore [workerPod "b", workerPod "a"]) =
          (.ok summary, podStore [workerPod "b", workerPod "a"]) := by
  have hab : ∀ pod ∈ [workerPod "a", workerPod "b"], Resource.Storable pod := by decide +kernel
  have hba : ∀ pod ∈ [workerPod "b", workerPod "a"], Resource.Storable pod := by decide +kernel
  refine read_eq_of_perm ⟨1483232400, 0⟩ 0 {} (List.Perm.swap secondJob firstJob [])
    (by decide +kernel) (by decide +kernel) ?_ ?_
  · simp only [Rows.SamePods, List.forall_mem_cons, podCollection_firstJob hab,
      podCollection_firstJob hba, podCollection_secondJob]
    exact ⟨(List.Perm.swap (workerPod "b") (workerPod "a") []).map _, List.Perm.nil,
      List.forall_mem_nil _⟩
  · simp only [Rows.HasDistinctPods, List.forall_mem_cons, podCollection_firstJob hab,
      podCollection_secondJob]
    exact ⟨by decide +kernel, List.Pairwise.nil, List.forall_mem_nil _⟩

end Reordered

end CronJobSummary
end RunMonitor
