import Mathlib.Data.List.Basic
import RunMonitor.Cache.RunIndex
import RunMonitor.Proofs.Cache.Key
import RunMonitor.Proofs.SortedMap

namespace RunMonitor

namespace Job

def IsSpawnedBy (job : Job) (name : String) : Prop :=
  ∃ before owner after, job.metadata.owners = before ++ owner :: after ∧
    (∀ other ∈ before, other.kind ≠ "CronJob") ∧ owner.kind = "CronJob" ∧ owner.name = name

def IsSpawned (job : Job) : Prop := ∃ owner ∈ job.metadata.owners, owner.kind = "CronJob"

instance (job : Job) : Decidable job.IsSpawned :=
  inferInstanceAs (Decidable (∃ owner ∈ job.metadata.owners, owner.kind = "CronJob"))

theorem cronJobOwner?_eq_some_iff {job : Job} {name : String} :
    job.cronJobOwner? = some name ↔ job.IsSpawnedBy name := by
  rw [cronJobOwner?, Option.map_eq_some_iff]
  constructor
  · intro given
    obtain ⟨owner, hfind, hname⟩ := given
    obtain ⟨hkind, before, after, howners, hbefore⟩ := List.find?_eq_some_iff_append.mp hfind
    refine ⟨before, owner, after, howners, fun other member => ?_, of_decide_eq_true hkind, hname⟩
    simpa using hbefore other member
  · intro given
    obtain ⟨before, owner, after, howners, hbefore, hkind, hname⟩ := given
    refine ⟨owner, List.find?_eq_some_iff_append.mpr ⟨decide_eq_true hkind, before, after, howners,
      fun other member => ?_⟩, hname⟩
    simpa using hbefore other member

instance (job : Job) (name : String) : Decidable (job.IsSpawnedBy name) :=
  decidable_of_iff _ cronJobOwner?_eq_some_iff

theorem isSome_cronJobOwner? {job : Job} : job.cronJobOwner?.isSome ↔ job.IsSpawned := by
  simp [cronJobOwner?, IsSpawned, List.find?_isSome]

/-- Spawned by the cron job, in the same namespace. An absent one counts as empty. -/
def IsRunOf (cronJob : CronJob) (job : Job) : Prop :=
  job.IsSpawnedBy cronJob.metadata.displayName ∧
    job.metadata.nsOrEmpty = cronJob.metadata.nsOrEmpty

instance (cronJob : CronJob) : DecidablePred (IsRunOf cronJob) := fun _ =>
  inferInstanceAs (Decidable (_ ∧ _))

def indexKey? (job : Job) : Option String :=
  job.cronJobOwner?.map (Key.indexEntry job.metadata.nsOrEmpty)

theorem indexKey?_eq_some_iff {job : Job} {cronJob : CronJob}
    (hjob : '/' ∉ job.metadata.nsOrEmpty.toList)
    (hcronJob : '/' ∉ cronJob.metadata.nsOrEmpty.toList) :
    job.indexKey? =
        some (Key.indexEntry cronJob.metadata.nsOrEmpty cronJob.metadata.displayName) ↔
      job.IsRunOf cronJob := by
  rw [indexKey?, Option.map_eq_some_iff, IsRunOf, ← cronJobOwner?_eq_some_iff]
  constructor
  · intro given
    obtain ⟨name, howner, hkey⟩ := given
    obtain ⟨hns, rfl⟩ := (Key.indexEntry_inj hjob hcronJob).mp hkey
    exact ⟨howner, hns⟩
  · intro given
    obtain ⟨howner, hns⟩ := given
    exact ⟨_, howner, by rw [hns]⟩

end Job

namespace RunIndex

theorem addRun_eq (index : RunIndex) (job : Job) :
    index.addRun job = job.indexKey?.elim index fun key => index.push key job := by
  rw [addRun, Job.indexKey?]
  cases job.cronJobOwner? <;> rfl

theorem find?_build (jobs : List Job) (key : String) :
    (build jobs).find? key =
      if jobs.filter (·.indexKey? = some key) = [] then none
      else some (jobs.filter (·.indexKey? = some key)) :=
  SortedMap.find?_foldl_push Job.indexKey? addRun addRun_eq jobs SortedMap.empty key

theorem runsOf_build {jobs : List Job} {cronJob : CronJob}
    (hjobs : ∀ job ∈ jobs, '/' ∉ job.metadata.nsOrEmpty.toList)
    (hcronJob : '/' ∉ cronJob.metadata.nsOrEmpty.toList) :
    (build jobs).runsOf cronJob = jobs.filter (Job.IsRunOf cronJob) := by
  have hfilter : jobs.filter (·.indexKey? =
      some (Key.indexEntry cronJob.metadata.nsOrEmpty cronJob.metadata.displayName)) =
        jobs.filter (Job.IsRunOf cronJob) :=
    List.filter_congr fun job member =>
      decide_eq_decide.mpr (Job.indexKey?_eq_some_iff (hjobs job member) hcronJob)
  rw [runsOf, find?_build, hfilter]
  split
  case isTrue hnil => rw [hnil, Option.getD_none]
  case isFalse => rfl

theorem flatten_values_foldl (jobs : List Job) (index : RunIndex) :
    (jobs.foldl addRun index).values.flatten.Perm
      (jobs.filter Job.IsSpawned ++ index.values.flatten) := by
  induction jobs generalizing index with
  | nil => exact .refl _
  | cons job rest ih =>
      refine (ih _).trans ?_
      rw [addRun]
      cases howner : job.cronJobOwner? with
      | none =>
          have hnot : ¬ job.IsSpawned := by simp [← Job.isSome_cronJobOwner?, howner]
          rw [List.filter_cons_of_neg (by simpa using hnot)]
      | some owner =>
          have hspawned : job.IsSpawned := by simp [← Job.isSome_cronJobOwner?, howner]
          rw [List.filter_cons_of_pos (by simpa using hspawned)]
          have hpush := index.flatten_values_push (Key.indexEntry job.metadata.nsOrEmpty owner) job
          exact (hpush.append_left _).trans List.perm_middle

/-- Namespaces without a slash are told from the names that follow them. -/
structure Attributes (jobs : List Job) (index : RunIndex) : Prop where
  runsOf : ∀ cronJob : CronJob, '/' ∉ cronJob.metadata.nsOrEmpty.toList →
    index.runsOf cronJob = jobs.filter (Job.IsRunOf cronJob)
  apart : ∀ cronJobs : List CronJob,
    (∀ cronJob ∈ cronJobs, '/' ∉ cronJob.metadata.nsOrEmpty.toList) →
    cronJobs.Pairwise (fun a b => ¬ (a.metadata.nsOrEmpty = b.metadata.nsOrEmpty ∧
      a.metadata.displayName = b.metadata.displayName)) →
    (cronJobs.map index.runsOf).Pairwise List.Disjoint
  complete : index.values.flatten.Perm (jobs.filter Job.IsSpawned)
  standalone : Job.standalone jobs = jobs.filter (·.metadata.owners = [])
  unowned : ∀ job ∈ Job.standalone jobs, job ∉ index.values.flatten

theorem attributes_build {jobs : List Job}
    (hjobs : ∀ job ∈ jobs, '/' ∉ job.metadata.nsOrEmpty.toList) : Attributes jobs (build jobs) := by
  have hcomplete : (build jobs).values.flatten.Perm (jobs.filter Job.IsSpawned) := by
    have h := flatten_values_foldl jobs SortedMap.empty
    rwa [show (SortedMap.empty : RunIndex).values.flatten = [] from rfl, List.append_nil] at h
  have hstandalone : Job.standalone jobs = jobs.filter (·.metadata.owners = []) :=
    List.filter_congr fun job _ => by
      rw [Job.isStandalone]
      cases job.metadata.owners <;> simp
  refine ⟨fun cronJob => runsOf_build hjobs, ?_, hcomplete, hstandalone, ?_⟩
  · intro cronJobs hfree hdistinct
    refine List.pairwise_map.mpr (hdistinct.imp_of_mem ?_)
    intro a b ha hb hne job hjob_a hjob_b
    rw [runsOf_build hjobs (hfree a ha)] at hjob_a
    rw [runsOf_build hjobs (hfree b hb)] at hjob_b
    obtain ⟨howner_a, hns_a⟩ := of_decide_eq_true (List.mem_filter.mp hjob_a).2
    obtain ⟨howner_b, hns_b⟩ := of_decide_eq_true (List.mem_filter.mp hjob_b).2
    rw [← Job.cronJobOwner?_eq_some_iff] at howner_a howner_b
    exact hne ⟨hns_a.symm.trans hns_b, Option.some.inj (howner_a.symm.trans howner_b)⟩
  · intro job member hindexed
    rw [hstandalone, List.mem_filter, decide_eq_true_eq] at member
    obtain ⟨owner, howner, -⟩ := of_decide_eq_true (List.mem_filter.mp
      (hcomplete.mem_iff.mp hindexed)).2
    rw [member.2] at howner
    cases howner

section Namesakes

def nightly (ns : Option String) : CronJob := { metadata := { name := some "nightly", ns := ns } }

def ownedBy (name : String) (ns : Option String) (owners : List OwnerReference) : Job :=
  { metadata := { name := some name, ns := ns, ownerReferences := some owners } }

def namesakeJobs : List Job := [
  ownedBy "nightly-1" (some "default") [{ kind := "CronJob", name := "nightly" }],
  ownedBy "nightly-2" none
    [{ kind := "Team", name := "data" }, { kind := "CronJob", name := "nightly" }],
  ownedBy "manual" (some "default") [],
  ownedBy "nightly-3" (some "default") [{ kind := "CronJob", name := "nightly" },
    { kind := "CronJob", name := "hourly" }]]

theorem attributes_namesakes :
    (∀ job ∈ namesakeJobs, '/' ∉ job.metadata.nsOrEmpty.toList) ∧
      (build namesakeJobs).runsOf (nightly (some "default")) =
        namesakeJobs.filter (Job.IsRunOf (nightly (some "default"))) ∧
      ([nightly (some "default"), nightly none].map (build namesakeJobs).runsOf).Pairwise
        List.Disjoint :=
  have hjobs : ∀ job ∈ namesakeJobs, '/' ∉ job.metadata.nsOrEmpty.toList := by decide
  ⟨hjobs, (attributes_build hjobs).runsOf _ (by decide),
    (attributes_build hjobs).apart _ (by decide) (by decide)⟩

end Namesakes

end RunIndex
end RunMonitor
