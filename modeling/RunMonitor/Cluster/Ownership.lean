import RunMonitor.Cluster.CronJob
import RunMonitor.Cluster.Pod

namespace RunMonitor

def Job.cronJobOwner? (job : Job) : Option String :=
  (job.metadata.owners.find? fun owner => owner.kind = "CronJob").map OwnerReference.name

def Job.isStandalone (job : Job) : Bool := job.metadata.owners.isEmpty

def Job.standalone (jobs : List Job) : List Job := jobs.filter Job.isStandalone

namespace Pod

def jobNameLabel : String := "job-name"

/-- Whether any owner, of whatever kind, has the name. -/
def IsOwnedBy (pod : Pod) (jobName : String) : Prop :=
  ∃ owner ∈ pod.metadata.owners, owner.name = jobName

instance (pod : Pod) (jobName : String) : Decidable (pod.IsOwnedBy jobName) :=
  inferInstanceAs (Decidable (∃ owner ∈ pod.metadata.owners, owner.name = jobName))

/-- The first owner of kind job, or else the job that the label names. -/
def jobOwner? (pod : Pod) : Option String :=
  ((pod.metadata.owners.find? fun owner => owner.kind = "Job").map OwnerReference.name).or
    (pod.metadata.label? jobNameLabel)

end Pod
end RunMonitor
