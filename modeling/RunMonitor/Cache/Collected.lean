import RunMonitor.Cache.Key
import RunMonitor.Cluster.Ownership

namespace RunMonitor

class Collected (K : Type) extends Resource K where
  collection : Option String
  /-- `none` for an object that belongs nowhere. -/
  collectionKey? : K → Option String

instance : Collected CronJob where
  collection := some Key.cronJobs
  collectionKey? _ := some Key.cronJobs

instance : Collected Job where
  collection := some Key.jobs
  collectionKey? _ := some Key.jobs

instance : Collected Pod where
  collection := none
  collectionKey? pod := pod.jobOwner?.map (Key.podsOf pod.metadata.nsOrEmpty)

inductive Kind where
  | cronJob
  | job
  | pod
  deriving DecidableEq

namespace Kind

def Object : Kind → Type
  | .cronJob => CronJob
  | .job => Job
  | .pod => Pod

instance : (kind : Kind) → Collected kind.Object
  | .cronJob => inferInstanceAs (Collected CronJob)
  | .job => inferInstanceAs (Collected Job)
  | .pod => inferInstanceAs (Collected Pod)

def name (kind : Kind) : String := Resource.kind kind.Object

def all : List Kind := [cronJob, job, pod]

def ofName? (name : String) : Option Kind := all.find? fun kind => kind.name = name

end Kind
end RunMonitor
