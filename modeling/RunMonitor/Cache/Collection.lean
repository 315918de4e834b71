import RunMonitor.Cache.Collected
import RunMonitor.Cluster.Event
import RunMonitor.Cluster.Version
import RunMonitor.Store.Access

namespace RunMonitor

namespace Pod

def keepNewer (newest : SortedMap Pod) (pod : Pod) : SortedMap Pod :=
  match newest.find? pod.metadata.displayName with
  | none => newest.insert pod.metadata.displayName pod
  | some known =>
      if compareVersions pod.metadata.resourceVersion known.metadata.resourceVersion = .gt then
        newest.insert pod.metadata.displayName pod
      else newest

def newestOwned (jobName : String) (pods : List Pod) : List Pod :=
  ((pods.filter fun pod => pod.isStarted ∧ pod.IsOwnedBy jobName).foldl keepNewer
    SortedMap.empty).values

end Pod

namespace Collection

variable {K : Type} [Resource K]

def decodeOrEmpty (bytes : Option ByteArray) : List K :=
  (bytes.bind Resource.decodeAll?).getD []

def read (key : String) : Access (List K) := do
  return decodeOrEmpty (← Store.get key)

def update (key : String) (f : List K → List K) : Access Unit :=
  Store.update key fun bytes => .ok (Resource.encodeAll (f (decodeOrEmpty bytes)))

def replace (key : String) (items : List K) : Access Unit :=
  Store.set key (Resource.encodeAll items) none

def remove (key : String) : Access Unit := Store.delete key

def cronJobs : Access (List CronJob) := read Key.cronJobs

def jobs : Access (List Job) := read Key.jobs

def podsOf (job : Job) : Access (List Pod) := do
  let name := job.metadata.displayName
  return Pod.newestOwned name (← read (Key.podsOf job.metadata.nsOrEmpty name))

end Collection
end RunMonitor
