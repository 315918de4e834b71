import RunMonitor.Cache.Key
import RunMonitor.Cluster.Ownership

namespace RunMonitor

open Json

abbrev RunIndex : Type := SortedMap (List Job)

namespace RunIndex

def addRun (index : RunIndex) (job : Job) : RunIndex :=
  match job.cronJobOwner? with
  | some owner => index.push (Key.indexEntry job.metadata.nsOrEmpty owner) job
  | none => index

def build (jobs : List Job) : RunIndex :=
  jobs.foldl addRun SortedMap.empty

def runsOf (index : RunIndex) (cronJob : CronJob) : List Job :=
  (index.find? (Key.indexEntry cronJob.metadata.nsOrEmpty cronJob.metadata.displayName)).getD []

def encode (index : RunIndex) : ByteArray :=
  (ofMap (ofList Resource.toJson) index).bytes

def decode? (bytes : ByteArray) : Option RunIndex := do
  mapOf? (listOf? Resource.ofJson?) (← parse? bytes)

end RunIndex
end RunMonitor
