import RunMonitor.Proofs.Cluster.Codec
import RunMonitor.Proofs.Procedure
import RunMonitor.Proofs.Store.Access
import RunMonitor.Summary.Assembly

namespace RunMonitor

def Rows.podsOf (rows : Rows) (t : Int) (job : Job) : List Pod :=
  let name := job.metadata.displayName
  Pod.newestOwned name
    (Collection.decodeOrEmpty (rows.live t (Key.podsOf job.metadata.nsOrEmpty name)))

/-- The pods that are stored for a job. Bytes that cannot be decoded count as none. -/
def Rows.podCollection (rows : Rows) (t : Int) (job : Job) : List Pod :=
  let key := Key.podsOf job.metadata.nsOrEmpty job.metadata.displayName
  ((rows.live t key).bind Resource.decodeAll?).getD []

theorem Rows.podsOf_eq (rows : Rows) (t : Int) (job : Job) :
    rows.podsOf t job = Pod.newestOwned job.metadata.displayName (rows.podCollection t job) := rfl

theorem Rows.podCollection_insert {pods : List Pod} (h : ∀ pod ∈ pods, Resource.Storable pod)
    (rows : Rows) (t : Int) (job : Job) :
    Rows.podCollection (rows.insert (Key.podsOf job.metadata.nsOrEmpty job.metadata.displayName)
      ⟨Resource.encodeAll pods, none⟩) t job = pods.map Truncated.truncate := by
  rw [podCollection, live_insert, if_pos rfl, Option.bind_some, Resource.decodeAll?_encodeAll h,
    Option.getD_some]

def Rows.runSummary (rows : Rows) (t : Int) (now : Instant) (job : Job) : JobSummary :=
  JobSummary.ofJob job (rows.podsOf t job) now

variable (now : Instant) (t : Int) (store : Store Unit)

theorem Collection.run_podsOf (job : Job) :
    (Collection.podsOf job).run t store = (.ok (store.rows.podsOf t job), store) := rfl

theorem JobSummary.run_readAll (jobs : List Job) :
    (JobSummary.readAll now jobs).run t store =
      (.ok (jobs.map (store.rows.runSummary t now)), store) :=
  Procedure.run_forEach fun _ _ => rfl

theorem CronJobSummary.run_read (cronJob : CronJob) (jobs : List Job) :
    (CronJobSummary.read now cronJob jobs).run t store =
      (.ok (assemble cronJob (jobs.map (store.rows.runSummary t now))), store) :=
  Store.run_bind_ok _ (JobSummary.run_readAll now t store jobs)

end RunMonitor
