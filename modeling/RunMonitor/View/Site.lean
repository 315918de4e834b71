import RunMonitor.Cache.Collected
import RunMonitor.Store.Access
import RunMonitor.Time.Instant

namespace RunMonitor

inductive Inquiry : Type → Type where
  | object (kind : Kind) (ns name : String) : Inquiry (Option kind.Object)
  | jobs : Inquiry (List Job)
  | time : Inquiry Instant

class Cluster (κ : Type) where
  object? (kind : Kind) (ns name : String) : κ → Except Error (Option kind.Object) × κ
  jobs : κ → Except Error (List Job) × κ

structure Site (γ κ : Type) where
  store : Store γ
  cluster : κ

abbrev View : Type → Type 1 := Procedure fun β => StoreCall β ⊕ Inquiry β

instance : MonadLift Access View := ⟨fun access => access.mapCalls .inl⟩

namespace View

variable {α β γ κ : Type}

def inquire (inquiry : Inquiry α) : View α := .ask (.inr inquiry)

section Run

variable [Gate γ] [Cluster κ]

def reply (now : Instant) : StoreCall β ⊕ Inquiry β → Site γ κ → Except Error β × Site γ κ
  | .inl call, site =>
      let (result, store) := Store.reply now.millis call site.store
      (result, { site with store := store })
  | .inr (.object kind ns name), site =>
      let (result, cluster) := Cluster.object? kind ns name site.cluster
      (result, { site with cluster := cluster })
  | .inr .jobs, site =>
      let (result, cluster) := Cluster.jobs site.cluster
      (result, { site with cluster := cluster })
  | .inr .time, site => (.ok now, site)

def run (now : Instant) (view : View α) (site : Site γ κ) : Except Error α × Site γ κ :=
  Procedure.run (reply now) view site

end Run
end View
end RunMonitor
