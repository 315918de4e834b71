import RunMonitor.Delivery.Loop
import RunMonitor.View.Basic

namespace RunMonitor

inductive Topic where
  | cronJobs
  | cronJob (ns name : String)
  | pods (ns name : String)
  | standaloneRuns
  deriving DecidableEq

namespace Topic

def subject? : Topic → Option (String × String)
  | .cronJob ns name | .pods ns name => some (ns, name)
  | .cronJobs | .standaloneRuns => none

def message (ttl : Nat) : Topic → View Json
  | .cronJobs => return Json.ofList CronJobSummary.toJson (← View.cronJobs ttl)
  | .cronJob ns name => return (← View.cronJob ttl ns name).toJson
  | .pods ns name => return (← View.pods ttl ns name).toJson
  | .standaloneRuns => return Json.ofList JobSummary.toJson (← View.standaloneRuns)

end Topic

def View.producer {α γ κ : Type} [Gate γ] [Cluster κ] (start : Instant) (view : View α) :
    Delivery.Producer (Site γ κ) α := fun time site =>
  let (result, site) := view.run (start.addMillis time) site
  (result, time, site)

end RunMonitor
