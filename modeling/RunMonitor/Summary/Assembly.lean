import RunMonitor.Cache.Collection
import RunMonitor.Summary.CronJob

namespace RunMonitor

/-! The pods of all runs are read before any result is looked at. -/

def JobSummary.read (now : Instant) (job : Job) : Access JobSummary := do
  return JobSummary.ofJob job (← Collection.podsOf job) now

def JobSummary.readAll (now : Instant) (jobs : List Job) : Access (List JobSummary) :=
  .forEach jobs (JobSummary.read now)

def CronJobSummary.read (now : Instant) (cronJob : CronJob) (jobs : List Job) :
    Access CronJobSummary := do
  return CronJobSummary.assemble cronJob (← JobSummary.readAll now jobs)

end RunMonitor
