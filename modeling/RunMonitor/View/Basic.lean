import RunMonitor.Summary.Assembly
import RunMonitor.Text.Lowercase
import RunMonitor.View.Lookup
import RunMonitor.Yaml.Printer

namespace RunMonitor.View

def cronJobs (ttl : Nat) : View (List CronJobSummary) := do
  let cronJobs ← Collection.cronJobs
  let index ← runIndex ttl
  let now ← inquire .time
  let summaries ← (.forEach cronJobs fun cronJob =>
    CronJobSummary.read now cronJob (index.runsOf cronJob) : Access (List CronJobSummary))
  return summaries.mergeSort fun a b => Text.lowercase a.name ≤ Text.lowercase b.name

def cronJob (ttl : Nat) (ns name : String) : View CronJobSummary := do
  let cronJob ← definition ttl ns name
  let index ← runIndex ttl
  let now ← inquire .time
  CronJobSummary.read now cronJob (index.runsOf cronJob)

def pods (ttl : Nat) (ns name : String) : View CronJobPods := do
  return CronJobPods.ofSummary (← cronJob ttl ns name)

def standaloneRuns : View (List JobSummary) := do
  let jobs ← Collection.jobs
  let now ← inquire .time
  JobSummary.readAll now (Job.standalone jobs)

def document (kind : Kind) (ns name : String) : View String := do
  match ← inquire (.object kind ns name) with
  | some object => return Yaml.text (Resource.toJson object)
  | none => .fail (absent kind ns name)

end RunMonitor.View
