import RunMonitor.Metrics.Name
import RunMonitor.Metrics.Registry
import RunMonitor.Summary.CronJob

namespace RunMonitor

structure Metrics where
  subsystem : String := ""
  registry : Metrics.Registry := {}
  tracked : List (String × String) := []

namespace Metrics

def fullName (subsystem name : String) : String :=
  if subsystem.isEmpty then "cronwatch_" ++ name else "cronwatch_" ++ subsystem ++ "_" ++ name

inductive Total where
  | registered
  | running
  | failing
  | completed
  deriving DecidableEq

namespace Total

def all : List Total := [registered, running, failing, completed]

def name : Total → String
  | .registered => "registered_cronjobs_total"
  | .running => "running_cronjobs_total"
  | .failing => "failing_cronjobs_total"
  | .completed => "completed_cronjobs_total"

def help : Total → String
  | .registered => "Scheduled jobs currently defined"
  | .running => "Runs currently active"
  | .failing => "Runs that have failed"
  | .completed => "Runs that have completed"

def identity (subsystem : String) (total : Total) : Identity :=
  { name := fullName subsystem total.name }

def share (summary : CronJobSummary) : Total → Nat
  | .registered => 1
  | .running => summary.runningRuns.length
  | .failing => summary.allRuns.countP JobSummary.failed
  | .completed => summary.allRuns.countP fun run => run.completionTime.isSome

def value (summaries : List CronJobSummary) (total : Total) : Int :=
  (summaries.foldr (fun summary sum => total.share summary + sum) 0 : Nat)

end Total

inductive Figure where
  | completions
  | failures
  | durations
  deriving DecidableEq

namespace Figure

def all : List Figure := [completions, failures, durations]

def ending : Figure → String
  | .completions => "completion_total"
  | .failures => "failure_total"
  | .durations => "duration_seconds"

def help (name : String) : Figure → String
  | .completions => name ++ " completion total"
  | .failures => name ++ " failure total"
  | .durations => "Duration of " ++ name ++ " in seconds"

def identity (subsystem ns cronJob : String) (figure : Figure) : Identity where
  name := fullName subsystem (sanitize cronJob ++ "_" ++ figure.ending)
  labels := (SortedMap.empty.insert "namespace" ns).insert "cronjob" cronJob

def blank : Figure → Reading
  | .completions | .failures => .single 0
  | .durations => .perLabel "job_name" SortedMap.empty

def gauge (subsystem ns cronJob : String) (figure : Figure) : Gauge where
  identity := figure.identity subsystem ns cronJob
  help := figure.help (sanitize cronJob)
  reading := figure.blank

def duration (run : JobSummary) : Int := if run.isRunning then run.durationSeconds else 0

def reading (summary : CronJobSummary) : Figure → Reading
  | .completions => .single (summary.allRuns.countP fun run => run.completionTime.isSome)
  | .failures => .single (summary.allRuns.countP JobSummary.failed)
  | .durations =>
      .perLabel "job_name"
        (SortedMap.ofList (summary.allRuns.map fun run => (run.name, duration run)))

end Figure

def registerAll (registry : Registry) : List Gauge → Except Error Registry
  | [] => .ok registry
  | gauge :: rest => do registerAll (← registry.register gauge) rest

def unregisterAll (registry : Registry) : List Identity → Except Error Registry
  | [] => .ok registry
  | identity :: rest => do unregisterAll (← registry.unregister identity) rest

def new (watched : Option String) : Except Error Metrics := do
  let subsystem := (watched.map sanitize).getD ""
  let gauges := Total.all.map fun total =>
    { identity := total.identity subsystem, help := total.help, reading := .single 0 }
  return { subsystem := subsystem, registry := ← registerAll {} gauges }

def setFigures (metrics : Metrics) (summary : CronJobSummary) : Metrics :=
  { metrics with
    registry := Figure.all.foldl (fun registry figure =>
      registry.set (figure.identity metrics.subsystem summary.ns summary.name)
        (figure.reading summary)) metrics.registry }

def track (metrics : Metrics) (ns cronJob : String) : Except Error Metrics := do
  if (ns, cronJob) ∈ metrics.tracked then return metrics
  let gauges := Figure.all.map fun figure => figure.gauge metrics.subsystem ns cronJob
  return { metrics with
    registry := ← registerAll metrics.registry gauges
    tracked := metrics.tracked ++ [(ns, cronJob)] }

def untrack (metrics : Metrics) (ns cronJob : String) : Except Error Metrics := do
  let identities := Figure.all.map fun figure => figure.identity metrics.subsystem ns cronJob
  return { metrics with
    registry := ← unregisterAll metrics.registry identities
    tracked := metrics.tracked.filter (· ≠ (ns, cronJob)) }

def observeEach (metrics : Metrics) : List CronJobSummary → Except Error Metrics
  | [] => .ok metrics
  | summary :: rest => do
      let metrics ← metrics.track summary.ns summary.name
      observeEach (metrics.setFigures summary) rest

def untrackAll (metrics : Metrics) : List (String × String) → Except Error Metrics
  | [] => .ok metrics
  | (ns, cronJob) :: rest => do untrackAll (← metrics.untrack ns cronJob) rest

def setTotals (metrics : Metrics) (summaries : List CronJobSummary) : Metrics :=
  { metrics with
    registry := Total.all.foldl (fun registry total =>
      registry.set (total.identity metrics.subsystem) (.single (total.value summaries)))
      metrics.registry }

def observe (summaries : List CronJobSummary) (metrics : Metrics) : Except Error Metrics := do
  let metrics ← metrics.observeEach summaries
  let seen := summaries.map fun summary => (summary.ns, summary.name)
  let gone := metrics.tracked.filter (· ∉ seen)
  let metrics ← metrics.untrackAll gone
  return metrics.setTotals summaries

def text (metrics : Metrics) : String := metrics.registry.text

end Metrics
end RunMonitor
