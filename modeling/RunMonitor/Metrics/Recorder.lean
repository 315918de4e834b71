import RunMonitor.Delivery.Loop
import RunMonitor.Metrics.Basic

namespace RunMonitor.Metrics

structure Recorder (π : Type) where
  time : Nat
  producer : π
  metrics : Metrics

namespace Recorder

variable {π : Type}

def subscriber (shutdown : Nat) : Delivery.Subscriber Metrics (List CronJobSummary) where
  push summaries time metrics :=
    match metrics.observe summaries with
    | .ok metrics => (.ok (), time, metrics)
    | .error error => (.error error, time, metrics)
  pause _ _ metrics := metrics
  isCancelled time _ := shutdown ≤ time

/-- After a failure the loop is begun anew, once an interval has passed. -/
def runRounds (interval shutdown : Nat) (produce : Delivery.Producer π (List CronJobSummary)) :
    Nat → Recorder π → Recorder π
  | 0, recorder => recorder
  | rounds + 1, recorder =>
      if shutdown ≤ recorder.time then recorder
      else
        match Delivery.round interval produce (subscriber shutdown) recorder.time
          recorder.producer recorder.metrics with
        | .inr (time, producer, metrics) =>
            runRounds interval shutdown produce rounds ⟨time, producer, metrics⟩
        | .inl ⟨.error _, time, producer, metrics⟩ =>
            runRounds interval shutdown produce rounds ⟨time + interval, producer, metrics⟩
        | .inl ⟨.ok (), time, producer, metrics⟩ => ⟨time, producer, metrics⟩

/-- Every round takes an interval at least, so there are no more of them than intervals begin before
the shutdown. -/
def run (interval shutdown : Nat) (produce : Delivery.Producer π (List CronJobSummary))
    (recorder : Recorder π) : Recorder π :=
  let rounds := (shutdown - recorder.time + interval - 1) / interval
  { runRounds interval shutdown produce rounds recorder with time := shutdown }

end Recorder
end RunMonitor.Metrics
