import Mathlib.Logic.Relation
import RunMonitor.Metrics.Recorder
import RunMonitor.Proofs.Metrics.Samples

namespace RunMonitor.Metrics.Recorder

/-! If a round is due at the time of the shutdown, the shutdown may come before it or after it. -/

open Relation (ReflTransGen)

inductive Phase where
  | ready
  | delivered (wake : Nat)
  | failed (wake : Nat)
  | stopped

def Phase.wake? : Phase → Option Nat
  | .delivered wake | .failed wake => some wake
  | .ready | .stopped => none

structure Moment (π : Type) extends Recorder π where
  phase : Phase

variable {π : Type} {interval shutdown : Nat}
  {produce : Delivery.Producer π (List CronJobSummary)}

def attempt (interval : Nat) (produce : Delivery.Producer π (List CronJobSummary))
    (recorder : Recorder π) : Moment π :=
  match produce recorder.time recorder.producer with
  | (.error _, time, producer) =>
      ⟨⟨time, producer, recorder.metrics⟩, .failed (time + interval)⟩
  | (.ok summaries, time, producer) =>
      match recorder.metrics.observe summaries with
      | .error _ => ⟨⟨time, producer, recorder.metrics⟩, .failed (time + interval)⟩
      | .ok metrics => ⟨⟨time, producer, metrics⟩, .delivered (time + interval)⟩

/-- Only the delivery asks at the end of its wait whether there has been a shutdown. Time passes as
long as there is nothing else to do. -/
inductive Step (interval shutdown : Nat) (produce : Delivery.Producer π (List CronJobSummary)) :
    Moment π → Moment π → Prop where
  | attempt (recorder : Recorder π) :
      Step interval shutdown produce ⟨recorder, .ready⟩ (recorder.attempt interval produce)
  | goOn (recorder : Recorder π) (h : recorder.time ≤ shutdown) :
      Step interval shutdown produce ⟨recorder, .delivered recorder.time⟩ ⟨recorder, .ready⟩
  | cancel (recorder : Recorder π) (h : shutdown ≤ recorder.time) :
      Step interval shutdown produce ⟨recorder, .delivered recorder.time⟩ ⟨recorder, .stopped⟩
  | retry (recorder : Recorder π) :
      Step interval shutdown produce ⟨recorder, .failed recorder.time⟩ ⟨recorder, .ready⟩
  | stop (moment : Moment π) (h : shutdown ≤ moment.time) :
      Step interval shutdown produce moment { moment with phase := .stopped }
  | pass {wake : Nat} (moment : Moment π) (running : moment.time < shutdown)
      (waiting : moment.phase.wake? = some wake) (h : moment.time < wake) :
      Step interval shutdown produce moment { moment with time := moment.time + 1 }

def Goes (interval shutdown : Nat) (produce : Delivery.Producer π (List CronJobSummary)) :
    Moment π → Moment π → Prop :=
  ReflTransGen (Step interval shutdown produce)

variable {α : Type}

/-- Answers that take no time, in their order. It remembers when it has been asked. -/
def answering (answers : Nat → Except Error α) : Delivery.Producer (List Nat) α :=
  fun time asked => (answers asked.length, time, asked ++ [time])

def batches (answers : Nat → Except Error α) (rounds : Nat) : List α :=
  (List.range rounds).filterMap fun round => (answers round).toOption

/-- Metrics that have observed nothing but the last of the batches. -/
def observeLast (fresh : Metrics) (batches : List (List CronJobSummary)) : Except Error Metrics :=
  match batches.getLast? with
  | none => .ok fresh
  | some batch => fresh.observe batch

/-- The rounds that have begun are those that were due, each at its time and none after the
shutdown, and the next one is not overdue. -/
structure KeepsTime (interval start shutdown : Nat) (moment : Moment (List Nat)) : Prop where
  punctual : moment.producer =
    (List.range moment.producer.length).map fun round => start + round * interval
  begun : ∀ time ∈ moment.producer, time ≤ moment.time
  next : moment.time ≤ start + moment.producer.length * interval
  running : moment.time ≤ shutdown
  ready : moment.phase = .ready → moment.time = start + moment.producer.length * interval
  waits : ∀ wake, moment.phase.wake? = some wake →
    wake = start + moment.producer.length * interval
  stopped : moment.phase = .stopped → moment.time = shutdown

/-- What holds at a moment of a run: the schedule has been kept, the metrics show what they would
show if they had only ever seen the last batch, and nothing but the shutdown ends the run. -/
structure Records (interval start shutdown : Nat)
    (answers : Nat → Except Error (List CronJobSummary)) (fresh : Metrics)
    (moment : Moment (List Nat)) : Prop extends KeepsTime interval start shutdown moment where
  figures : ∃ shown, observeLast fresh (batches answers moment.producer.length) = .ok shown ∧
    moment.metrics.text = shown.text
  samples : ∀ batch, batch = (batches answers moment.producer.length).getLastD [] →
    (batch.map fun summary => (summary.ns, summary.name)).Nodup →
    (∀ summary ∈ batch, (summary.allRuns.map JobSummary.name).Nodup) →
    moment.metrics.registry.samples.Perm
      (totalSamples fresh.subsystem batch ++ batch.flatMap (ownSamples fresh.subsystem))
  goesOn : moment.phase ≠ .stopped →
    ∃ next, Step interval shutdown (answering answers) moment next

theorem batches_succ (answers : Nat → Except Error α) (rounds : Nat) :
    batches answers (rounds + 1) =
      batches answers rounds ++ (answers rounds).toOption.toList := by
  rw [batches, List.range_succ, List.filterMap_append]
  rfl

section Attempt

variable (interval : Nat) (produce : Delivery.Producer π (List CronJobSummary))
  (recorder : Recorder π)

theorem attempt_time :
    (recorder.attempt interval produce).time =
      (produce recorder.time recorder.producer).2.1 := by
  rw [attempt]
  split
  case h_1 hproduce => rw [hproduce]
  case h_2 hproduce => split <;> rw [hproduce]

theorem attempt_producer :
    (recorder.attempt interval produce).producer =
      (produce recorder.time recorder.producer).2.2 := by
  rw [attempt]
  split
  case h_1 hproduce => rw [hproduce]
  case h_2 hproduce => split <;> rw [hproduce]

theorem attempt_wake? :
    (recorder.attempt interval produce).phase.wake? =
      some ((recorder.attempt interval produce).time + interval) := by
  rw [attempt]
  split
  · rfl
  · split <;> rfl

end Attempt

theorem Phase.ne_of_wake? {phase : Phase} {wake : Nat} (h : phase.wake? = some wake) :
    phase ≠ .ready ∧ phase ≠ .stopped := by
  constructor <;> rintro rfl <;> cases h

namespace KeepsTime

variable {start : Nat} {answers : Nat → Except Error (List CronJobSummary)}
  {moment after : Moment (List Nat)}

theorem begin (interval start lasting : Nat) (metrics : Metrics) :
    KeepsTime interval start (start + lasting) ⟨⟨start, [], metrics⟩, .ready⟩ where
  punctual := rfl
  begun _ h := nomatch h
  next := Nat.le_add_right _ _
  running := Nat.le_add_right _ _
  ready _ := by simp
  waits _ h := nomatch h
  stopped h := nomatch h

theorem attempt {recorder : Recorder (List Nat)}
    (keeps : KeepsTime interval start shutdown ⟨recorder, .ready⟩)
    (htime : after.time = recorder.time)
    (hproducer : after.producer = recorder.producer ++ [recorder.time])
    (hwake : after.phase.wake? = some (after.time + interval)) :
    KeepsTime interval start shutdown after := by
  have hdue : recorder.time = start + recorder.producer.length * interval := keeps.ready rfl
  have hlength : after.producer.length = recorder.producer.length + 1 := by
    rw [hproducer, List.length_append]
    rfl
  have hnext : after.time + interval = start + after.producer.length * interval := by
    rw [htime, hdue, hlength, Nat.add_assoc, Nat.succ_mul]
  obtain ⟨hnotReady, hnotStopped⟩ := Phase.ne_of_wake? hwake
  constructor
  case punctual =>
    have hpunctual : recorder.producer =
        (List.range recorder.producer.length).map fun round => start + round * interval :=
      keeps.punctual
    rw [hlength, hproducer, List.range_succ, List.map_append, ← hpunctual, hdue]
    rfl
  case begun =>
    intro time member
    rw [hproducer, List.mem_append] at member
    rw [htime]
    rcases member with member | member
    · exact keeps.begun time member
    · exact (List.mem_singleton.mp member).le
  case next => exact hnext ▸ Nat.le_add_right _ _
  case running => exact htime ▸ keeps.running
  case ready => exact fun h => absurd h hnotReady
  case waits => exact fun wake h => hnext ▸ Option.some.inj (h.symm.trans hwake)
  case stopped => exact fun h => absurd h hnotStopped

theorem wakes {recorder : Recorder (List Nat)} {phase : Phase}
    (keeps : KeepsTime interval start shutdown ⟨recorder, phase⟩)
    (h : phase.wake? = some recorder.time) :
    KeepsTime interval start shutdown ⟨recorder, .ready⟩ :=
  { keeps with
    ready := fun _ => keeps.waits _ h
    waits := fun _ h => nomatch h
    stopped := fun h => nomatch h }

theorem stop (keeps : KeepsTime interval start shutdown moment)
    (h : shutdown ≤ moment.time) :
    KeepsTime interval start shutdown { moment with phase := .stopped } :=
  { keeps with
    ready := fun h => nomatch h
    waits := fun _ h => nomatch h
    stopped := fun _ => Nat.le_antisymm keeps.running h }

theorem pass {wake : Nat} (keeps : KeepsTime interval start shutdown moment)
    (running : moment.time < shutdown) (waiting : moment.phase.wake? = some wake)
    (h : moment.time < wake) :
    KeepsTime interval start shutdown { moment with time := moment.time + 1 } := by
  obtain ⟨hnotReady, hnotStopped⟩ := Phase.ne_of_wake? waiting
  exact
    { keeps with
      begun := fun time member => Nat.le_succ_of_le (keeps.begun time member)
      next := keeps.waits wake waiting ▸ h
      running := running
      ready := fun h => absurd h hnotReady
      stopped := fun h => absurd h hnotStopped }

theorem step (keeps : KeepsTime interval start shutdown moment)
    (h : Step interval shutdown (answering answers) moment after) :
    KeepsTime interval start shutdown after := by
  cases h with
  | attempt recorder =>
      exact keeps.attempt (attempt_time interval _ recorder) (attempt_producer interval _ recorder)
        (attempt_wake? interval _ recorder)
  | goOn recorder _ => exact keeps.wakes rfl
  | cancel recorder h => exact keeps.stop h
  | retry recorder => exact keeps.wakes rfl
  | stop _ h => exact keeps.stop h
  | pass _ running waiting h => exact keeps.pass running waiting h

end KeepsTime

structure Shows (answers : Nat → Except Error (List CronJobSummary)) (subsystem : String)
    (recorder : Recorder (List Nat)) : Prop where
  holds : recorder.metrics.Holds
    (Readings.ofBatch ((batches answers recorder.producer.length).getLastD []))
  subsystem : recorder.metrics.subsystem = subsystem

namespace Shows

variable {answers : Nat → Except Error (List CronJobSummary)} {subsystem : String}
  {recorder : Recorder (List Nat)} {moment after : Moment (List Nat)}

theorem attempt (interval : Nat) (shows : Shows answers subsystem recorder) :
    Shows answers subsystem (recorder.attempt interval (answering answers)).toRecorder := by
  obtain ⟨hholds, hsubsystem⟩ := shows
  have hlength : (recorder.producer ++ [recorder.time]).length = recorder.producer.length + 1 :=
    List.length_append
  cases hanswer : answers recorder.producer.length with
  | error error =>
      have hattempt : recorder.attempt interval (answering answers) =
          ⟨⟨recorder.time, recorder.producer ++ [recorder.time], recorder.metrics⟩,
            .failed (recorder.time + interval)⟩ := by
        simp only [Recorder.attempt, answering, hanswer]
      have hbatches : batches answers (recorder.producer.length + 1) =
          batches answers recorder.producer.length := by
        rw [batches_succ, hanswer]
        exact List.append_nil _
      rw [hattempt]
      exact ⟨by rw [hlength, hbatches]; exact hholds, hsubsystem⟩
  | ok batch =>
      obtain ⟨next, hnext, hshown, hsame⟩ := hholds.observe batch
      have hattempt : recorder.attempt interval (answering answers) =
          ⟨⟨recorder.time, recorder.producer ++ [recorder.time], next⟩,
            .delivered (recorder.time + interval)⟩ := by
        simp only [Recorder.attempt, answering, hanswer, hnext]
      have hbatches : batches answers (recorder.producer.length + 1) =
          batches answers recorder.producer.length ++ [batch] := by
        rw [batches_succ, hanswer]
        rfl
      rw [hattempt]
      refine ⟨?_, hsame.trans hsubsystem⟩
      rw [hlength, hbatches, List.getLastD_concat]
      exact hshown

theorem step (shows : Shows answers subsystem moment.toRecorder)
    (h : Step interval shutdown (answering answers) moment after) :
    Shows answers subsystem after.toRecorder := by
  cases h with
  | attempt recorder => exact shows.attempt interval
  | goOn | cancel | retry | stop | pass => exact ⟨shows.holds, shows.subsystem⟩

theorem text_eq {fresh : Metrics} (shows : Shows answers fresh.subsystem recorder)
    (hfresh : fresh.Holds (Readings.ofBatch [])) :
    ∃ shown, observeLast fresh (batches answers recorder.producer.length) = .ok shown ∧
      recorder.metrics.text = shown.text := by
  obtain ⟨hholds, hsubsystem⟩ := shows
  have hregistry := hholds.registry
  rw [hsubsystem] at hregistry
  rw [observeLast]
  rw [List.getLastD_eq_getLast?] at hregistry
  cases hlast : (batches answers recorder.producer.length).getLast? with
  | none =>
      rw [hlast] at hregistry
      exact ⟨fresh, rfl, hregistry.text_eq hfresh.registry⟩
  | some batch =>
      obtain ⟨shown, hshown, hsame, hsubsystem'⟩ := hfresh.observe batch
      rw [hlast, ← hsubsystem'] at hregistry
      exact ⟨shown, hshown, hregistry.text_eq hsame.registry⟩

end Shows

theorem step_of_wakes {recorder : Recorder π} {phase : Phase} (h : recorder.time ≤ shutdown)
    (hwake : phase.wake? = some recorder.time) :
    Step interval shutdown produce ⟨recorder, phase⟩ ⟨recorder, .ready⟩ := by
  cases phase with
  | ready => cases hwake
  | delivered wake =>
      obtain rfl := Option.some.inj hwake
      exact .goOn recorder h
  | failed wake =>
      obtain rfl := Option.some.inj hwake
      exact .retry recorder
  | stopped => cases hwake

theorem KeepsTime.exists_step {start : Nat} {moment : Moment (List Nat)}
    (keeps : KeepsTime interval start shutdown moment) (h : moment.phase ≠ .stopped)
    (produce : Delivery.Producer (List Nat) (List CronJobSummary)) :
    ∃ next, Step interval shutdown produce moment next := by
  by_cases hshutdown : shutdown ≤ moment.time
  · exact ⟨_, .stop moment hshutdown⟩
  · obtain ⟨recorder, phase⟩ := moment
    have hwaits : ∀ wake, phase.wake? = some wake →
        ∃ next, Step interval shutdown produce ⟨recorder, phase⟩ next := by
      intro wake hwake
      have hnext : recorder.time ≤ wake := keeps.waits wake hwake ▸ keeps.next
      rcases Nat.lt_or_eq_of_le hnext with hlt | rfl
      · exact ⟨_, .pass _ (Nat.lt_of_not_le hshutdown) hwake hlt⟩
      · exact ⟨_, step_of_wakes keeps.running hwake⟩
    cases phase with
    | ready => exact ⟨_, .attempt recorder⟩
    | delivered wake => exact hwaits wake rfl
    | failed wake => exact hwaits wake rfl
    | stopped => exact absurd rfl h

theorem runRounds_of_le {recorder : Recorder π} (h : shutdown ≤ recorder.time) (rounds : Nat) :
    runRounds interval shutdown produce rounds recorder = recorder := by
  cases rounds with
  | zero => rfl
  | succ rounds => rw [runRounds, if_pos h]

theorem runRounds_succ {recorder : Recorder π} (h : recorder.time < shutdown) (rounds : Nat) :
    runRounds interval shutdown produce (rounds + 1) recorder =
      runRounds interval shutdown produce rounds
        { (recorder.attempt interval produce).toRecorder with
          time := (recorder.attempt interval produce).time + interval } := by
  rw [runRounds, if_neg (Nat.not_le.mpr h), Delivery.round, attempt]
  obtain ⟨result, time, producer, hproduce⟩ :
    ∃ result time producer, produce recorder.time recorder.producer = (result, time, producer) :=
    ⟨_, _, _, rfl⟩
  rw [hproduce]
  cases result with
  | error error => rfl
  | ok summaries =>
      simp only [subscriber]
      cases recorder.metrics.observe summaries with
      | error error => rfl
      | ok metrics =>
          simp only [decide_eq_true_eq]
          by_cases hended : shutdown ≤ time + interval
          · rw [if_pos hended, runRounds_of_le]
            exact hended
          · rw [if_neg hended]

theorem lt_of_round {time next : Nat} {producer producer' : π} {metrics metrics' : Metrics}
    (h : Delivery.round interval produce (subscriber shutdown) time producer metrics =
      .inr (next, producer', metrics')) : next < shutdown := by
  rw [Delivery.round] at h
  split at h
  · cases h
  · split at h
    · cases h
    · dsimp only at h
      split at h
      case isTrue => cases h
      case isFalse hcancelled =>
        cases h
        exact Nat.not_le.mp fun hle => hcancelled (decide_eq_true hle)

theorem runRounds_deliver (turns : Nat) {recorder : Recorder π} (h : recorder.time < shutdown)
    {outcome : Delivery.Outcome π Metrics}
    (hdeliver : Delivery.deliver interval produce (subscriber shutdown) turns recorder.time
      recorder.producer recorder.metrics = some outcome) :
    ∃ made ≤ turns, ∀ rounds,
      runRounds interval shutdown produce (rounds + made) recorder =
        match outcome.result with
        | .ok () => ⟨outcome.time, outcome.producer, outcome.subscriber⟩
        | .error _ =>
            runRounds interval shutdown produce rounds
              ⟨outcome.time + interval, outcome.producer, outcome.subscriber⟩ := by
  induction turns generalizing recorder with
  | zero => cases hdeliver
  | succ turns ih =>
      rw [Delivery.deliver] at hdeliver
      cases hround : Delivery.round interval produce (subscriber shutdown) recorder.time
        recorder.producer recorder.metrics with
      | inl ending =>
          rw [hround] at hdeliver
          obtain rfl := Option.some.inj hdeliver
          refine ⟨1, Nat.le_add_left 1 turns, fun rounds => ?_⟩
          rw [runRounds, if_neg (Nat.not_le.mpr h), hround]
          obtain ⟨result, time, producer, metrics⟩ := ending
          cases result <;> rfl
      | inr middle =>
          obtain ⟨time, producer, metrics⟩ := middle
          rw [hround] at hdeliver
          obtain ⟨made, hmade, hrounds⟩ :=
            @ih ⟨time, producer, metrics⟩ (lt_of_round hround) hdeliver
          refine ⟨made + 1, Nat.succ_le_succ hmade, fun rounds => ?_⟩
          rw [← Nat.add_assoc, runRounds, if_neg (Nat.not_le.mpr h), hround]
          exact hrounds rounds

section Goes

variable {recorder : Recorder π} {moment : Moment π} {wake : Nat}

theorem goes_pass (hwake : moment.phase.wake? = some wake) (steps : Nat)
    (h : moment.time + steps ≤ wake) (h' : moment.time + steps ≤ shutdown) :
    Goes interval shutdown produce moment { moment with time := moment.time + steps } := by
  induction steps with
  | zero => exact .refl
  | succ steps ih =>
      exact .tail (ih (by omega) (by omega)) (.pass _ h' hwake h)

theorem goes_wake (hwake : moment.phase.wake? = some wake) (hnow : moment.time ≤ wake)
    (h : wake ≤ shutdown) :
    Goes interval shutdown produce moment
      ⟨{ moment.toRecorder with time := wake }, .ready⟩ := by
  obtain ⟨steps, rfl⟩ := Nat.exists_eq_add_of_le hnow
  exact .tail (goes_pass hwake steps le_rfl h) (step_of_wakes h hwake)

theorem goes_cut (hwake : moment.phase.wake? = some wake) (hnow : moment.time ≤ shutdown)
    (h : shutdown ≤ wake) :
    Goes interval shutdown produce moment
      ⟨{ moment.toRecorder with time := shutdown }, .stopped⟩ := by
  obtain ⟨steps, rfl⟩ := Nat.exists_eq_add_of_le hnow
  exact .tail (goes_pass hwake steps h le_rfl) (.stop _ le_rfl)

theorem goes_stop (rounds : Nat) (hstart : recorder.time ≤ shutdown)
    (h : shutdown ≤ recorder.time) :
    Goes interval shutdown produce ⟨recorder, .ready⟩
      ⟨{ runRounds interval shutdown produce rounds recorder with time := shutdown },
        .stopped⟩ := by
  obtain rfl := Nat.le_antisymm hstart h
  rw [runRounds_of_le h]
  exact .single (.stop _ h)

/-- Without delay, a run ends at the shutdown with what its rounds have come to. -/
theorem goes_runRounds (timeless : ∀ time producer, (produce time producer).2.1 = time)
    (rounds : Nat) (hstart : recorder.time ≤ shutdown)
    (enough : shutdown ≤ recorder.time + rounds * interval) :
    Goes interval shutdown produce ⟨recorder, .ready⟩
      ⟨{ runRounds interval shutdown produce rounds recorder with time := shutdown },
        .stopped⟩ := by
  induction rounds generalizing recorder with
  | zero => exact goes_stop 0 hstart (by simpa using enough)
  | succ rounds ih =>
      by_cases hrunning : recorder.time < shutdown
      case neg => exact goes_stop _ hstart (Nat.not_lt.mp hrunning)
      have hattempt : Step interval shutdown produce ⟨recorder, .ready⟩
        (recorder.attempt interval produce) := .attempt recorder
      have htime : (recorder.attempt interval produce).time = recorder.time :=
        (attempt_time interval produce recorder).trans (timeless _ _)
      have hwake := attempt_wake? interval produce recorder
      rw [runRounds_succ hrunning]
      rcases Nat.le_total ((recorder.attempt interval produce).time + interval) shutdown with
        hwithin | hcut
      · have hrest : shutdown ≤
            (recorder.attempt interval produce).time + interval + rounds * interval := by
          rwa [htime, Nat.add_assoc, Nat.add_comm interval, ← Nat.succ_mul]
        exact ((goes_wake hwake (Nat.le_add_right _ _) hwithin).head hattempt).trans
          (ih hwithin hrest)
      · rw [runRounds_of_le hcut]
        exact (goes_cut hwake (htime ▸ hstart) hcut).head hattempt

theorem goes_run (timeless : ∀ time producer, (produce time producer).2.1 = time)
    (hinterval : 0 < interval) (hstart : recorder.time ≤ shutdown) :
    Goes interval shutdown produce ⟨recorder, .ready⟩
      ⟨run interval shutdown produce recorder, .stopped⟩ := by
  refine goes_runRounds timeless _ hstart ?_
  have hsplit := Nat.div_add_mod' (shutdown - recorder.time + interval - 1) interval
  have hmod := Nat.mod_lt (shutdown - recorder.time + interval - 1) hinterval
  omega

end Goes

/-- The recorder lists the cron jobs once per interval, whatever comes of it, until the shutdown
that comes some time after its start, and always shows the last batch that it was given. -/
theorem records_of_goes (watched : Option String) :
    ∃ fresh, Metrics.new watched = .ok fresh ∧
      ∀ (interval start lasting : Nat) (answers : Nat → Except Error (List CronJobSummary)),
        (∀ moment, Goes interval (start + lasting) (answering answers)
            ⟨⟨start, [], fresh⟩, .ready⟩ moment →
          Records interval start (start + lasting) answers fresh moment) ∧
        (0 < interval → Goes interval (start + lasting) (answering answers)
          ⟨⟨start, [], fresh⟩, .ready⟩
          ⟨run interval (start + lasting) (answering answers) ⟨start, [], fresh⟩, .stopped⟩) := by
  obtain ⟨fresh, hfresh, hholds, -⟩ := holds_new watched
  refine ⟨fresh, hfresh, fun interval start lasting answers => ⟨fun moment hgoes => ?_, ?_⟩⟩
  · have hkeeps : KeepsTime interval start (start + lasting) moment ∧
        Shows answers fresh.subsystem moment.toRecorder := by
      induction hgoes with
      | refl => exact ⟨.begin interval start lasting fresh, hholds, rfl⟩
      | tail _ hstep ih => exact ⟨ih.1.step hstep, ih.2.step hstep⟩
    refine ⟨hkeeps.1, hkeeps.2.text_eq hholds, ?_, fun h => hkeeps.1.exists_step h _⟩
    rintro batch rfl distinct apart
    have hsamples := hkeeps.2.holds.samples_perm distinct apart
    rwa [hkeeps.2.subsystem] at hsamples
  · exact fun hinterval => goes_run (fun _ _ => rfl) hinterval (Nat.le_add_right _ _)

/-- One run of one cron job, which is a little older in every round. -/
def growingBatch (round : Nat) : List CronJobSummary :=
  [{ ns := "default", name := "nightly",
     allRuns := [{ name := "nightly-1", active := 1, durationSeconds := 10 * round }] }]

def everyOther (round : Nat) : Except Error (List CronJobSummary) :=
  if round % 2 = 0 then .ok (growingBatch round) else .error .subscriberGone

theorem records_everyOther :
    ∃ fresh, Metrics.new none = .ok fresh ∧ 0 < 10 ∧
      Records 10 5 (5 + 25) everyOther fresh
        ⟨run 10 (5 + 25) (answering everyOther) ⟨5, [], fresh⟩, .stopped⟩ := by
  obtain ⟨fresh, hfresh, h⟩ := records_of_goes none
  obtain ⟨hrecords, hruns⟩ := h 10 5 25 everyOther
  exact ⟨fresh, hfresh, by decide, hrecords _ (hruns (by decide))⟩

end RunMonitor.Metrics.Recorder
