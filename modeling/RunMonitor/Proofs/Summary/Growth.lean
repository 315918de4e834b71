import RunMonitor.Proofs.Summary.Duration
import RunMonitor.Proofs.Time.Elapsed

namespace RunMonitor

/-! Only a leap second can set the duration of a run back. -/

/-- The run has never begun, it has completed, or the first condition that says that it has failed
says when. -/
def Job.IsClosed (job : Job) : Prop :=
  job.startTime? = none ∨ job.completionTime?.isSome ∨
    ∃ condition, job.conditions.find? (·.type = "Failed") = some condition ∧
      condition.lastTransitionTime.isSome

theorem Job.isSome_endedAt? {job : Job} :
    job.endedAt?.isSome ↔ job.completionTime?.isSome ∨
      ∃ condition, job.conditions.find? (·.type = "Failed") = some condition ∧
        condition.lastTransitionTime.isSome := by
  rw [endedAt?, Option.isSome_or, Bool.or_eq_true, or_comm, Option.isSome_bind,
    Option.any_eq_true]
  rfl

theorem Job.not_isOpen_iff {job : Job} : ¬ job.IsOpen ↔ job.IsClosed := by
  rw [IsOpen, IsClosed, ← isSome_endedAt?]
  cases job.startTime? <;> cases job.endedAt? <;> simp

namespace JobSummary

/-- How a count of seconds goes with the present. -/
structure Ticks (job : Job) (seconds : Instant → Int) : Prop where
  grows : (∀ started ∈ job.startTime?, ¬ started.isLeap) → ∀ now now', now ≤ now' →
    ¬ now.isLeap → ¬ now'.isLeap → seconds now ≤ seconds now'
  /-- Leap seconds included. An instant has less than two thousand million nanoseconds. -/
  nearly : ∀ now now', now ≤ now' → now.nanos < 2000000000 → seconds now ≤ seconds now' + 2
  stands_iff : (∀ now now', seconds now = seconds now') ↔ job.IsClosed
  moves : ¬ job.IsClosed →
    ∃ now now', ¬ now.isLeap ∧ ¬ now'.isLeap ∧ seconds now < seconds now'
  elapsed : ∀ started, job.startTime? = some started → ¬ job.IsClosed → ∀ now,
    seconds now = (now.since started).seconds ∧
      (¬ started.isLeap → ¬ now.isLeap →
        seconds now = (now.sinceEpoch - started.sinceEpoch).tdiv 1000000000)

variable {job : Job} {pods : List Pod}

theorem durationSeconds_of_isOpen {started : Instant} (hstarted : job.startTime? = some started)
    (hopen : job.IsOpen) (now : Instant) :
    (ofJob job pods now).durationSeconds = (now.since started).seconds := by
  rw [durationSeconds_ofJob, hstarted, hopen.2]
  rfl

theorem ticks_of_not_isOpen (h : ¬ job.IsOpen) :
    Ticks job fun now => (ofJob job pods now).durationSeconds := by
  have hsame : ∀ now now',
      (ofJob job pods now).durationSeconds = (ofJob job pods now').durationSeconds :=
    durationSeconds_of_not_isOpen h
  have hclosed := Job.not_isOpen_iff.mp h
  constructor
  case grows => exact fun _ now now' _ _ _ => Int.le_of_eq (hsame now now')
  case nearly =>
    intro now now' _ _
    have heq := hsame now now'
    omega
  case stands_iff => exact ⟨fun _ => hclosed, fun _ => hsame⟩
  case moves => exact fun hnot => absurd hclosed hnot
  case elapsed => exact fun _ _ hnot => absurd hclosed hnot

theorem ticks_of_isOpen (h : job.IsOpen) :
    Ticks job fun now => (ofJob job pods now).durationSeconds := by
  have hnot : ¬ job.IsClosed := Job.not_isOpen_iff.not.mp (not_not.mpr h)
  obtain ⟨started, hstarted⟩ := Option.isSome_iff_exists.mp h.1
  have hseconds : ∀ now, (ofJob job pods now).durationSeconds = (now.since started).seconds :=
    durationSeconds_of_isOpen hstarted h
  constructor
  case grows =>
    intro hordinary now now' hle hnow hnow'
    rw [hseconds, hseconds]
    exact Instant.seconds_since_le_seconds_since (hordinary started hstarted) hnow hnow' hle
  case nearly =>
    intro now now' hle hnanos
    rw [hseconds, hseconds]
    exact Instant.seconds_since_le_add_two hle hnanos
  case stands_iff =>
    refine ⟨fun hsame => ?_, fun hclosed => absurd hclosed hnot⟩
    obtain ⟨now, now', hne⟩ := exists_durationSeconds_ne h
    exact absurd (hsame now now') hne
  case moves =>
    intro _
    have hfirst : ¬ Instant.isLeap ⟨started.seconds, 0⟩ := by simp [Instant.isLeap]
    have hsecond : ¬ Instant.isLeap ⟨started.seconds + 86400, 0⟩ := by simp [Instant.isLeap]
    refine ⟨_, _, hfirst, hsecond, ?_⟩
    rw [hseconds, hseconds]
    exact Instant.seconds_since_lt_of_day started
  case elapsed =>
    intro other hother _ now
    obtain rfl := Option.some.inj (hstarted.symm.trans hother)
    refine ⟨hseconds now, fun hordinary hnow => ?_⟩
    rw [hseconds, Instant.since_of_not_isLeap hnow hordinary]
    rfl

theorem ticks_durationSeconds (job : Job) (pods : List Pod) :
    Ticks job fun now => (ofJob job pods now).durationSeconds := by
  by_cases hopen : job.IsOpen
  case pos => exact ticks_of_isOpen hopen
  case neg => exact ticks_of_not_isOpen hopen

section LeapSecond

/-- A run that began in a leap second, at 12:00:60.5 on the first of March 2024. -/
def noonRun : Job where
  metadata := { name := some "run-1", ns := some "default" }
  status := some { startTime := some ⟨1709294459, 1500000000⟩, active := some 1 }

/-- The leap second counts on the day of the start and not on the next one, so that the run is a
second younger at midnight than it was just before. -/
theorem not_grows_of_leapSecond :
    ¬ ∀ (job : Job) (pods : List Pod) (now now' : Instant), now ≤ now' →
      (ofJob job pods now).durationSeconds ≤ (ofJob job pods now').durationSeconds := by
  intro hall
  have hle := hall noonRun [] ⟨1709337599, 600000000⟩ ⟨1709337600, 0⟩ (by decide)
  have hbefore : (ofJob noonRun [] ⟨1709337599, 600000000⟩).durationSeconds = 43140 := by
    decide +kernel
  have hafter : (ofJob noonRun [] ⟨1709337600, 0⟩).durationSeconds = 43139 := by decide +kernel
  rw [hbefore, hafter] at hle
  exact absurd hle (by decide)

end LeapSecond

end JobSummary
end RunMonitor
