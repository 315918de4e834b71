import Mathlib.Tactic.SplitIfs
import RunMonitor.Time.Instant

namespace RunMonitor.Instant

def sinceEpoch (t : Instant) : Int := t.seconds * 1000000000 + t.nanos

variable {t t' start : Instant}

theorem since_of_not_isLeap (ht : ¬ t.isLeap) (hstart : ¬ start.isLeap) :
    t.since start = ⟨t.sinceEpoch - start.sinceEpoch⟩ := by
  rw [since, if_neg fun both => hstart both.2, if_neg fun both => ht both.2]
  congr 1
  unfold sinceEpoch
  omega

theorem sinceEpoch_le_sinceEpoch (ht : ¬ t.isLeap) (h : t ≤ t') :
    t.sinceEpoch ≤ t'.sinceEpoch := by
  simp only [isLeap, decide_eq_true_eq] at ht
  simp only [le_def] at h
  unfold sinceEpoch
  omega

theorem seconds_since_le_seconds_since (hstart : ¬ start.isLeap) (ht : ¬ t.isLeap)
    (ht' : ¬ t'.isLeap) (h : t ≤ t') : (t.since start).seconds ≤ (t'.since start).seconds := by
  rw [since_of_not_isLeap ht hstart, since_of_not_isLeap ht' hstart]
  have hle := sinceEpoch_le_sinceEpoch ht h
  exact Int.tdiv_le_tdiv (by decide) (Int.sub_le_sub_right hle _)

/-- A leap second ends before the next second begins, and one more may count only until midnight. -/
theorem nanos_since_lt (h : t ≤ t') (hnanos : t.nanos < 2000000000) :
    (t.since start).nanos < (t'.since start).nanos + 2000000000 := by
  simp only [le_def] at h
  simp only [since, isLeap, secondOfDay, decide_eq_true_eq]
  split_ifs <;> omega

theorem seconds_since_le_add_two (h : t ≤ t') (hnanos : t.nanos < 2000000000) :
    (t.since start).seconds ≤ (t'.since start).seconds + 2 := by
  have hlt : (t.since start).nanos < (t'.since start).nanos + 2000000000 :=
    nanos_since_lt h hnanos
  have hsign : Int.sign 1000000000 = 1 := rfl
  rw [Span.seconds, Span.seconds, Int.tdiv_eq_ediv, Int.tdiv_eq_ediv, hsign]
  split_ifs <;> omega

theorem seconds_since_lt_of_day (start : Instant) :
    (Instant.since ⟨start.seconds, 0⟩ start).seconds <
      (Instant.since ⟨start.seconds + 86400, 0⟩ start).seconds := by
  have hsign : Int.sign 1000000000 = 1 := rfl
  simp only [since, Span.seconds, Int.tdiv_eq_ediv, hsign, secondOfDay, isLeap]
  split_ifs <;> omega

end RunMonitor.Instant
