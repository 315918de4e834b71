import RunMonitor.Time.Calendar

namespace RunMonitor.Date

/-- A day of a cycle lies after so many centuries, spans of four years and single years. Day 365 is
a leap day. -/
structure Splits (dayOfCycle century span year day : Int) : Prop where
  sum : dayOfCycle = 36524 * century + 1461 * span + 365 * year + day
  century_range : 0 ≤ century ∧ century ≤ 3
  span_range : 0 ≤ span ∧ span ≤ 24
  year_range : 0 ≤ year ∧ year ≤ 3
  day_range : 0 ≤ day ∧ day ≤ 365
  leap : day = 365 → year = 3 ∧ (span = 24 → century = 3)

theorem exists_splits {dayOfCycle : Int} (h : 0 ≤ dayOfCycle) (hlt : dayOfCycle < cycleLength) :
    ∃ century span year day, Splits dayOfCycle century span year day := by
  -- the last century of a cycle and the last year of a span are longer by a day
  obtain ⟨century, hcentury⟩ : ∃ century, century = min (dayOfCycle / 36524) 3 := ⟨_, rfl⟩
  obtain ⟨span, hspan⟩ : ∃ span, span = (dayOfCycle - 36524 * century) / 1461 := ⟨_, rfl⟩
  obtain ⟨year, hyear⟩ :
      ∃ year, year = min ((dayOfCycle - 36524 * century - 1461 * span) / 365) 3 := ⟨_, rfl⟩
  unfold cycleLength at hlt
  refine ⟨century, span, year, dayOfCycle - 36524 * century - 1461 * span - 365 * year, ?_⟩
  constructor <;> omega

section Splits

variable {dayOfCycle century span year day : Int}
  (h : Splits dayOfCycle century span year day)

include h

theorem Splits.yearOfCycle_eq :
    (dayOfCycle - dayOfCycle / 1460 + dayOfCycle / 36524 - dayOfCycle / 146096) / 365 =
      100 * century + 4 * span + year := by
  obtain ⟨hsum, hcentury, hspan, hyear, hday, hleap⟩ := h
  have hcycles : dayOfCycle / 146096 = if dayOfCycle = 146096 then 1 else 0 := by
    split <;> omega
  have hcenturies : dayOfCycle / 36524 = century + if dayOfCycle = 146096 then 1 else 0 := by
    split <;> omega
  have hspans : dayOfCycle / 1460 =
      25 * century + span + if 1460 ≤ 24 * century + span + 365 * year + day then 1 else 0 := by
    split <;> omega
  rw [hcycles, hcenturies, hspans]
  split <;> split <;> omega

theorem Splits.daysBeforeYear_eq :
    daysBeforeYear (100 * century + 4 * span + year) = dayOfCycle - day := by
  obtain ⟨hsum, hcentury, hspan, hyear, -, -⟩ := h
  unfold daysBeforeYear
  omega

theorem Splits.yearOfCycle_lt :
    0 ≤ 100 * century + 4 * span + year ∧ 100 * century + 4 * span + year < 400 := by
  obtain ⟨-, hcentury, hspan, hyear, -, -⟩ := h
  omega

theorem Splits.isLeapYear (hday : day = 365) (cycle : Int) :
    isLeapYear (100 * century + 4 * span + year + cycle * 400 + 1) = true := by
  obtain ⟨hyear, hlast⟩ := h.leap hday
  obtain ⟨-, hcentury, hspan, -, -, -⟩ := h
  simp only [Date.isLeapYear, decide_eq_true_eq]
  omega

end Splits

def ofYearDay (year dayOfYear : Int) : Date :=
  let month := (5 * dayOfYear + 2) / 153
  let day := dayOfYear - daysBeforeMonth month + 1
  if month < 10 then ⟨year, (month + 3).toNat, day.toNat⟩
  else ⟨year + 1, (month - 9).toNat, day.toNat⟩

theorem ofDays_eq {days cycle dayOfCycle century span year day : Int}
    (hcycle : days + epochShift = cycle * cycleLength + dayOfCycle)
    (h : Splits dayOfCycle century span year day) :
    ofDays days = ofYearDay (100 * century + 4 * span + year + cycle * 400) day := by
  have hbounds : 0 ≤ dayOfCycle ∧ dayOfCycle < 146097 := by
    obtain ⟨hsum, hcentury, hspan, hyear, hday, hleap⟩ := h
    omega
  have hquotient : (days + epochShift) / cycleLength = cycle := by
    unfold cycleLength at *
    omega
  have hremainder : (days + epochShift) % cycleLength = dayOfCycle := by
    unfold cycleLength at *
    omega
  have hday : dayOfCycle - (dayOfCycle - day) = day := by omega
  simp only [ofDays, hquotient, hremainder, h.yearOfCycle_eq, h.daysBeforeYear_eq, hday, ofYearDay]

theorem exists_ofDays_eq (days : Int) :
    ∃ cycle dayOfCycle century span year day,
      days + epochShift = cycle * cycleLength + dayOfCycle ∧
        Splits dayOfCycle century span year day ∧
          ofDays days = ofYearDay (100 * century + 4 * span + year + cycle * 400) day := by
  have hcycle : days + epochShift = (days + epochShift) / cycleLength * cycleLength +
      (days + epochShift) % cycleLength := by
    unfold cycleLength
    omega
  obtain ⟨century, span, year, day, h⟩ := exists_splits
    (Int.emod_nonneg (days + epochShift) (by decide : cycleLength ≠ 0))
    (Int.emod_lt_of_pos (days + epochShift) (by decide : 0 < cycleLength))
  exact ⟨_, _, century, span, year, day, hcycle, h, ofDays_eq hcycle h⟩

theorem month_range {dayOfYear : Int} (h : 0 ≤ dayOfYear ∧ dayOfYear ≤ 365) :
    0 ≤ (5 * dayOfYear + 2) / 153 ∧ (5 * dayOfYear + 2) / 153 ≤ 11 ∧
      daysBeforeMonth ((5 * dayOfYear + 2) / 153) ≤ dayOfYear := by
  unfold daysBeforeMonth
  omega

theorem toDays_ofYearDay {year dayOfYear : Int} (h : 0 ≤ dayOfYear ∧ dayOfYear ≤ 365) :
    (ofYearDay year dayOfYear).toDays =
      year / 400 * cycleLength + daysBeforeYear (year % 400) + dayOfYear - epochShift := by
  obtain ⟨hpos, hle, hday⟩ := month_range h
  unfold ofYearDay
  generalize (5 * dayOfYear + 2) / 153 = month at *
  simp only
  split
  · have hmonth : ¬ (month + 3).toNat ≤ 2 := by omega
    have hback : ((month + 3).toNat : Int) - 3 = month := by omega
    simp only [toDays, if_neg hmonth, hback]
    omega
  · have hmonth : (month - 9).toNat ≤ 2 := by omega
    have hback : ((month - 9).toNat : Int) + 9 = month := by omega
    simp only [toDays, if_pos hmonth, hback, Int.add_sub_cancel]
    omega

theorem monthLength_le (year : Int) (month : Nat) : monthLength year month ≤ 31 := by
  unfold monthLength
  split
  · split <;> omega
  · split <;> omega

theorem isValid_ofYearDay {year dayOfYear : Int} (h : 0 ≤ dayOfYear ∧ dayOfYear ≤ 365)
    (hleap : dayOfYear = 365 → isLeapYear (year + 1) = true) :
    (ofYearDay year dayOfYear).IsValid := by
  obtain ⟨hpos, hle, hday⟩ := month_range h
  have hlt : dayOfYear < daysBeforeMonth ((5 * dayOfYear + 2) / 153 + 1) := by
    unfold daysBeforeMonth
    omega
  unfold ofYearDay
  generalize (5 * dayOfYear + 2) / 153 = month at *
  simp only
  unfold daysBeforeMonth at *
  by_cases hfebruary : month = 11
  · subst hfebruary
    cases hyear : isLeapYear (year + 1) with
    | true =>
        simp [IsValid, monthLength, hyear]
        omega
    | false =>
        have hne : dayOfYear ≠ 365 := fun heq => by simp [hleap heq] at hyear
        simp [IsValid, monthLength, hyear]
        omega
  · have hcases : month = 0 ∨ month = 1 ∨ month = 2 ∨ month = 3 ∨ month = 4 ∨ month = 5 ∨
        month = 6 ∨ month = 7 ∨ month = 8 ∨ month = 9 ∨ month = 10 := by
      omega
    rcases hcases with rfl | rfl | rfl | rfl | rfl | rfl | rfl | rfl | rfl | rfl | rfl <;>
      simp [IsValid, monthLength] <;> omega

theorem toDays_ofDays (days : Int) : (ofDays days).toDays = days := by
  obtain ⟨cycle, dayOfCycle, century, span, year, day, hcycle, h, heq⟩ := exists_ofDays_eq days
  have hyear := h.yearOfCycle_lt
  have hbefore := h.daysBeforeYear_eq
  have hquotient : (100 * century + 4 * span + year + cycle * 400) / 400 = cycle := by omega
  have hremainder : (100 * century + 4 * span + year + cycle * 400) % 400 =
      100 * century + 4 * span + year := by
    omega
  rw [heq, toDays_ofYearDay h.day_range, hquotient, hremainder, hbefore]
  omega

theorem isValid_ofDays (days : Int) : (ofDays days).IsValid := by
  obtain ⟨cycle, dayOfCycle, century, span, year, day, -, h, heq⟩ := exists_ofDays_eq days
  rw [heq]
  exact isValid_ofYearDay h.day_range fun hday => h.isLeapYear hday cycle

end RunMonitor.Date
