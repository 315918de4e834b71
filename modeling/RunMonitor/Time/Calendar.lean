namespace RunMonitor

/-! Years are reckoned from March, so that a leap day is the last day of its year. -/

structure Date where
  year : Int
  month : Nat
  day : Nat
  deriving DecidableEq, Repr

namespace Date

def isLeapYear (year : Int) : Bool :=
  year % 4 = 0 ∧ (year % 100 ≠ 0 ∨ year % 400 = 0)

def monthLength (year : Int) (month : Nat) : Nat :=
  if month = 2 then (if isLeapYear year then 29 else 28)
  else if month = 4 ∨ month = 6 ∨ month = 9 ∨ month = 11 then 30
  else 31

def IsValid (date : Date) : Prop :=
  1 ≤ date.month ∧ date.month ≤ 12 ∧ 1 ≤ date.day ∧ date.day ≤ monthLength date.year date.month

instance (date : Date) : Decidable date.IsValid :=
  inferInstanceAs (Decidable (_ ∧ _ ∧ _ ∧ _))

/-- Days before the given year of a cycle of 400 years. -/
def daysBeforeYear (yearOfCycle : Int) : Int :=
  365 * yearOfCycle + yearOfCycle / 4 - yearOfCycle / 100

def daysBeforeMonth (month : Int) : Int :=
  (153 * month + 2) / 5

def cycleLength : Int := 146097

def epochShift : Int := 719468

def toDays (date : Date) : Int :=
  let year := if date.month ≤ 2 then date.year - 1 else date.year
  let month : Int := if date.month ≤ 2 then date.month + 9 else date.month - 3
  year / 400 * cycleLength + daysBeforeYear (year % 400) + daysBeforeMonth month + date.day - 1 -
    epochShift

def ofDays (days : Int) : Date :=
  let shifted := days + epochShift
  let cycle := shifted / cycleLength
  let dayOfCycle := shifted % cycleLength
  let yearOfCycle :=
    (dayOfCycle - dayOfCycle / 1460 + dayOfCycle / 36524 - dayOfCycle / 146096) / 365
  let dayOfYear := dayOfCycle - daysBeforeYear yearOfCycle
  let month := (5 * dayOfYear + 2) / 153
  let day := dayOfYear - daysBeforeMonth month + 1
  let year := yearOfCycle + cycle * 400
  if month < 10 then ⟨year, (month + 3).toNat, day.toNat⟩
  else ⟨year + 1, (month - 9).toNat, day.toNat⟩

example : (Date.mk 2024 3 1).toDays = 19783 := by decide
example : ofDays 19782 = ⟨2024, 2, 29⟩ := by decide

end Date
end RunMonitor
