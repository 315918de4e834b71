import RunMonitor.Time.Calendar
import RunMonitor.Time.Span
import RunMonitor.Text.Blank

namespace RunMonitor

/-- Seconds since 1970 and nanoseconds into that second. A leap second is counted as a second
thousand million nanoseconds in the second before it. -/
structure Instant where
  seconds : Int
  nanos : Nat
  deriving DecidableEq, Repr, Inhabited

namespace Instant

instance : LE Instant :=
  ⟨fun a b => a.seconds < b.seconds ∨ (a.seconds = b.seconds ∧ a.nanos ≤ b.nanos)⟩

instance (a b : Instant) : Decidable (a ≤ b) :=
  inferInstanceAs (Decidable (_ ∨ _))

theorem le_def {a b : Instant} :
    a ≤ b ↔ a.seconds < b.seconds ∨ (a.seconds = b.seconds ∧ a.nanos ≤ b.nanos) := Iff.rfl

theorem le_refl (a : Instant) : a ≤ a := .inr ⟨rfl, Nat.le_refl _⟩

theorem le_total (a b : Instant) : a ≤ b ∨ b ≤ a := by
  simp only [le_def]; omega

theorem le_trans {a b c : Instant} (hab : a ≤ b) (hbc : b ≤ c) : a ≤ c := by
  simp only [le_def] at *; omega

def later (a b : Instant) : Instant := if a ≤ b then b else a

def absentFirst : Option Instant → Option Instant → Bool
  | none, _ => true
  | some _, none => false
  | some a, some b => a ≤ b

theorem absentFirst_total (a b : Option Instant) :
    (absentFirst a b || absentFirst b a) = true := by
  cases a <;> cases b <;> simp [absentFirst, le_total]

theorem absentFirst_trans {a b c : Option Instant} (hab : absentFirst a b = true)
    (hbc : absentFirst b c = true) : absentFirst a c = true := by
  cases a <;> cases b <;> cases c <;> simp_all [absentFirst]
  exact le_trans hab hbc

def isLeap (t : Instant) : Bool := 1000000000 ≤ t.nanos

def secondOfDay (t : Instant) : Int := t.seconds % 86400

/-- A leap second counts when it lies between the two times of day. -/
def since (t start : Instant) : Span :=
  let leap : Int :=
    if start.secondOfDay < t.secondOfDay ∧ start.isLeap then 1
    else if t.secondOfDay < start.secondOfDay ∧ t.isLeap then -1
    else 0
  ⟨(t.seconds - start.seconds + leap) * 1000000000 + (t.nanos - start.nanos)⟩

def addMillis (t : Instant) (ms : Nat) : Instant :=
  if ms = 0 then t
  else
    let nanos := t.nanos + ms * 1000000
    ⟨t.seconds + (nanos / 1000000000 : Nat), nanos % 1000000000⟩

def millis (t : Instant) : Int := t.seconds * 1000 + (t.nanos / 1000000 : Nat)

def truncate (t : Instant) : Instant :=
  ⟨t.seconds, if t.isLeap then 1000000000 else 0⟩

def padded (width : Nat) (n : Nat) : List Char :=
  let digits := Nat.toDigits 10 n
  List.replicate (width - digits.length) '0' ++ digits

/-- Years of four digits are written plainly, all others with their sign. -/
def yearChars (year : Int) : List Char :=
  if 0 ≤ year ∧ year ≤ 9999 then padded 4 year.toNat
  else (if year < 0 then '-' else '+') :: padded 4 year.natAbs

def dateTimeChars (t : Instant) : List Char :=
  let date := Date.ofDays (t.seconds / 86400)
  let second := t.secondOfDay.toNat
  yearChars date.year ++ '-' :: padded 2 date.month ++ '-' :: padded 2 date.day ++
    'T' :: padded 2 (second / 3600) ++ ':' :: padded 2 (second % 3600 / 60) ++
    ':' :: padded 2 (second % 60 + if t.isLeap then 1 else 0)

/-- The fewest of three, six or nine digits that are exact; none for a whole second. -/
def fractionChars (nanos : Nat) : List Char :=
  if nanos = 0 then []
  else if nanos % 1000000 = 0 then '.' :: padded 3 (nanos / 1000000)
  else if nanos % 1000 = 0 then '.' :: padded 6 (nanos / 1000)
  else '.' :: padded 9 nanos

def text (t : Instant) : String :=
  String.ofList (t.dateTimeChars ++ fractionChars (t.nanos % 1000000000) ++ ['Z'])

def wholeText (t : Instant) : String :=
  String.ofList (t.dateTimeChars ++ ['Z'])

def takeNumber? (least most : Nat) (cs : List Char) : Option (Nat × List Char) :=
  let digits := (cs.take most).takeWhile Char.isDigit
  if digits.length < least then none
  else some (digits.foldl (fun n c => 10 * n + (c.toNat - 48)) 0, cs.drop digits.length)

def takeChar? (c : Char) : List Char → Option (List Char)
  | d :: rest => if d = c then some rest else none
  | [] => none

/-- Nine digits of a fraction count; further ones are passed over. -/
def takeFraction? : List Char → Option (Nat × List Char)
  | '.' :: cs => do
      let (value, rest) ← takeNumber? 1 9 cs
      let width := cs.length - rest.length
      return (value * Nat.pow 10 (9 - width), rest.dropWhile Char.isDigit)
  | cs => some (0, cs)

/-- An offset from universal time, in seconds; `divide` passes over what stands between its hours
and minutes. -/
def takeOffset? (divide : List Char → Option (List Char)) :
    List Char → Option (Int × List Char)
  | 'Z' :: rest | 'z' :: rest => some (0, rest)
  | c :: rest => do
      let sign : Int ←
        if c = '+' then some 1 else if c = '-' ∨ c = '−' then some (-1) else none
      let (hours, rest) ← takeNumber? 2 2 rest
      let rest ← divide rest
      let (minutes, rest) ← takeNumber? 2 2 rest
      guard (minutes < 60 ∧ hours < 24)
      return (sign * (hours * 3600 + minutes * 60 : Nat), rest)
  | [] => none

def ofParts? (date : Date) (hour minute second nanos : Nat) (offset : Int) : Option Instant := do
  guard (date.IsValid ∧ hour < 24 ∧ minute < 60 ∧ second ≤ 60)
  let clock : Int := hour * 3600 + minute * 60 + min second 59
  return ⟨date.toDays * 86400 + clock - offset, nanos + if second = 60 then 1000000000 else 0⟩

def isDivider (c : Char) : Bool := c == 'T' || c == 't' || c == ' '

def readStrict? (cs : List Char) : Option Instant := do
  let (year, cs) ← takeNumber? 4 4 cs
  let (month, cs) ← takeNumber? 2 2 (← takeChar? '-' cs)
  let (day, cs) ← takeNumber? 2 2 (← takeChar? '-' cs)
  guard (cs.head?.any isDivider)
  let (hour, cs) ← takeNumber? 2 2 cs.tail
  let (minute, cs) ← takeNumber? 2 2 (← takeChar? ':' cs)
  let (second, cs) ← takeNumber? 2 2 (← takeChar? ':' cs)
  let (nanos, cs) ← takeFraction? cs
  let (offset, cs) ← takeOffset? (takeChar? ':') cs
  guard (cs = [])
  ofParts? ⟨year, month, day⟩ hour minute second nanos offset

def ofRfc3339? (text : String) : Option Instant :=
  readStrict? text.toList

def skipBlank (cs : List Char) : List Char := cs.dropWhile Text.isBlank

def takeYear? (cs : List Char) : Option (Int × List Char) := do
  match skipBlank cs with
  | '-' :: cs =>
      let (year, cs) ← takeNumber? 1 cs.length cs
      return (-year, cs)
  | '+' :: cs =>
      let (year, cs) ← takeNumber? 1 cs.length cs
      return (year, cs)
  | cs =>
      let (year, cs) ← takeNumber? 1 4 cs
      return (year, cs)

def takeLoose? (cs : List Char) : Option (Nat × List Char) :=
  takeNumber? 1 2 (skipBlank cs)

def takeZone? (cs : List Char) : Option (Int × List Char) :=
  if (cs.take 3).map Char.toUpper = ['U', 'T', 'C'] then some (0, cs.drop 3)
  else takeOffset? (fun cs => some (cs.dropWhile fun c => c == ':' || Text.isBlank c)) cs

def maxYear : Int := 262142

/-- There are no dates in any other year. -/
def HasDates (year : Int) : Prop := -maxYear - 1 ≤ year ∧ year ≤ maxYear

instance (year : Int) : Decidable (HasDates year) := inferInstanceAs (Decidable (_ ∧ _))

def date (t : Instant) : Date := Date.ofDays (t.seconds / 86400)

/-- RFC 3339 with blanks between its parts, fewer digits, and years beyond four digits. -/
def readLoose? (cs : List Char) : Option Instant := do
  let (year, cs) ← takeYear? cs
  guard (HasDates year)
  let (month, cs) ← takeLoose? (← takeChar? '-' (skipBlank cs))
  let (day, cs) ← takeLoose? (← takeChar? '-' (skipBlank cs))
  guard (cs.head?.any isDivider)
  let (hour, cs) ← takeLoose? cs.tail
  let (minute, cs) ← takeLoose? (← takeChar? ':' (skipBlank cs))
  let (second, cs) ← takeLoose? (← takeChar? ':' (skipBlank cs))
  let (nanos, cs) ← takeFraction? cs
  let (offset, cs) ← takeZone? (skipBlank cs)
  guard (skipBlank cs = [])
  let t ← ofParts? ⟨year, month, day⟩ hour minute second nanos offset
  -- the offset may lead out of the last year
  guard (HasDates t.date.year)
  return t

def ofText? (text : String) : Option Instant :=
  readLoose? text.toList

example : ofRfc3339? "2024-03-01T02:00:00.5+05:30" = some ⟨1709238600, 500000000⟩ := by decide
example : (Instant.mk 1709238600 500000000).text = "2024-02-29T20:30:00.500Z" := by decide
example : ofRfc3339? "2023-02-29T00:00:00Z" = none := by decide

end Instant
end RunMonitor
