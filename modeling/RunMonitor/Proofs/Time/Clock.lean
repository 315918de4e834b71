import RunMonitor.Proofs.Json.Numeral
import RunMonitor.Proofs.Time.Text
import RunMonitor.Summary.Job

namespace RunMonitor

structure Clock where
  isNegative : Bool
  hours : Nat
  minutes : Nat
  seconds : Nat
  minutes_lt : minutes < 60
  seconds_lt : seconds < 60
  /-- Zero has no sign. -/
  pos_of_isNegative : isNegative → 0 < 3600 * hours + 60 * minutes + seconds

namespace Clock

def total (clock : Clock) : Int :=
  (if clock.isNegative then -1 else 1) * (3600 * clock.hours + 60 * clock.minutes + clock.seconds)

def parts (clock : Clock) : List (Nat × Char) :=
  [(clock.hours, 'h'), (clock.minutes, 'm')].dropWhile (fun part => part.1 = 0) ++
    [(clock.seconds, 's')]

def partChars (part : Nat × Char) : List Char := Nat.toDigits 10 part.1 ++ [part.2]

def text (clock : Clock) : String :=
  String.ofList ((if clock.isNegative then ['-'] else []) ++ clock.parts.flatMap partChars)

def ofSeconds (seconds : Int) : Clock where
  isNegative := seconds < 0
  hours := seconds.natAbs / 3600
  minutes := seconds.natAbs % 3600 / 60
  seconds := seconds.natAbs % 60
  minutes_lt := by omega
  seconds_lt := by omega
  pos_of_isNegative := by
    intro h
    have hneg : seconds < 0 := of_decide_eq_true h
    omega

theorem total_ofSeconds (seconds : Int) : (ofSeconds seconds).total = seconds := by
  have hsum : 3600 * (seconds.natAbs / 3600) + 60 * (seconds.natAbs % 3600 / 60) +
      seconds.natAbs % 60 = seconds.natAbs := by
    omega
  have htotal : (ofSeconds seconds).total =
      (if seconds < 0 then -1 else 1) * (seconds.natAbs : Int) := by
    rw [← hsum]
    simp [total, ofSeconds]
  rw [htotal]
  split <;> omega

def takePart? (unit : Char) (cs : List Char) : Option (Nat × List Char) := do
  let (value, rest) ← Instant.takeNumber? 1 cs.length cs
  return (value, ← Instant.takeChar? unit rest)

/-- Parts that are not there count as zero, except the seconds, which have to be. -/
def readParts? (cs : List Char) : Option Nat := do
  let (hours, cs) := (takePart? 'h' cs).getD (0, cs)
  let (minutes, cs) := (takePart? 'm' cs).getD (0, cs)
  let (seconds, cs) ← takePart? 's' cs
  guard (cs = [])
  return 3600 * hours + 60 * minutes + seconds

def read? (text : String) : Option Int :=
  match text.toList with
  | '-' :: cs => (readParts? cs).map fun seconds => -(seconds : Int)
  | cs => (readParts? cs).map Int.ofNat

theorem takePart?_append {unit other : Char} (hother : other.isDigit = false) (value : Nat)
    (rest : List Char) :
    takePart? unit (Nat.toDigits 10 value ++ other :: rest) =
      if other = unit then some (value, rest) else none := by
  have hleast : 1 ≤ (Nat.toDigits 10 value).length :=
    List.length_pos_iff.mpr Nat.toDigits_ne_nil
  have hmost : (Nat.toDigits 10 value).length ≤
      (Nat.toDigits 10 value ++ other :: rest).length := by
    simp
  have hend : ∀ c ∈ (other :: rest).head?, c.isDigit = false := by simpa using hother
  have hnumber := Instant.takeNumber?_append (fun _ => Json.isDigit_of_mem_toDigits) hleast hmost
    (.inr hend)
  rw [Nat.ofDigitChars_ten_toDigits] at hnumber
  refine (Instant.bind_of_eq_some hnumber _).trans ?_
  by_cases hunit : other = unit
  · simp [Instant.takeChar?, hunit]
  · simp [Instant.takeChar?, hunit]

theorem takePart?_minus (unit : Char) (cs : List Char) : takePart? unit ('-' :: cs) = none := rfl

theorem readParts?_minus (cs : List Char) : readParts? ('-' :: cs) = none := by
  simp [readParts?, takePart?_minus]

theorem readParts?_parts (clock : Clock) :
    readParts? (clock.parts.flatMap partChars) =
      some (3600 * clock.hours + 60 * clock.minutes + clock.seconds) := by
  unfold readParts? parts partChars
  by_cases hhours : clock.hours = 0
  · by_cases hminutes : clock.minutes = 0
    · simp [hhours, hminutes, takePart?_append]
    · simp [hhours, hminutes, takePart?_append]
  · simp [hhours, takePart?_append]

theorem read?_text (clock : Clock) : read? clock.text = some clock.total := by
  unfold read? text total
  rw [String.toList_ofList]
  cases clock.isNegative with
  | true =>
      simp only [if_true, List.singleton_append, readParts?_parts]
      simp
  | false =>
      simp only [Bool.false_eq_true, if_false, List.nil_append]
      split
      case h_1 cs heq =>
        have hread := clock.readParts?_parts
        rw [heq, readParts?_minus] at hread
        cases hread
      case h_2 =>
        rw [readParts?_parts]
        simp

end Clock

namespace Span

theorem toList_clockText (seconds : Nat) :
    (clockText seconds).toList =
      ([(seconds / 3600, 'h'), (seconds % 3600 / 60, 'm')].dropWhile (fun part => part.1 = 0) ++
        [(seconds % 60, 's')]).flatMap Clock.partChars := by
  unfold clockText Clock.partChars
  by_cases hhours : seconds / 3600 = 0
  · by_cases hminutes : seconds % 3600 / 60 = 0
    · simp [hhours, hminutes, Nat.toList_repr]
    · simp [hhours, hminutes, Nat.toList_repr, Nat.pos_of_ne_zero]
  · simp [hhours, Nat.toList_repr, Nat.pos_of_ne_zero]

theorem text_ofSeconds (span : Span) : (Clock.ofSeconds span.seconds).text = span.text := by
  rw [← String.toList_inj]
  unfold Clock.text text
  rw [String.toList_ofList, String.toList_append, toList_clockText]
  by_cases hneg : span.seconds < 0
  · simp [Clock.ofSeconds, Clock.parts, hneg]
  · simp [Clock.ofSeconds, Clock.parts, hneg]

/-- The text is that of a clock that shows the seconds, and they are read back from it. -/
structure Denotes (text : String) (seconds : Int) : Prop where
  written : ∃ clock : Clock, clock.text = text ∧ clock.total = seconds
  read : Clock.read? text = some seconds

theorem denotes_text (span : Span) : Denotes span.text span.seconds := by
  have hread := (Clock.ofSeconds span.seconds).read?_text
  rw [text_ofSeconds, Clock.total_ofSeconds] at hread
  exact ⟨⟨_, span.text_ofSeconds, Clock.total_ofSeconds span.seconds⟩, hread⟩

theorem text_eq_iff {span other : Span} :
    span.text = other.text ↔ span.seconds = other.seconds := by
  constructor
  · intro h
    have hread := span.denotes_text.read
    rw [h, other.denotes_text.read] at hread
    exact (Option.some.inj hread).symm
  · intro h
    rw [text, text, h]

/-- The text of a span shows its seconds, cut off towards zero, and nothing else of it. So does the
duration in a summary of a run. -/
theorem text_denotes_seconds :
    (∀ span : Span, Denotes span.text (span.nanos.tdiv 1000000000)) ∧
    (∀ span other : Span, span.text = other.text ↔ span.seconds = other.seconds) ∧
    ∀ (job : Job) (pods : List Pod) (now : Instant),
      Denotes (JobSummary.ofJob job pods now).duration
        (JobSummary.ofJob job pods now).durationSeconds :=
  ⟨denotes_text, fun _ _ => text_eq_iff, fun _ _ _ => denotes_text _⟩

example : (Span.mk (-3600000000000)).text = "-1h0m0s" ∧ Clock.read? "-1h0m0s" = some (-3600) := by
  decide

end Span
end RunMonitor
