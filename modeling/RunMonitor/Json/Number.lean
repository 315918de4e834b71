import RunMonitor.Json.Basic

namespace RunMonitor.Json

structure NumberParts where
  negative : Bool
  digits : List Char
  fraction : Option (List Char)
  exponent : Option (Bool × List Char)

def digitsValue (digits : List Char) : Nat :=
  digits.foldl (fun n c => 10 * n + (c.toNat - 48)) 0

def exponentOf? : List Char → Option (Option (Bool × List Char))
  | [] => some none
  | c :: rest =>
      if c = 'e' ∨ c = 'E' then
        let (negative, digits) :=
          match rest with
          | '-' :: digits => (true, digits)
          | '+' :: digits => (false, digits)
          | digits => (false, digits)
        if digits ≠ [] ∧ digits.all Char.isDigit then some (some (negative, digits)) else none
      else none

def unsignedParts? (negative : Bool) (literal : List Char) : Option NumberParts := do
  let digits := literal.takeWhile Char.isDigit
  let rest := literal.dropWhile Char.isDigit
  guard (digits = ['0'] ∨ (digits ≠ [] ∧ digits.head? ≠ some '0'))
  match rest with
  | '.' :: rest =>
      let fraction := rest.takeWhile Char.isDigit
      guard (fraction ≠ [])
      let exponent ← exponentOf? (rest.dropWhile Char.isDigit)
      return ⟨negative, digits, some fraction, exponent⟩
  | rest =>
      let exponent ← exponentOf? rest
      return ⟨negative, digits, none, exponent⟩

def numberParts? : List Char → Option NumberParts
  | '-' :: rest => unsignedParts? true rest
  | rest => unsignedParts? false rest

/-- Whether the number rounds to a double and not to infinity. Literals whose order of magnitude
decides are not multiplied out. -/
def NumberParts.isFinite (parts : NumberParts) : Bool :=
  let fraction := parts.fraction.getD []
  let significand := digitsValue (parts.digits ++ fraction)
  let exponent : Int :=
    (match parts.exponent with
      | some (true, digits) => -(digitsValue digits : Int)
      | some (false, digits) => digitsValue digits
      | none => 0) - fraction.length
  let size : Int := (Nat.toDigits 10 significand).length + exponent
  if significand = 0 ∨ size < 300 then true
  else if 310 < size then false
  else
    let limit := Nat.pow 2 1024 - Nat.pow 2 970
    if exponent < 0 then significand < limit * Nat.pow 10 exponent.natAbs
    else significand * Nat.pow 10 exponent.natAbs < limit

def ofNumber? (literal : List Char) : Option Json := do
  let parts ← numberParts? literal
  match parts.fraction, parts.exponent with
  | none, none =>
      let size := digitsValue parts.digits
      if parts.negative then
        if 0 < size ∧ size ≤ Nat.pow 2 63 then return .int (-size)
      else if size < Nat.pow 2 64 then
        return .int size
  | _, _ => pure ()
  return if parts.isFinite then .real (String.ofList literal) else .unreadable

example : (ofNumber? "-12".toList).map (beq (.int (-12))) = some true := by decide
example : (ofNumber? "-0".toList).map (beq (.real "-0")) = some true := by decide
example : (ofNumber? "01".toList).isNone = true := by decide

end RunMonitor.Json
