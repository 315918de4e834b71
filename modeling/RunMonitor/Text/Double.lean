namespace RunMonitor.Text

/-! Whole numbers in double precision, in the fewest digits that still denote them. -/

structure Double where
  mantissa : Nat
  exponent : Nat
  deriving DecidableEq

/-- The nearest multiple of the unit, by its factor; a half goes to the even neighbour. -/
def roundHalfEven (n unit : Nat) : Nat :=
  let down := n / unit
  let rest := 2 * (n % unit)
  if rest < unit then down
  else if unit < rest then down + 1
  else down + down % 2

namespace Double

def ofNat (n : Nat) : Double :=
  if n < Nat.pow 2 53 then ⟨n, 0⟩
  else
    let exponent := n.log2 - 52
    let mantissa := roundHalfEven n (Nat.pow 2 exponent)
    if mantissa < Nat.pow 2 53 then ⟨mantissa, exponent⟩ else ⟨Nat.pow 2 52, exponent + 1⟩

def unit (x : Double) : Nat := Nat.pow 2 x.exponent

def value (x : Double) : Nat := x.mantissa * x.unit

/-- Whether a whole number rounds to this one. Below a power of two the numbers lie twice as
close. -/
def isDenotedBy (x : Double) (n : Nat) : Bool :=
  let low := 4 * x.value - if x.mantissa = Nat.pow 2 52 then x.unit else 2 * x.unit
  let high := 4 * x.value + 2 * x.unit
  if x.mantissa % 2 = 0 then low ≤ 4 * n ∧ 4 * n ≤ high else low < 4 * n ∧ 4 * n < high

def neighbours (n unit : Nat) : List Nat :=
  let down := n / unit * unit
  let up := down + unit
  if n - down ≤ up - n then [down, up] else [up, down]

def onGrid? (x : Double) (unit : Nat) : Option Nat :=
  (neighbours x.value unit).find? x.isDenotedBy

def coarsest (x : Double) : Nat → Nat
  | 0 => x.value
  | digits + 1 => (x.onGrid? (Nat.pow 10 (digits + 1))).getD (x.coarsest digits)

def shortest (x : Double) : Nat :=
  if x.exponent = 0 then x.value else x.coarsest (toString x.value).length

end Double

def doubleText (n : Int) : String :=
  (if n < 0 then "-" else "") ++ toString (Double.ofNat n.natAbs).shortest

example : (Double.ofNat 4611686018427387904).shortest = 4611686018427388000 := by decide +kernel
example : (Double.ofNat 9007199254740993).shortest = 9007199254740992 := by decide +kernel

end RunMonitor.Text
