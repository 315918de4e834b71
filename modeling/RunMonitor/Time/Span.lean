namespace RunMonitor

structure Span where
  nanos : Int
  deriving DecidableEq, Repr, Inhabited

namespace Span

def zero : Span := ⟨0⟩

def limit : Int := 0x7fffffffffffffff * 1000000

def ofParts? (seconds : Int) (nanos : Nat) : Option Span :=
  let total := seconds * 1000000000 + nanos
  if nanos < 1000000000 ∧ -limit ≤ total ∧ total ≤ limit then some ⟨total⟩ else none

def seconds (span : Span) : Int := span.nanos.tdiv 1000000000

/-- What the whole seconds leave over, with the sign of the span. -/
def subsecNanos (span : Span) : Int := span.nanos.tmod 1000000000

def clockText (seconds : Nat) : String :=
  let minutes := seconds % 3600 / 60
  let rest := toString (seconds % 60) ++ "s"
  if 0 < seconds / 3600 then toString (seconds / 3600) ++ "h" ++ toString minutes ++ "m" ++ rest
  else if 0 < minutes then toString minutes ++ "m" ++ rest
  else rest

def text (span : Span) : String :=
  (if span.seconds < 0 then "-" else "") ++ clockText span.seconds.natAbs

example : (Span.mk (-61999999999)).text = "-1m1s" := by decide
example : (Span.mk (-999999999)).text = "0s" := by decide

end Span
end RunMonitor
