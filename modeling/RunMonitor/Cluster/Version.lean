import RunMonitor.Text.Numeral

namespace RunMonitor

def compareText (a b : Option String) : Ordering :=
  match a, b with
  | none, none => .eq
  | none, some _ => .lt
  | some _, none => .gt
  | some a, some b => compare a b

/-- By number where both versions are numbers of 64 bits, by text otherwise; an absent version comes
before any text. -/
def compareVersions (a b : Option String) : Ordering :=
  match a.bind Text.nat64?, b.bind Text.nat64? with
  | some m, some n => compare m n
  | _, _ => compareText a b

example : compareVersions (some "9") (some "10") = .lt := by decide
example : compareVersions (some "9") (some "10a") = .gt := by decide
example : compareVersions none (some "") = .lt := by decide

end RunMonitor
