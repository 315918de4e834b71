namespace RunMonitor.Text

def numeralDigits (text : String) : List Char :=
  match text.toList with
  | '+' :: rest => rest
  | cs => cs

def numeral? (limit : Nat) (text : String) : Option Nat :=
  let digits := numeralDigits text
  let value := digits.foldl (fun n c => 10 * n + (c.toNat - 48)) 0
  if digits ≠ [] ∧ digits.all Char.isDigit ∧ value ≤ limit then some value else none

def nat32? : String → Option Nat := numeral? 0xffffffff

def nat64? : String → Option Nat := numeral? 0xffffffffffffffff

example : nat64? "+007" = some 7 := by decide
example : nat64? "18446744073709551616" = none := by decide
example : nat64? "+" = none := by decide

end RunMonitor.Text
