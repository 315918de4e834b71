import Mathlib.Data.List.Basic
import Mathlib.Data.List.TakeWhile
import RunMonitor.Json.Number

namespace RunMonitor.Json

theorem head?_toDigits {n : Nat} (h : 0 < n) : (Nat.toDigits 10 n).head? ≠ some '0' := by
  induction n using Nat.base_induction 10 (by decide) with
  | single m hm =>
      rw [Nat.toDigits_of_lt_base hm]
      have hdigit : ∀ m < 10, 0 < m → m.digitChar ≠ '0' := by decide
      simpa using hdigit m hm h
  | digit m k hk hm ih =>
      rw [← Nat.toDigits_append_toDigits (by decide) hm hk,
        List.head?_append_of_ne_nil _ Nat.toDigits_ne_nil]
      exact ih hm

theorem isDigit_of_mem_toDigits {n : Nat} {c : Char} (h : c ∈ Nat.toDigits 10 n) :
    c.isDigit = true :=
  Nat.isDigit_of_mem_toDigits (by decide) (by decide) h

theorem digitsValue_toDigits (n : Nat) : digitsValue (Nat.toDigits 10 n) = n :=
  Nat.ofDigitChars_ten_toDigits

theorem takeWhile_toDigits (n : Nat) :
    (Nat.toDigits 10 n).takeWhile Char.isDigit = Nat.toDigits 10 n :=
  List.takeWhile_eq_self_iff.mpr fun _ => isDigit_of_mem_toDigits

theorem dropWhile_toDigits (n : Nat) : (Nat.toDigits 10 n).dropWhile Char.isDigit = [] :=
  List.dropWhile_eq_nil_iff.mpr fun _ => isDigit_of_mem_toDigits

theorem guard_toDigits (n : Nat) :
    guard (Nat.toDigits 10 n = ['0'] ∨
      (Nat.toDigits 10 n ≠ [] ∧ (Nat.toDigits 10 n).head? ≠ some '0')) = some () := by
  rcases Nat.eq_zero_or_pos n with rfl | h
  · exact if_pos (.inl (Nat.toDigits_zero 10))
  · exact if_pos (.inr ⟨Nat.toDigits_ne_nil, head?_toDigits h⟩)

theorem unsignedParts?_toDigits (negative : Bool) (n : Nat) :
    unsignedParts? negative (Nat.toDigits 10 n) =
      some ⟨negative, Nat.toDigits 10 n, none, none⟩ := by
  unfold unsignedParts?
  rw [takeWhile_toDigits, dropWhile_toDigits]
  change (guard _ >>= fun _ => _) = _
  rw [guard_toDigits]
  rfl

theorem numberParts?_neg (n : Nat) :
    numberParts? ('-' :: Nat.toDigits 10 n) = some ⟨true, Nat.toDigits 10 n, none, none⟩ :=
  unsignedParts?_toDigits true n

theorem numberParts?_toDigits (n : Nat) :
    numberParts? (Nat.toDigits 10 n) = some ⟨false, Nat.toDigits 10 n, none, none⟩ := by
  rw [← unsignedParts?_toDigits false n]
  unfold numberParts?
  split
  case h_1 rest heq =>
    have hminus : '-' ∈ Nat.toDigits 10 n := heq ▸ List.mem_cons_self
    exact absurd (isDigit_of_mem_toDigits hminus) (by decide)
  case h_2 => rfl

theorem ofNumber?_ofNat {n : Nat} (h : n < Nat.pow 2 64) :
    ofNumber? (Nat.toDigits 10 n) = some (.int n) := by
  have hsize : digitsValue (Nat.toDigits 10 n) < Nat.pow 2 64 := (digitsValue_toDigits n).symm ▸ h
  rw [ofNumber?, numberParts?_toDigits]
  simp only [Option.bind_eq_bind, Option.bind_some, Bool.false_eq_true, if_false, if_pos hsize]
  rw [digitsValue_toDigits]
  rfl

theorem ofNumber?_neg {n : Nat} (hpos : 0 < n) (h : n ≤ Nat.pow 2 63) :
    ofNumber? ('-' :: Nat.toDigits 10 n) = some (.int (-n)) := by
  have hsize : 0 < digitsValue (Nat.toDigits 10 n) ∧
      digitsValue (Nat.toDigits 10 n) ≤ Nat.pow 2 63 := by
    rw [digitsValue_toDigits]
    exact ⟨hpos, h⟩
  rw [ofNumber?, numberParts?_neg]
  simp only [Option.bind_eq_bind, Option.bind_some, if_true, if_pos hsize]
  rw [digitsValue_toDigits]
  rfl

def Fits (value : Int) : Prop :=
  -((Nat.pow 2 63 : Nat) : Int) ≤ value ∧ value < (Nat.pow 2 64 : Nat)

instance (value : Int) : Decidable (Fits value) := inferInstanceAs (Decidable (_ ∧ _))

theorem ofNumber?_toString {value : Int} (h : Fits value) :
    ofNumber? (toString value).toList = some (.int value) := by
  cases value with
  | ofNat n =>
      have hn : n < Nat.pow 2 64 := Int.ofNat_lt.mp h.2
      have hchars : (toString (Int.ofNat n)).toList = Nat.toDigits 10 n := Nat.toList_repr
      rw [hchars, ofNumber?_ofNat hn]
      rfl
  | negSucc n =>
      have hn : n + 1 ≤ Nat.pow 2 63 := by
        have hlower : -((Nat.pow 2 63 : Nat) : Int) ≤ Int.negSucc n := h.1
        omega
      have hchars : (toString (Int.negSucc n)).toList = '-' :: Nat.toDigits 10 (n + 1) := by
        simp [toString, Int.repr, Nat.toList_repr]
      rw [hchars, ofNumber?_neg (Nat.succ_pos n) hn]
      rfl

end RunMonitor.Json
