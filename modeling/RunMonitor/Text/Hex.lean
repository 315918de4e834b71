namespace RunMonitor.Text

def hexDigit (n : Nat) : Char :=
  if n < 10 then Char.ofNat (48 + n) else Char.ofNat (87 + n)

def hexValue? (c : Char) : Option Nat :=
  if '0' ≤ c ∧ c ≤ '9' then some (c.toNat - 48)
  else if 'a' ≤ c ∧ c ≤ 'f' then some (c.toNat - 87)
  else if 'A' ≤ c ∧ c ≤ 'F' then some (c.toNat - 55)
  else none

theorem hexValue?_hexDigit : ∀ n < 16, hexValue? (hexDigit n) = some n := by decide

def hexChars : List UInt8 → List Char
  | [] => []
  | b :: rest => hexDigit (b.toNat / 16) :: hexDigit (b.toNat % 16) :: hexChars rest

def hexBytes? : List Char → Option (List UInt8)
  | [] => some []
  | [_] => none
  | c :: d :: rest => do
      let high ← hexValue? c
      let low ← hexValue? d
      let bytes ← hexBytes? rest
      return (UInt8.ofNat (16 * high + low)) :: bytes

theorem hexBytes?_hexChars (bytes : List UInt8) : hexBytes? (hexChars bytes) = some bytes := by
  induction bytes with
  | nil => rfl
  | cons b rest ih =>
      have hb := b.toNat_lt
      simp only [hexChars, hexBytes?, ih, hexValue?_hexDigit (b.toNat / 16) (by omega),
        hexValue?_hexDigit (b.toNat % 16) (by omega), Option.bind_eq_bind, Option.bind_some,
        Nat.div_add_mod, UInt8.ofNat_toNat]
      rfl

def hexText (bytes : ByteArray) : String :=
  String.ofList (hexChars bytes.data.toList)

def ofHexText? (text : String) : Option ByteArray :=
  (hexBytes? text.toList).map fun bytes => ⟨bytes.toArray⟩

end RunMonitor.Text
