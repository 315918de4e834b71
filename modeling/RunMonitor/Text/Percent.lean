import RunMonitor.Text.Hex

namespace RunMonitor.Text

/-! A percent sign that two hexadecimal digits do not follow stands for itself. -/

def percentBytes : List UInt8 → List UInt8
  | [] => []
  | 0x25 :: c :: d :: rest =>
      match hexValue? (Char.ofNat c.toNat), hexValue? (Char.ofNat d.toNat) with
      | some high, some low => UInt8.ofNat (16 * high + low) :: percentBytes rest
      | _, _ => 0x25 :: percentBytes (c :: d :: rest)
  | b :: rest => b :: percentBytes rest

/-- `none` where the decoded bytes are no text. -/
def percentDecode? (segment : String) : Option String :=
  String.fromUTF8? ⟨(percentBytes segment.toByteArray.data.toList).toArray⟩

end RunMonitor.Text
