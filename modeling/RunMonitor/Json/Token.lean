import RunMonitor.Json.Number

namespace RunMonitor.Json

/-! Whether the bytes of a string are Unicode is decided when the string ends. -/

inductive Token where
  | openArr
  | closeArr
  | openObj
  | closeObj
  | comma
  | colon
  /-- `none` for a string that is not Unicode. -/
  | text (content : Option String)
  | scalar (value : Json)

/-- A string as it is written: bytes, and the sixteen-bit units that escapes stand for. -/
inductive Piece where
  | byte (b : UInt8)
  | unit (u : Nat)

def utf8Bytes (c : Char) : List UInt8 :=
  (String.singleton c).toByteArray.data.toList

/-- A leading surrogate has to be followed by its trailing one, and no other surrogate may stand. -/
def bytesOf? : List Piece → Option (List UInt8)
  | [] => some []
  | .byte b :: rest => (bytesOf? rest).map (b :: ·)
  | .unit u :: rest =>
      if 0xDC00 ≤ u ∧ u < 0xE000 then none
      else if 0xD800 ≤ u ∧ u < 0xDC00 then
        match rest with
        | .unit v :: rest =>
            if 0xDC00 ≤ v ∧ v < 0xE000 then
              (bytesOf? rest).map
                (utf8Bytes (Char.ofNat (0x10000 + (u - 0xD800) * 0x400 + (v - 0xDC00))) ++ ·)
            else none
        | _ => none
      else (bytesOf? rest).map (utf8Bytes (Char.ofNat u) ++ ·)

def textOf? (pieces : List Piece) : Option String := do
  let bytes ← bytesOf? pieces
  String.fromUTF8? ⟨bytes.toArray⟩

/-- Where the scanner stands; what it has read of an unfinished token is kept latest first. -/
inductive Scan where
  | between
  | word (before : List Char)
  | number (before : List Char)
  | text (before : List Piece)
  | escape (before : List Piece)
  | hex (before : List Piece) (missing : Nat) (value : Nat)

def wordToken? (word : List Char) : Option Token :=
  if word = ['n', 'u', 'l', 'l'] then some (.scalar .null)
  else if word = ['t', 'r', 'u', 'e'] then some (.scalar (.bool true))
  else if word = ['f', 'a', 'l', 's', 'e'] then some (.scalar (.bool false))
  else none

def isNumberByte (b : UInt8) : Bool :=
  (0x30 ≤ b && b ≤ 0x39) || b == 0x2B || b == 0x2D || b == 0x2E || b == 0x45 || b == 0x65

def isLetterByte (b : UInt8) : Bool :=
  0x61 ≤ b && b ≤ 0x7A

def punctuation? (b : UInt8) : Option Token :=
  if b = 0x5B then some .openArr
  else if b = 0x5D then some .closeArr
  else if b = 0x7B then some .openObj
  else if b = 0x7D then some .closeObj
  else if b = 0x2C then some .comma
  else if b = 0x3A then some .colon
  else none

def escaped? (b : UInt8) : Option UInt8 :=
  if b = 0x22 ∨ b = 0x5C ∨ b = 0x2F then some b
  else if b = 0x62 then some 0x08
  else if b = 0x66 then some 0x0C
  else if b = 0x6E then some 0x0A
  else if b = 0x72 then some 0x0D
  else if b = 0x74 then some 0x09
  else none

def hexByte? (b : UInt8) : Option Nat :=
  if 0x30 ≤ b ∧ b ≤ 0x39 then some (b.toNat - 0x30)
  else if 0x61 ≤ b ∧ b ≤ 0x66 then some (b.toNat - 0x57)
  else if 0x41 ≤ b ∧ b ≤ 0x46 then some (b.toNat - 0x37)
  else none

def startToken (tokens : List Token) (b : UInt8) : Option (List Token × Scan) :=
  if b = 0x20 ∨ b = 0x09 ∨ b = 0x0A ∨ b = 0x0D then some (tokens, .between)
  else if b = 0x22 then some (tokens, .text [])
  else if b = 0x2D ∨ (0x30 ≤ b ∧ b ≤ 0x39) then some (tokens, .number [Char.ofNat b.toNat])
  else if isLetterByte b then some (tokens, .word [Char.ofNat b.toNat])
  else (punctuation? b).map fun token => (token :: tokens, .between)

def scanByte : List Token × Scan → UInt8 → Option (List Token × Scan)
  | (tokens, .between), b => startToken tokens b
  | (tokens, .word before), b =>
      if isLetterByte b then some (tokens, .word (Char.ofNat b.toNat :: before))
      else do
        let token ← wordToken? before.reverse
        startToken (token :: tokens) b
  | (tokens, .number before), b =>
      if isNumberByte b then some (tokens, .number (Char.ofNat b.toNat :: before))
      else do
        let value ← ofNumber? before.reverse
        startToken (.scalar value :: tokens) b
  | (tokens, .text before), b =>
      if b = 0x22 then some (.text (textOf? before.reverse) :: tokens, .between)
      else if b = 0x5C then some (tokens, .escape before)
      else if b < 0x20 then none
      else some (tokens, .text (.byte b :: before))
  | (tokens, .escape before), b =>
      if b = 0x75 then some (tokens, .hex before 4 0)
      else (escaped? b).map fun c => (tokens, .text (.byte c :: before))
  | (tokens, .hex before missing value), b => do
      let digit ← hexByte? b
      let value := 16 * value + digit
      return (tokens, if missing ≤ 1 then .text (.unit value :: before)
        else .hex before (missing - 1) value)

def finishScan : List Token × Scan → Option (List Token)
  | (tokens, .between) => some tokens.reverse
  | (tokens, .word before) => (wordToken? before.reverse).map fun t => (t :: tokens).reverse
  | (tokens, .number before) =>
      (ofNumber? before.reverse).map fun v => (.scalar v :: tokens).reverse
  | _ => none

def tokens? (bytes : List UInt8) : Option (List Token) := do
  finishScan (← bytes.foldlM scanByte ([], .between))

end RunMonitor.Json
