import RunMonitor.Json.Printer
import RunMonitor.Json.Token
import RunMonitor.Proofs.Json.Numeral

namespace RunMonitor.Json

/-! A scanner that has read the characters of a value holds the tokens of that value. -/

theorem utf8Bytes_eq (c : Char) : utf8Bytes c = String.utf8EncodeChar c := by
  simp [utf8Bytes, String.toByteArray_singleton, List.utf8Encode_singleton]

theorem utf8Bytes_of_ascii {c : Char} (h : c.toNat < 128) :
    utf8Bytes c = [UInt8.ofNat c.toNat] := by
  have hle : c.val.toNat ≤ 0x7f := Nat.le_of_lt_succ h
  rw [utf8Bytes_eq, String.utf8EncodeChar, if_pos hle]
  rfl

theorem le_of_mem_utf8Bytes {c : Char} (h : 128 ≤ c.toNat) {b : UInt8} (hb : b ∈ utf8Bytes c) :
    128 ≤ b.toNat := by
  have hgt : ¬ c.val.toNat ≤ 0x7f := Nat.not_le_of_lt h
  rw [utf8Bytes_eq, String.utf8EncodeChar, if_neg hgt] at hb
  split at hb
  case isTrue =>
    simp only [List.mem_cons, List.not_mem_nil, or_false] at hb
    rcases hb with rfl | rfl <;> simp only [UInt8.toNat_ofNat'] <;> omega
  case isFalse =>
    split at hb <;> simp only [List.mem_cons, List.not_mem_nil, or_false] at hb
    case isTrue => rcases hb with rfl | rfl | rfl <;> simp only [UInt8.toNat_ofNat'] <;> omega
    case isFalse =>
      rcases hb with rfl | rfl | rfl | rfl <;> simp only [UInt8.toNat_ofNat'] <;> omega

def IsPlainByte (b : UInt8) : Prop := b ≠ 0x22 ∧ b ≠ 0x5C ∧ ¬ b < 0x20

def scanChars (state : List Token × Scan) (cs : List Char) : Option (List Token × Scan) :=
  (cs.flatMap utf8Bytes).foldlM scanByte state

theorem scanChars_append (state : List Token × Scan) (cs ds : List Char) :
    scanChars state (cs ++ ds) = (scanChars state cs).bind fun state => scanChars state ds := by
  simp [scanChars, List.foldlM_append]

theorem scanChars_cons (state : List Token × Scan) (c : Char) (cs : List Char) :
    scanChars state (c :: cs) = (scanChars state [c]).bind fun state => scanChars state cs :=
  scanChars_append state [c] cs

theorem scanChars_ascii {c : Char} (h : c.toNat < 128) (state : List Token × Scan) :
    scanChars state [c] = scanByte state (UInt8.ofNat c.toNat) := by
  simp [scanChars, utf8Bytes_of_ascii h]

theorem scan_plainBytes (tokens : List Token) (before : List Piece) {bytes : List UInt8}
    (h : ∀ b ∈ bytes, IsPlainByte b) :
    bytes.foldlM scanByte (tokens, .text before) =
      some (tokens, .text ((bytes.map .byte).reverse ++ before)) := by
  induction bytes generalizing before with
  | nil => rfl
  | cons b rest ih =>
      obtain ⟨hquote, hslash, hcontrol⟩ := h b List.mem_cons_self
      have hstep : scanByte (tokens, .text before) b =
          some (tokens, .text (.byte b :: before)) := by
        simp [scanByte, hquote, hslash, hcontrol]
      rw [List.foldlM_cons, hstep, Option.bind_eq_bind, Option.bind_some,
        ih _ fun b hb => h b (List.mem_cons_of_mem _ hb)]
      simp

def piecesOf (c : Char) : List Piece :=
  if c < ' ' ∧ c ∉ ['\n', '\r', '\t', '\x08', '\x0c'] then [.unit c.toNat]
  else (utf8Bytes c).map .byte

theorem hexByte?_hexDigit : ∀ n < 16,
    (Text.hexDigit n).toNat < 128 ∧ hexByte? (UInt8.ofNat (Text.hexDigit n).toNat) = some n := by
  decide

theorem scan_hexDigit (tokens : List Token) (before : List Piece) (missing value : Nat) {n : Nat}
    (hn : n < 16) :
    scanChars (tokens, .hex before missing value) [Text.hexDigit n] =
      some (tokens, if missing ≤ 1 then .text (.unit (16 * value + n) :: before)
        else .hex before (missing - 1) (16 * value + n)) := by
  obtain ⟨hascii, hdigit⟩ := hexByte?_hexDigit n hn
  rw [scanChars_ascii hascii]
  simp [scanByte, hdigit]

theorem isPlainByte_of_mem {c : Char} (hquote : c ≠ '"') (hslash : c ≠ '\\')
    (hcontrol : ¬ c < ' ') {b : UInt8} (hb : b ∈ utf8Bytes c) : IsPlainByte b := by
  by_cases h : c.toNat < 128
  · rw [utf8Bytes_of_ascii h, List.mem_singleton] at hb
    subst hb
    have hspace : 32 ≤ c.toNat := Char.le_def.mp (Char.not_lt.mp hcontrol)
    have hvalue : (UInt8.ofNat c.toNat).toNat = c.toNat := by
      simp only [UInt8.toNat_ofNat']; omega
    refine ⟨fun h => hquote ?_, fun h => hslash ?_, fun h => ?_⟩
    · exact Char.toNat_inj.mp (hvalue.symm.trans (congrArg UInt8.toNat h))
    · exact Char.toNat_inj.mp (hvalue.symm.trans (congrArg UInt8.toNat h))
    · have hlt : (UInt8.ofNat c.toNat).toNat < 32 := UInt8.lt_iff_toNat_lt.mp h
      omega
  · have hge := le_of_mem_utf8Bytes (Nat.le_of_not_lt h) hb
    have hvalue : ∀ {n : Nat}, n < 128 → b ≠ UInt8.ofNat n := by
      intro n hn heq
      rw [heq, UInt8.toNat_ofNat'] at hge
      omega
    refine ⟨hvalue (by decide), hvalue (by decide), ?_⟩
    intro h
    have hlt : b.toNat < 32 := UInt8.lt_iff_toNat_lt.mp h
    omega

theorem scan_escapeChar (tokens : List Token) (before : List Piece) (c : Char) :
    scanChars (tokens, .text before) (escapeChar c) =
      some (tokens, .text ((piecesOf c).reverse ++ before)) := by
  unfold escapeChar
  split
  · subst c; rfl
  split
  · subst c; rfl
  split
  · subst c; rfl
  split
  · subst c; rfl
  split
  · subst c; rfl
  split
  · subst c; rfl
  split
  · subst c; rfl
  split
  case isTrue hlf hcr htab hbs hff hcontrol =>
    have hc : c.toNat < 32 := Char.lt_def.mp hcontrol
    have hpieces : piecesOf c = [.unit c.toNat] := by
      simp [piecesOf, *]
    have hfour : scanChars (tokens, .text before) ['\\', 'u', '0', '0'] =
        some (tokens, .hex before 2 0) := rfl
    rw [hpieces, show ∀ x y, ['\\', 'u', '0', '0', x, y] = ['\\', 'u', '0', '0'] ++ [x, y] from
      fun _ _ => rfl, scanChars_append, hfour, Option.bind_some, scanChars_cons,
      scan_hexDigit _ _ _ _ (by omega), Option.bind_some]
    rw [if_neg (by decide), scan_hexDigit _ _ _ _ (by omega), if_pos (by decide)]
    simp only [List.reverse_cons, List.reverse_nil, List.nil_append, List.cons_append]
    congr 5
    omega
  case isFalse hquote hslash _ _ _ _ _ hcontrol =>
    have hpieces : piecesOf c = (utf8Bytes c).map .byte := by
      simp [piecesOf, hcontrol]
    rw [hpieces]
    have hscan := scan_plainBytes tokens before fun b (hb : b ∈ utf8Bytes c) =>
      isPlainByte_of_mem hquote hslash hcontrol hb
    simpa [scanChars] using hscan

theorem bytesOf?_bytes (bytes : List UInt8) (rest : List Piece) :
    bytesOf? (bytes.map .byte ++ rest) = (bytesOf? rest).map (bytes ++ ·) := by
  induction bytes with
  | nil => simp
  | cons b bytes ih =>
      simp only [List.map_cons, List.cons_append, bytesOf?, ih, Option.map_map]
      rfl

theorem bytesOf?_piecesOf (c : Char) (rest : List Piece) :
    bytesOf? (piecesOf c ++ rest) = (bytesOf? rest).map (utf8Bytes c ++ ·) := by
  unfold piecesOf
  split
  case isTrue h =>
    have hc : c.toNat < 32 := Char.lt_def.mp h.1
    rw [List.cons_append, List.nil_append, bytesOf?.eq_def]
    simp only
    rw [if_neg (by omega), if_neg (by omega), Char.ofNat_toNat]
  case isFalse => exact bytesOf?_bytes _ _

theorem bytesOf?_flatMap (cs : List Char) :
    bytesOf? (cs.flatMap piecesOf) = some (cs.flatMap utf8Bytes) := by
  induction cs with
  | nil => rfl
  | cons c cs ih => simp [bytesOf?_piecesOf, ih]

theorem fromUTF8?_toByteArray (text : String) : String.fromUTF8? text.toByteArray = some text := by
  simp [String.fromUTF8?, text.isValidUTF8]
  rfl

theorem flatMap_utf8Bytes (cs : List Char) :
    cs.flatMap utf8Bytes = (String.ofList cs).toByteArray.data.toList := by
  simp [funext utf8Bytes_eq, List.utf8Encode]

theorem textOf?_flatMap (text : String) : textOf? (text.toList.flatMap piecesOf) = some text := by
  simp only [textOf?, bytesOf?_flatMap, flatMap_utf8Bytes, String.ofList_toList,
    Option.bind_eq_bind, Option.bind_some, Array.toArray_toList]
  exact fromUTF8?_toByteArray text

theorem scan_escapedChars (tokens : List Token) (before : List Piece) (cs : List Char) :
    scanChars (tokens, .text before) (cs.flatMap escapeChar) =
      some (tokens, .text ((cs.flatMap piecesOf).reverse ++ before)) := by
  induction cs generalizing before with
  | nil => rfl
  | cons c cs ih =>
      rw [List.flatMap_cons, scanChars_append, scan_escapeChar, Option.bind_some, ih]
      simp

theorem scan_quotedChars (tokens : List Token) (text : String) :
    scanChars (tokens, .between) (quotedChars text) =
      some (.text (some text) :: tokens, .between) := by
  have hopen : scanChars (tokens, .between) ['"'] = some (tokens, .text []) := rfl
  have hclose (before : List Piece) :
      scanChars (tokens, .text before) ['"'] =
        some (.text (textOf? before.reverse) :: tokens, .between) := rfl
  rw [quotedChars, List.cons_append, scanChars_cons, hopen, Option.bind_some, scanChars_append,
    scan_escapedChars, Option.bind_some, hclose]
  simp [textOf?_flatMap]

mutual
/-- Values that are text when printed and are read back as they were. -/
def isPlain : Json → Bool
  | .int value => Fits value
  | .real _ | .unreadable => false
  | .arr items => arePlain items
  | .obj fields => fieldsPlain fields
  | _ => true

def arePlain : List Json → Bool
  | [] => true
  | item :: rest => item.isPlain && arePlain rest

def fieldsPlain : List (String × Json) → Bool
  | [] => true
  | (_, value) :: rest => value.isPlain && fieldsPlain rest
end

mutual
def tokens : Json → List Token
  | .str text => [.text (some text)]
  | .arr [] => [.openArr, .closeArr]
  | .arr (item :: rest) => .openArr :: item.tokens ++ itemTokens rest ++ [.closeArr]
  | .obj [] => [.openObj, .closeObj]
  | .obj ((key, value) :: rest) =>
      .openObj :: .text (some key) :: .colon :: value.tokens ++ fieldTokens rest ++ [.closeObj]
  | json => [.scalar json]

def itemTokens : List Json → List Token
  | [] => []
  | item :: rest => .comma :: item.tokens ++ itemTokens rest

def fieldTokens : List (String × Json) → List Token
  | [] => []
  | (key, value) :: rest =>
      .comma :: .text (some key) :: .colon :: value.tokens ++ fieldTokens rest
end

/-- The scanner has read the tokens, though it may take the end of the text or a delimiter for it to
see that the last one is over. -/
structure Settled (tokens : List Token) (state : List Token × Scan) : Prop where
  finish : finishScan state = some tokens.reverse
  delimiter : ∀ b ∈ [0x2C, 0x5D, 0x7D], scanByte state b = startToken tokens b

theorem settled_between (tokens : List Token) : Settled tokens (tokens, .between) :=
  ⟨rfl, fun _ _ => rfl⟩

theorem settled_word {word : List Char} {token : Token} (tokens : List Token)
    (h : wordToken? word.reverse = some token) :
    Settled (token :: tokens) (tokens, .word word) := by
  refine ⟨by simp [finishScan, h], fun b hb => ?_⟩
  have hletter : ∀ b ∈ [0x2C, 0x5D, 0x7D], isLetterByte b = false := by decide +kernel
  simp [scanByte, h, hletter b hb]

theorem settled_number {digits : List Char} {value : Json} (tokens : List Token)
    (h : ofNumber? digits.reverse = some value) :
    Settled (.scalar value :: tokens) (tokens, .number digits) := by
  refine ⟨by simp [finishScan, h], fun b hb => ?_⟩
  have hnumber : ∀ b ∈ [0x2C, 0x5D, 0x7D], isNumberByte b = false := by decide +kernel
  simp [scanByte, h, hnumber b hb]

theorem toNat_of_isDigit {c : Char} (h : c.isDigit = true) : 48 ≤ c.toNat ∧ c.toNat ≤ 57 := by
  simpa [Char.isDigit, UInt32.le_iff_toNat_le] using h

theorem ofNat_byte {c : Char} (h : c.toNat < 128) :
    Char.ofNat (UInt8.ofNat c.toNat).toNat = c := by
  rw [UInt8.toNat_ofNat', Nat.mod_eq_of_lt (by omega), Char.ofNat_toNat]

theorem scan_digits (tokens : List Token) (before cs : List Char)
    (h : ∀ c ∈ cs, c.isDigit = true) :
    scanChars (tokens, .number before) cs = some (tokens, .number (cs.reverse ++ before)) := by
  induction cs generalizing before with
  | nil => rfl
  | cons c cs ih =>
      have hc := toNat_of_isDigit (h c List.mem_cons_self)
      have hbyte : isNumberByte (UInt8.ofNat c.toNat) = true := by
        simp [isNumberByte, UInt8.le_iff_toNat_le]
        omega
      rw [scanChars_cons, scanChars_ascii (by omega)]
      simp only [scanByte, hbyte, if_true, ofNat_byte (by omega : c.toNat < 128), Option.bind_some]
      rw [ih _ fun d hd => h d (List.mem_cons_of_mem _ hd)]
      simp

theorem scan_startDigit (tokens : List Token) {c : Char} (h : c.isDigit = true) :
    scanChars (tokens, .between) [c] = some (tokens, .number [c]) := by
  have hc := toNat_of_isDigit h
  have hspace : ¬ (UInt8.ofNat c.toNat = 0x20 ∨ UInt8.ofNat c.toNat = 0x09 ∨
      UInt8.ofNat c.toNat = 0x0A ∨ UInt8.ofNat c.toNat = 0x0D) := by
    simp only [← UInt8.toNat_inj, UInt8.toNat_ofNat', UInt8.reduceToNat]
    omega
  have hquote : UInt8.ofNat c.toNat ≠ 0x22 := by
    simp only [ne_eq, ← UInt8.toNat_inj, UInt8.toNat_ofNat', UInt8.reduceToNat]
    omega
  have hdigit : UInt8.ofNat c.toNat = 0x2D ∨
      (0x30 ≤ UInt8.ofNat c.toNat ∧ UInt8.ofNat c.toNat ≤ 0x39) := by
    simp only [UInt8.le_iff_toNat_le, UInt8.toNat_ofNat', UInt8.reduceToNat]
    omega
  rw [scanChars_ascii (by omega), scanByte, startToken, if_neg hspace, if_neg hquote,
    if_pos hdigit, ofNat_byte (by omega)]

theorem scan_toDigits (tokens : List Token) (n : Nat) :
    scanChars (tokens, .between) (Nat.toDigits 10 n) =
      some (tokens, .number (Nat.toDigits 10 n).reverse) := by
  have hdigits : ∀ c ∈ Nat.toDigits 10 n, c.isDigit = true :=
    fun _ => Nat.isDigit_of_mem_toDigits (by decide) (by decide)
  cases h : Nat.toDigits 10 n with
  | nil => exact absurd h Nat.toDigits_ne_nil
  | cons c cs =>
      rw [h] at hdigits
      rw [scanChars_cons, scan_startDigit tokens (hdigits c List.mem_cons_self), Option.bind_some,
        scan_digits _ _ _ fun d hd => hdigits d (List.mem_cons_of_mem _ hd)]
      simp

theorem scan_int (tokens : List Token) (value : Int) :
    scanChars (tokens, .between) (toString value).toList =
      some (tokens, .number (toString value).toList.reverse) := by
  cases value with
  | ofNat n =>
      have hchars : (toString (Int.ofNat n)).toList = Nat.toDigits 10 n := Nat.toList_repr
      rw [hchars, scan_toDigits]
  | negSucc n =>
      have hchars : (toString (Int.negSucc n)).toList = '-' :: Nat.toDigits 10 (n + 1) := by
        simp [toString, Int.repr, Nat.toList_repr]
      have hminus : scanChars (tokens, .between) ['-'] = some (tokens, .number ['-']) := rfl
      rw [hchars, scanChars_cons, hminus, Option.bind_some, scan_digits _ _ _ fun _ =>
        Nat.isDigit_of_mem_toDigits (by decide) (by decide)]
      simp

section Delimiters

variable {tokens : List Token} {state : List Token × Scan} (settled : Settled tokens state)

include settled

theorem Settled.scan_comma : scanChars state [','] = some (.comma :: tokens, .between) := by
  rw [scanChars_ascii (by decide), settled.delimiter _ (by decide)]
  rfl

theorem Settled.scan_closeArr : scanChars state [']'] = some (.closeArr :: tokens, .between) := by
  rw [scanChars_ascii (by decide), settled.delimiter _ (by decide)]
  rfl

theorem Settled.scan_closeObj :
    scanChars state ['\x7d'] = some (.closeObj :: tokens, .between) := by
  rw [scanChars_ascii (by decide), settled.delimiter _ (by decide)]
  rfl

end Delimiters

theorem scan_key (tokens : List Token) (key : String) (cs : List Char) :
    scanChars (tokens, .between) (quotedChars key ++ ':' :: cs) =
      scanChars (.colon :: .text (some key) :: tokens, .between) cs := by
  rw [scanChars_append, scan_quotedChars, Option.bind_some, scanChars_cons]
  rfl

mutual
theorem scan_chars : (json : Json) → json.isPlain = true → (before : List Token) →
    ∃ after, scanChars (before, .between) json.chars = some after ∧
      Settled (json.tokens.reverse ++ before) after
  | .null, _, before => ⟨_, rfl, settled_word before rfl⟩
  | .bool true, _, before => ⟨_, rfl, settled_word before rfl⟩
  | .bool false, _, before => ⟨_, rfl, settled_word before rfl⟩
  | .int value, h, before => by
      refine ⟨_, scan_int before value, settled_number before ?_⟩
      rw [List.reverse_reverse]
      exact ofNumber?_toString (by simpa [isPlain] using h)
  | .str text, _, before => ⟨_, scan_quotedChars before text, settled_between _⟩
  | .arr [], _, before => ⟨_, rfl, settled_between _⟩
  | .arr (item :: rest), h, before => by
      simp only [isPlain, arePlain, Bool.and_eq_true] at h
      obtain ⟨_, hitem, settledItem⟩ := scan_chars item h.1 (.openArr :: before)
      obtain ⟨_, hrest, settledRest⟩ := scan_itemChars rest h.2 settledItem
      have hopen : scanChars (before, .between) ['['] = some (.openArr :: before, .between) := rfl
      refine ⟨_, ?_, settled_between _⟩
      rw [chars, List.cons_append, List.cons_append, scanChars_cons, hopen, Option.bind_some,
        scanChars_append, scanChars_append, hitem, Option.bind_some, hrest, Option.bind_some,
        settledRest.scan_closeArr]
      simp [tokens]
  | .obj [], _, before => ⟨_, rfl, settled_between _⟩
  | .obj ((key, value) :: rest), h, before => by
      simp only [isPlain, fieldsPlain, Bool.and_eq_true] at h
      obtain ⟨_, hvalue, settledValue⟩ :=
        scan_chars value h.1 (.colon :: .text (some key) :: .openObj :: before)
      obtain ⟨_, hrest, settledRest⟩ := scan_fieldChars rest h.2 settledValue
      have hopen : scanChars (before, .between) ['\x7b'] =
          some (.openObj :: before, .between) := rfl
      refine ⟨_, ?_, settled_between _⟩
      rw [chars]
      simp only [List.cons_append, List.append_assoc]
      rw [scanChars_cons, hopen, Option.bind_some, scan_key, scanChars_append, hvalue,
        Option.bind_some, scanChars_append, hrest, Option.bind_some, settledRest.scan_closeObj]
      simp [tokens]

theorem scan_itemChars : (items : List Json) → arePlain items = true →
    {before : List Token} → {state : List Token × Scan} → Settled before state →
    ∃ after, scanChars state (itemChars items) = some after ∧
      Settled ((itemTokens items).reverse ++ before) after
  | [], _, _, state, settled => ⟨state, rfl, settled⟩
  | item :: rest, h, before, state, settled => by
      simp only [arePlain, Bool.and_eq_true] at h
      obtain ⟨_, hitem, settledItem⟩ := scan_chars item h.1 (.comma :: before)
      obtain ⟨after, hrest, settledRest⟩ := scan_itemChars rest h.2 settledItem
      refine ⟨after, ?_, ?_⟩
      · rw [itemChars, List.cons_append, scanChars_cons, settled.scan_comma, Option.bind_some,
          scanChars_append, hitem, Option.bind_some, hrest]
      · simpa [itemTokens] using settledRest

theorem scan_fieldChars : (fields : List (String × Json)) → fieldsPlain fields = true →
    {before : List Token} → {state : List Token × Scan} → Settled before state →
    ∃ after, scanChars state (fieldChars fields) = some after ∧
      Settled ((fieldTokens fields).reverse ++ before) after
  | [], _, _, state, settled => ⟨state, rfl, settled⟩
  | (key, value) :: rest, h, before, state, settled => by
      simp only [fieldsPlain, Bool.and_eq_true] at h
      obtain ⟨_, hvalue, settledValue⟩ :=
        scan_chars value h.1 (.colon :: .text (some key) :: .comma :: before)
      obtain ⟨after, hrest, settledRest⟩ := scan_fieldChars rest h.2 settledValue
      refine ⟨after, ?_, ?_⟩
      · rw [fieldChars]
        simp only [List.cons_append, List.append_assoc]
        rw [scanChars_cons, settled.scan_comma, Option.bind_some, scan_key, scanChars_append,
          hvalue, Option.bind_some, hrest]
      · simpa [fieldTokens] using settledRest
end

theorem tokens?_bytes {json : Json} (h : json.isPlain = true) :
    tokens? json.bytes.data.toList = some json.tokens := by
  obtain ⟨after, hscan, settled⟩ := scan_chars json h []
  have hread : json.bytes.data.toList.foldlM scanByte ([], .between) = some after := by
    rw [bytes, text, ← flatMap_utf8Bytes]
    exact hscan
  rw [tokens?, hread, Option.bind_eq_bind, Option.bind_some, settled.finish, List.append_nil,
    List.reverse_reverse]

end RunMonitor.Json
