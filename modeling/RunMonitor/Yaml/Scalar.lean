import RunMonitor.Json.Number
import RunMonitor.Text.Hex

namespace RunMonitor.Yaml

/-! What a plain scalar would be read as. -/

def isNullName (text : String) : Bool := text ∈ ["", "~", "null", "Null", "NULL"]

def isBoolName (text : String) : Bool :=
  text ∈ ["true", "True", "TRUE", "false", "False", "FALSE"]

def isFloatName (text : String) : Bool :=
  text ∈ [".inf", ".Inf", ".INF", "+.inf", "+.Inf", "+.INF", "-.inf", "-.Inf", "-.INF",
    ".nan", ".NaN", ".NAN"]

def afterSign : List Char → List Char
  | '+' :: rest | '-' :: rest => rest
  | cs => cs

def isNumeral (base limit : Nat) (digits : List Char) : Bool :=
  match digits.mapM Text.hexValue? with
  | some values =>
      values ≠ [] && values.all (· < base) &&
        values.foldl (fun n d => base * n + d) 0 ≤ limit
  | none => false

/-- Numbers of another base have 128 bits, with a sign if there is a minus. -/
def isBasedInteger (cs : List Char) : Bool :=
  let limit := if cs.head? = some '-' then Nat.pow 2 127 else Nat.pow 2 128 - 1
  match afterSign cs with
  | '0' :: 'x' :: digits => isNumeral 16 limit digits
  | '0' :: 'o' :: digits => isNumeral 8 limit digits
  | '0' :: 'b' :: digits => isNumeral 2 limit digits
  | _ => false

def isDecimal (cs : List Char) : Bool :=
  let digits := (afterSign cs).takeWhile Char.isDigit
  let rest := (afterSign cs).dropWhile Char.isDigit
  let (fraction, rest) :=
    match rest with
    | '.' :: rest => (rest.takeWhile Char.isDigit, rest.dropWhile Char.isDigit)
    | rest => ([], rest)
  match Json.exponentOf? rest with
  | some exponent =>
      digits ++ fraction ≠ [] && (Json.NumberParts.mk false digits fraction exponent).isFinite
  | none => false

def isZeroPadded (cs : List Char) : Bool :=
  match afterSign cs with
  | '0' :: c :: rest => (c :: rest).all Char.isDigit
  | _ => false

/-- Whether a plain scalar would not be read as text. -/
def isAmbiguous (text : String) : Bool :=
  isNullName text || isBoolName text || isFloatName text || isBasedInteger text.toList ||
    isDecimal text.toList || isZeroPadded text.toList

def isBreak (c : Char) : Bool :=
  c ∈ ['\n', '\r', '\u0085', '\u2028', '\u2029']

def isPrintable (c : Char) : Bool :=
  c == '\n' || (' ' ≤ c && c ≤ '~') || ('\u00a0' ≤ c && c ≤ '\ufffd' && c ≠ '\ufeff') ||
    0x10000 ≤ c.toNat

def isBlank (c : Char) : Bool := c == ' ' || c == '\t' || isBreak c

def hasPair (p q : Char → Bool) (cs : List Char) : Bool :=
  (cs.zip cs.tail).any fun (c, d) => p c && q d

def isSpace (c : Char) : Bool := c == ' '

def opensOrCloses (p : Char → Bool) (cs : List Char) : Bool :=
  cs.head?.any p || cs.getLast?.any p

def isLeadingIndicator : List Char → Bool
  | [] => false
  | c :: rest =>
      c ∈ ['#', ',', '[', ']', '\x7b', '\x7d', '&', '*', '!', '|', '>', '\x27', '"', '%', '@',
          '\x60'] ||
        (c ∈ ['?', ':', '-'] && rest.head?.all isBlank)

def isDocumentMark (cs : List Char) : Bool := cs.take 3 ∈ [['-', '-', '-'], ['.', '.', '.']]

/-- A colon that ends a key, or a sign that begins a comment. -/
def hasInnerIndicator (cs : List Char) : Bool :=
  hasPair (· == ':') isBlank cs || cs.getLast? == some ':' || hasPair isBlank (· == '#') cs

def allowsPlain (cs : List Char) : Bool :=
  cs.all isPrintable && !cs.any isBreak && !opensOrCloses isSpace cs &&
    !isDocumentMark cs && !isLeadingIndicator cs && !hasInnerIndicator cs

def allowsSingleQuotes (cs : List Char) : Bool :=
  cs.all isPrintable && !hasPair isSpace isBreak cs && !hasPair isBreak isSpace cs

def allowsLiteral (cs : List Char) : Bool :=
  cs.all isPrintable && !hasPair isSpace isBreak cs && cs.getLast? ≠ some ' '

inductive Style where
  | plain
  | single
  | double
  | literal
  deriving DecidableEq

def Style.of (text : String) : Style :=
  let cs := text.toList
  if '\n' ∈ cs then
    if allowsLiteral cs then .literal else .double
  else if allowsPlain cs && !isAmbiguous text then .plain
  else if allowsSingleQuotes cs then .single
  else .double

def margin (indent : Nat) : List Char := List.replicate indent ' '

def indentLines (indent : Nat) (afterBreak : Bool) : List Char → List Char
  | [] => []
  | c :: rest =>
      if isBreak c then c :: indentLines indent true rest
      else (if afterBreak then margin indent else []) ++ c :: indentLines indent false rest

def singleQuoted (indent : Nat) (cs : List Char) : List Char :=
  let doubled := cs.flatMap fun c => if c = '\x27' then ['\x27', '\x27'] else [c]
  '\x27' :: indentLines indent false doubled ++ ['\x27']

def letters : List (Char × Char) :=
  [('\x00', '0'), ('\x07', 'a'), ('\x08', 'b'), ('\t', 't'), ('\n', 'n'), ('\x0b', 'v'),
    ('\x0c', 'f'), ('\r', 'r'), ('\x1b', 'e'), ('"', '"'), ('\\', '\\'), ('\u0085', 'N'),
    ('\u2028', 'L'), ('\u2029', 'P')]

def upperHex (width n : Nat) : List Char :=
  (List.range width).reverse.map fun i => (Text.hexDigit (n / Nat.pow 16 i % 16)).toUpper

def escaped (c : Char) : List Char :=
  match letters.lookup c with
  | some letter => ['\\', letter]
  | none =>
      if isPrintable c then [c]
      else if c.toNat < 0x100 then '\\' :: 'x' :: upperHex 2 c.toNat
      else '\\' :: 'u' :: upperHex 4 c.toNat

def doubleQuoted (cs : List Char) : List Char :=
  '"' :: cs.flatMap escaped ++ ['"']

/-- What the head of a literal block says of the breaks at its end: nothing for a single one. -/
def chomping (cs : List Char) : List Char :=
  match cs.reverse with
  | c :: d :: _ => if !isBreak c then ['-'] else if isBreak d then ['+'] else []
  | [c] => if isBreak c then ['+'] else ['-']
  | [] => ['-']

/-- A text that begins with a space or a break needs its indentation told. -/
def literal (indent : Nat) (cs : List Char) : List Char :=
  let hint := if cs.head?.any fun c => c == ' ' || isBreak c then ['2'] else []
  '|' :: hint ++ chomping cs ++ '\n' :: indentLines indent true cs

def scalar (indent : Nat) (text : String) : List Char :=
  match Style.of text with
  | .plain => text.toList
  | .single => singleQuoted indent text.toList
  | .double => doubleQuoted text.toList
  | .literal => literal indent text.toList

example : Style.of "yes" = .plain := by decide
example : Style.of "+.5e3" = .single := by decide
example : Style.of "a: b" = .single := by decide
example : Style.of "a\tb" = .double := by decide
example : Style.of "a\nb" = .literal := by decide

end RunMonitor.Yaml
