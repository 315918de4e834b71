import RunMonitor.Json.Token

namespace RunMonitor.Json

/-! What encloses the place that is being read is kept as a list, innermost first. -/

/-- An unfinished array or object; what it holds already is kept latest first. -/
inductive Enclosure where
  | items (before : List Json)
  | fields (before : List (String × Json)) (key : String)

inductive Place where
  | value (around : List Enclosure)
  | firstItem (around : List Enclosure)
  | firstKey (around : List Enclosure)
  | nextKey (before : List (String × Json)) (around : List Enclosure)
  | colon (before : List (String × Json)) (key : String) (around : List Enclosure)
  | after (value : Json) (around : List Enclosure)

def readValue (around : List Enclosure) : Token → Option Place
  | .scalar value => some (.after value around)
  | .text (some text) => some (.after (.str text) around)
  | .text none => some (.after .unreadable around)
  | .openArr => some (.firstItem around)
  | .openObj => some (.firstKey around)
  | _ => none

def readKey (before : List (String × Json)) (around : List Enclosure) : Token → Option Place
  | .text (some key) => some (.colon before key around)
  | _ => none

def readAfter (value : Json) : List Enclosure → Token → Option Place
  | .items before :: around, .comma => some (.value (.items (value :: before) :: around))
  | .items before :: around, .closeArr => some (.after (.arr (value :: before).reverse) around)
  | .fields before key :: around, .comma => some (.nextKey ((key, value) :: before) around)
  | .fields before key :: around, .closeObj =>
      some (.after (.obj ((key, value) :: before).reverse) around)
  | _, _ => none

def readToken : Place → Token → Option Place
  | .value around, token => readValue around token
  | .firstItem around, .closeArr => some (.after (.arr []) around)
  | .firstItem around, token => readValue (.items [] :: around) token
  | .firstKey around, .closeObj => some (.after (.obj []) around)
  | .firstKey around, token => readKey [] around token
  | .nextKey before around, token => readKey before around token
  | .colon before key around, .colon => some (.value (.fields before key :: around))
  | .colon .., _ => none
  | .after value around, token => readAfter value around token

def ofTokens? (tokens : List Token) : Option Json := do
  match ← tokens.foldlM readToken (.value []) with
  | .after value [] => return value
  | _ => none

def parse? (bytes : ByteArray) : Option Json := do
  ofTokens? (← tokens? bytes.data.toList)

/-- How far values may nest where they are kept whole. -/
def maxDepth : Nat := 127

/-- Reads a value that will be kept whole: all of it has to denote something, and it may not nest
too far. -/
def parseWhole? (bytes : ByteArray) : Option Json := do
  let json ← parse? bytes
  guard (json.isReadable ∧ json.depth ≤ maxDepth)
  return json

end RunMonitor.Json
