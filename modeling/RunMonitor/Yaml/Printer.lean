import RunMonitor.Json.Basic
import RunMonitor.Yaml.Scalar

namespace RunMonitor.Yaml

/-! Each level is indented by two spaces, but lists stand under their keys without any. -/

/-- A scalar that ends in a break has ended its line already. -/
def scalarLine (indent : Nat) (text : String) : List Char :=
  let cs := scalar indent text
  if cs.getLast?.any isBreak then cs else cs ++ ['\n']

/-- A key that has lines or is long is marked as one and has a line of its own. -/
def isSimpleKey (key : String) : Bool := key.utf8ByteSize ≤ 128 && !key.toList.any isBreak

def keyText (indent : Nat) (key : String) : List Char :=
  if isSimpleKey key then scalar (indent + 2) key
  else '?' :: ' ' :: scalarLine (indent + 2) key ++ margin indent

def leafText (indent : Nat) : Json → List Char
  | .null | .unreadable => "null\n".toList
  | .bool true => "true\n".toList
  | .bool false => "false\n".toList
  | .int value => (toString value).toList ++ ['\n']
  | .real literal => literal.toList ++ ['\n']
  | .str text => scalarLine indent text
  | .arr _ => "[]\n".toList
  | .obj _ => ['\x7b', '\x7d', '\n']

mutual
def valueText (indent : Nat) : Json → List Char
  | .arr (item :: rest) => '\n' :: itemsText indent (margin indent) (item :: rest)
  | .obj (field :: rest) => '\n' :: fieldsText (indent + 2) (margin (indent + 2)) (field :: rest)
  | leaf => ' ' :: leafText (indent + 2) leaf

def itemText (indent : Nat) : Json → List Char
  | .arr (item :: rest) => itemsText (indent + 2) [] (item :: rest)
  | .obj (field :: rest) => fieldsText (indent + 2) [] (field :: rest)
  | leaf => leafText (indent + 2) leaf

/-- The first item has the given indentation, which may have been written already. -/
def itemsText (indent : Nat) (lead : List Char) : List Json → List Char
  | [] => []
  | item :: rest =>
      lead ++ '-' :: ' ' :: itemText indent item ++ itemsText indent (margin indent) rest

def fieldsText (indent : Nat) (lead : List Char) : List (String × Json) → List Char
  | [] => []
  | (key, value) :: rest =>
      lead ++ keyText indent key ++ ':' :: valueText indent value ++
        fieldsText indent (margin indent) rest
end

def text : Json → String
  | .arr (item :: rest) => String.ofList (itemsText 0 [] (item :: rest))
  | .obj (field :: rest) => String.ofList (fieldsText 0 [] (field :: rest))
  | leaf => String.ofList (leafText 2 leaf)

end RunMonitor.Yaml
