import RunMonitor.Json.Basic
import RunMonitor.SortedMap
import RunMonitor.Time.Instant

namespace RunMonitor.Json

abbrev Fields := List (String × Json)

def valuesOf (fields : Fields) (key : String) : List Json :=
  (fields.filter fun f => f.1 = key).map (·.2)

def nullable? (read? : Json → Option α) : Json → Option (Option α)
  | .null => some none
  | json => (read? json).map some

def optional? (fields : Fields) (key : String) (read? : Json → Option α) : Option (Option α) := do
  let values ← (valuesOf fields key).mapM (nullable? read?)
  return values.getLast?.join

def orDefault? (fields : Fields) (key : String) (read? : Json → Option α) (default : α) :
    Option α := do
  return (← optional? fields key read?).getD default

def constant? (fields : Fields) (key expected : String) : Option Unit :=
  guard ((valuesOf fields key).all fun json => json.str? = some expected)

def listOf? (read? : Json → Option α) (json : Json) : Option (List α) := do
  (← json.arr?).mapM read?

/-- A field that has to be there; the last one counts. -/
def required? (fields : Fields) (key : String) (read? : Json → Option α) : Option α := do
  read? (← (valuesOf fields key).getLast?)

def sole? (fields : Fields) (key : String) (read? : Json → Option α) : Option α :=
  match valuesOf fields key with
  | [value] => read? value
  | _ => none

/-- The fields of an object; a list stands for an object with the given keys. -/
def record? (keys : List String) : Json → Option Fields
  | .obj fields => some fields
  | .arr items => if items.length = keys.length then some (keys.zip items) else none
  | _ => none

/-- A name, also as the only key of an object that holds null. -/
def tag? : Json → Option String
  | .str name => some name
  | .obj [(name, .null)] => some name
  | _ => none

def mapOf? (read? : Json → Option α) (json : Json) : Option (SortedMap α) := do
  let entries ← (← json.obj?).mapM fun f => (read? f.2).map fun value => (f.1, value)
  return SortedMap.ofList entries

def instant? (json : Json) : Option Instant := do
  Instant.ofText? (← json.str?)

def present (fields : List (String × Option Json)) : Json :=
  .obj (fields.filterMap fun f => f.2.map fun json => (f.1, json))

def ofOption (write : α → Json) : Option α → Json
  | none => .null
  | some value => write value

def ofList (write : α → Json) (items : List α) : Json :=
  .arr (items.map write)

def ofMap (write : α → Json) (m : SortedMap α) : Json :=
  .obj (m.entries.map fun e => (e.1, write e.2))

end RunMonitor.Json
