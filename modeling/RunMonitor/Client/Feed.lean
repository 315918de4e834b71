import RunMonitor.Client.Reply
import RunMonitor.Cluster.Event

namespace RunMonitor.Client

/-! The feed of a watch, in which items that tell of no change are passed over. -/

inductive Item (K : Type) where
  | change (event : WatchEvent K)
  | bookmark
  | failure (status : Failure)
  | unreadable

namespace Item

variable {K : Type}

def change? : Item K → Option (WatchEvent K)
  | .change event => some event
  | _ => none

def isExpiry : Item K → Bool
  | .failure status => status.isExpired
  | _ => false

variable [Resource K]

def ofParts (type : String) (object : Json) : Item K :=
  if type = "ERROR" then ((Failure.ofJson? object).map .failure).getD .unreadable
  else if type = "BOOKMARK" then .bookmark
  else
    match (Resource.ofJson? object).bind (WatchEvent.ofTypeName? type) with
    | some event => .change event
    | none => .unreadable

def isKept : Json.Fields → Bool
  | [] => true
  | ("type", _) :: _ => true
  | ("object", object) :: _ => object.isReadable && object.depth < Json.maxDepth
  | _ :: rest => isKept rest

def ofJson (json : Json) : Item K :=
  let parts? := match json with
    | .obj fields => do
        guard (isKept fields)
        return (← Json.sole? fields "type" Json.tag?, ← Json.sole? fields "object" some)
    | .arr [type, object] => do return (← type.tag?, object)
    | _ => none
  match parts? with
  | some (type, object) => ofParts type object
  | none => .unreadable

def ofLine (line : String) : Item K :=
  match Json.parse? line.toByteArray with
  | some json => ofJson json
  | none => .unreadable

end Item

def cutLines : List UInt8 → List (List UInt8) × List UInt8
  | [] => ([], [])
  | b :: bytes =>
      let (lines, rest) := cutLines bytes
      if b = 0x0a then ([] :: lines, rest)
      else
        match lines with
        | [] => ([], b :: rest)
        | first :: others => ((b :: first) :: others, rest)

def withoutReturn (line : List UInt8) : List UInt8 :=
  if line.getLast? = some 0x0d then line.dropLast else line

/-- The lines of a reply, up to the first that is no text. An unfinished last line counts if the
reply ends with it in good order. -/
def lines (reply : Reply) : List String :=
  let (finished, rest) := cutLines reply.body.data.toList
  let last := if reply.isBroken || rest.isEmpty || rest == [0x0d] then [] else [rest]
  ((finished ++ last).map fun line => String.fromUTF8? ⟨(withoutReturn line).toArray⟩)
    |>.takeWhile Option.isSome
    |>.filterMap id

def changes (items : List (Item K)) : List (WatchEvent K) :=
  (items.takeWhile fun item => !item.isExpiry).filterMap Item.change?

end RunMonitor.Client
