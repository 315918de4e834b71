import RunMonitor.Cluster.Metadata

namespace RunMonitor

inductive WatchEvent (K : Type) where
  | added (object : K)
  | modified (object : K)
  | deleted (object : K)
  deriving DecidableEq

namespace WatchEvent

variable {K : Type}

def object : WatchEvent K → K
  | .added object | .modified object | .deleted object => object

def typeName : WatchEvent K → String
  | .added _ => "ADDED"
  | .modified _ => "MODIFIED"
  | .deleted _ => "DELETED"

def ofTypeName? (name : String) (object : K) : Option (WatchEvent K) :=
  if name = "ADDED" then some (.added object)
  else if name = "MODIFIED" then some (.modified object)
  else if name = "DELETED" then some (.deleted object)
  else none

def map {L : Type} (f : K → L) : WatchEvent K → WatchEvent L
  | .added object => .added (f object)
  | .modified object => .modified (f object)
  | .deleted object => .deleted (f object)

variable [Resource K]

/-- Every item of that identity goes; a new version is put at the end. -/
def applyTo (items : List K) : WatchEvent K → List K
  | .added object | .modified object =>
      items.filter (fun item => ¬ Resource.SameIdentity item object) ++ [object]
  | .deleted object => items.filter fun item => ¬ Resource.SameIdentity item object

def replay (items : List K) (events : List (WatchEvent K)) : List K :=
  events.foldl applyTo items

end WatchEvent
end RunMonitor
