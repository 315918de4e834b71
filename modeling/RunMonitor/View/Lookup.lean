import RunMonitor.Cache.RunIndex
import RunMonitor.View.Site

namespace RunMonitor.View

/-! The cluster is asked only for what the store does not have, which is then kept for a while. -/

/-- Reads a second time before it fetches, as someone else may have saved the value while this
lookup waited for its turn. -/
def lookUp (ttl : Nat) (key : String) (fetch : View ByteArray) : View ByteArray := do
  match ← Store.get key with
  | some hit => return hit
  | none =>
      match ← Store.get key with
      | some hit => return hit
      | none =>
          let value ← fetch
          Store.set key value (some ttl)
          return value

/-- The index is empty for this time if it cannot be had, whatever the reason. -/
def runIndex (ttl : Nat) : View RunIndex := do
  let found ← (lookUp ttl Key.runIndex do
    return (RunIndex.build (← inquire .jobs)).encode).attempt
  match found with
  | .ok bytes => return (RunIndex.decode? bytes).getD SortedMap.empty
  | .error _ => return SortedMap.empty

def absent (kind : Kind) (ns name : String) : Error :=
  .notFound (kind.name.toLower ++ " " ++ ns ++ "/" ++ name)

/-- A value that cannot be decoded counts as absent, but stays in the store. -/
def definition (ttl : Nat) (ns name : String) : View CronJob := do
  let bytes ← lookUp ttl (Key.definition ns name) do
    match ← inquire (.object .cronJob ns name) with
    | some cronJob => return Resource.encode cronJob
    | none => .fail (absent .cronJob ns name)
  match Resource.decode? bytes with
  | some cronJob => return cronJob
  | none => .fail (absent .cronJob ns name)

end RunMonitor.View
