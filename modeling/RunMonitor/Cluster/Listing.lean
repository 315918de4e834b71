import RunMonitor.Cluster.Metadata

namespace RunMonitor

structure Listing (K : Type) where
  items : List K
  version : String

namespace Listing

def version? (json : Json) : Option String := do
  let fields ← json.obj?
  let _ ← Json.optional? fields "continue" Json.str?
  let _ ← Json.optional? fields "remainingItemCount" Json.int64?
  let _ ← Json.optional? fields "selfLink" Json.str?
  return (← Json.optional? fields "resourceVersion" Json.str?).getD ""

def areKept (fields : Json.Fields) : Bool :=
  fields.all fun f =>
    f.1 ∈ ["metadata", "items"] || (f.2.isReadable && f.2.depth < Json.maxDepth)

def ofJson? [Resource K] (json : Json) : Option (Listing K) := do
  let fields ← json.obj?
  guard (areKept fields)
  return {
    version := ← Json.sole? fields "metadata" version?
    items := (← Json.sole? fields "items"
      (Json.nullable? (Json.listOf? Resource.ofJson?))).getD [] }

end Listing
end RunMonitor
