import RunMonitor.Json.Fields
import RunMonitor.Json.Parser
import RunMonitor.Json.Printer

namespace RunMonitor

open Json

structure OwnerReference where
  apiVersion : String := ""
  kind : String := ""
  name : String := ""
  uid : String := ""
  controller : Option Bool := none
  blockOwnerDeletion : Option Bool := none
  deriving DecidableEq

structure Metadata where
  name : Option String := none
  generateName : Option String := none
  ns : Option String := none
  uid : Option String := none
  resourceVersion : Option String := none
  generation : Option Int := none
  creationTimestamp : Option Instant := none
  labels : Option (SortedMap String) := none
  annotations : Option (SortedMap String) := none
  ownerReferences : Option (List OwnerReference) := none
  deriving DecidableEq, Inhabited

namespace OwnerReference

def ofJson? (json : Json) : Option OwnerReference := do
  let fields ← json.obj?
  return {
    apiVersion := ← orDefault? fields "apiVersion" str? ""
    kind := ← orDefault? fields "kind" str? ""
    name := ← orDefault? fields "name" str? ""
    uid := ← orDefault? fields "uid" str? ""
    controller := ← optional? fields "controller" bool?
    blockOwnerDeletion := ← optional? fields "blockOwnerDeletion" bool? }

def toJson (owner : OwnerReference) : Json :=
  present [
    ("apiVersion", some (.str owner.apiVersion)),
    ("blockOwnerDeletion", owner.blockOwnerDeletion.map .bool),
    ("controller", owner.controller.map .bool),
    ("kind", some (.str owner.kind)),
    ("name", some (.str owner.name)),
    ("uid", some (.str owner.uid))]

end OwnerReference

namespace Metadata

def displayName (metadata : Metadata) : String :=
  (metadata.name.or metadata.generateName).getD ""

def nsOrEmpty (metadata : Metadata) : String := metadata.ns.getD ""

def owners (metadata : Metadata) : List OwnerReference := metadata.ownerReferences.getD []

def label? (metadata : Metadata) (key : String) : Option String := do
  (← metadata.labels).find? key

def ofJson? (json : Json) : Option Metadata := do
  let fields ← json.obj?
  return {
    name := ← optional? fields "name" str?
    generateName := ← optional? fields "generateName" str?
    ns := ← optional? fields "namespace" str?
    uid := ← optional? fields "uid" str?
    resourceVersion := ← optional? fields "resourceVersion" str?
    generation := ← optional? fields "generation" int64?
    creationTimestamp := ← optional? fields "creationTimestamp" instant?
    labels := ← optional? fields "labels" (mapOf? str?)
    annotations := ← optional? fields "annotations" (mapOf? str?)
    ownerReferences := ← optional? fields "ownerReferences" (listOf? OwnerReference.ofJson?) }

def toJson (metadata : Metadata) : Json :=
  present [
    ("annotations", metadata.annotations.map (ofMap .str)),
    ("creationTimestamp", metadata.creationTimestamp.map fun t => .str t.wholeText),
    ("generateName", metadata.generateName.map .str),
    ("generation", metadata.generation.map .int),
    ("labels", metadata.labels.map (ofMap .str)),
    ("name", metadata.name.map .str),
    ("namespace", metadata.ns.map .str),
    ("ownerReferences", metadata.ownerReferences.map (ofList OwnerReference.toJson)),
    ("resourceVersion", metadata.resourceVersion.map .str),
    ("uid", metadata.uid.map .str)]

end Metadata

class Resource (K : Type) where
  kind : String
  apiVersion : String
  metadata : K → Metadata
  ofFields? : Fields → Option K
  bodyFields : K → List (String × Option Json)

namespace Resource

variable {K : Type} [Resource K]

def ofJson? (json : Json) : Option K := do
  let fields ← json.obj?
  constant? fields "apiVersion" (apiVersion K)
  constant? fields "kind" (kind K)
  ofFields? fields

def toJson (object : K) : Json :=
  present (
    ("apiVersion", some (.str (apiVersion K))) ::
    ("kind", some (.str (kind K))) ::
    ("metadata", some (metadata object).toJson) ::
    bodyFields object)

def displayName (object : K) : String := (metadata object).displayName

def nsOrEmpty (object : K) : String := (metadata object).nsOrEmpty

/-- Whether two objects are versions of one: their names and namespaces agree, absent ones
included. -/
def SameIdentity (a b : K) : Prop :=
  (metadata a).name = (metadata b).name ∧ (metadata a).ns = (metadata b).ns

instance (a b : K) : Decidable (SameIdentity a b) :=
  inferInstanceAs (Decidable (_ ∧ _))

def encode (object : K) : ByteArray := (toJson object).bytes

def decode? (bytes : ByteArray) : Option K := do
  ofJson? (← parse? bytes)

def encodeAll (objects : List K) : ByteArray :=
  (ofList toJson objects).bytes

def decodeAll? (bytes : ByteArray) : Option (List K) := do
  listOf? ofJson? (← parse? bytes)

end Resource
end RunMonitor
