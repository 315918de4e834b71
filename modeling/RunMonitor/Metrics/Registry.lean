import RunMonitor.Error
import RunMonitor.SortedMap
import RunMonitor.Text.Double

namespace RunMonitor.Metrics

/-! Gauges of one name share their help and the names of their labels. -/

inductive Reading where
  | single (value : Int)
  | perLabel (label : String) (values : SortedMap Int)
  deriving DecidableEq

def Reading.labelNames : Reading → List String
  | .single _ => []
  | .perLabel label _ => [label]

structure Identity where
  name : String
  labels : SortedMap String := SortedMap.empty
  deriving DecidableEq

structure Gauge where
  identity : Identity
  help : String
  reading : Reading
  deriving DecidableEq

structure Shape where
  help : String
  labelNames : List String
  deriving DecidableEq

def Gauge.shape (gauge : Gauge) : Shape :=
  ⟨gauge.help, gauge.identity.labels.keys ++ gauge.reading.labelNames⟩

structure Sample where
  name : String
  labels : SortedMap String
  value : Int
  deriving DecidableEq

def Gauge.samples (gauge : Gauge) : List Sample :=
  let ⟨name, labels⟩ := gauge.identity
  match gauge.reading with
  | .single value => [⟨name, labels, value⟩]
  | .perLabel label values => values.entries.map fun e => ⟨name, labels.insert label e.1, e.2⟩

structure Registry where
  gauges : List Gauge := []
  shapes : SortedMap Shape := SortedMap.empty

namespace Registry

def isRegistered (registry : Registry) (identity : Identity) : Bool :=
  registry.gauges.any fun gauge => gauge.identity = identity

def register (gauge : Gauge) (registry : Registry) : Except Error Registry :=
  if registry.isRegistered gauge.identity then
    .error (.metrics "Duplicate metrics collector registration attempted")
  else if ((registry.shapes.find? gauge.identity.name).getD gauge.shape) ≠ gauge.shape then
    .error (.metrics ("Error: a previously registered descriptor with the same fully-qualified " ++
      "name has different label names or a different help string"))
  else .ok {
    gauges := registry.gauges ++ [gauge]
    shapes := registry.shapes.insert gauge.identity.name gauge.shape }

def unregister (identity : Identity) (registry : Registry) : Except Error Registry :=
  if registry.isRegistered identity then
    .ok { registry with
      gauges := registry.gauges.filter fun gauge => gauge.identity ≠ identity }
  else .error (.metrics "Error: collector is not registered")

def set (identity : Identity) (reading : Reading) (registry : Registry) : Registry :=
  { registry with
    gauges := registry.gauges.map fun gauge =>
      if gauge.identity = identity then { gauge with reading := reading } else gauge }

def samples (registry : Registry) : List Sample := registry.gauges.flatMap Gauge.samples

def escapeChar (c : Char) : List Char :=
  if c = '\\' then ['\\', '\\']
  else if c = '"' then ['\\', '"']
  else if c = '\n' then ['\\', 'n']
  else [c]

def labelText (label : String × String) : String :=
  label.1 ++ "=\"" ++ String.ofList (label.2.toList.flatMap escapeChar) ++ "\""

def labelsText (labels : SortedMap String) : String :=
  if labels.entries.isEmpty then ""
  else "\x7b" ++ ",".intercalate (labels.entries.map labelText) ++ "\x7d"

def sampleLine (sample : Sample) : String :=
  sample.name ++ labelsText sample.labels ++ " " ++ Text.doubleText sample.value

def inOrder : List String → List String → Bool
  | [], _ => true
  | _ :: _, [] => false
  | a :: as, b :: bs => a < b || (a = b && inOrder as bs)

def sortSamples (samples : List Sample) : List Sample :=
  samples.mergeSort fun a b => inOrder a.labels.values b.labels.values

def families (registry : Registry) : SortedMap (List Sample) :=
  registry.samples.foldl (fun families sample => families.push sample.name sample)
    SortedMap.empty

def familyLines (registry : Registry) (name : String) (samples : List Sample) : List String :=
  let help := ((registry.shapes.find? name).map Shape.help).getD ""
  ("# HELP " ++ name ++ " " ++ help) ::
    ("# TYPE " ++ name ++ " gauge") ::
    (sortSamples samples).map sampleLine

def lines (registry : Registry) : List String :=
  registry.families.entries.flatMap fun family => registry.familyLines family.1 family.2

def text (registry : Registry) : String :=
  String.join (registry.lines.map (· ++ "\n"))

end Registry
end RunMonitor.Metrics
