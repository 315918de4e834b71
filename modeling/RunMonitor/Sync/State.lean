import RunMonitor.Http.Response
import RunMonitor.SortedMap

namespace RunMonitor.Sync

inductive State where
  | connecting
  | streaming
  | reconnecting
  | terminated
  deriving DecidableEq, Inhabited

def State.name : State → String
  | .connecting => "connecting"
  | .streaming => "streaming"
  | .reconnecting => "reconnecting"
  | .terminated => "terminated"

abbrev Health : Type := SortedMap State

namespace Health

def isHealthy (health : Health) : Bool := health.values.all (· = .streaming)

def response (health : Health) : Http.Response :=
  let report (label : String) : Json := .obj [
    ("status", .str label),
    ("synchronizers", .obj (health.entries.map fun e => (e.1, .str e.2.name)))]
  if health.isHealthy then .ofJson 200 (report "healthy") else .ofJson 503 (report "degraded")

end Health
end RunMonitor.Sync
