import RunMonitor.Http.Response
import RunMonitor.Text.Percent
import RunMonitor.View.Topic

namespace RunMonitor.Http

inductive Route where
  | health
  | metrics
  | stream (topic : Topic)
  | document (kind : Kind) (ns name : String)
  deriving DecidableEq

namespace Route

def ofSegments? : List String → Option Route
  | ["health"] => some .health
  | ["metrics"] => some .metrics
  | ["cronjobs", "stream"] => some (.stream .cronJobs)
  | ["cronjobs", ns, name, "stream"] => some (.stream (.cronJob ns name))
  | ["cronjobs", ns, name, "pods", "stream"] => some (.stream (.pods ns name))
  | ["cronjobs", ns, name, "raw"] => some (.document .cronJob ns name)
  | ["jobs", "stream"] => some (.stream .standaloneRuns)
  | ["jobs", ns, name, "raw"] => some (.document .job ns name)
  | ["pods", ns, name, "raw"] => some (.document .pod ns name)
  | _ => none

def path (uri : String) : String :=
  String.ofList (uri.toList.takeWhile fun c => c ≠ '?' ∧ c ≠ '#')

def ofUri? (uri : String) : Option Route :=
  match (path uri).splitOn "/" with
  | "" :: segments => if segments.any String.isEmpty then none else ofSegments? segments
  | _ => none

def decodeNames (ns name : String) : Except String (String × String) :=
  match Text.percentDecode? ns, Text.percentDecode? name with
  | none, _ => .error "namespace"
  | some _, none => .error "name"
  | some ns, some name => .ok (ns, name)

def decode : Route → Except String Route
  | .stream (.cronJob ns name) => do
      let (ns, name) ← decodeNames ns name
      return .stream (.cronJob ns name)
  | .stream (.pods ns name) => do
      let (ns, name) ← decodeNames ns name
      return .stream (.pods ns name)
  | .document kind ns name => do
      let (ns, name) ← decodeNames ns name
      return .document kind ns name
  | route => return route

end Route

def Response.badName (field : String) : Response :=
  ⟨400, some textType, ("Invalid URL: Invalid UTF-8 in \x60" ++ field ++ "\x60").toByteArray⟩

end RunMonitor.Http
