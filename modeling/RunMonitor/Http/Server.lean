import RunMonitor.Http.EventStream
import RunMonitor.Http.Route
import RunMonitor.Metrics.Basic
import RunMonitor.Sync.State

namespace RunMonitor.Http

structure Server where
  /-- How long looked-up values are kept, in milliseconds. -/
  ttl : Nat := 15000
  refresh : Nat := 10000
  metrics : Metrics := {}
  health : Sync.Health := SortedMap.empty
  isShutDown : Bool := false

inductive Answer where
  | whole (response : Response)
  | events (topic : Topic)
  /-- The head of a stream without the stream. -/
  | noEvents

namespace Answer

def ofResult (answer : α → Answer) : Except Error α → Answer
  | .ok value => answer value
  | .error error => .whole (.ofError error)

def withoutBody : Answer → Answer
  | .whole response => .whole { response with body := .empty }
  | .events _ | .noEvents => .noEvents

end Answer

namespace Server

def getRoute (server : Server) : Route → View Answer
  | .health => return .whole server.health.response
  | .metrics => return .whole (.ofText textType server.metrics.text)
  | .document kind ns name =>
      return .ofResult (fun text => .whole (.ofText yamlType text))
        (← (View.document kind ns name).attempt)
  | .stream topic =>
      match topic.subject? with
      | none => return .events topic
      | some (ns, name) =>
          return .ofResult (fun _ => .events topic)
            (← (View.definition server.ttl ns name).attempt)

/-- Every route is only for getting, with the body or without. -/
def answer (server : Server) (method uri : String) : View Answer :=
  match Route.ofUri? uri with
  | none => return .whole .noRoute
  | some route =>
      if method ∉ ["GET", "HEAD"] then return .whole .noMethod
      else
        match route.decode with
        | .error field => return .whole (.badName field)
        | .ok route => do
            let answer ← server.getRoute route
            return if method = "HEAD" then answer.withoutBody else answer

def read {γ κ : Type} [Gate γ] [Cluster κ] (server : Server) (start : Instant) (wanted time : Nat)
    (topic : Topic) (site : Site γ κ) : Option (Reading (Site γ κ)) :=
  if wanted = 0 then some ⟨[], false, time, site⟩
  else if server.isShutDown then some ⟨[], true, time, site⟩
  else readEvents server.refresh (View.producer start (topic.message server.ttl)) wanted time site

end Server
end RunMonitor.Http
