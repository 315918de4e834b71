import RunMonitor.Http.Server
import RunMonitor.Metrics.Recorder

namespace RunMonitor

/-! The monitor as a whole. Time passes only while something waits. -/

structure Monitor (γ κ : Type) where
  start : Instant
  elapsed : Nat := 0
  site : Site γ κ
  server : Http.Server := {}

/-- What a client gets for a request: a response, or some chunks of a stream, each with the time
since the request, and whether the stream ended with them. -/
inductive Exchange where
  | whole (response : Http.Response)
  | events (chunks : List (Nat × Http.Chunk)) (isEnded : Bool)

namespace Monitor

variable {γ κ α σ : Type} [Gate γ] [Cluster κ]

def now (monitor : Monitor γ κ) : Instant := monitor.start.addMillis monitor.elapsed

def advance (ms : Nat) (monitor : Monitor γ κ) : Monitor γ κ :=
  { monitor with elapsed := monitor.elapsed + ms }

def moveTo (time : Nat) (site : Site γ κ) (monitor : Monitor γ κ) : Monitor γ κ :=
  { monitor with elapsed := time, site := site }

def look (view : View α) : StateM (Monitor γ κ) (Except Error α) := fun monitor =>
  let (result, site) := view.run monitor.now monitor.site
  (result, { monitor with site := site })

def access (access : Access α) : StateM (Monitor γ κ) (Except Error α) :=
  look (access.mapCalls .inl)

/-- Delivers messages on a topic until the subscriber is done. Nothing comes of it if that takes
more rounds than are given. -/
def subscribe (topic : Topic) (behaviour : Delivery.Subscriber σ Json) (rounds : Nat)
    (subscriber : σ) : StateM (Monitor γ κ) (Option (Except Error Unit × σ)) := fun monitor =>
  let server := monitor.server
  let produce := View.producer monitor.start (topic.message server.ttl)
  match Delivery.deliver server.refresh produce behaviour rounds monitor.elapsed monitor.site
    subscriber with
  | some outcome =>
      (some (outcome.result, outcome.subscriber), monitor.moveTo outcome.time outcome.producer)
  | none => (none, monitor)

def record (ms : Nat) (monitor : Monitor γ κ) : Monitor γ κ :=
  let server := monitor.server
  let produce := View.producer monitor.start (View.cronJobs server.ttl)
  let recorder := Metrics.Recorder.run server.refresh (monitor.elapsed + ms) produce
    ⟨monitor.elapsed, monitor.site, server.metrics⟩
  { monitor.moveTo recorder.time recorder.producer with
    server := { server with metrics := recorder.metrics } }

def request (method uri : String) (wanted : Nat) :
    StateM (Monitor γ κ) (Option Exchange) := do
  match ← look ((← StateT.get).server.answer method uri) with
  | .error error => return some (.whole (.ofError error))
  | .ok (.whole response) => return some (.whole response)
  | .ok .noEvents => return some (.events [] (decide (0 < wanted)))
  | .ok (.events topic) => fun monitor =>
      match monitor.server.read monitor.start wanted monitor.elapsed topic monitor.site with
      | some reading =>
          let chunks := reading.chunks.map fun (time, chunk) => (time - monitor.elapsed, chunk)
          (some (.events chunks reading.isEnded), monitor.moveTo reading.time reading.producer)
      | none => (none, monitor)

end Monitor
end RunMonitor
