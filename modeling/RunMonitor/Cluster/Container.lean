import RunMonitor.Json.Fields

namespace RunMonitor

open Json

structure Container where
  name : String := ""
  command : Option (List String) := none
  args : Option (List String) := none
  restartPolicy : Option String := none
  deriving DecidableEq

structure PodSpec where
  containers : List Container := []
  initContainers : Option (List Container) := none
  ephemeralContainers : Option (List Container) := none
  restartPolicy : Option String := none
  deriving DecidableEq

structure Waiting where
  reason : Option String := none
  message : Option String := none
  deriving DecidableEq

structure Running where
  startedAt : Option Instant := none
  deriving DecidableEq

structure Terminated where
  exitCode : Int := 0
  reason : Option String := none
  message : Option String := none
  signal : Option Int := none
  startedAt : Option Instant := none
  finishedAt : Option Instant := none
  deriving DecidableEq

structure ContainerState where
  waiting : Option Waiting := none
  running : Option Running := none
  terminated : Option Terminated := none
  deriving DecidableEq

structure ContainerStatus where
  name : String := ""
  image : String := ""
  imageID : String := ""
  ready : Bool := false
  restartCount : Int := 0
  state : Option ContainerState := none
  lastState : Option ContainerState := none
  deriving DecidableEq

namespace Container

def ofJson? (json : Json) : Option Container := do
  let fields ← json.obj?
  return {
    name := ← orDefault? fields "name" str? ""
    command := ← optional? fields "command" (listOf? str?)
    args := ← optional? fields "args" (listOf? str?)
    restartPolicy := ← optional? fields "restartPolicy" str? }

def toJson (container : Container) : Json :=
  present [
    ("args", container.args.map (ofList .str)),
    ("command", container.command.map (ofList .str)),
    ("name", some (.str container.name)),
    ("restartPolicy", container.restartPolicy.map .str)]

end Container

namespace PodSpec

def ofJson? (json : Json) : Option PodSpec := do
  let fields ← json.obj?
  return {
    containers := ← orDefault? fields "containers" (listOf? Container.ofJson?) []
    initContainers := ← optional? fields "initContainers" (listOf? Container.ofJson?)
    ephemeralContainers := ← optional? fields "ephemeralContainers" (listOf? Container.ofJson?)
    restartPolicy := ← optional? fields "restartPolicy" str? }

def toJson (spec : PodSpec) : Json :=
  present [
    ("containers", some (ofList Container.toJson spec.containers)),
    ("ephemeralContainers", spec.ephemeralContainers.map (ofList Container.toJson)),
    ("initContainers", spec.initContainers.map (ofList Container.toJson)),
    ("restartPolicy", spec.restartPolicy.map .str)]

end PodSpec

namespace Waiting

def ofJson? (json : Json) : Option Waiting := do
  let fields ← json.obj?
  return {
    reason := ← optional? fields "reason" str?
    message := ← optional? fields "message" str? }

def toJson (state : Waiting) : Json :=
  present [
    ("message", state.message.map .str),
    ("reason", state.reason.map .str)]

end Waiting

namespace Running

def ofJson? (json : Json) : Option Running := do
  let fields ← json.obj?
  return { startedAt := ← optional? fields "startedAt" instant? }

def toJson (state : Running) : Json :=
  present [("startedAt", state.startedAt.map fun t => .str t.wholeText)]

end Running

namespace Terminated

def ofJson? (json : Json) : Option Terminated := do
  let fields ← json.obj?
  return {
    exitCode := ← orDefault? fields "exitCode" int32? 0
    reason := ← optional? fields "reason" str?
    message := ← optional? fields "message" str?
    signal := ← optional? fields "signal" int32?
    startedAt := ← optional? fields "startedAt" instant?
    finishedAt := ← optional? fields "finishedAt" instant? }

def toJson (state : Terminated) : Json :=
  present [
    ("exitCode", some (.int state.exitCode)),
    ("finishedAt", state.finishedAt.map fun t => .str t.wholeText),
    ("message", state.message.map .str),
    ("reason", state.reason.map .str),
    ("signal", state.signal.map .int),
    ("startedAt", state.startedAt.map fun t => .str t.wholeText)]

end Terminated

namespace ContainerState

def ofJson? (json : Json) : Option ContainerState := do
  let fields ← json.obj?
  return {
    waiting := ← optional? fields "waiting" Waiting.ofJson?
    running := ← optional? fields "running" Running.ofJson?
    terminated := ← optional? fields "terminated" Terminated.ofJson? }

def toJson (state : ContainerState) : Json :=
  present [
    ("running", state.running.map Running.toJson),
    ("terminated", state.terminated.map Terminated.toJson),
    ("waiting", state.waiting.map Waiting.toJson)]

end ContainerState

namespace ContainerStatus

def ofJson? (json : Json) : Option ContainerStatus := do
  let fields ← json.obj?
  return {
    name := ← orDefault? fields "name" str? ""
    image := ← orDefault? fields "image" str? ""
    imageID := ← orDefault? fields "imageID" str? ""
    ready := ← orDefault? fields "ready" bool? false
    restartCount := ← orDefault? fields "restartCount" int32? 0
    state := ← optional? fields "state" ContainerState.ofJson?
    lastState := ← optional? fields "lastState" ContainerState.ofJson? }

def toJson (status : ContainerStatus) : Json :=
  present [
    ("image", some (.str status.image)),
    ("imageID", some (.str status.imageID)),
    ("lastState", status.lastState.map ContainerState.toJson),
    ("name", some (.str status.name)),
    ("ready", some (.bool status.ready)),
    ("restartCount", some (.int status.restartCount)),
    ("state", status.state.map ContainerState.toJson)]

end ContainerStatus
end RunMonitor
