import RunMonitor.Delivery.Loop

namespace RunMonitor.Delivery

/-- What is produced, each with the time that it takes. Once the script is used up there is nothing
more to produce. -/
structure Script (α : Type) where
  entries : List (Nat × Except Error α)
  produced : Nat := 0

def Script.produce {α : Type} : Producer (Script α) α := fun time script =>
  match script.entries with
  | [] => (.error (.internal "script ended"), time, ⟨[], script.produced + 1⟩)
  | (delay, result) :: rest => (result, time + delay, ⟨rest, script.produced + 1⟩)

structure Recording (α : Type) where
  cancelAfter : Nat
  failPushAt : Option Nat := none
  pushed : List (Nat × α) := []

namespace Recording

variable {α : Type}

def push (message : α) (time : Nat) (recording : Recording α) :
    Except Error Unit × Nat × Recording α :=
  if recording.failPushAt = some (recording.pushed.length + 1) then
    (.error .subscriberGone, time, recording)
  else (.ok (), time, { recording with pushed := recording.pushed ++ [(time, message)] })

def subscriber : Subscriber (Recording α) α where
  push := push
  pause _ _ recording := recording
  isCancelled _ recording := recording.cancelAfter ≤ recording.pushed.length

end Recording
end RunMonitor.Delivery
