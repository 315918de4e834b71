import RunMonitor.Delivery.Loop
import RunMonitor.Json.Printer

namespace RunMonitor.Http

/-! A sign of life that is due at the time of a message comes before it. -/

inductive Chunk where
  | data (message : Json)
  | keepAlive

def Chunk.text : Chunk → String
  | .data message => "data: " ++ message.text ++ "\n\n"
  | .keepAlive => ":\n\n"

structure Reader where
  wanted : Nat
  chunks : List (Nat × Chunk) := []
  since : Nat

namespace Reader

def keepAliveAfter : Nat := 15000

def take (chunk : Chunk) (time : Nat) (reader : Reader) : Reader where
  wanted := reader.wanted - 1
  chunks := reader.chunks ++ [(time, chunk)]
  since := time

def awaitSign (limit : Nat) (reader : Reader) : Reader :=
  let time := reader.since + keepAliveAfter
  if time ≤ limit then reader.take .keepAlive time else reader

def await (limit : Nat) (reader : Reader) : Reader :=
  Nat.repeat (awaitSign limit) reader.wanted reader

def subscriber : Delivery.Subscriber Reader Json where
  push message time reader :=
    if reader.wanted = 0 then (.error .subscriberGone, time, reader)
    else (.ok (), time, reader.take (.data message) time)
  pause _ limit reader := reader.await limit
  isCancelled _ reader := reader.wanted = 0

end Reader

structure Reading (π : Type) where
  chunks : List (Nat × Chunk)
  isEnded : Bool
  time : Nat
  producer : π

/-- Every message takes the reader further, so there are no more of them than are wanted. -/
def readEvents {π : Type} (interval : Nat) (produce : Delivery.Producer π Json) (wanted : Nat)
    (time : Nat) (producer : π) : Option (Reading π) := do
  let reader : Reader := { wanted := wanted, since := time }
  let outcome ← Delivery.deliver interval produce Reader.subscriber wanted time producer reader
  match outcome.result with
  | .ok () =>
      return ⟨outcome.subscriber.chunks, false, outcome.subscriber.since, outcome.producer⟩
  | .error _ => return ⟨outcome.subscriber.chunks, true, outcome.time, outcome.producer⟩

end RunMonitor.Http
