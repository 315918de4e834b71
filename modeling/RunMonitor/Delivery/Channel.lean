import RunMonitor.Delivery.Loop

namespace RunMonitor.Delivery

/-! A bounded channel. Its receiver acts whenever the sender waits. -/

structure Channel (α : Type) where
  capacity : Nat
  wanted : Nat
  /-- How long the receiver holds on after the last message. -/
  hold : Nat := 0
  queue : List α := []
  received : List (Nat × α) := []
  gone : Option Nat := none

namespace Channel

variable {α : Type}

def settle (channel : Channel α) (time : Nat) : Channel α :=
  match channel.gone, channel.wanted with
  | none, 0 => { channel with gone := some (time + channel.hold) }
  | _, _ => channel

def receiveFrom (time : Nat) (channel : Channel α) : List α → Channel α
  | [] => { channel with queue := [] }
  | message :: rest =>
      match channel.wanted with
      | 0 => { channel with queue := message :: rest }
      | wanted + 1 =>
          receiveFrom time { channel with
            wanted := wanted
            received := channel.received ++ [(time, message)] } rest

def receive (channel : Channel α) (time : Nat) : Channel α :=
  (receiveFrom time channel channel.queue).settle time

def isClosed (channel : Channel α) (time : Nat) : Bool := channel.gone.any (· ≤ time)

def hasRoom (channel : Channel α) : Bool := channel.queue.length < channel.capacity

def enqueue (channel : Channel α) (message : α) : Channel α :=
  { channel with queue := channel.queue ++ [message] }

def push (message : α) (time : Nat) (channel : Channel α) :
    Except Error Unit × Nat × Channel α :=
  if channel.isClosed time then (.error .subscriberGone, time, channel)
  else if channel.hasRoom then (.ok (), time, channel.enqueue message)
  else
    let channel := channel.receive time
    if channel.isClosed time then (.error .subscriberGone, time, channel)
    else if channel.hasRoom then (.ok (), time, channel.enqueue message)
    else (.error .subscriberGone, channel.gone.getD time, channel)

def subscriber : Subscriber (Channel α) α where
  push := push
  pause time _ channel := channel.receive time
  isCancelled time channel := channel.isClosed time

end Channel
end RunMonitor.Delivery
