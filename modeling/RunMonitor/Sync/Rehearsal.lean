import RunMonitor.Sync.Machine

namespace RunMonitor.Sync

/-! Time passes only where a script says so and while a machine waits. -/

/-- What the cluster does about one listing and the watch that follows it. -/
structure Opening (K : Type) where
  delay : Nat := 0
  listing : Except Error (Listing K)
  watch : Except Error Unit := .ok ()
  feed : List (Nat × WatchEvent K) := []
  /-- The wait before the watch is closed; without one it stays open. -/
  closesAfter : Option Nat := none

structure Question where
  request : Request
  isAnswered : Bool
  state : State
  time : Nat

structure Actor (K : Type) where
  machine : Machine K
  opening : Opening K := { listing := .ok ⟨[], ""⟩ }
  upcoming : List (Opening K)
  next : Option (Nat × Input K) := none
  questions : List Question := []

namespace Actor

variable {γ K : Type} [Gate γ] [Collected K]

def ask (request : Request) (isAnswered : Bool) (time : Nat) (actor : Actor K) : Actor K :=
  { actor with
    questions := actor.questions ++ [⟨request, isAnswered, actor.machine.stage.state, time⟩] }

/-- Settles what happens next. Once the script is used up a listing is never answered. -/
def schedule (time : Nat) (actor : Actor K) : Actor K :=
  match actor.machine.stage with
  | .listing =>
      match actor.upcoming with
      | [] => { actor.ask .list false time with next := none }
      | opening :: rest =>
          { actor.ask .list true time with
            opening := opening
            upcoming := rest
            next := some (time + opening.delay, .listed opening.listing) }
  | .opening version =>
      { actor.ask (.watch version) true time with
        next := some (time, .opened actor.opening.watch) }
  | .streaming =>
      match actor.opening.feed with
      | (delay, event) :: rest =>
          { actor with
            opening := { actor.opening with feed := rest }
            next := some (time + delay, .event event) }
      | [] =>
          { actor with next := actor.opening.closesAfter.map fun delay => (time + delay, .closed) }
  | .waiting ms => { actor with next := some (time + ms, .waited) }
  | .writing _ _ => { actor with next := some (time, .proceed) }
  | .stopped => { actor with next := none }

def start (backoff : Backoff) (script : List (Opening K)) : Actor K :=
  ({ machine := Machine.start backoff, upcoming := script } : Actor K).schedule 0

def act (backoff : Backoff) (now : Int) (actor : Actor K) (store : Store γ) :
    Actor K × Store γ :=
  match actor.next with
  | none => (actor, store)
  | some (time, input) =>
      let (machine, store) := actor.machine.step backoff now input store
      let (machine, store) := machine.settle backoff now store
      (({ actor with machine := machine } : Actor K).schedule time, store)

def stop (actor : Actor K) : Actor K :=
  { actor with machine := { actor.machine with stage := .stopped }, next := none }

def budget (actor : Actor K) : Nat :=
  actor.upcoming.foldr (fun opening sum => opening.feed.length + 4 + sum)
    (actor.opening.feed.length + 4)

end Actor

structure Player where
  kind : Kind
  actor : Actor kind.Object

namespace Player

variable {γ : Type} [Gate γ]

def due (player : Player) : Option Nat := player.actor.next.map (·.1)

def state (player : Player) : State := player.actor.machine.stage.state

def act (backoff : Backoff) (now : Int) (player : Player) (store : Store γ) :
    Player × Store γ :=
  let (actor, store) := player.actor.act backoff now store
  (⟨player.kind, actor⟩, store)

def stop (player : Player) : Player := ⟨player.kind, player.actor.stop⟩

end Player

namespace Rehearsal

variable {γ : Type} [Gate γ]

def health (players : List Player) : Health :=
  SortedMap.ofList (players.map fun player => (player.kind.name, player.state))

def earliest (players : List Player) : Option Nat :=
  (players.filterMap Player.due).min?

def actFirst (backoff : Backoff) (now : Int) (time : Nat) (store : Store γ) :
    List Player → List Player × Store γ
  | [] => ([], store)
  | player :: rest =>
      if player.due = some time then
        let (player, store) := player.act backoff now store
        (player :: rest, store)
      else
        let (rest, store) := actFirst backoff now time store rest
        (player :: rest, store)

def playSteps (backoff : Backoff) (start : Instant) (limit : Nat) :
    Nat → List Player × Store γ → List Player × Store γ
  | 0, state => state
  | fuel + 1, (players, store) =>
      match earliest players with
      | none => (players, store)
      | some time =>
          if time < limit then
            playSteps backoff start limit fuel
              (actFirst backoff (start.addMillis time).millis time store players)
          else (players, store)

def playUntil (backoff : Backoff) (start : Instant) (limit : Nat) (players : List Player)
    (store : Store γ) : List Player × Store γ :=
  playSteps backoff start limit (players.foldr (fun player sum => player.actor.budget + sum) 0)
    (players, store)

/-- Plays on from probe to probe, and tells the health at each. -/
def probe (backoff : Backoff) (start : Instant) (players : List Player) (store : Store γ) :
    List Nat → List (Nat × Health) × List Player × Store γ
  | [] => ([], players, store)
  | time :: rest =>
      let (players, store) := playUntil backoff start time players store
      let (reports, final) := probe backoff start players store rest
      ((time, health players) :: reports, final)

end Rehearsal
end RunMonitor.Sync
