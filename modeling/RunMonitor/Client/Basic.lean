import RunMonitor.Client.Pump
import RunMonitor.Client.Uri
import RunMonitor.Cluster.Job
import RunMonitor.Cluster.Listing

namespace RunMonitor

namespace Client

structure Request where
  method : String := "GET"
  uri : String
  deriving DecidableEq

end Client

class Transport (τ : Type) where
  carry : Client.Request → τ → Except Error Client.Reply × τ

/-- Watches and listings are confined to a namespace, if there is one. -/
structure Client (τ : Type) where
  watched : Option String
  transport : τ

namespace Client

variable {τ K : Type} [Transport τ]

def bufferSize : Nat := 64

/-- A text that cannot be a target is refused before it is sent. -/
def send (uri : String) : EStateM Error (Client τ) Reply := fun client =>
  match target? uri with
  | none => .error badRequest client
  | some uri =>
      match Transport.carry { uri := uri } client.transport with
      | (.ok reply, transport) => .ok reply { client with transport := transport }
      | (.error error, transport) => .error error { client with transport := transport }

def ofExcept : Except Error α → EStateM Error (Client τ) α
  | .ok value => pure value
  | .error error => throw error

section Calls

variable (K) [Resource K]

def get (ns name : String) : EStateM Error (Client τ) (Option K) := do
  ofExcept (← send (objectPath K ns name)).object?

def list : EStateM Error (Client τ) (Listing K) := do
  let path := collectionPath K (← MonadState.get).watched
  ofExcept ((← send (path ++ listQuery)).read Listing.ofJson?)

def watch (version : String) : EStateM Error (Client τ) (List (WatchEvent K)) := do
  let path := collectionPath K (← MonadState.get).watched
  let reply ← send (path ++ watchQuery version)
  return Pump.run bufferSize ((lines reply).map Item.ofLine)

end Calls

end Client
end RunMonitor
