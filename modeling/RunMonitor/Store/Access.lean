import RunMonitor.Procedure
import RunMonitor.Store.Gate
import RunMonitor.Store.Rows

namespace RunMonitor

inductive StoreCall : Type → Type where
  | get (key : String) : StoreCall (Option ByteArray)
  | set (key : String) (value : ByteArray) (ttl : Option Nat) : StoreCall Unit
  | update (key : String) (f : Option ByteArray → Except Error ByteArray) : StoreCall Unit
  | delete (key : String) : StoreCall Unit
  | purge : StoreCall Nat

namespace StoreCall

variable {β : Type}

def operation : StoreCall β → Operation
  | .get _ => .get
  | .set _ _ _ => .set
  | .update _ _ => .update
  | .delete _ => .delete
  | .purge => .purge

def key : StoreCall β → String
  | .get key | .set key _ _ | .update key _ | .delete key => key
  | .purge => ""

/-- An update reads and writes in one step, and writes nothing when its function fails. A purge says
how many rows it has dropped. -/
def perform (now : Int) (rows : Rows) : StoreCall β → Except Error β × Rows
  | .get key => (.ok (rows.live now key), rows)
  | .set key value ttl => (.ok (), rows.put now key value ttl)
  | .update key f =>
      match rows.modify now key f with
      | .ok rows => (.ok (), rows)
      | .error error => (.error error, rows)
  | .delete key => (.ok (), rows.erase key)
  | .purge => (.ok (rows.expiredCount now), rows.purge now)

end StoreCall

structure Store (γ : Type) where
  rows : Rows := SortedMap.empty
  gate : γ

abbrev Access : Type → Type 1 := Procedure StoreCall

namespace Store

variable {β γ : Type} [Gate γ]

def reply (now : Int) (call : StoreCall β) (store : Store γ) : Except Error β × Store γ :=
  match Gate.allow call.operation call.key store.gate with
  | (.error error, gate) => (.error error, { store with gate := gate })
  | (.ok (), gate) =>
      let (result, rows) := call.perform now store.rows
      (result, ⟨rows, gate⟩)

def get (key : String) : Access (Option ByteArray) := .ask (.get key)

def set (key : String) (value : ByteArray) (ttl : Option Nat) : Access Unit :=
  .ask (.set key value ttl)

def update (key : String) (f : Option ByteArray → Except Error ByteArray) : Access Unit :=
  .ask (.update key f)

def delete (key : String) : Access Unit := .ask (.delete key)

def purge : Access Nat := .ask .purge

end Store

def Access.run {γ α : Type} [Gate γ] (now : Int) (access : Access α) (store : Store γ) :
    Except Error α × Store γ :=
  Procedure.run (Store.reply now) access store

end RunMonitor
