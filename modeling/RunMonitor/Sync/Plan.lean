import RunMonitor.Cache.Collection

namespace RunMonitor.Sync

/-! Collections written since the start are remembered, so that emptied ones can be removed. -/

inductive Write (K : Type) where
  | replace (key : String) (items : List K)
  | remove (key : String)
  deriving DecidableEq

abbrev Written : Type := SortedMap Unit

/-- The order in which what is stale is removed. The set that it comes from has none of its own. -/
structure Order where
  arrange : List String → List String
  perm : ∀ keys, (arrange keys).Perm keys

def Order.ascending : Order := ⟨id, fun _ => .rfl⟩

/-- The writes that a listing calls for, and the collections that count as written from then on. -/
structure Plan (K : Type) where
  written : Written
  writes : List (Write K)

variable {K : Type} [Collected K]

def addItem (groups : SortedMap (List K)) (item : K) : SortedMap (List K) :=
  match Collected.collectionKey? item with
  | some key => groups.push key item
  | none => groups

def group (items : List K) : SortedMap (List K) :=
  items.foldl addItem SortedMap.empty

variable (K) in
def Written.withFixed (written : Written) : Written :=
  match Collected.collection K with
  | some key => written.insert key ()
  | none => written

def stale (written : Written) (groups : SortedMap (List K)) : List String :=
  (written.withFixed K).keys.filter fun key => !groups.contains key

def plan (written : Written) (items : List K) (order : Order) : Plan K :=
  let groups := group items
  { written := groups.mapValues fun _ => ()
    writes := groups.entries.map (fun g => .replace g.1 g.2) ++
      (order.arrange (stale written groups)).map .remove }

def Write.access : Write K → Access Unit
  | .replace key items => Collection.replace key items
  | .remove key => Collection.remove key

def writeAll : List (Write K) → Access Unit
  | [] => pure ()
  | write :: rest => do
      write.access
      writeAll rest

/-- What counts as written is settled before the first write, also when a write fails. -/
def resync (written : Written) (items : List K) (order : Order := .ascending) :
    Written × Access Unit :=
  let plan := plan written items order
  (plan.written, writeAll plan.writes)

def apply (written : Written) (event : WatchEvent K) : Written × Access Unit :=
  match Collected.collectionKey? event.object with
  | some key => (written.insert key (), Collection.update key event.applyTo)
  | none => (written, pure ())

end RunMonitor.Sync
