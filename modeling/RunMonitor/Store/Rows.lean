import RunMonitor.SortedMap

namespace RunMonitor

/-! A row lingers after its expiry until it is purged, but is invisible from that instant on. -/

structure Row where
  value : ByteArray
  expiry : Option Int

def Row.isLive (row : Row) (now : Int) : Bool :=
  row.expiry.all fun expiry => now < expiry

abbrev Rows : Type := SortedMap Row

namespace Rows

/-- Instants are kept in 64 bits with a sign, and a later one wraps around. -/
def expiryAfter (now : Int) (ttl : Nat) : Int := (now + ttl).bmod (Nat.pow 2 64)

def live (rows : Rows) (now : Int) (key : String) : Option ByteArray :=
  ((rows.find? key).filter (Row.isLive · now)).map Row.value

def put (rows : Rows) (now : Int) (key : String) (value : ByteArray) (ttl : Option Nat) : Rows :=
  rows.insert key ⟨value, ttl.map (expiryAfter now)⟩

/-- The value that is live, if any, is handed to the function; what it returns does not expire. -/
def modify (rows : Rows) (now : Int) (key : String)
    (f : Option ByteArray → Except ε ByteArray) : Except ε Rows := do
  return rows.put now key (← f (rows.live now key)) none

def purge (rows : Rows) (now : Int) : Rows := rows.filter fun _ row => row.isLive now

def expiredCount (rows : Rows) (now : Int) : Nat :=
  (rows.values.filter fun row => !row.isLive now).length

theorem live_put (rows : Rows) (now t : Int) (key k : String) (value : ByteArray)
    (ttl : Option Nat) :
    (rows.put now key value ttl).live t k =
      if k = key then
        if (ttl.map (expiryAfter now)).all (t < ·) then some value else none
      else rows.live t k := by
  by_cases hk : k = key
  · subst hk
    simp only [live, put, SortedMap.find?_insert_self, Option.filter_some, Row.isLive, if_true]
    split <;> simp_all
  · simp [live, put, SortedMap.find?_insert, hk]

theorem live_erase (rows : Rows) (t : Int) (key k : String) :
    live (rows.erase key) t k = if k = key then none else rows.live t k := by
  by_cases hk : k = key <;> simp [live, SortedMap.find?_erase, hk]

end Rows
end RunMonitor
