namespace RunMonitor

/-! Objects keep their fields in the order in which they were written, repeated keys included. -/

inductive Json where
  | null
  | bool (value : Bool)
  | int (value : Int)
  | real (literal : String)
  | str (text : String)
  /-- A scalar that is well formed but denotes nothing: text that is not Unicode, or a number
  beyond every double. A reader may skip it and cannot take it. -/
  | unreadable
  | arr (items : List Json)
  | obj (fields : List (String × Json))

namespace Json

mutual
def beq : Json → Json → Bool
  | .null, .null => true
  | .bool a, .bool b => a == b
  | .int a, .int b => a == b
  | .real a, .real b => a == b
  | .str a, .str b => a == b
  | .unreadable, .unreadable => true
  | .arr a, .arr b => beqItems a b
  | .obj a, .obj b => beqFields a b
  | _, _ => false

def beqItems : List Json → List Json → Bool
  | [], [] => true
  | a :: as, b :: bs => beq a b && beqItems as bs
  | _, _ => false

def beqFields : List (String × Json) → List (String × Json) → Bool
  | [], [] => true
  | (k, a) :: as, (l, b) :: bs => k == l && beq a b && beqFields as bs
  | _, _ => false
end

instance : BEq Json := ⟨beq⟩

def null? : Json → Bool
  | .null => true
  | _ => false

def str? : Json → Option String
  | .str text => some text
  | _ => none

def bool? : Json → Option Bool
  | .bool value => some value
  | _ => none

def arr? : Json → Option (List Json)
  | .arr items => some items
  | _ => none

def obj? : Json → Option (List (String × Json))
  | .obj fields => some fields
  | _ => none

def intIn? (low high : Int) : Json → Option Int
  | .int value => if low ≤ value ∧ value ≤ high then some value else none
  | _ => none

def int32? : Json → Option Int := intIn? (-0x80000000) 0x7fffffff

def int64? : Json → Option Int := intIn? (-0x8000000000000000) 0x7fffffffffffffff

def nat32? (json : Json) : Option Nat := (json.intIn? 0 0xffffffff).map Int.toNat

def nat64? (json : Json) : Option Nat := (json.intIn? 0 0xffffffffffffffff).map Int.toNat

mutual
def isReadable : Json → Bool
  | .unreadable => false
  | .arr items => areReadable items
  | .obj fields => fieldsReadable fields
  | _ => true

def areReadable : List Json → Bool
  | [] => true
  | item :: rest => item.isReadable && areReadable rest

def fieldsReadable : List (String × Json) → Bool
  | [] => true
  | (_, value) :: rest => value.isReadable && fieldsReadable rest
end

mutual
def depth : Json → Nat
  | .arr items => itemsDepth items + 1
  | .obj fields => fieldsDepth fields + 1
  | _ => 0

def itemsDepth : List Json → Nat
  | [] => 0
  | item :: rest => max item.depth (itemsDepth rest)

def fieldsDepth : List (String × Json) → Nat
  | [] => 0
  | (_, value) :: rest => max value.depth (fieldsDepth rest)
end

end Json
end RunMonitor
