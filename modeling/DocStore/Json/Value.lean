import DocStore.Numeric.Binary64
/-!
# JSON values

The documents of the store are JSON values whose objects keep their members in insertion order.
A number is an integer in `[-2 ^ 63, 2 ^ 64)` or a binary64 number; an integer and a binary64
number are never the same number, even when their values agree.

Two notions of sameness are in use. Structural equality (`=`) sees member order and tells
`-0.0` from `0.0`. `Value.equiv` is equality as JSON data: objects are compared as maps, member
order ignored, and binary64 numbers by value (`-0.0` and `0.0` agree). The second is what
listeners use to decide whether a document changed.
-/

namespace DocStore

/-- A JSON number: an integer in `[-2 ^ 63, 2 ^ 64)` or a finite binary64 number. -/
inductive Number where
  | int (i : Int)
  | float (f : Binary64)
deriving DecidableEq, Repr

/-- A JSON value; object members are kept in insertion order. -/
inductive Value where
  | null
  | bool (b : Bool)
  | num (n : Number)
  | str (s : String)
  | arr (items : List Value)
  | obj (fields : List (String × Value))
deriving Repr, Inhabited

namespace Number

/-- Numbers agree as JSON data: integers by value, binary64 numbers by value. -/
def equiv : Number → Number → Bool
  | .int a, .int b => a == b
  | .float a, .float b => Binary64.compareValue a b == .eq
  | _, _ => false

/-- The integer when it fits in a signed 64-bit word. -/
def toInt64? : Number → Option Int
  | .int i => if i < Nat.pow 2 63 then some i else none
  | .float _ => none

/-- The nearest binary64 number. -/
def toBinary64 : Number → Binary64
  | .int i => Binary64.ofInt i
  | .float f => f

end Number

namespace Value

/-- The kind of a value as it is named in messages. -/
def kindName : Value → String
  | .null => "null"
  | .bool _ => "boolean"
  | .num _ => "number"
  | .str _ => "string"
  | .arr _ => "array"
  | .obj _ => "object"

/-- The first member of a member list with the given name. -/
def lookup (fields : List (String × Value)) (key : String) : Option Value :=
  match fields.find? (fun p => p.1 == key) with
  | some p => some p.2
  | none => none

/-- The member of an object with the given name; nothing for other values. -/
def field? (v : Value) (key : String) : Option Value :=
  match v with
  | .obj fields => lookup fields key
  | _ => none

/-- Set a member: an existing member keeps its place and takes the new value, a new member
goes last. -/
def setField (fields : List (String × Value)) (key : String) (v : Value) :
    List (String × Value) :=
  if fields.any (fun p => p.1 == key) then
    fields.map (fun p => if p.1 == key then (key, v) else p)
  else fields ++ [(key, v)]

/-- Remove every member with the given name. -/
def eraseField (fields : List (String × Value)) (key : String) : List (String × Value) :=
  fields.filter (fun p => p.1 != key)

/-- The text when the value is a string. -/
def asString? : Value → Option String
  | .str s => some s
  | _ => none

mutual
/-- Equality as JSON data: member order is ignored and numbers are compared as numbers. -/
def equiv : Value → Value → Bool
  | .null, .null => true
  | .bool a, .bool b => a == b
  | .num a, .num b => a.equiv b
  | .str a, .str b => a == b
  | .arr a, .arr b => equivList a b
  | .obj a, .obj b => a.length == b.length && equivFields a b
  | _, _ => false

/-- Element-wise `equiv` of two lists of the same length. -/
def equivList : List Value → List Value → Bool
  | [], [] => true
  | a :: as, b :: bs => equiv a b && equivList as bs
  | _, _ => false

/-- Every member of the first list has a member of that name in the second list with an
equivalent value. -/
def equivFields : List (String × Value) → List (String × Value) → Bool
  | [], _ => true
  | (k, a) :: rest, other =>
    (match lookup other k with
     | some b => equiv a b
     | none => false) && equivFields rest other
end

end Value

end DocStore
