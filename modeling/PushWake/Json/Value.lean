import PushWake.Decimal.Shortest
/-!
# JSON values

A value as a program holds it. Whole numbers keep 64 bits exactly; every other number is a binary
floating-point number. An object that was read holds its members in ascending order of their names,
each name once; one that is about to be written holds them in the order of its type.
-/

namespace PushWake

open Decimal

/-- A JSON number: a natural number of 64 bits, a negative one down to `-2 ^ 63`, or a float. -/
inductive Number where
  | natural (n : UInt64)
  /-- The number `-(below + 1)`. -/
  | negative (below : Fin (Nat.pow 2 63))
  | float (x : Binary64)
deriving DecidableEq, Repr, Inhabited

/-- A JSON value. -/
inductive Json where
  | null
  | bool (b : Bool)
  | number (n : Number)
  | string (s : String)
  | array (items : List Json)
  | object (members : List (String × Json))
deriving Repr, Inhabited, BEq

namespace Json

/-- Floats are written out from `0.00001` up to sixteen digits before the point. -/
def floatFormat : FloatFormat := ⟨-5, 15, .padded⟩

/-- Puts a member in its place by name; a member of that name gives way. -/
def insert (name : String) (value : Json) : List (String × Json) → List (String × Json)
  | [] => [(name, value)]
  | (n, v) :: rest =>
    if name < n then (name, value) :: (n, v) :: rest
    else if name = n then (name, value) :: rest
    else (n, v) :: insert name value rest

/-- The members of an object, entered one after the other; the last of a name stays. -/
def ofMembers (members : List (String × Json)) : List (String × Json) :=
  members.foldl (fun entered m => insert m.1 m.2 entered) []

/-- An object from its members in any order. -/
def mkObject (members : List (String × Json)) : Json :=
  object (ofMembers members)

/-- A natural number of 64 bits. -/
def ofUInt64 (n : UInt64) : Json := number (.natural n)

end Json

namespace Number

/-- The decimal text of a number. -/
def text : Number → String
  | natural n => toString n.toNat
  | negative below => "-" ++ toString (below.val + 1)
  | float x => Json.floatFormat.render x

end Number

end PushWake
