import PushWake.Json.Flaw
import PushWake.Json.Value
/-!
# Documents

What a JSON text says, before anyone has asked for a particular type: a tree that keeps the order
and the repetitions of members, the positions at which a reader would report a mistake, and the
place where the text goes wrong, if it does. A reader walks the tree in the order of the text, so it
meets a mistake of type and a flaw of form in the order in which they stand.

The same tree serves for values that were parsed before. They have no positions.
-/

namespace PushWake.Json

/-- Where a node stands. -/
inductive Place where
  /-- In a text, at this position. -/
  | text (position : Position)
  /-- In a value that was read earlier. -/
  | value
  /-- In a value set aside until it is known what to read it as. -/
  | buffer
deriving DecidableEq, Repr, Inhabited

namespace Place

/-- The position, for a node in a text. -/
def position? : Place → Option Position
  | text p => some p
  | _ => none

end Place

/-- A value without parts. A number or a string may be well formed and yet have no value: a number
too large, a surrogate without its partner. -/
inductive Leaf where
  | null
  | bool (b : Bool)
  | number (n : Except Fault Number)
  | string (s : Except Fault String)
deriving Repr, Inhabited

/-- The name of a member, with the place after its quote and the place where a reader stands that
has given up on the object there. -/
structure Key where
  name : Except Fault String
  stop : Place
  resume : Place
deriving Repr, Inhabited

/-- How the list of items or members ends. -/
inductive Closing where
  /-- With its bracket; the place after it. -/
  | closed (stop : Place)
  /-- Not at all: what follows the last item or member is wrong. -/
  | broken (b : Break)
  /-- The last item or member goes wrong itself. -/
  | unreached
deriving Repr, Inhabited

/-- A node of a document. -/
inductive Node where
  /-- The text ends or goes wrong before there is a value; `peek` is the place where that shows. -/
  | missing (peek : Place) (b : Break)
  /-- The text goes wrong in the value; `peek` is the place after the first byte. -/
  | broken (peek : Place) (b : Break)
  /-- A value without parts, and the place after it. -/
  | leaf (peek stop : Place) (value : Leaf)
  /-- An array, with the place before it and the fault of nesting too deep. -/
  | array (start peek : Place) (tooDeep : Option Fault) (items : List Node) (closing : Closing)
  /-- An object; each member with its key, its value and the place where the text goes on. -/
  | object (start peek : Place) (tooDeep : Option Fault) (members : List (Key × Node × Place))
      (closing : Closing)
  /-- An object whose first member has no string for a name but `head`. -/
  | keyless (start peek : Place) (tooDeep : Option Fault) (head : Node) (b : Break)
deriving Repr, Inhabited

/-- A document: its root, and the fault of text after it. -/
structure Document where
  root : Node
  trailing : Option Fault
deriving Repr, Inhabited

namespace Node

/-- The place after the first byte of a node. -/
def peek : Node → Place
  | missing p _ => p
  | broken p _ => p
  | leaf p _ _ => p
  | array _ p _ _ _ => p
  | object _ p _ _ _ => p
  | keyless _ p _ _ _ => p

mutual

/-- A value read earlier, as a node. -/
def ofJson : Json → Node
  | .null => leaf .value .value .null
  | .bool b => leaf .value .value (.bool b)
  | .number n => leaf .value .value (.number (.ok n))
  | .string s => leaf .value .value (.string (.ok s))
  | .array items => array .value .value none (ofItems items) (.closed .value)
  | .object members => object .value .value none (ofMembers members) (.closed .value)

/-- Items read earlier, as nodes. -/
def ofItems : List Json → List Node
  | [] => []
  | item :: rest => ofJson item :: ofItems rest

/-- Members read earlier, as nodes. -/
def ofMembers : List (String × Json) → List (Key × Node × Place)
  | [] => []
  | (name, value) :: rest => (⟨.ok name, .value, .value⟩, ofJson value, .value) :: ofMembers rest

end

end Node

end PushWake.Json
