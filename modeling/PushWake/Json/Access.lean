import PushWake.Json.Value
/-!
# Looking into values

Plain access to the parts of a value, for readers that take what they find and pass over the rest.
What is not there, or of another kind, is null, empty or nothing.
-/

namespace PushWake.Json

/-- The member of a name; null if there is none. -/
def field (j : Json) (name : String) : Json :=
  match j with
  | object members => ((members.find? fun m => m.1 == name).map Prod.snd).getD null
  | _ => null

/-- The text of a string. -/
def text? : Json → Option String
  | string s => some s
  | _ => none

/-- The text of a string, or else none at all. -/
def text (j : Json) : String := j.text?.getD ""

/-- The items of an array. -/
def items : Json → List Json
  | array xs => xs
  | _ => []

/-- The value of a natural number. -/
def natural? : Json → Option UInt64
  | number (.natural n) => some n
  | _ => none

/-- The value of a natural number, or else a standing one. -/
def naturalOr (standing : Nat) (j : Json) : Nat := (j.natural?.map UInt64.toNat).getD standing

/-- Whether a value is the truth value true. -/
def isTrue : Json → Bool
  | bool b => b
  | _ => false

/-- Whether a value is null. -/
def isNull : Json → Bool
  | null => true
  | _ => false

end PushWake.Json
