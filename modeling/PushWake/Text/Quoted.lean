import PushWake.Text.Printable
/-!
# Quoted texts

A text between double quotes, with escapes for what could not be told apart on a line: the quote and
the backslash, four controls by a letter, and every other character that leaves no mark of its own
by its code point. Structured values are written around such texts: `Name { field: value }`.
-/

namespace PushWake.Text

/-- The lower-case hexadecimal digits of a number, without leading zeros. -/
def hexDigits (n : Nat) : List Char :=
  Nat.toDigits 16 n

/-- The characters that stand for one character between quotes. -/
def quotedChar (c : Char) : List Char :=
  if c = '"' then ['\\', '"']
  else if c = '\\' then ['\\', '\\']
  else if c = '\n' then ['\\', 'n']
  else if c = '\r' then ['\\', 'r']
  else if c = '\t' then ['\\', 't']
  else if c.toNat = 0 then ['\\', '0']
  else if isPrintable c then [c]
  else ['\\', 'u', '\x7b'] ++ hexDigits c.toNat ++ ['\x7d']

/-- A text between quotes. -/
def quoted (s : String) : String :=
  String.ofList ('"' :: s.toList.flatMap quotedChar ++ ['"'])

/-- A list between brackets, its items set off by commas. -/
def bracketed (items : List String) : String :=
  "[" ++ String.intercalate ", " items ++ "]"

/-- A record by name, with its fields in order. -/
def record (name : String) (fields : List (String × String)) : String :=
  name ++ " \x7b " ++
    String.intercalate ", " (fields.map fun field => field.1 ++ ": " ++ field.2) ++ " \x7d"

/-- A named wrapper around values. -/
def wrapped (name : String) (values : List String) : String :=
  name ++ "(" ++ String.intercalate ", " values ++ ")"

/-- A value that may be missing. -/
def optional (value : Option String) : String :=
  match value with
  | some text => wrapped "Some" [text]
  | none => "None"

end PushWake.Text
