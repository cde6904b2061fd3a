import PushWake.Json.Value
/-!
# Writing JSON

Two layouts of one value: compact, without any blank, and indented, with two blanks a level, each
item and each member on a line of its own and nothing inside an empty container. Members are written
in the order in which the value holds them.
-/

namespace PushWake

namespace Json

/-- Four lower-case hexadecimal digits. -/
def fourHex (n : Nat) : List Char :=
  [n / 4096 % 16, n / 256 % 16, n / 16 % 16, n % 16].map Nat.digitChar

/-- The characters that stand for one character inside a JSON string. -/
def escapedChar (c : Char) : List Char :=
  if c = '"' then ['\\', '"']
  else if c = '\\' then ['\\', '\\']
  else if c = '\x08' then ['\\', 'b']
  else if c = '\x0c' then ['\\', 'f']
  else if c = '\n' then ['\\', 'n']
  else if c = '\r' then ['\\', 'r']
  else if c = '\t' then ['\\', 't']
  else if c.toNat < 0x20 then '\\' :: 'u' :: fourHex c.toNat
  else [c]

/-- A JSON string with its quotes. -/
def stringChars (s : String) : List Char :=
  '"' :: s.toList.flatMap escapedChar ++ ['"']

mutual

/-- The compact text of a value. -/
def chars : Json → List Char
  | .null => ['n', 'u', 'l', 'l']
  | .bool true => ['t', 'r', 'u', 'e']
  | .bool false => ['f', 'a', 'l', 's', 'e']
  | .number n => n.text.toList
  | .string s => stringChars s
  | .array [] => ['[', ']']
  | .array (item :: rest) => '[' :: chars item ++ itemChars rest
  | .object [] => ['\x7b', '\x7d']
  | .object ((name, value) :: rest) =>
    '\x7b' :: stringChars name ++ ':' :: chars value ++ memberChars rest

/-- The items after the first, up to the closing bracket. -/
def itemChars : List Json → List Char
  | [] => [']']
  | item :: rest => ',' :: chars item ++ itemChars rest

/-- The members after the first, up to the closing brace. -/
def memberChars : List (String × Json) → List Char
  | [] => ['\x7d']
  | (name, value) :: rest => ',' :: stringChars name ++ ':' :: chars value ++ memberChars rest

end

/-- The line break before an item at the given depth. -/
def lineBreak (depth : Nat) : List Char :=
  '\n' :: List.replicate (2 * depth) ' '

mutual

/-- The indented text of a value that stands at the given depth. -/
def prettyChars (depth : Nat) : Json → List Char
  | .null => ['n', 'u', 'l', 'l']
  | .bool true => ['t', 'r', 'u', 'e']
  | .bool false => ['f', 'a', 'l', 's', 'e']
  | .number n => n.text.toList
  | .string s => stringChars s
  | .array [] => ['[', ']']
  | .array (item :: rest) =>
    '[' :: lineBreak (depth + 1) ++ prettyChars (depth + 1) item ++ prettyItemChars depth rest
  | .object [] => ['\x7b', '\x7d']
  | .object ((name, value) :: rest) =>
    '\x7b' :: lineBreak (depth + 1) ++ stringChars name ++ ':' :: ' ' ::
      prettyChars (depth + 1) value ++ prettyMemberChars depth rest

/-- The items after the first, each on its line, up to the closing bracket. -/
def prettyItemChars (depth : Nat) : List Json → List Char
  | [] => lineBreak depth ++ [']']
  | item :: rest =>
    ',' :: lineBreak (depth + 1) ++ prettyChars (depth + 1) item ++ prettyItemChars depth rest

/-- The members after the first, each on its line, up to the closing brace. -/
def prettyMemberChars (depth : Nat) : List (String × Json) → List Char
  | [] => lineBreak depth ++ ['\x7d']
  | (name, value) :: rest =>
    ',' :: lineBreak (depth + 1) ++ stringChars name ++ ':' :: ' ' ::
      prettyChars (depth + 1) value ++ prettyMemberChars depth rest

end

/-- The compact text of a value. -/
def compact (v : Json) : String :=
  String.ofList (chars v)

/-- The indented text of a value. -/
def pretty (v : Json) : String :=
  String.ofList (prettyChars 0 v)

end Json

end PushWake
