/-!
# What is wrong with a text

A text that is not JSON has a flaw at a position. Lines count from one; a column is the number of
bytes since the last line break, so that it can be found again in the stored text.
-/

namespace PushWake.Json

/-- A position in a text: the line, and the bytes passed on it. -/
structure Position where
  line : Nat
  column : Nat
deriving DecidableEq, Repr, Inhabited

namespace Position

/-- The start of a text. -/
def start : Position := ⟨1, 0⟩

/-- The position after a character. -/
def past (p : Position) (c : Char) : Position :=
  if c = '\n' then ⟨p.line + 1, 0⟩ else ⟨p.line, p.column + c.utf8Size⟩

/-- The position after the first byte of a character. -/
def pastByte (p : Position) (c : Char) : Position :=
  if c = '\n' then ⟨p.line + 1, 0⟩ else ⟨p.line, p.column + 1⟩

/-- The position after so many bytes on the same line. -/
def advance (p : Position) (bytes : Nat) : Position :=
  ⟨p.line, p.column + bytes⟩

/-- The position after so many bytes of the characters, or at their end if they are fewer. -/
def pastBytes : Nat → Position → List Char → Position
  | _, p, [] => p
  | count, p, c :: rest =>
    if count = 0 then p
    else if c.utf8Size ≤ count then pastBytes (count - c.utf8Size) (p.past c) rest
    else ⟨p.line, p.column + count⟩

end Position

/-- The number of bytes that the characters take. -/
def byteCount (cs : List Char) : Nat :=
  cs.foldl (fun n c => n + c.utf8Size) 0

/-- The ways in which a text fails to be JSON. -/
inductive Flaw where
  | endInValue
  | endInList
  | endInObject
  | endInString
  | expectedValue
  | expectedWord
  | expectedColon
  | expectedCommaOrBrace
  | expectedCommaOrBracket
  | keyNotString
  | trailingComma
  | trailingText
  | badNumber
  | numberOutOfRange
  | badEscape
  | controlCharacter
  | loneSurrogate
  | unpairedSurrogate
  | tooDeep
deriving DecidableEq, Repr, Inhabited

namespace Flaw

/-- A flaw in words. -/
def message : Flaw → String
  | endInValue => "EOF while parsing a value"
  | endInList => "EOF while parsing a list"
  | endInObject => "EOF while parsing an object"
  | endInString => "EOF while parsing a string"
  | expectedValue => "expected value"
  | expectedWord => "expected ident"
  | expectedColon => "expected `:`"
  | expectedCommaOrBrace => "expected `,` or `\x7d`"
  | expectedCommaOrBracket => "expected `,` or `]`"
  | keyNotString => "key must be a string"
  | trailingComma => "trailing comma"
  | trailingText => "trailing characters"
  | badNumber => "invalid number"
  | numberOutOfRange => "number out of range"
  | badEscape => "invalid escape"
  | controlCharacter => "control character (\\u0000-\\u001F) found while parsing a string"
  | loneSurrogate => "lone leading surrogate in hex escape"
  | unpairedSurrogate => "unexpected end of hex escape"
  | tooDeep => "recursion limit exceeded"

end Flaw

/-- A flaw and where it shows. -/
structure Fault where
  flaw : Flaw
  position : Position
deriving DecidableEq, Repr, Inhabited

/-- A text that goes wrong, as two readers report it: one that wants the value at that place, and
one that only passes over it. The second is less strict and words some flaws differently. -/
structure Break where
  wanted : Fault
  skipped : Fault
deriving DecidableEq, Repr, Inhabited

namespace Break

/-- A break that both readers report alike. -/
def alike (flaw : Flaw) (position : Position) : Break :=
  ⟨⟨flaw, position⟩, ⟨flaw, position⟩⟩

end Break

end PushWake.Json
