import PushWake.Decimal.Numeral
import PushWake.Json.Tree
/-!
# Reading JSON

From the characters of a text to its document. The reader never fails: where the text goes wrong,
the tree holds the break and ends. A container at depth 128 or more is marked, and read on: whether
that is a fault depends on whether anyone wants it.
-/

namespace PushWake.Json

open Decimal

/-- What is left of a text, and where it starts. -/
structure Cursor where
  rest : List Char
  position : Position
deriving Repr, Inhabited

namespace Cursor

/-- The start of a text. -/
def ofChars (cs : List Char) : Cursor := ⟨cs, Position.start⟩

/-- Whether JSON counts the character as blank. -/
def isBlank (c : Char) : Bool := c = ' ' || c = '\n' || c = '\t' || c = '\r'

/-- Passes over blanks. -/
def skipBlanksFrom : List Char → Position → Cursor
  | [], p => ⟨[], p⟩
  | c :: rest, p => if isBlank c then skipBlanksFrom rest (p.past c) else ⟨c :: rest, p⟩

/-- Passes over blanks. -/
def skipBlanks (c : Cursor) : Cursor := skipBlanksFrom c.rest c.position

/-- The position after the next byte, or here at the end of the text. -/
def peekPosition (c : Cursor) : Position :=
  match c.rest with
  | [] => c.position
  | x :: _ => c.position.pastByte x

end Cursor

/-! ## Strings -/

/-- The value of a hexadecimal digit. -/
def hexDigit? (c : Char) : Option Nat :=
  if '0' ≤ c ∧ c ≤ '9' then some (c.toNat - 48)
  else if 'a' ≤ c ∧ c ≤ 'f' then some (c.toNat - 87)
  else if 'A' ≤ c ∧ c ≤ 'F' then some (c.toNat - 55)
  else none

/-- The value of four hexadecimal digits. -/
def fourHex? (a b c d : Char) : Option Nat := do
  let a ← hexDigit? a
  let b ← hexDigit? b
  let c ← hexDigit? c
  let d ← hexDigit? d
  pure (((a * 16 + b) * 16 + c) * 16 + d)

/-- The character that a letter stands for after a backslash. -/
def escape? (c : Char) : Option Char :=
  if c = '"' then some '"'
  else if c = '\\' then some '\\'
  else if c = '/' then some '/'
  else if c = 'b' then some '\x08'
  else if c = 'f' then some '\x0c'
  else if c = 'n' then some '\n'
  else if c = 'r' then some '\r'
  else if c = 't' then some '\t'
  else none

/-- A string under way: the characters so far, latest first; the leading surrogate that still needs
its partner; and the first fault of its value. -/
structure Spelling where
  chars : List Char
  lead : Option Nat
  fault : Option Fault
deriving Inhabited

namespace Spelling

/-- Nothing read yet. -/
def start : Spelling := ⟨[], none, none⟩

/-- Notes a fault, unless there is one already. -/
def blame (s : Spelling) (flaw : Flaw) (p : Position) : Spelling :=
  match s.fault with
  | some _ => { s with lead := none }
  | none => { s with lead := none, fault := some ⟨flaw, p⟩ }

/-- Takes one character, which starts before `byte`. A leading surrogate must not be waiting. -/
def push (s : Spelling) (c : Char) (byte : Position) : Spelling :=
  match s.lead with
  | some _ => s.blame .unpairedSurrogate byte
  | none => { s with chars := c :: s.chars }

/-- Takes a code unit written in hexadecimal that ends at `p`. -/
def pushUnit (s : Spelling) (unit : Nat) (p : Position) : Spelling :=
  match s.lead with
  | some lead =>
    if 0xDC00 ≤ unit ∧ unit ≤ 0xDFFF then
      { s with
        lead := none
        chars := Char.ofNat ((lead - 0xD800) * 0x400 + (unit - 0xDC00) + 0x10000) :: s.chars }
    else s.blame .loneSurrogate p
  | none =>
    if 0xDC00 ≤ unit ∧ unit ≤ 0xDFFF then s.blame .loneSurrogate p
    else if 0xD800 ≤ unit ∧ unit ≤ 0xDBFF then { s with lead := some unit }
    else { s with chars := Char.ofNat unit :: s.chars }

/-- The string, or the fault of its value. -/
def finish (s : Spelling) : Except Fault String :=
  match s.fault with
  | some f => .error f
  | none => .ok (String.ofList s.chars.reverse)

/-- A text that goes wrong inside the string: an earlier fault of the value comes first for a reader
that wants it. -/
def breakOff (s : Spelling) (wanted skipped : Fault) : Break :=
  ⟨s.fault.getD wanted, skipped⟩

end Spelling

/-- Reads a string from behind its opening quote: its value and the text behind the closing quote,
or the break. -/
def readString (s : Spelling) : List Char → Position → Except Break (Except Fault String × Cursor)
  | [], p => .error (s.breakOff ⟨.endInString, p⟩ ⟨.endInString, p⟩)
  | c :: rest, p =>
    if c = '"' then
      let s := if s.lead.isSome then s.blame .unpairedSurrogate (p.pastByte c) else s
      .ok (s.finish, ⟨rest, p.past c⟩)
    else if c = '\\' then
      match rest with
      | [] => .error (s.breakOff ⟨.endInString, p.past c⟩ ⟨.endInString, p.past c⟩)
      | e :: rest =>
        let q := (p.past c).pastByte e
        if e = 'u' then
          match rest with
          | a :: b :: d :: f :: rest' =>
            match fourHex? a b d f with
            | some unit => readString (s.pushUnit unit (q.advance 4)) rest' (q.advance 4)
            | none =>
              let stop := q.pastBytes 4 (a :: b :: d :: f :: rest')
              .error (s.breakOff ⟨.badEscape, stop⟩ ⟨.badEscape, stop⟩)
          | short =>
            let flaw := if byteCount short < 4 then .endInString else .badEscape
            let stop := q.pastBytes 4 short
            .error (s.breakOff ⟨flaw, stop⟩ ⟨flaw, stop⟩)
        else
          let s := if s.lead.isSome then s.blame .unpairedSurrogate q else s
          match escape? e with
          | some x => readString (s.push x q) rest q
          | none => .error (s.breakOff ⟨.badEscape, q⟩ ⟨.badEscape, q⟩)
    else if c.toNat < 0x20 then
      let s := if s.lead.isSome then s.blame .unpairedSurrogate (p.pastByte c) else s
      .error (s.breakOff ⟨.controlCharacter, p.past c⟩ ⟨.controlCharacter, p⟩)
    else readString (s.push c (p.pastByte c)) rest (p.past c)

/-! ## Words and numbers -/

/-- Reads the rest of a word whose first letter has been read. -/
def readWord : List Char → List Char → Position → Except Fault Cursor
  | [], cs, p => .ok ⟨cs, p⟩
  | _ :: _, [], p => .error ⟨.endInValue, p⟩
  | e :: expected, c :: rest, p =>
    if c = e then readWord expected rest (p.past c) else .error ⟨.expectedWord, p.pastByte c⟩

/-- The digits at the start of a text. -/
def takeDigits : List Char → List Nat × List Char
  | [] => ([], [])
  | c :: rest =>
    if c.isDigit then
      let (digits, rest) := takeDigits rest
      ((c.toNat - 48) :: digits, rest)
    else ([], c :: rest)

/-- Reads digits that must be there. At the end of the text a reader that wants the number finds no
value, one that skips it finds no number. `peeked` tells where a wrong character is reported. -/
def readDigits (c : Cursor) : Except Break (List Nat × Cursor) :=
  match takeDigits c.rest with
  | ([], []) => .error ⟨⟨.endInValue, c.position⟩, ⟨.badNumber, c.position⟩⟩
  | ([], x :: _) => .error (Break.alike .badNumber (c.position.pastByte x))
  | (digits, rest) => .ok (digits, ⟨rest, c.position.advance digits.length⟩)

/-- Reads the digits before the point: a leading zero stands alone. -/
def readWhole (c : Cursor) : Except Break (List Nat × Cursor) := do
  let (digits, c') ← readDigits c
  match digits with
  | 0 :: _ :: _ => .error (Break.alike .badNumber (c.position.advance 2))
  | _ => pure (digits, c')

/-- Reads the part behind a point, if there is one. -/
def readFraction (c : Cursor) : Except Break (List Nat × Cursor) :=
  match c.rest with
  | '.' :: rest => readDigits ⟨rest, c.position.advance 1⟩
  | _ => .ok ([], c)

/-- Passes over the sign of an exponent and tells whether it is a minus. -/
def readSign (c : Cursor) : Bool × Cursor :=
  match c.rest with
  | '+' :: rest => (false, ⟨rest, c.position.advance 1⟩)
  | '-' :: rest => (true, ⟨rest, c.position.advance 1⟩)
  | _ => (false, c)

/-- Reads the exponent, if there is one. -/
def readExponent (c : Cursor) : Except Break (Option WrittenExponent × Cursor) := do
  match c.rest with
  | x :: rest =>
    if x = 'e' || x = 'E' then
      let (negative, c) := readSign ⟨rest, c.position.advance 1⟩
      let (digits, c) ← readDigits c
      pure (some ⟨negative, digits⟩, c)
    else pure (none, c)
  | [] => pure (none, c)

/-- The number that a numeral stands for. Whole numbers of 64 bits are kept exactly; minus zero and
all others become floats. -/
def ofNumeral? (n : Numeral) : Option Number :=
  let value := Numeral.digitsValue n.whole
  let float := n.toBinary64?.map Number.float
  if n.fraction ≠ [] ∨ n.exponent ≠ none then float
  else if n.negative then
    if h : 0 < value ∧ value ≤ Nat.pow 2 63 then some (.negative ⟨value - 1, by omega⟩) else float
  else if value < UInt64.size then some (.natural (UInt64.ofNat value))
  else float

/-- Where a number that is too large is reported: at its end, or behind the digit that makes its
exponent too large. -/
def outOfRangePosition (n : Numeral) (stop : Position) : Position :=
  match n.exponent with
  | none => stop
  | some e =>
    match Numeral.overflowingDigits 0 e.digits with
    | some used => ⟨stop.line, stop.column - (e.digits.length - used)⟩
    | none => stop

/-- Reads a number from behind its sign. -/
def readNumber (negative : Bool) (c : Cursor) : Except Break (Except Fault Number × Cursor) := do
  let (whole, c) ← readWhole c
  let (fraction, c) ← readFraction c
  let (exponent, c) ← readExponent c
  let numeral : Numeral := ⟨negative, whole, fraction, exponent⟩
  match ofNumeral? numeral with
  | some n => pure (.ok n, c)
  | none => pure (.error ⟨.numberOutOfRange, outOfRangePosition numeral c.position⟩, c)

/-! ## Values -/

/-- The depth from which on a container is nested too deep. -/
def maxDepth : Nat := 128

/-- The fault of a container at the given depth, if it is too deep. -/
def depthFault (depth : Nat) (peek : Position) : Option Fault :=
  if maxDepth ≤ depth then some ⟨.tooDeep, peek⟩ else none

/-- A leaf or a break, and the text behind a leaf. -/
def leafOf (peek : Position) (read : Except Break (Leaf × Cursor)) : Node × Option Cursor :=
  match read with
  | .ok (value, c) => (.leaf (.text peek) (.text c.position) value, some c)
  | .error b => (.broken (.text peek) b, none)

/-- A word, read from behind its first letter. -/
def readWordLeaf (value : Leaf) (expected : List Char) (c : Cursor) :
    Except Break (Leaf × Cursor) :=
  match readWord expected c.rest c.position with
  | .ok c => .ok (value, c)
  | .error f => .error ⟨f, f⟩

mutual

/-- Reads one value at the given depth of containers around it, with blanks before it. The fuel
bounds the number of values and is never used up when it is as large as the text. -/
def readNode : Nat → Nat → Cursor → Node × Option Cursor
  | 0, _, c => (.missing (.text c.position) (.alike .endInValue c.position), none)
  | fuel + 1, depth, c =>
    let c := c.skipBlanks
    let p := c.position
    match c.rest with
    | [] => (.missing (.text p) (.alike .endInValue p), none)
    | x :: rest =>
      let peek := p.pastByte x
      let next : Cursor := ⟨rest, p.past x⟩
      if x = 'n' then leafOf peek (readWordLeaf .null ['u', 'l', 'l'] next)
      else if x = 't' then leafOf peek (readWordLeaf (.bool true) ['r', 'u', 'e'] next)
      else if x = 'f' then leafOf peek (readWordLeaf (.bool false) ['a', 'l', 's', 'e'] next)
      else if x = '"' then
        leafOf peek ((readString .start rest (p.past x)).map fun r => (.string r.1, r.2))
      else if x = '-' then
        leafOf peek ((readNumber true next).map fun r => (.number r.1, r.2))
      else if x.isDigit then
        leafOf peek ((readNumber false c).map fun r => (.number r.1, r.2))
      else if x = '[' then
        let (items, closing, after) := readFirstItem fuel (depth + 1) next.skipBlanks
        (.array (.text p) (.text peek) (depthFault (depth + 1) peek) items closing, after)
      else if x = '\x7b' then
        let inner := next.skipBlanks
        let tooDeep := depthFault (depth + 1) peek
        match inner.rest with
        | '"' :: _ =>
          let (members, closing, after) := readMember fuel (depth + 1) inner
          (.object (.text p) (.text peek) tooDeep members closing, after)
        | '\x7d' :: behind =>
          let stop := inner.position.advance 1
          (.object (.text p) (.text peek) tooDeep [] (.closed (.text stop)), some ⟨behind, stop⟩)
        | [] =>
          (.keyless (.text p) (.text peek) tooDeep
            (.missing (.text inner.position) (.alike .endInValue inner.position))
            (.alike .endInObject inner.position), none)
        | _ :: _ =>
          (.keyless (.text p) (.text peek) tooDeep (readNode fuel (depth + 1) inner).1
            (.alike .keyNotString inner.peekPosition), none)
      else (.broken (.text peek) (.alike .expectedValue peek), none)

/-- Reads the items of an array from behind its bracket and the blanks. -/
def readFirstItem : Nat → Nat → Cursor → List Node × Closing × Option Cursor
  | 0, _, c => ([], .broken (.alike .endInList c.position), none)
  | fuel + 1, depth, c =>
    match c.rest with
    | [] => ([], .broken (.alike .endInList c.position), none)
    | ']' :: rest =>
      let stop := c.position.advance 1
      ([], .closed (.text stop), some ⟨rest, stop⟩)
    | _ => readItem fuel depth c

/-- Reads an item and those after it. -/
def readItem : Nat → Nat → Cursor → List Node × Closing × Option Cursor
  | 0, _, c => ([], .broken (.alike .endInList c.position), none)
  | fuel + 1, depth, c =>
    match readNode fuel depth c with
    | (node, none) => ([node], .unreached, none)
    | (node, some c) =>
      let c := c.skipBlanks
      match c.rest with
      | [] => ([node], .broken (.alike .endInList c.position), none)
      | x :: rest =>
        if x = ']' then
          let stop := c.position.advance 1
          ([node], .closed (.text stop), some ⟨rest, stop⟩)
        else if x = ',' then
          let c := Cursor.skipBlanks ⟨rest, c.position.advance 1⟩
          match c.rest with
          | ']' :: _ =>
            let peek := c.peekPosition
            ([node], .broken ⟨⟨.trailingComma, peek⟩, ⟨.expectedValue, peek⟩⟩, none)
          | _ =>
            let (items, closing, after) := readItem fuel depth c
            (node :: items, closing, after)
        else ([node], .broken (.alike .expectedCommaOrBracket c.peekPosition), none)

/-- Reads a member, which starts with a quote, and those after it. -/
def readMember : Nat → Nat → Cursor → List (Key × Node × Place) × Closing × Option Cursor
  | 0, _, c => ([], .broken (.alike .endInObject c.position), none)
  | fuel + 1, depth, c =>
    match readString .start (c.rest.drop 1) (c.position.advance 1) with
    | .error b => ([], .broken b, none)
    | .ok (name, c) =>
      let stop := c.position
      let c := c.skipBlanks
      let resume := match c.rest with
        | '\x7d' :: _ => c.position.advance 1
        | _ => c.position
      let key : Key := ⟨name, .text stop, .text resume⟩
      match c.rest with
      | ':' :: rest =>
        match readNode fuel depth ⟨rest, c.position.advance 1⟩ with
        | (node, none) => ([(key, node, .value)], .unreached, none)
        | (node, some c) =>
          let c := c.skipBlanks
          let member := (key, node, Place.text c.position)
          match c.rest with
          | [] => ([member], .broken (.alike .endInObject c.position), none)
          | x :: rest =>
            if x = '\x7d' then
              let stop := c.position.advance 1
              ([member], .closed (.text stop), some ⟨rest, stop⟩)
            else if x = ',' then
              let c := Cursor.skipBlanks ⟨rest, c.position.advance 1⟩
              let peek := c.peekPosition
              match c.rest with
              | [] =>
                ([member], .broken ⟨⟨.endInValue, peek⟩, ⟨.endInObject, peek⟩⟩, none)
              | '"' :: _ =>
                let (members, closing, after) := readMember fuel depth c
                (member :: members, closing, after)
              | '\x7d' :: _ =>
                ([member], .broken ⟨⟨.trailingComma, peek⟩, ⟨.keyNotString, peek⟩⟩, none)
              | _ => ([member], .broken (.alike .keyNotString peek), none)
            else ([member], .broken (.alike .expectedCommaOrBrace c.peekPosition), none)
      | [] =>
        ([(key, .missing (.text c.position) (.alike .endInObject c.position), .value)],
          .unreached, none)
      | _ =>
        ([(key, .missing (.text c.peekPosition) (.alike .expectedColon c.peekPosition), .value)],
          .unreached, none)

end

namespace Document

/-- The document of a text. -/
def ofChars (cs : List Char) : Document :=
  match readNode (3 * cs.length + 3) 0 (Cursor.ofChars cs) with
  | (root, none) => ⟨root, none⟩
  | (root, some c) =>
    let c := c.skipBlanks
    ⟨root, if c.rest.isEmpty then none else some ⟨.trailingText, c.peekPosition⟩⟩

/-- The document of a text. -/
def ofText (text : String) : Document := ofChars text.toList

end Document

end PushWake.Json
