/-!
# Identities

Jobs and connections are told apart by identities, which are drawn one after the other and never
twice. Their text has the form of a random identifier of 128 bits.
-/

namespace PushWake

/-- The number of a drawn identity. -/
structure Identity where
  number : Nat
deriving DecidableEq, Repr, Inhabited, BEq

namespace Identity

/-- The last so many hexadecimal digits of a number. -/
def hexDigits : Nat → Nat → List Char
  | 0, _ => []
  | count + 1, n => hexDigits count (n / 16) ++ [Nat.digitChar (n % 16)]

/-- The text of an identity: thirty-two digits in five groups, marked as drawn at random. -/
def text (id : Identity) : String :=
  let n := id.number
  String.ofList (hexDigits 8 (n / Nat.pow 16 21) ++ '-' :: hexDigits 4 (n / Nat.pow 16 17) ++
    '-' :: '4' :: hexDigits 3 (n / Nat.pow 16 14) ++
    '-' :: '8' :: hexDigits 3 (n / Nat.pow 16 12 % Nat.pow 16 2) ++ '-' :: hexDigits 12 n)

/-- The lengths of the groups of digits in the text of an identity. -/
def groups : List Nat := [8, 4, 4, 4, 12]

/-- Whether a character is a lower-case hexadecimal digit. -/
def isHexDigit (c : Char) : Bool := c.isDigit || ('a' ≤ c && c ≤ 'f')

/-- Takes groups of digits off the front of a text, set off by dashes. -/
def takeGroups : List Nat → List Char → Option (List Char × List Char)
  | [], cs => some ([], cs)
  | n :: rest, cs =>
    let group := cs.take n
    if group.length == n && group.all isHexDigit then
      match rest, cs.drop n with
      | [], left => some (group, left)
      | _ :: _, '-' :: left => (takeGroups rest left).map fun r => (group ++ '-' :: r.1, r.2)
      | _ :: _, _ => none
    else none

/-- The text of an identity at the front of a text, and what is left. -/
def takeText (cs : List Char) : Option (List Char × List Char) := takeGroups groups cs

end Identity

end PushWake
