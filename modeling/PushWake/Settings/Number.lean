/-!
# Numbers typed by a user

A whole number of 64 bits in decimal, with a plus in front if the user likes. The text is read from
the left, and the first character that spoils it decides what is wrong.
-/

namespace PushWake.Settings

/-- What is wrong with a number. -/
inductive NumberError where
  | empty
  | notDigit
  | tooLarge
deriving DecidableEq, Repr, Inhabited

namespace NumberError

/-- The error in words. -/
def message : NumberError → String
  | empty => "cannot parse integer from empty string"
  | notDigit => "invalid digit found in string"
  | tooLarge => "number too large to fit in target type"

end NumberError

/-- Takes digits into a number that is below `2 ^ 64`. -/
def takeNumber : Nat → List Char → Except NumberError Nat
  | n, [] => .ok n
  | n, c :: rest =>
    if !c.isDigit then .error .notDigit
    else
      let next := n * 10 + (c.toNat - 48)
      if next < UInt64.size then takeNumber next rest else .error .tooLarge

/-- Reads a number. -/
def number (s : String) : Except NumberError UInt64 :=
  match s.toList with
  | [] => .error .empty
  | ['+'] => .error .notDigit
  | '+' :: rest => (takeNumber 0 rest).map UInt64.ofNat
  | cs => (takeNumber 0 cs).map UInt64.ofNat

end PushWake.Settings
