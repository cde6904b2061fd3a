import PushWake.Decimal.Binary64
/-!
# Decimal numerals

A numeral is digits, perhaps with a fraction and an exponent. Its floating-point value is found in
three roundings: of the leading digits that fit into 64 bits, of the power of ten, and of their
product or quotient. Digits that no longer fit are dropped, those before the point with a factor of
ten each.
-/

namespace PushWake.Decimal

/-- A power of ten as written: its sign and its digits. -/
structure WrittenExponent where
  negative : Bool
  digits : List Nat
deriving DecidableEq, Repr, Inhabited

/-- A numeral as written, its digits in order. -/
structure Numeral where
  negative : Bool
  whole : List Nat
  fraction : List Nat
  exponent : Option WrittenExponent
deriving DecidableEq, Repr, Inhabited

namespace Numeral

/-- The largest significand that is carried exactly. -/
def maxSignificand : Nat := UInt64.size - 1

/-- The largest exponent that is carried exactly. -/
def maxPower : Nat := Nat.pow 2 31 - 1

/-- Takes digits before the point: those that fit are appended, from the first that does not each
counts as a factor of ten. -/
def takeWhole : Nat → List Nat → Nat × Nat
  | significand, [] => (significand, 0)
  | significand, d :: rest =>
    if significand * 10 + d ≤ maxSignificand then takeWhole (significand * 10 + d) rest
    else (significand, rest.length + 1)

/-- Takes digits after the point: those that fit are appended and counted, the rest are dropped. -/
def takeFraction : Nat → Nat → List Nat → Nat × Nat
  | significand, count, [] => (significand, count)
  | significand, count, d :: rest =>
    if significand * 10 + d ≤ maxSignificand then
      takeFraction (significand * 10 + d) (count + 1) rest
    else (significand, count)

/-- The number of exponent digits up to and including the one that makes the exponent too large. -/
def overflowingDigits : Nat → List Nat → Option Nat
  | _, [] => none
  | power, d :: rest =>
    if power * 10 + d ≤ maxPower then (overflowingDigits (power * 10 + d) rest).map (· + 1)
    else some 1

/-- The value of a list of digits. -/
def digitsValue (digits : List Nat) : Nat :=
  digits.foldl (fun n d => n * 10 + d) 0

/-- Divides by `10 ^ 308` until the power that is left has a rounded value of its own. -/
def scaleDown : Nat → Nat × Int → Nat → Option (Nat × Int)
  | 0, magnitude, _ => some magnitude
  | fuel + 1, magnitude, power =>
    if power ≤ 308 then Binary64.div magnitude (Binary64.powerOfTen power)
    else if magnitude.1 = 0 then some magnitude
    else
      match Binary64.div magnitude (Binary64.powerOfTen 308) with
      | some smaller => scaleDown fuel smaller (power - 308)
      | none => none

/-- `significand · 10 ^ power` in the roundings of this module; `none` where it is too large. -/
def magnitude (significand : Nat) (power : Int) : Option (Nat × Int) :=
  match Binary64.nearest significand 1 with
  | none => none
  | some m =>
    if 0 ≤ power then
      if power ≤ 308 then Binary64.mul m (Binary64.powerOfTen power.toNat)
      else if m.1 = 0 then some m
      else none
    else scaleDown 4 m (-power).toNat

/-- The significand and the power of ten before the written exponent counts. -/
def leading (n : Numeral) : Nat × Int :=
  let (significand, dropped) := takeWhole 0 n.whole
  let (significand, decimals) := takeFraction significand 0 n.fraction
  (significand, (dropped : Int) - decimals)

/-- The floating-point value, or `none` where it is too large. -/
def toBinary64? (n : Numeral) : Option Binary64 :=
  let (significand, power) := n.leading
  let found :=
    match n.exponent with
    | none => magnitude significand power
    | some e =>
      if (overflowingDigits 0 e.digits).isSome then
        if significand ≠ 0 ∧ e.negative = false then none else some (0, 0)
      else
        let shift : Int := digitsValue e.digits
        let total := if e.negative then power - shift else power + shift
        magnitude significand (max (-(maxPower + 1)) (min total maxPower))
  found.map fun m => ⟨n.negative, m.1, m.2⟩

end Numeral

end PushWake.Decimal
