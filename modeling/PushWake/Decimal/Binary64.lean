/-!
# Binary floating-point numbers

Numbers with 53 significant bits and the exponent range of the 64-bit format, held as a sign, a
whole mantissa and a power of two, so that all arithmetic is exact arithmetic on naturals followed
by one rounding to the nearest such number, ties to the even mantissa.

Powers of naturals are written with `Nat.pow`, since what the operator stands for depends on what
else is imported.
-/

namespace PushWake.Decimal

/-- The number `± mantissa · 2 ^ exponent`. Zero has exponent zero. -/
structure Binary64 where
  negative : Bool
  mantissa : Nat
  exponent : Int
deriving DecidableEq, Repr, Inhabited

namespace Binary64

/-- The smallest exponent; mantissas below `2 ^ 52` occur with it only. -/
def minExponent : Int := -1074

/-- The largest exponent. -/
def maxExponent : Int := 971

/-- `num / den` rounded to a whole number, ties to even. -/
def roundDiv (num den : Nat) : Nat :=
  let q := num / den
  let r := num % den
  if 2 * r < den then q
  else if den < 2 * r then q + 1
  else q + q % 2

/-- A quotient with the power of two taken out, as numerator and denominator. -/
def scaled (num den : Nat) (exponent : Int) : Nat × Nat :=
  if 0 ≤ exponent then (num, den * Nat.pow 2 exponent.toNat)
  else (num * Nat.pow 2 (-exponent).toNat, den)

/-- The magnitude nearest to `num / den`, or `none` where it lies beyond the largest. -/
def nearest (num den : Nat) : Option (Nat × Int) :=
  if num = 0 then some (0, 0)
  else
    let guess : Int := (Nat.log2 num : Int) - Nat.log2 den - 53
    let guess := max guess minExponent
    let (n, d) := scaled num den guess
    let exponent := if Nat.pow 2 53 ≤ n / d then guess + 1 else guess
    let (n, d) := scaled num den exponent
    let m := roundDiv n d
    let (m, exponent) := if m = Nat.pow 2 53 then (Nat.pow 2 52, exponent + 1) else (m, exponent)
    if maxExponent < exponent then none
    else if m = 0 then some (0, 0)
    else some (m, exponent)

/-- The magnitude as a quotient of naturals. -/
def quotient (mantissa : Nat) (exponent : Int) : Nat × Nat :=
  if 0 ≤ exponent then (mantissa * Nat.pow 2 exponent.toNat, 1)
  else (mantissa, Nat.pow 2 (-exponent).toNat)

/-- The product of two magnitudes, rounded. -/
def mul (a b : Nat × Int) : Option (Nat × Int) :=
  let (n, d) := quotient a.1 a.2
  let (n', d') := quotient b.1 b.2
  nearest (n * n') (d * d')

/-- The quotient of two magnitudes, rounded. -/
def div (a b : Nat × Int) : Option (Nat × Int) :=
  let (n, d) := quotient a.1 a.2
  let (n', d') := quotient b.1 b.2
  nearest (n * d') (d * n')

/-- The magnitude nearest to a power of ten. -/
def powerOfTen (k : Nat) : Nat × Int :=
  (nearest (Nat.pow 10 k) 1).getD (0, 0)

end Binary64

end PushWake.Decimal
