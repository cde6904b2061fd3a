import PushWake.Decimal.Binary64
/-!
# The shortest decimal of a floating-point number

Of all decimals that round to a given number, the one with the fewest digits, and of those the
nearest. The decimals that round to `m · 2 ^ e` form an interval around it, ends included where `m`
is even. For each count of digits the two neighbours of the number on that decimal grid are tried;
the first grid with a neighbour inside the interval gives the answer.
-/

namespace PushWake.Decimal

/-- `digits · 10 ^ power`. -/
structure ShortDecimal where
  digits : Nat
  power : Int
deriving DecidableEq, Repr, Inhabited

namespace Binary64

/-- Four times the magnitude, and the gaps to the ends of its interval in the same unit, all over a
common denominator: value, gap below, gap above, denominator. -/
def interval (mantissa : Nat) (exponent : Int) : Nat × Nat × Nat × Nat :=
  let below := if mantissa = Nat.pow 2 52 ∧ minExponent < exponent then 1 else 2
  let (scale, den) := quotient 1 exponent
  (4 * mantissa * scale, below * scale, 2 * scale, 4 * den)

/-- The number of decimal digits before the point of `num / den`, negative for leading zeros after
it: the least `p` with `num / den < 10 ^ p`, searched upward from an estimate. -/
def magnitudePower (num den : Nat) : Nat → Int → Int
  | 0, p => p
  | fuel + 1, p =>
    let small :=
      if 0 ≤ p then num < den * Nat.pow 10 p.toNat else num * Nat.pow 10 (-p).toNat < den
    if small then p else magnitudePower num den fuel (p + 1)

/-- The best decimal on the grid of multiples of `10 ^ power`, if one lies in the interval. -/
def onGrid (endsIncluded : Bool) (power : Int) (value below above den : Nat) :
    Option ShortDecimal :=
  -- the value and the interval in units of the grid, over a common denominator
  let up := if 0 ≤ power then 1 else Nat.pow 10 (-power).toNat
  let down := if 0 ≤ power then Nat.pow 10 power.toNat else 1
  let den := den * down
  let value := value * up
  let lo := value - below * up
  let hi := value + above * up
  let d := value / den
  let inside := fun (n : Nat) =>
    if endsIncluded then decide (lo ≤ n * den ∧ n * den ≤ hi)
    else decide (lo < n * den ∧ n * den < hi)
  match inside d, inside (d + 1) with
  | true, true =>
    let gapDown := value - d * den
    let gapUp := (d + 1) * den - value
    if gapDown < gapUp then some ⟨d, power⟩
    else if gapUp < gapDown then some ⟨d + 1, power⟩
    else some ⟨d + d % 2, power⟩
  | true, false => some ⟨d, power⟩
  | false, true => some ⟨d + 1, power⟩
  | false, false => none

/-- Tries 1, 2, ... digits. -/
def searchGrids (endsIncluded : Bool) (value below above den : Nat) (top : Int) :
    List Nat → ShortDecimal
  | [] => ⟨0, 0⟩
  | count :: rest =>
    match onGrid endsIncluded (top - count) value below above den with
    | some found => found
    | none => searchGrids endsIncluded value below above den top rest

/-- Moves zeros at the end of the digits into the power. -/
def dropZeros : Nat → ShortDecimal → ShortDecimal
  | 0, d => d
  | fuel + 1, d =>
    if d.digits ≠ 0 ∧ d.digits % 10 = 0 then dropZeros fuel ⟨d.digits / 10, d.power + 1⟩ else d

/-- The shortest decimal of a magnitude other than zero. -/
def shortest (mantissa : Nat) (exponent : Int) : ShortDecimal :=
  let (value, below, above, den) := interval mantissa exponent
  let estimate : Int := ((Nat.log2 value : Int) - Nat.log2 den - 1) * 30103 / 100000 - 1
  let top := magnitudePower value den 8 estimate
  dropZeros 20 (searchGrids (mantissa % 2 == 0) value below above den top
    ((List.range 17).map (· + 1)))

end Binary64

/-- How an exponent is written. -/
inductive ExponentStyle where
  /-- With its sign and at least two digits. -/
  | padded
  /-- With a sign only if it is negative, and no more digits than it needs. -/
  | bare
deriving DecidableEq, Repr, Inhabited

namespace ExponentStyle

/-- The text of an exponent. -/
def render (style : ExponentStyle) (power : Int) : String :=
  let digits := toString power.natAbs
  match style with
  | padded =>
    (if power < 0 then "-" else "+") ++ (if digits.length < 2 then "0" ++ digits else digits)
  | bare => (if power < 0 then "-" else "") ++ digits

end ExponentStyle

/-- Where the positional form gives way to the scientific one, by the power of ten of the first
digit, and how the exponent is written there. -/
structure FloatFormat where
  minPositional : Int
  maxPositional : Int
  exponent : ExponentStyle

namespace FloatFormat

/-- The text of a number: positional with at least one decimal, or scientific with one digit before
the point. -/
def render (format : FloatFormat) (x : Binary64) : String :=
  let sign := if x.negative then "-" else ""
  if x.mantissa = 0 then sign ++ "0.0"
  else
    let short := Binary64.shortest x.mantissa x.exponent
    let digits := toString short.digits
    let count : Int := digits.length
    let power := short.power + count - 1
    sign ++
      if format.minPositional ≤ power ∧ power ≤ format.maxPositional then
        if 0 ≤ short.power then
          digits ++ String.ofList (List.replicate short.power.toNat '0') ++ ".0"
        else if 0 ≤ power then
          let cut := (power + 1).toNat
          String.ofList (digits.toList.take cut) ++ "." ++ String.ofList (digits.toList.drop cut)
        else
          "0." ++ String.ofList (List.replicate (-power - 1).toNat '0') ++ digits
      else
        match digits.toList with
        | [] => ""
        | [d] => String.ofList [d] ++ "e" ++ format.exponent.render power
        | d :: rest => String.ofList (d :: '.' :: rest) ++ "e" ++ format.exponent.render power

end FloatFormat

end PushWake.Decimal
