import Cascade.Decimal.Binary64

/-!
# Shortest decimals of floating-point numbers

The decimal with the fewest digits that reads back as a given double.  The
reals that round to a number form an interval around it, whose ends belong to
it exactly if the significand is even.  For one digit, two digits and so on the
two grid points next to the number are tested; the first grid with a point in
the interval wins, of two points the nearer one, and of two equally near ones
the even one.
-/

namespace Cascade.Decimal

/-- A decimal `digits * 10 ^ scale`. -/
structure Scientific where
  digits : Nat
  scale : Int
deriving DecidableEq

namespace Scientific

/-- The same decimal without trailing zero digits; at most `fuel` of them are
removed. -/
def stripZeros : Nat → Scientific → Scientific
  | 0, decimal => decimal
  | fuel + 1, decimal =>
      if decimal.digits % 10 = 0 ∧ decimal.digits ≠ 0 then
        stripZeros fuel ⟨decimal.digits / 10, decimal.scale + 1⟩
      else decimal

end Scientific

namespace Binary64

/-- Four times the significand: the interval of a number has its ends on whole
multiples of a quarter of the last binary place. -/
def centre (x : Binary64) : Nat :=
  4 * x.significand

/-- Upper end of the interval, in quarters of the last place. -/
def upper (x : Binary64) : Nat :=
  x.centre + 2

/-- Lower end of the interval.  Below a power of two the numbers lie twice as
dense. -/
def lower (x : Binary64) : Nat :=
  if x.rank % binadeSize = 0 ∧ 2 * binadeSize ≤ x.rank then x.centre - 1 else x.centre - 2

/-- A length in quarters of the last place, over the common denominator that
the grid of the given decimal scale needs. -/
def scaledQuarters (x : Binary64) (scale : Int) (quarters : Nat) : Nat :=
  quarters <<< (x.exponent - 2).toNat * powerOfTen (-scale).toNat

/-- One step of the decimal grid over the same denominator. -/
def scaledStep (x : Binary64) (scale : Int) : Nat :=
  powerOfTen scale.toNat <<< (2 - x.exponent).toNat

/-- Whether the grid point reads back as the number. -/
def readsBack (x : Binary64) (scale : Int) (point : Nat) : Bool :=
  let position := point * x.scaledStep scale
  let low := x.scaledQuarters scale x.lower
  let high := x.scaledQuarters scale x.upper
  if x.significand % 2 = 0 then decide (low ≤ position ∧ position ≤ high)
  else decide (low < position ∧ position < high)

/-- The best point of one decimal grid, if one of the two neighbours of the
number reads back. -/
def gridPoint? (x : Binary64) (scale : Int) : Option Nat :=
  let step := x.scaledStep scale
  let position := x.scaledQuarters scale x.centre
  let below := position / step
  match x.readsBack scale below, x.readsBack scale (below + 1) with
  | true, true => some (roundHalfEven position step)
  | true, false => some below
  | false, true => some (below + 1)
  | false, false => none

/-- The decimal exponent of the leading digit of a positive number. -/
def decimalExponent (x : Binary64) : Int :=
  if x.denominator ≤ x.numerator then decimalLength (x.numerator / x.denominator) - 1
  else
    -(((List.range 330).find? fun power =>
        decide (x.denominator ≤ x.numerator * powerOfTen power)).getD 0 : Nat)

/-- The shortest decimal that reads back as the magnitude of the number. -/
def shortest (x : Binary64) : Scientific :=
  let leading := x.decimalExponent
  let best := (List.range 18).findSome? fun (place : Nat) =>
    (x.gridPoint? (leading - place)).map fun point => (⟨point, leading - place⟩ : Scientific)
  (best.getD ⟨0, 0⟩).stripZeros 18

end Binary64

end Cascade.Decimal
