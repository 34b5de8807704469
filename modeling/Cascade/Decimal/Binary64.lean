/-!
# Finite double-precision numbers

A finite binary floating-point number of 64 bits is a sign together with the
rank of its magnitude among the finite magnitudes in increasing order, from
zero upwards.  The rank determines the significand and the binary exponent, and
rounding a ratio to the nearest such number is exact arithmetic on naturals.
-/

namespace Cascade.Decimal

/-- A ratio rounded to the nearest natural number, a half going to the even
neighbour. -/
def roundHalfEven (numerator denominator : Nat) : Nat :=
  let quotient := numerator / denominator
  let rest := numerator % denominator
  if 2 * rest < denominator then quotient
  else if denominator < 2 * rest then quotient + 1
  else quotient + quotient % 2

/-- A power of ten. -/
def powerOfTen (power : Nat) : Nat :=
  Nat.pow 10 power

/-- How many digits a natural number has in base ten. -/
def decimalLength (value : Nat) : Nat :=
  (Nat.toDigits 10 value).length

/-- How many magnitudes share a binary exponent: two to the power of 52. -/
def binadeSize : Nat :=
  4503599627370496

/-- How many finite magnitudes there are. -/
def finiteRanks : Nat :=
  2047 * binadeSize

/-- A finite double-precision number.  Both signs of zero are numbers. -/
structure Binary64 where
  negative : Bool
  rank : Nat
  rank_lt : rank < finiteRanks
deriving DecidableEq

namespace Binary64

/-- Zero with the given sign. -/
def zero (negative : Bool) : Binary64 :=
  ⟨negative, 0, by decide⟩

/-- The number of the given sign and rank, unless it would not be finite. -/
def ofRank? (negative : Bool) (rank : Nat) : Option Binary64 :=
  if rank_lt : rank < finiteRanks then some ⟨negative, rank, rank_lt⟩ else none

/-- The same magnitude with the opposite sign. -/
def neg (x : Binary64) : Binary64 :=
  { x with negative := !x.negative }

/-- Whether the number is one of the two zeros. -/
def isZero (x : Binary64) : Bool :=
  x.rank == 0

/-- Numeric equality: the two zeros are equal. -/
def same (x y : Binary64) : Bool :=
  x.rank == y.rank && (x.negative == y.negative || x.rank == 0)

/-- The integral significand: the magnitude is the significand times a power of
two. -/
def significand (x : Binary64) : Nat :=
  if x.rank < binadeSize then x.rank else binadeSize + x.rank % binadeSize

/-- The exponent of two that belongs to the integral significand. -/
def exponent (x : Binary64) : Int :=
  if x.rank < binadeSize then -1074 else (x.rank / binadeSize : Nat) - 1075

/-- Numerator of the magnitude. -/
def numerator (x : Binary64) : Nat :=
  x.significand <<< x.exponent.toNat

/-- Denominator of the magnitude. -/
def denominator (x : Binary64) : Nat :=
  1 <<< (-x.exponent).toNat

/-- The integral part of the binary logarithm of a positive ratio. -/
def binaryExponent (numerator denominator : Nat) : Int :=
  let estimate : Int := numerator.log2 - denominator.log2
  if numerator <<< (-estimate).toNat < denominator <<< estimate.toNat then estimate - 1
  else estimate

/-- A nonnegative ratio rounded to the nearest number, a half going to the even
significand; none if the result would not be finite. -/
def ofRatio? (negative : Bool) (numerator denominator : Nat) : Option Binary64 :=
  if numerator = 0 then some (zero negative)
  else
    let unit : Int := max (binaryExponent numerator denominator - 52) (-1074)
    let rounded := roundHalfEven (numerator <<< (-unit).toNat) (denominator <<< unit.toNat)
    ofRank? negative ((unit + 1074).toNat * binadeSize + rounded)

/-- The number nearest to a decimal `digits * 10 ^ scale`; none if it would not
be finite.  Magnitudes far outside the range are settled by their length. -/
def ofDecimal? (negative : Bool) (digits : Nat) (scale : Int) : Option Binary64 :=
  let size : Int := scale + decimalLength digits
  if digits = 0 ∨ size < -330 then some (zero negative)
  else if 310 < size then none
  else ofRatio? negative (digits * powerOfTen scale.toNat) (powerOfTen (-scale).toNat)

/-- The double nearest to a power of ten up to the largest finite one. -/
def ofPowerOfTen (power : Nat) : Binary64 :=
  (ofRatio? false (powerOfTen power) 1).getD (zero false)

/-- Product rounded to nearest; none if it would not be finite. -/
def mul? (x y : Binary64) : Option Binary64 :=
  ofRatio? (x.negative != y.negative)
    (x.numerator * y.numerator) (x.denominator * y.denominator)

/-- Quotient rounded to nearest, for a divisor that is not zero. -/
def div? (x y : Binary64) : Option Binary64 :=
  ofRatio? (x.negative != y.negative)
    (x.numerator * y.denominator) (x.denominator * y.numerator)

/-- The magnitude with a fixed number of decimal places, rounded to nearest. -/
def fixedText (places : Nat) (x : Binary64) : String :=
  let scaled := roundHalfEven (x.numerator * powerOfTen places) x.denominator
  let fraction := Nat.toDigits 10 (scaled % powerOfTen places)
  let padding := List.replicate (places - fraction.length) '0'
  let sign := if x.negative then ['-'] else []
  String.ofList
    (sign ++ Nat.toDigits 10 (scaled / powerOfTen places) ++ '.' :: (padding ++ fraction))

end Binary64

end Cascade.Decimal
