import Cascade.Decimal.Shortest
import Cascade.Text.Basic

/-!
# JSON numbers

A number is an integer of 64 bits, signed or unsigned, or a finite double.  The
two kinds are kept apart: `1` and `1.0` are different numbers.  A numeral is the
written form of a number, split into its parts; its value is settled here too.
-/

namespace Cascade.Json

open Cascade.Decimal

/-- A JSON number. -/
inductive Number where
  | integer (value : Int)
  | float (value : Binary64)
deriving DecidableEq

namespace Number

/-- Equality of numbers: the two zeros of the doubles are equal, an integer and
a double never are. -/
def same : Number → Number → Bool
  | integer first, integer second => first == second
  | float first, float second => first.same second
  | _, _ => false

/-- Decimal exponents from which, and below which, a double is written
positionally. -/
structure PositionalRange where
  first : Int
  bound : Int

/-- Doubles from `0.00001` up to `10 ^ 16`, exclusive, are written
positionally. -/
def positionalRange : PositionalRange :=
  ⟨-5, 16⟩

/-- The digits of a positive decimal written positionally, with at least one
digit on each side of the point. -/
def positionalText (digits : List Char) (leading : Int) : List Char :=
  if leading < 0 then
    '0' :: '.' :: (List.replicate (-leading - 1).toNat '0' ++ digits)
  else
    let whole := leading.toNat + 1
    if digits.length ≤ whole then
      digits ++ List.replicate (whole - digits.length) '0' ++ ['.', '0']
    else
      digits.take whole ++ '.' :: digits.drop whole

/-- The digits of a positive decimal written with an exponent, whose sign is
always shown. -/
def exponentText (digits : List Char) (leading : Int) : List Char :=
  let mantissa :=
    match digits with
    | first :: second :: rest => first :: '.' :: second :: rest
    | short => short
  let sign := if leading < 0 then '-' else '+'
  mantissa ++ 'e' :: sign :: Nat.toDigits 10 leading.natAbs

/-- The written form of a double: the fewest digits that read back. -/
def floatText (value : Binary64) : List Char :=
  let sign := if value.negative then ['-'] else []
  if value.isZero then sign ++ ['0', '.', '0']
  else
    let decimal := value.shortest
    let digits := Nat.toDigits 10 decimal.digits
    let leading : Int := decimal.scale + digits.length - 1
    let range := positionalRange
    sign ++
      (if range.first ≤ leading ∧ leading < range.bound then positionalText digits leading
       else exponentText digits leading)

/-- The written form of an integer. -/
def integerText (value : Int) : List Char :=
  if value < 0 then '-' :: Nat.toDigits 10 value.natAbs else Nat.toDigits 10 value.natAbs

/-- The written form of a number. -/
def text : Number → List Char
  | integer value => integerText value
  | float value => floatText value

end Number

/-- The parts of a written number.  Digits are given by their values. -/
structure Numeral where
  negative : Bool
  whole : List Nat
  fraction : Option (List Nat)
  exponent : Option (Bool × List Nat)

namespace Numeral

/-- A significand of 64 bits extended by digits as long as they fit, and the
digits that no longer did. -/
def absorb : Nat → List Nat → Nat × List Nat
  | significand, [] => (significand, [])
  | significand, digit :: rest =>
      if significand * 10 + digit < UInt64.size then absorb (significand * 10 + digit) rest
      else (significand, digit :: rest)

/-- The largest power of ten among the doubles. -/
def largestPower : Nat :=
  308

/-- A double divided by a power of ten: by the largest finite power as long as
the remaining exponent exceeds it, then by the rest, rounding each time. -/
def divideByPower (value : Binary64) (power : Nat) : Option Binary64 :=
  if power ≤ largestPower then value.div? (Binary64.ofPowerOfTen power)
  else if value.isZero then some value
  else
    (value.div? (Binary64.ofPowerOfTen largestPower)).bind fun quotient =>
      divideByPower quotient (power - largestPower)
termination_by power
decreasing_by
  have positive : 0 < largestPower := by decide
  omega

/-- The double read from a significand and a decimal exponent.  The significand
is rounded first, then multiplied or divided by a power of ten. -/
def scaled (significand : Nat) (exponent : Int) : Option Binary64 :=
  match Binary64.ofRatio? false significand 1 with
  | none => none
  | some value =>
      if exponent < 0 then divideByPower value exponent.natAbs
      else if value.isZero then some value
      else if exponent ≤ largestPower then value.mul? (Binary64.ofPowerOfTen exponent.natAbs)
      else none

/-- The exponent that the numeral states. -/
def statedExponent (numeral : Numeral) : Int :=
  match numeral.exponent with
  | none => 0
  | some (true, digits) => -(Text.ofDigits 10 digits : Int)
  | some (false, digits) => Text.ofDigits 10 digits

/-- The double that the numeral denotes; none if it would not be finite.  Digits
beyond the significand's 64 bits only count for their place. -/
def float? (numeral : Numeral) : Option Binary64 :=
  let fraction := numeral.fraction.getD []
  let (whole, dropped) := absorb 0 numeral.whole
  let (significand, unread) := absorb whole fraction
  let places : Int := fraction.length - unread.length
  let exponent := dropped.length - places + numeral.statedExponent
  (scaled significand exponent).map fun value =>
    if numeral.negative then value.neg else value

/-- The number that the numeral denotes: an integer if it is written as one,
fits into 64 bits and is not the negative zero. -/
def value? (numeral : Numeral) : Option Number :=
  let magnitude := Text.ofDigits 10 numeral.whole
  if numeral.fraction.isSome ∨ numeral.exponent.isSome then numeral.float?.map .float
  else if numeral.negative then
    if magnitude ≠ 0 ∧ 2 * magnitude ≤ UInt64.size then some (.integer (-magnitude))
    else numeral.float?.map .float
  else if magnitude < UInt64.size then some (.integer magnitude)
  else numeral.float?.map .float

/-- The optional exponent at the end of a numeral. -/
def exponentOf? : List Char → Option (Option (Bool × List Nat))
  | [] => some none
  | mark :: rest =>
      if mark = 'e' ∨ mark = 'E' then
        let (negative, digits) :=
          match rest with
          | '-' :: unsigned => (true, unsigned)
          | '+' :: unsigned => (false, unsigned)
          | unsigned => (false, unsigned)
        match Text.takeDigits digits with
        | (first :: others, []) => some (some (negative, first :: others))
        | _ => none
      else none

/-- The numeral that a whole text spells: an optional minus sign, digits without
a superfluous leading zero, an optional fraction and an optional exponent. -/
def ofChars? (text : List Char) : Option Numeral :=
  let (negative, unsigned) :=
    match text with
    | '-' :: rest => (true, rest)
    | rest => (false, rest)
  match Text.takeDigits unsigned with
  | ([], _) => none
  | (0 :: _ :: _, _) => none
  | (whole, '.' :: rest) =>
      match Text.takeDigits rest with
      | ([], _) => none
      | (fraction, rest) =>
          (exponentOf? rest).map fun exponent => ⟨negative, whole, some fraction, exponent⟩
  | (whole, rest) =>
      (exponentOf? rest).map fun exponent => ⟨negative, whole, none, exponent⟩

end Numeral

end Cascade.Json
