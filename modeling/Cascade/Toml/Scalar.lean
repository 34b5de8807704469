import Cascade.Text.Basic
import Cascade.Toml.Datetime
import Cascade.Toml.Value

/-!
# Scalars without quotes

Booleans, integers, floats, dates and times.  Digits may be grouped by single
underscores.  Integers have no superfluous leading zeros and may be written in
base sixteen, eight or two; a float has a fraction, an exponent, or both, with
digits on either side of the point.
-/

namespace Cascade.Toml.Scalar

open Cascade.Decimal Cascade.Text

/-- The digits of a text in which single underscores may stand between digits. -/
def grouped? (base : Nat) (text : List Char) : Option (List Nat) :=
  let groups := (split '_' text).mapM fun group =>
    if group.isEmpty then none else group.mapM (digit? base)
  groups.map List.flatten

/-- The decimal digits of a whole number without superfluous leading zeros. -/
def whole? (text : List Char) : Option (List Nat) :=
  match grouped? 10 text with
  | some (0 :: _ :: _) => none
  | other => other

/-- A text without its sign, and whether that is negative. -/
def unsigned : List Char → Bool × List Char
  | '-' :: rest => (true, rest)
  | '+' :: rest => (false, rest)
  | rest => (false, rest)

/-- The integer with a sign and digits. -/
def signed (negative : Bool) (magnitude : Nat) : Int :=
  if negative then -magnitude else magnitude

/-- How many values 128 bits can hold. -/
def integerBound : Nat :=
  UInt64.size * UInt64.size

/-- The integer that a text spells, as far as 128 bits can hold it. -/
def integer? (text : List Char) : Option Int :=
  let value :=
    match text with
    | '0' :: 'x' :: digits => (grouped? 16 digits).map fun digits => (ofDigits 16 digits : Int)
    | '0' :: 'o' :: digits => (grouped? 8 digits).map fun digits => (ofDigits 8 digits : Int)
    | '0' :: 'b' :: digits => (grouped? 2 digits).map fun digits => (ofDigits 2 digits : Int)
    | _ =>
        let (negative, digits) := unsigned text
        (whole? digits).map fun digits => signed negative (ofDigits 10 digits)
  value.filter fun value => decide (-(integerBound : Int) ≤ 2 * value ∧ value < integerBound)

/-- Whether a character begins an exponent. -/
def isExponentMark (c : Char) : Bool :=
  c == 'e' || c == 'E'

/-- The exponent that a text spells, zero for an empty one. -/
def exponent? : List Char → Option Int
  | [] => some 0
  | _ :: rest =>
      let (negative, digits) := unsigned rest
      (grouped? 10 digits).map fun digits => signed negative (ofDigits 10 digits)

/-- The finite double that a text spells, rounded to nearest. -/
def finite? (text : List Char) : Option Binary64 :=
  let (negative, magnitude) := unsigned text
  let mantissa := magnitude.takeWhile fun c => !isExponentMark c
  let exponent := magnitude.drop mantissa.length
  let whole := mantissa.takeWhile (· != '.')
  let fraction :=
    match mantissa.drop whole.length with
    | [] => if exponent.isEmpty then none else some []
    | _ :: digits => grouped? 10 digits
  match whole? whole, fraction, exponent? exponent with
  | some whole, some fraction, some exponent =>
      Binary64.ofDecimal? negative (ofDigits 10 (whole ++ fraction)) (exponent - fraction.length)
  | _, _, _ => none

/-- Whether a text names an infinity or a value that is no number. -/
def isSpecial (text : List Char) : Bool :=
  let magnitude := (unsigned text).2
  magnitude == ['i', 'n', 'f'] || magnitude == ['n', 'a', 'n']

/-- The value that an unquoted scalar spells. -/
def value? (text : List Char) : Option Value :=
  if text = ['t', 'r', 'u', 'e'] then some (.boolean true)
  else if text = ['f', 'a', 'l', 's', 'e'] then some (.boolean false)
  else if isSpecial text then some (.float none)
  else
    match integer? text with
    | some value => some (.integer value)
    | none =>
        match finite? text with
        | some value => some (.float (some value))
        | none => (Datetime.normal? text).map fun normal => .datetime (String.ofList normal)

/-- Whether a character may occur in an unquoted scalar. -/
def isScalarChar (c : Char) : Bool :=
  c.isAlphanum || c == '_' || c == '-' || c == '+' || c == '.' || c == ':'

/-- The text of the unquoted scalar at the front, and what stands behind it.  A
space joins a date to the time behind it. -/
def take (text : List Char) : List Char × List Char :=
  let run := text.takeWhile isScalarChar
  let rest := text.drop run.length
  match rest with
  | ' ' :: c :: more =>
      if Datetime.isDate run && isDecimalDigit c then
        let time := (c :: more).takeWhile isScalarChar
        (run ++ ' ' :: time, (c :: more).drop time.length)
      else (run, rest)
  | _ => (run, rest)

end Cascade.Toml.Scalar
