import Cascade.Text.Basic

/-!
# Dates and times

The dates and times of a TOML document, alone or together, with a time zone
offset where both stand.  Only those of the calendar are accepted; a minute may
have sixty-one seconds, and a time may leave its seconds out.  The normal text
puts a `T` between date and time, writes the seconds always, drops zeros at the
end of a fraction and digits beyond the ninth, and writes an offset of zero with
a plus sign or as `Z`.
-/

namespace Cascade.Toml.Datetime

open Cascade.Text

/-- The number that a fixed sequence of decimal digits spells. -/
def fixed? (digits : List Char) : Option Nat :=
  (digits.mapM (digit? 10)).map (ofDigits 10)

/-- Whether a year has a twenty-ninth of February. -/
def isLeapYear (year : Nat) : Bool :=
  year % 4 == 0 && (year % 100 != 0 || year % 400 == 0)

/-- The number of days of a month. -/
def daysIn (year month : Nat) : Nat :=
  if month = 2 then if isLeapYear year then 29 else 28
  else if month = 4 ∨ month = 6 ∨ month = 9 ∨ month = 11 then 30
  else 31

/-- The length of a written date. -/
def dateLength : Nat :=
  10

/-- Whether a text is a date of the calendar. -/
def isDate : List Char → Bool
  | [y₁, y₂, y₃, y₄, '-', m₁, m₂, '-', d₁, d₂] =>
      match fixed? [y₁, y₂, y₃, y₄], fixed? [m₁, m₂], fixed? [d₁, d₂] with
      | some year, some month, some day =>
          1 ≤ month && month ≤ 12 && 1 ≤ day && day ≤ daysIn year month
      | _, _, _ => false
  | _ => false

/-- The normal text of an offset from universal time. -/
def offset? : List Char → Option (List Char)
  | ['Z'] => some ['Z']
  | ['z'] => some ['Z']
  | [sign, h₁, h₂, ':', m₁, m₂] =>
      match fixed? [h₁, h₂], fixed? [m₁, m₂] with
      | some hour, some minute =>
          if (sign = '+' ∨ sign = '-') ∧ hour ≤ 23 ∧ minute ≤ 59 then
            some ((if hour = 0 ∧ minute = 0 then '+' else sign) :: [h₁, h₂, ':', m₁, m₂])
          else none
      | _, _ => none
  | _ => none

/-- The normal text of a fraction of a second. -/
def fractionText (digits : List Char) : List Char :=
  let kept := ((digits.take 9).reverse.dropWhile (· == '0')).reverse
  if kept.isEmpty then [] else '.' :: kept

/-- The text of an hour, a minute and a second of the clock. -/
def clock? (h₁ h₂ m₁ m₂ s₁ s₂ : Char) : Option (List Char) :=
  match fixed? [h₁, h₂], fixed? [m₁, m₂], fixed? [s₁, s₂] with
  | some hour, some minute, some second =>
      if hour ≤ 23 ∧ minute ≤ 59 ∧ second ≤ 60 then
        some [h₁, h₂, ':', m₁, m₂, ':', s₁, s₂]
      else none
  | _, _, _ => none

/-- The normal text of an optional fraction of a second, and what stands behind it. -/
def fraction? : List Char → Option (List Char × List Char)
  | '.' :: rest =>
      let digits := rest.takeWhile isDecimalDigit
      if digits.isEmpty then none else some (fractionText digits, rest.drop digits.length)
  | rest => some ([], rest)

/-- The normal text of a time, and what stands behind it.  A time without seconds
is that of the full minute; only seconds have a fraction. -/
def time? : List Char → Option (List Char × List Char)
  | h₁ :: h₂ :: ':' :: m₁ :: m₂ :: ':' :: s₁ :: s₂ :: rest =>
      match clock? h₁ h₂ m₁ m₂ s₁ s₂, fraction? rest with
      | some clock, some (fraction, rest) => some (clock ++ fraction, rest)
      | _, _ => none
  | h₁ :: h₂ :: ':' :: m₁ :: m₂ :: rest =>
      (clock? h₁ h₂ m₁ m₂ '0' '0').map fun clock => (clock, rest)
  | _ => none

/-- The normal text of a time without an offset. -/
def localTime? (text : List Char) : Option (List Char) :=
  match time? text with
  | some (time, []) => some time
  | _ => none

/-- The normal text of a time with an optional offset. -/
def offsetTime? (text : List Char) : Option (List Char) :=
  match time? text with
  | some (time, []) => some time
  | some (time, rest) => (offset? rest).map (time ++ ·)
  | none => none

/-- The normal text of a date, a time, or both. -/
def normal? (text : List Char) : Option (List Char) :=
  let date := text.take dateLength
  if isDate date then
    match text.drop dateLength with
    | [] => some date
    | mark :: time =>
        if mark = 'T' ∨ mark = 't' ∨ mark = ' ' then
          (offsetTime? time).map fun time => date ++ 'T' :: time
        else none
  else localTime? text

end Cascade.Toml.Datetime
