/-!
# Texts as lists of characters

Classes of characters, the blank characters and trimming by them, the parts of a
text between separators, and the numbers that digits spell.
-/

namespace Cascade.Text

/-! ## Character classes

A class of characters is written as the increasing list of the code points at
which membership changes: characters below the first boundary lie outside, the
next ones inside, and so on in turn. -/

/-- Membership in the class with the given boundaries: a character lies inside
when an odd number of boundaries is at or below it. -/
def inClass (boundaries : List Nat) (c : Char) : Bool :=
  boundaries.countP (fun boundary => decide (boundary ≤ c.toNat)) % 2 == 1

/-! ## Blank characters

The white space of Unicode (property `White_Space`).  Line and paragraph
separators, the no-break space and the ideographic space are blank; the
zero-width space and the byte order mark are not. -/

/-- Boundaries of the property `White_Space`. -/
def blankBoundaries : List Nat := [
  0x9, 0xE, 0x20, 0x21, 0x85, 0x86, 0xA0, 0xA1, 0x1680, 0x1681, 0x2000, 0x200B, 0x2028, 0x202A,
  0x202F, 0x2030, 0x205F, 0x2060, 0x3000, 0x3001]

/-- Unicode white space. -/
def isBlank (c : Char) : Bool :=
  inClass blankBoundaries c

/-- A text without the blank characters at its two ends. -/
def trim (text : List Char) : List Char :=
  ((text.dropWhile isBlank).reverse.dropWhile isBlank).reverse

/-- Whether nothing but blank characters occurs in the string. -/
def isBlankString (text : String) : Bool :=
  text.toList.all isBlank

/-! ## Parts -/

/-- The parts of a text between the occurrences of a separator. -/
def split (separator : Char) : List Char → List (List Char)
  | [] => [[]]
  | c :: rest =>
      match split separator rest with
      | [] => [[c]]
      | part :: parts => if c = separator then [] :: part :: parts else (c :: part) :: parts

theorem split_ne_nil (separator : Char) (text : List Char) : split separator text ≠ [] := by
  cases text with
  | nil => simp [split]
  | cons c rest =>
      unfold split
      cases split separator rest with
      | nil => simp
      | cons part parts => by_cases equal : c = separator <;> simp [equal]

/-- The rest of a text behind `start`, if it starts so. -/
def behind? (start text : List Char) : Option (List Char) :=
  if start.isPrefixOf text then some (text.drop start.length) else none

/-! ## Digits -/

/-- The value of a hexadecimal digit. -/
def hexDigit? (c : Char) : Option Nat :=
  if '0' ≤ c ∧ c ≤ '9' then some (c.toNat - '0'.toNat)
  else if 'a' ≤ c ∧ c ≤ 'f' then some (c.toNat - 'a'.toNat + 10)
  else if 'A' ≤ c ∧ c ≤ 'F' then some (c.toNat - 'A'.toNat + 10)
  else none

/-- The value of a digit of a base up to sixteen. -/
def digit? (base : Nat) (c : Char) : Option Nat :=
  (hexDigit? c).filter fun value => decide (value < base)

/-- Whether a character is a decimal digit. -/
def isDecimalDigit (c : Char) : Bool :=
  (digit? 10 c).isSome

/-- The natural number that digits spell, the most significant one first. -/
def ofDigits (base : Nat) (digits : List Nat) : Nat :=
  digits.foldl (fun value digit => value * base + digit) 0

/-- The leading decimal digits of a text, and the rest. -/
def takeDigits : List Char → List Nat × List Char
  | [] => ([], [])
  | c :: rest =>
      match digit? 10 c with
      | none => ([], c :: rest)
      | some digit =>
          let (digits, remaining) := takeDigits rest
          (digit :: digits, remaining)

end Cascade.Text
