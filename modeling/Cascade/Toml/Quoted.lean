import Cascade.Text.Basic

/-!
# Quoted strings

Strings in double quotes follow escapes, strings in single quotes do not; three
quotes open a string that may run over several lines.  A line break right behind
three opening quotes is dropped, and so is everything blank behind a backslash
at the end of a line.  The string is read character by character.
-/

namespace Cascade.Toml

open Cascade.Text

/-- How a string is quoted. -/
structure QuoteStyle where
  mark : Char
  multiline : Bool
  escapes : Bool

/-- Whether a character may stand for itself in strings and comments. -/
def isPlain (c : Char) : Bool :=
  c == '\t' || (0x20 ≤ c.toNat && c.toNat != 0x7F)

/-- Where the reading of a string stands.  `marks` counts quotes that may close a
string of several lines; `carriage` waits for the line feed of a line break. -/
inductive QuoteMode where
  | plain
  | marks (count : Nat)
  | carriage
  | escape
  | code (missing value : Nat)
  | lineEnd
  | lineEndCarriage
  | skipping
  | skippingCarriage

/-- What the next character of a string leads to.  `endedBefore` leaves the
character to what follows the string. -/
inductive QuoteStep where
  | more (mode : QuoteMode) (reversed : List Char)
  | ended (reversed : List Char)
  | endedBefore (reversed : List Char)
  | wrong

namespace QuoteStyle

/-- The character that a one-letter escape stands for. -/
def simpleEscape? : Char → Option Char
  | 'b' => some '\x08'
  | 't' => some '\t'
  | 'n' => some '\n'
  | 'f' => some '\x0c'
  | 'r' => some '\r'
  | 'e' => some '\x1b'
  | '"' => some '"'
  | '\\' => some '\\'
  | _ => none

/-- How many hexadecimal digits follow an escape. -/
def codeLength? : Char → Option Nat
  | 'x' => some 2
  | 'u' => some 4
  | 'U' => some 8
  | _ => none

/-- A character outside of any escape. -/
def plainStep (style : QuoteStyle) (reversed : List Char) (c : Char) : QuoteStep :=
  if c = style.mark then
    if style.multiline then .more (.marks 1) reversed else .ended reversed
  else if c = '\\' ∧ style.escapes then .more .escape reversed
  else if isPlain c then .more .plain (c :: reversed)
  else if style.multiline ∧ c = '\n' then .more .plain (c :: reversed)
  else if style.multiline ∧ c = '\r' then .more .carriage reversed
  else .wrong

/-- A character behind a backslash. -/
def escapeStep (style : QuoteStyle) (reversed : List Char) (c : Char) : QuoteStep :=
  match simpleEscape? c, codeLength? c with
  | some escaped, _ => .more .plain (escaped :: reversed)
  | none, some length => .more (.code length 0) reversed
  | none, none =>
      if !style.multiline then .wrong
      else if c = ' ' ∨ c = '\t' then .more .lineEnd reversed
      else if c = '\n' then .more .skipping reversed
      else if c = '\r' then .more .lineEndCarriage reversed
      else .wrong

/-- The character with a code point, unless there is none. -/
def scalar? (code : Nat) : Option Char :=
  if valid : code.isValidChar then some (Char.ofNatAux code valid) else none

/-- A hexadecimal digit of an escape. -/
def codeStep (reversed : List Char) (missing value : Nat) (c : Char) : QuoteStep :=
  match hexDigit? c with
  | none => .wrong
  | some digit =>
      let value := value * 16 + digit
      if missing ≤ 1 then
        match scalar? value with
        | some c => .more .plain (c :: reversed)
        | none => .wrong
      else .more (.code (missing - 1) value) reversed

/-- The characters with `count` quotes in front. -/
def withMarks (style : QuoteStyle) (count : Nat) (reversed : List Char) : List Char :=
  List.replicate count style.mark ++ reversed

/-- Reads one character of a string. -/
def step (style : QuoteStyle) (mode : QuoteMode) (reversed : List Char) (c : Char) : QuoteStep :=
  match mode with
  | .plain => style.plainStep reversed c
  | .marks count =>
      if c = style.mark then
        if count = 4 then .ended (style.withMarks 2 reversed)
        else .more (.marks (count + 1)) reversed
      else if 3 ≤ count then .endedBefore (style.withMarks (count - 3) reversed)
      else style.plainStep (style.withMarks count reversed) c
  | .carriage => if c = '\n' then .more .plain ('\n' :: '\r' :: reversed) else .wrong
  | .escape => style.escapeStep reversed c
  | .code missing value => codeStep reversed missing value c
  | .lineEnd =>
      if c = ' ' ∨ c = '\t' then .more .lineEnd reversed
      else if c = '\n' then .more .skipping reversed
      else if c = '\r' then .more .lineEndCarriage reversed
      else .wrong
  | .lineEndCarriage => if c = '\n' then .more .skipping reversed else .wrong
  | .skipping =>
      if c = ' ' ∨ c = '\t' ∨ c = '\n' then .more .skipping reversed
      else if c = '\r' then .more .skippingCarriage reversed
      else style.plainStep reversed c
  | .skippingCarriage => if c = '\n' then .more .skipping reversed else .wrong

/-- The string up to its closing quotes, and what stands behind them. -/
def read (style : QuoteStyle) (mode : QuoteMode) (reversed : List Char) :
    List Char → Option (String × List Char)
  | [] =>
      match mode with
      | .marks count =>
          if 3 ≤ count then
            some (String.ofList (style.withMarks (count - 3) reversed).reverse, [])
          else none
      | _ => none
  | c :: rest =>
      match style.step mode reversed c with
      | .more mode reversed => style.read mode reversed rest
      | .ended reversed => some (String.ofList reversed.reverse, rest)
      | .endedBefore reversed => some (String.ofList reversed.reverse, c :: rest)
      | .wrong => none

end QuoteStyle

/-- A text without the line break at its front. -/
def dropLineBreak : List Char → List Char
  | '\n' :: rest => rest
  | '\r' :: '\n' :: rest => rest
  | text => text

/-- The string that opens with a quote, given what stands behind that quote. -/
def quoted? (mark : Char) (multilineAllowed : Bool) (text : List Char) :
    Option (String × List Char) :=
  let escapes := mark == '"'
  let single : QuoteStyle := ⟨mark, false, escapes⟩
  match text with
  | first :: second :: rest =>
      if first = mark ∧ second = mark then
        if multilineAllowed then
          QuoteStyle.read ⟨mark, true, escapes⟩ .plain [] (dropLineBreak rest)
        else none
      else single.read .plain [] text
  | _ => single.read .plain [] text

end Cascade.Toml
