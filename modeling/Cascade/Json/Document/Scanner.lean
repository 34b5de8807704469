import Cascade.Json.Document

/-!
# Tokens of JSON text

The scanner reads a text character by character.  Outside of strings it
collects a run of characters up to the next delimiter, and a run spells a
keyword or a numeral; inside of strings it follows the escapes and pairs the
surrogates.
-/

namespace Cascade.Json

/-- A token of JSON text. -/
inductive Token where
  | openArray
  | closeArray
  | openObject
  | closeObject
  | colon
  | comma
  | null
  | bool (value : Bool)
  | number (value : Option Number)
  | string (value : Option String)

namespace Token

/-- The token of a delimiter that stands for itself. -/
def ofDelimiter? : Char → Option Token
  | '[' => some openArray
  | ']' => some closeArray
  | '\x7b' => some openObject
  | '\x7d' => some closeObject
  | ':' => some colon
  | ',' => some comma
  | _ => none

/-- The token that a run of characters between delimiters spells. -/
def ofRun? (run : List Char) : Option Token :=
  if run = ['n', 'u', 'l', 'l'] then some null
  else if run = ['t', 'r', 'u', 'e'] then some (bool true)
  else if run = ['f', 'a', 'l', 's', 'e'] then some (bool false)
  else (Numeral.ofChars? run).map fun numeral => number numeral.value?

end Token

/-- The white space that may stand between tokens. -/
def isTokenSpace (c : Char) : Bool :=
  c == ' ' || c == '\t' || c == '\n' || c == '\r'

/-- A string while it is read: its characters so far, newest first, a high
surrogate that waits for its other half, and whether a half was left alone. -/
structure PartialString where
  reversed : List Char
  high : Option Nat
  broken : Bool

namespace PartialString

/-- A string of which nothing is read yet. -/
def start : PartialString :=
  ⟨[], none, false⟩

/-- Adds a character. -/
def push (string : PartialString) (c : Char) : PartialString :=
  ⟨c :: string.reversed, none, string.broken || string.high.isSome⟩

/-- Adds a UTF-16 unit: a low surrogate completes a waiting high one. -/
def pushUnit (string : PartialString) (unit : Nat) : PartialString :=
  if 0xD800 ≤ unit ∧ unit < 0xDC00 then
    ⟨string.reversed, some unit, string.broken || string.high.isSome⟩
  else if 0xDC00 ≤ unit ∧ unit < 0xE000 then
    match string.high with
    | some high =>
        let codePoint := 0x10000 + (high - 0xD800) * 0x400 + (unit - 0xDC00)
        ⟨Char.ofNat codePoint :: string.reversed, none, string.broken⟩
    | none => ⟨string.reversed, none, true⟩
  else string.push (Char.ofNat unit)

/-- The string that was read, unless it holds half a surrogate pair. -/
def finish (string : PartialString) : Option String :=
  if string.broken || string.high.isSome then none
  else some (String.ofList string.reversed.reverse)

end PartialString

/-- Where the scanner stands. -/
inductive ScanMode where
  | run (reversed : List Char)
  | string (read : PartialString)
  | escape (read : PartialString)
  | hex (read : PartialString) (missing value : Nat)

/-- A scanner: where it stands and the tokens found so far, newest first. -/
structure Scanner where
  mode : ScanMode
  found : List Token

namespace Scanner

/-- A scanner at the start of a text. -/
def start : Scanner :=
  ⟨.run [], []⟩

/-- The tokens with the one that a finished run spells, if the run is not
empty. -/
def endRun? (reversed : List Char) (found : List Token) : Option (List Token) :=
  if reversed.isEmpty then some found
  else (Token.ofRun? reversed.reverse).map (· :: found)

/-- The character that a one-letter escape stands for. -/
def simpleEscape? : Char → Option Char
  | '"' => some '"'
  | '\\' => some '\\'
  | '/' => some '/'
  | 'b' => some '\x08'
  | 'f' => some '\x0c'
  | 'n' => some '\n'
  | 'r' => some '\r'
  | 't' => some '\t'
  | _ => none

/-- Reads one character. -/
def step (scanner : Scanner) (c : Char) : Option Scanner :=
  match scanner.mode with
  | .run reversed =>
      if c = '"' then
        (endRun? reversed scanner.found).map fun found => ⟨.string .start, found⟩
      else if isTokenSpace c then
        (endRun? reversed scanner.found).map fun found => ⟨.run [], found⟩
      else
        match Token.ofDelimiter? c with
        | some token =>
            (endRun? reversed scanner.found).map fun found => ⟨.run [], token :: found⟩
        | none => some ⟨.run (c :: reversed), scanner.found⟩
  | .string read =>
      if c = '"' then some ⟨.run [], .string read.finish :: scanner.found⟩
      else if c = '\\' then some ⟨.escape read, scanner.found⟩
      else if c.toNat < 0x20 then none
      else some ⟨.string (read.push c), scanner.found⟩
  | .escape read =>
      if c = 'u' then some ⟨.hex read 4 0, scanner.found⟩
      else (simpleEscape? c).map fun escaped => ⟨.string (read.push escaped), scanner.found⟩
  | .hex read missing value =>
      (Text.hexDigit? c).map fun digit =>
        let value := value * 16 + digit
        if missing ≤ 1 then ⟨.string (read.pushUnit value), scanner.found⟩
        else ⟨.hex read (missing - 1) value, scanner.found⟩

/-- The tokens at the end of the text, unless it ends within a string. -/
def finish (scanner : Scanner) : Option (List Token) :=
  match scanner.mode with
  | .run reversed => (endRun? reversed scanner.found).map List.reverse
  | _ => none

end Scanner

/-- The tokens of a text, unless some part of it spells none. -/
def tokens? (text : String) : Option (List Token) :=
  (text.toList.foldlM Scanner.step Scanner.start).bind Scanner.finish

end Cascade.Json
