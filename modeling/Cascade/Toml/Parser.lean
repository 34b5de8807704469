import Cascade.Toml.Quoted
import Cascade.Toml.Scalar
import Cascade.Toml.Table

/-!
# Documents

A document is read line by line: headers, bindings and comments.  Arrays and
inline tables may run over several lines and hold comments, also around the
equals sign of a binding; a dotted key stands on one line.  Values nest up to a
limit, and no key has more parts than that.  The functions that follow the
structure of the text count down from twice its length, which no chain of their
calls exceeds.
-/

namespace Cascade.Toml

/-- How deeply arrays and inline tables may nest, and how many parts a key may
have. -/
def nestingLimit : Nat :=
  80

/-- A text without the spaces and tabs at its front. -/
def dropSpaces (text : List Char) : List Char :=
  text.dropWhile fun c => c == ' ' || c == '\t'

/-- The text behind a comment, from the line break on. -/
def dropComment : List Char → Option (List Char)
  | [] => some []
  | '\n' :: rest => some ('\n' :: rest)
  | '\r' :: '\n' :: rest => some ('\r' :: '\n' :: rest)
  | c :: rest => if isPlain c then dropComment rest else none

/-- The next line, if nothing but blanks and a comment stands before it. -/
def nextLine? (text : List Char) : Option (List Char) :=
  let behindComment :=
    match dropSpaces text with
    | '#' :: rest => dropComment rest
    | rest => some rest
  match behindComment with
  | some [] => some []
  | some ('\n' :: rest) => some rest
  | some ('\r' :: '\n' :: rest) => some rest
  | _ => none

/-- The text without blanks, line breaks and comments at its front; within a
comment if `inComment` says so. -/
def dropTrivia (inComment : Bool) : List Char → Option (List Char)
  | [] => some []
  | '\n' :: rest => dropTrivia false rest
  | '\r' :: '\n' :: rest => dropTrivia false rest
  | c :: rest =>
      if inComment then if isPlain c then dropTrivia true rest else none
      else if c = ' ' ∨ c = '\t' then dropTrivia false rest
      else if c = '#' then dropTrivia true rest
      else some (c :: rest)

/-- Whether a character may occur in a bare key. -/
def isBareKeyChar (c : Char) : Bool :=
  c.isAlphanum || c == '_' || c == '-'

/-- A simple key and what stands behind it. -/
def simpleKey? : List Char → Option (String × List Char)
  | '"' :: rest => quoted? '"' false rest
  | '\'' :: rest => quoted? '\'' false rest
  | text =>
      let bare := text.takeWhile isBareKeyChar
      if bare.isEmpty then none else some (String.ofList bare, text.drop bare.length)

/-- A key: the path before its last part, and that part. -/
structure KeyPath where
  path : List String
  last : String

/-- A key of at most `limit` parts with dots between them, and what stands behind
it.  Blanks may surround the dots and the key. -/
def keyWithin? : Nat → List Char → Option (KeyPath × List Char)
  | 0, _ => none
  | limit + 1, text =>
      match simpleKey? (dropSpaces text) with
      | none => none
      | some (part, rest) =>
          match dropSpaces rest with
          | '.' :: rest =>
              (keyWithin? limit rest).map fun (key, rest) =>
                (⟨part :: key.path, key.last⟩, rest)
          | rest => some (⟨[], part⟩, rest)

/-- A key that may be dotted, and what stands behind it. -/
def key? (text : List Char) : Option (KeyPath × List Char) :=
  keyWithin? nestingLimit text

/-- The text behind the gap between a key, the equals sign and the value: blanks,
and `acrossLines` also line breaks and comments. -/
def dropGap (acrossLines : Bool) (text : List Char) : Option (List Char) :=
  if acrossLines then dropTrivia false text else some (dropSpaces text)

mutual

/-- A value, and what stands behind it.  Arrays and inline tables may nest
`depth` deep. -/
def value? : Nat → Nat → List Char → Option (Value × List Char)
  | 0, _, _ => none
  | fuel + 1, depth, text =>
      match text with
      | '"' :: rest => (quoted? '"' true rest).map fun (value, rest) => (.string value, rest)
      | '\'' :: rest => (quoted? '\'' true rest).map fun (value, rest) => (.string value, rest)
      | '[' :: rest => if depth = 0 then none else items? fuel (depth - 1) [] rest
      | '\x7b' :: rest => if depth = 0 then none else members? fuel (depth - 1) Table.empty rest
      | _ =>
          let (scalar, rest) := Scalar.take text
          (Scalar.value? scalar).map fun value => (value, rest)

/-- The rest of an array behind its opening bracket or a comma. -/
def items? : Nat → Nat → List Value → List Char → Option (Value × List Char)
  | 0, _, _, _ => none
  | fuel + 1, depth, reversed, text =>
      match dropTrivia false text with
      | none => none
      | some (']' :: rest) => some (.array reversed.reverse, rest)
      | some text =>
          match value? fuel depth text with
          | none => none
          | some (item, rest) =>
              match dropTrivia false rest with
              | some (',' :: rest) => items? fuel depth (item :: reversed) rest
              | some (']' :: rest) => some (.array (item :: reversed).reverse, rest)
              | _ => none

/-- The rest of an inline table behind its opening brace or a comma. -/
def members? : Nat → Nat → Table → List Char → Option (Value × List Char)
  | 0, _, _, _ => none
  | fuel + 1, depth, table, text =>
      match dropTrivia false text with
      | none => none
      | some ('\x7d' :: rest) => some (table.toValue, rest)
      | some text =>
          match binding? true fuel depth text with
          | none => none
          | some (key, value, rest) =>
              match table.assign key.path key.last value, dropTrivia false rest with
              | some table, some (',' :: rest) => members? fuel depth table rest
              | some table, some ('\x7d' :: rest) => some (table.toValue, rest)
              | _, _ => none

/-- A key with its value, and what stands behind them. -/
def binding? (acrossLines : Bool) : Nat → Nat → List Char → Option (KeyPath × Value × List Char)
  | 0, _, _ => none
  | fuel + 1, depth, text =>
      match key? text with
      | none => none
      | some (key, rest) =>
          match dropGap acrossLines rest with
          | some ('=' :: rest) =>
              match dropGap acrossLines rest with
              | none => none
              | some text => (value? fuel depth text).map fun (value, rest) => (key, value, rest)
          | _ => none

end

/-- A document under construction: its tables, and the path of the table that
bindings go to. -/
structure Draft where
  root : Table
  current : List String

namespace Draft

/-- A document of which nothing is read yet. -/
def start : Draft :=
  ⟨Table.empty, []⟩

/-- Binds a key in the current table. -/
def assign (draft : Draft) (key : KeyPath) (value : Value) : Option Draft :=
  (draft.root.modifyAt false (Table.assign key.path key.last value) draft.current).map
    fun root => { draft with root }

/-- Opens the table of a header. -/
def define (draft : Draft) (key : KeyPath) : Option Draft :=
  (draft.root.define key.path key.last).map fun root => ⟨root, key.path ++ [key.last]⟩

/-- Opens a new element of an array of tables. -/
def defineElement (draft : Draft) (key : KeyPath) : Option Draft :=
  (draft.root.defineElement key.path key.last).map fun root => ⟨root, key.path ++ [key.last]⟩

end Draft

/-- A line that is not empty: the document behind it, and the text from the next
line on. -/
def line? (draft : Draft) (text : List Char) : Option (Draft × List Char) :=
  let fuel := 2 * text.length + 2
  let (draft, rest) :=
    match text with
    | '[' :: '[' :: rest =>
        match key? rest with
        | some (key, ']' :: ']' :: rest) => (draft.defineElement key, rest)
        | _ => (none, [])
    | '[' :: rest =>
        match key? rest with
        | some (key, ']' :: rest) => (draft.define key, rest)
        | _ => (none, [])
    | _ =>
        match binding? false fuel nestingLimit text with
        | some (key, value, rest) => (draft.assign key value, rest)
        | none => (none, [])
  match draft, nextLine? rest with
  | some draft, some rest => some (draft, rest)
  | _, _ => none

/-- The document that the lines of a text add up to. -/
def lines? : Nat → Draft → List Char → Option Draft
  | 0, _, _ => none
  | fuel + 1, draft, text =>
      match dropTrivia false text with
      | none => none
      | some [] => some draft
      | some text =>
          match line? draft text with
          | none => none
          | some (draft, rest) => lines? fuel draft rest

/-- The entries of the document that a text spells.  A byte order mark at its
front is passed over. -/
def parse? (text : String) : Option (List (String × Value)) :=
  let chars :=
    match text.toList with
    | '\uFEFF' :: rest => rest
    | chars => chars
  (lines? (chars.length + 1) Draft.start chars).map fun draft =>
    Item.entriesToValues draft.root.entries

end Cascade.Toml
