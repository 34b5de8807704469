import Cascade.Json.Reader
import Cascade.Tree.Node

/-!
# Trees as JSON

`toValue` writes positions, spans, comments and nodes as JSON values with all of
their fields, absent ones as null; `read` reads them from documents.  The
fields of a node other than its kind, and the span of a comment, may be left
out.
-/

namespace Cascade

open Json

namespace Position

/-- A position as a value. -/
def toValue (position : Position) : Value :=
  .ofMembers [("line", .ofNat position.line.toNat), ("column", .ofNat position.column.toNat)]

/-- Reads a position. -/
def read : Reader Position :=
  Reader.record ["line", "column"] fun _ fields =>
    match fields with
    | [line, column] => do
        let line ← Reader.required (Reader.natBelow UInt64.size) line
        let column ← Reader.required (Reader.natBelow UInt64.size) column
        return ⟨UInt64.ofNat line, UInt64.ofNat column⟩
    | _ => none

end Position

namespace Span

/-- A span as a value. -/
def toValue (span : Span) : Value :=
  .ofMembers [("start", span.start.toValue), ("end", span.stop.toValue)]

/-- Reads a span. -/
def read : Reader Span :=
  Reader.record ["start", "end"] fun budget fields =>
    match fields with
    | [start, stop] => do
        let start ← Reader.required (Position.read budget) start
        let stop ← Reader.required (Position.read budget) stop
        return ⟨start, stop⟩
    | _ => none

/-- A span that may be absent, as a value. -/
def optionToValue (span : Option Span) : Value :=
  .orNull (span.map toValue)

/-- Reads a field with a span that may be absent. -/
def readField (budget : Nat) : Option Document → Option (Option Span) :=
  Reader.optionalField (read budget)

end Span

namespace Kind

/-- A kind as a value: the name of a built-in kind, or an object with the name
of a custom one. -/
def toValue : Kind → Value
  | custom name => .object [("custom", .string name)]
  | kind => .string kind.name

/-- The built-in kind with the given name. -/
def ofName? (name : String) : Option Kind :=
  builtin.find? fun kind => kind.name == name

/-- Reads a kind. -/
def read : Reader Kind := fun budget document =>
  match Reader.alternative budget document with
  | some ("custom", some carried) => (Reader.string carried).map custom
  | some (name, carried) => if Reader.carriesNothing carried then ofName? name else none
  | none => none

end Kind

namespace Comment

/-- A comment as a value. -/
def toValue (comment : Comment) : Value :=
  .ofMembers [("id", .ofNat comment.id.toNat), ("text", .string comment.text),
    ("span", Span.optionToValue comment.span)]

/-- Reads a comment. -/
def read : Reader Comment :=
  Reader.record ["id", "text", "span"] fun budget fields =>
    match fields with
    | [id, text, span] => do
        let id ← Reader.required (Reader.natBelow UInt32.size) id
        let text ← Reader.required Reader.string text
        let span ← Span.readField budget span
        return ⟨UInt32.ofNat id, text, span⟩
    | _ => none

end Comment

namespace Node

mutual

/-- A tree as a value. -/
def toValue : Node → Value
  | mk header children =>
      .ofMembers [("kind", header.kind.toValue), ("span", Span.optionToValue header.span),
        ("properties", .ofDict header.properties), ("children", .array (toValues children)),
        ("comments", .array (header.comments.map Comment.toValue))]

/-- A list of trees as values. -/
def toValues : List Node → List Value
  | [] => []
  | node :: rest => toValue node :: toValues rest

end

/-- Reads a tree.  A tree takes two levels of nesting below its own for every
level of children. -/
def read : Reader Node
  | 0, _ => none
  | budget + 1, document => do
      match ← Reader.fields? ["kind", "span", "properties", "children", "comments"] document with
      | [kind, span, properties, children, comments] =>
          let kind ← Reader.required (Kind.read budget) kind
          let span ← Span.readField budget span
          let properties ←
            Reader.withDefault Dict.empty (Reader.dict Reader.value budget) properties
          let children ← readChildren budget children
          let comments ← Reader.withDefault [] (Reader.list Comment.read budget) comments
          return mk ⟨kind, span, properties, comments⟩ children
      | _ => none
where
  /-- Reads the children of a node. -/
  readChildren : Nat → Option Document → Option (List Node)
    | _, none => some []
    | budget + 1, some (.array items) => items.mapM (read budget)
    | _, some _ => none

/-- Reads a tree from a text. -/
def parse? (text : String) : Option Node :=
  Reader.ofText? read text

end Node

end Cascade
