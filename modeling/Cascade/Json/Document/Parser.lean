import Cascade.Json.Document.Scanner

/-!
# Documents of JSON text

The parser consumes one token at a time.  Arrays and objects that are still
open lie on a stack, so that no depth of nesting is out of reach; limits on the
depth belong to the readers of a document.
-/

namespace Cascade.Json

/-- An array or object that is still open, with its contents newest first.  A
`member` has read a key and waits for the value. -/
inductive OpenContainer where
  | array (reversed : List Document)
  | object (reversed : List (Option String × Document))
  | member (reversed : List (Option String × Document)) (key : Option String)

/-- What may come next. -/
inductive Expectation where
  | value
  | firstItem
  | key
  | firstKey
  | colon
  | separator
  | nothing (document : Document)

/-- A parser: the open containers, innermost first, and what may come next. -/
structure Parser where
  containers : List OpenContainer
  expected : Expectation

namespace Parser

/-- A parser at the start of a document. -/
def start : Parser :=
  ⟨[], .value⟩

/-- Adds a complete document to the innermost open container. -/
def complete (containers : List OpenContainer) (document : Document) : Option Parser :=
  match containers with
  | [] => some ⟨[], .nothing document⟩
  | .array reversed :: outer => some ⟨.array (document :: reversed) :: outer, .separator⟩
  | .member reversed key :: outer =>
      some ⟨.object ((key, document) :: reversed) :: outer, .separator⟩
  | .object _ :: _ => none

/-- Begins a value with its first token. -/
def beginValue (containers : List OpenContainer) : Token → Option Parser
  | .openArray => some ⟨.array [] :: containers, .firstItem⟩
  | .openObject => some ⟨.object [] :: containers, .firstKey⟩
  | .null => complete containers .null
  | .bool value => complete containers (.bool value)
  | .number value => complete containers (.number value)
  | .string value => complete containers (.string value)
  | _ => none

/-- Begins a member of the innermost object with its key. -/
def beginMember (containers : List OpenContainer) (key : Option String) : Option Parser :=
  match containers with
  | .object reversed :: outer => some ⟨.member reversed key :: outer, .colon⟩
  | _ => none

/-- Closes the innermost container. -/
def close (containers : List OpenContainer) (token : Token) : Option Parser :=
  match containers, token with
  | .array reversed :: outer, .closeArray => complete outer (.array reversed.reverse)
  | .object reversed :: outer, .closeObject => complete outer (.object reversed.reverse)
  | _, _ => none

/-- Reads one token. -/
def step (parser : Parser) (token : Token) : Option Parser :=
  match parser.expected, token with
  | .value, token => beginValue parser.containers token
  | .firstItem, .closeArray => close parser.containers .closeArray
  | .firstItem, token => beginValue parser.containers token
  | .key, .string key => beginMember parser.containers key
  | .firstKey, .string key => beginMember parser.containers key
  | .firstKey, .closeObject => close parser.containers .closeObject
  | .colon, .colon => some ⟨parser.containers, .value⟩
  | .separator, .comma =>
      match parser.containers with
      | .array _ :: _ => some ⟨parser.containers, .value⟩
      | .object _ :: _ => some ⟨parser.containers, .key⟩
      | _ => none
  | .separator, token => close parser.containers token
  | _, _ => none

/-- The document that was read, if it is complete. -/
def finish (parser : Parser) : Option Document :=
  match parser.expected with
  | .nothing document => some document
  | _ => none

end Parser

namespace Document

/-- The document that a text spells. -/
def parse? (text : String) : Option Document :=
  (tokens? text).bind fun tokens => (tokens.foldlM Parser.step Parser.start).bind Parser.finish

end Document

namespace Value

/-- How deeply arrays and objects may nest in a text that is read. -/
def nestingLimit : Nat :=
  127

/-- The value that a text spells. -/
def parse? (text : String) : Option Value :=
  (Document.parse? text).bind (Document.value? nestingLimit)

end Value

end Cascade.Json
