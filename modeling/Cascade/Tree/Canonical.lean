import Cascade.Digest.Sha256
import Cascade.Json.Printer
import Cascade.Tree.Walk

/-!
# Canonical bytes of a tree

A tree is digested node by node in pre-order, so that its depth never matters.
Every node contributes its header as compact JSON, with the number of its
children, behind the length of that text in eight bytes.  The child counts
determine the shape of the tree.
-/

namespace Cascade

open Json

namespace Position

/-- A position as compact JSON. -/
def compact (position : Position) : String :=
  objectText [("line", natText position.line.toNat), ("column", natText position.column.toNat)]

end Position

namespace Span

/-- A span as compact JSON. -/
def compact (span : Span) : String :=
  objectText [("start", span.start.compact), ("end", span.stop.compact)]

/-- A span that may be absent, as compact JSON. -/
def optionCompact : Option Span → String
  | none => "null"
  | some span => span.compact

end Span

namespace Kind

/-- A kind as compact JSON. -/
def compact : Kind → String
  | custom name => objectText [("custom", stringText name)]
  | kind => stringText kind.name

end Kind

namespace Comment

/-- A comment as compact JSON. -/
def compact (comment : Comment) : String :=
  objectText [("id", natText comment.id.toNat), ("text", stringText comment.text),
    ("span", Span.optionCompact comment.span)]

end Comment

namespace Header

/-- A header as compact JSON, with the number of children that belong to it. -/
def compact (header : Header) (children : Nat) : String :=
  objectText [("kind", header.kind.compact), ("span", Span.optionCompact header.span),
    ("properties", (Value.ofDict header.properties).compact),
    ("comments", arrayText (header.comments.map Comment.compact)),
    ("children", natText children)]

end Header

/-- A number in eight bytes, least significant byte first. -/
def lengthBytes (length : Nat) : ByteArray :=
  ⟨((List.range 8).map fun index => UInt8.ofNat (length >>> (8 * index))).toArray⟩

namespace Node

/-- What a node itself contributes to the canonical bytes of its tree. -/
def frame (node : Node) : ByteArray :=
  let bytes := (node.header.compact node.children.length).toUTF8
  lengthBytes bytes.size ++ bytes

/-- The canonical bytes of a tree. -/
def canonicalBytes (node : Node) : ByteArray :=
  node.preorder.foldl (fun bytes node => bytes ++ node.frame) ByteArray.empty

/-- The digest of the canonical bytes of a tree. -/
def digest (node : Node) : Digest :=
  Digest.ofBytes node.canonicalBytes

end Node

end Cascade
