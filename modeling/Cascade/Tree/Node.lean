import Cascade.Json.Value
import Cascade.Tree.Kind
import Cascade.Tree.Span

/-!
# Syntax trees

A node is a header, which holds what the node says about itself, and the list of
its children.  A comment is attached to the node that follows it; a parser may
attach one comment to several nodes, and its number tells that it is the same.
-/

namespace Cascade

/-- A comment of a source file. -/
structure Comment where
  id : UInt32
  text : String
  span : Option Span := none
deriving DecidableEq

/-- A node's own content, without its children. -/
structure Header where
  kind : Kind
  span : Option Span := none
  properties : Dict Json.Value := Dict.empty
  comments : List Comment := []

/-- A syntax tree. -/
inductive Node where
  | mk (header : Header) (children : List Node)

namespace Header

/-- Equality of headers; properties are compared as values. -/
def same (first second : Header) : Bool :=
  first.kind == second.kind && first.span == second.span &&
    Json.Value.sameDict first.properties second.properties &&
      first.comments == second.comments

end Header

namespace Node

/-- What the node says about itself. -/
def header : Node → Header
  | mk header _ => header

/-- The nodes directly below the node. -/
def children : Node → List Node
  | mk _ children => children

@[simp]
theorem header_mk (header : Header) (children : List Node) : (mk header children).header = header :=
  rfl

@[simp]
theorem children_mk (header : Header) (children : List Node) :
    (mk header children).children = children :=
  rfl

@[simp]
theorem mk_header_children (node : Node) : mk node.header node.children = node := by
  cases node
  rfl

/-- A node of the given kind with nothing else set. -/
def ofKind (kind : Kind) (children : List Node := []) : Node :=
  mk { kind } children

instance : Inhabited Node :=
  ⟨ofKind .program⟩

/-- A root node over the given children. -/
def program (children : List Node) : Node :=
  ofKind .program children

/-- The kind of a node. -/
def kind (node : Node) : Kind :=
  node.header.kind

/-- The span of a node. -/
def span (node : Node) : Option Span :=
  node.header.span

/-- The comments attached to a node. -/
def comments (node : Node) : List Comment :=
  node.header.comments

/-- The property of a node under a key. -/
def property? (node : Node) (key : String) : Option Json.Value :=
  node.header.properties.get? key

/-- The node with another header. -/
def withHeader (node : Node) (header : Header) : Node :=
  mk header node.children

/-- The node with other children. -/
def withChildren (node : Node) (children : List Node) : Node :=
  mk node.header children

/-- The node with another kind. -/
def withKind (node : Node) (kind : Kind) : Node :=
  node.withHeader { node.header with kind }

/-- The node with another span. -/
def withSpan (node : Node) (span : Option Span) : Node :=
  node.withHeader { node.header with span }

/-- The node with other comments. -/
def withComments (node : Node) (comments : List Comment) : Node :=
  node.withHeader { node.header with comments }

/-- The node with a property set. -/
def withProperty (node : Node) (key : String) (value : Json.Value) : Node :=
  node.withHeader { node.header with properties := node.header.properties.insert key value }

/-- Whether the node may stand at the root of a tree between stages. -/
def isProgram (node : Node) : Bool :=
  node.kind == .program

mutual

/-- The number of nodes in a tree. -/
def size : Node → Nat
  | mk _ children => sizeAll children + 1

/-- The number of nodes in a list of trees. -/
def sizeAll : List Node → Nat
  | [] => 0
  | node :: rest => size node + sizeAll rest

end

theorem size_eq (node : Node) : node.size = sizeAll node.children + 1 := by
  cases node
  simp [size]

@[simp]
theorem sizeAll_nil : sizeAll [] = 0 := by
  simp [sizeAll]

@[simp]
theorem sizeAll_cons (node : Node) (rest : List Node) :
    sizeAll (node :: rest) = node.size + sizeAll rest := by
  simp [sizeAll]

@[simp]
theorem sizeAll_append (first second : List Node) :
    sizeAll (first ++ second) = sizeAll first + sizeAll second := by
  induction first with
  | nil => simp
  | cons node rest inductionHypothesis => simp [inductionHypothesis, Nat.add_assoc]

@[simp]
theorem sizeAll_reverse (nodes : List Node) : sizeAll nodes.reverse = sizeAll nodes := by
  induction nodes with
  | nil => rfl
  | cons node rest inductionHypothesis => simp [inductionHypothesis, Nat.add_comm]

mutual

/-- The length of the longest path from the root down to a leaf, in nodes. -/
def height : Node → Nat
  | mk _ children => heightAll children + 1

/-- The greatest height in a list of trees. -/
def heightAll : List Node → Nat
  | [] => 0
  | node :: rest => max (height node) (heightAll rest)

end

mutual

/-- The nodes of a tree in pre-order: the root, then the listings of its
children in order. -/
def listing : Node → List Node
  | mk header children => mk header children :: listingAll children

/-- The nodes of a list of trees, one tree after another. -/
def listingAll : List Node → List Node
  | [] => []
  | node :: rest => listing node ++ listingAll rest

end

mutual

/-- Equality of trees: the same shape with equal headers at every place. -/
def same : Node → Node → Bool
  | mk first firstChildren, mk second secondChildren =>
      first.same second && sameAll firstChildren secondChildren

/-- Equality of lists of trees. -/
def sameAll : List Node → List Node → Bool
  | [], [] => true
  | first :: firsts, second :: seconds => same first second && sameAll firsts seconds
  | _, _ => false

end

end Node

end Cascade
