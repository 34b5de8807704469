import Cascade.Tree.Node

/-!
# Walks without recursion on the tree

Listing, measuring, comparing and copying a tree by a loop over an explicit
stack of pending work, so that the depth of a tree is bounded by memory alone.
Each loop ends because the nodes that are still pending grow fewer.  The
structural definitions of `Cascade.Tree.Node` say what the loops compute.
-/

namespace Cascade.Node

/-! ## Listing -/

/-- The nodes visited so far, followed by those of the pending trees. -/
def visitPending (visited : Array Node) (pending : List Node) : Array Node :=
  match pending with
  | [] => visited
  | node :: rest => visitPending (visited.push node) (node.children ++ rest)
termination_by sizeAll pending
decreasing_by
  simp only [sizeAll_append, sizeAll_cons, size_eq]
  omega

/-- The nodes of a tree in pre-order. -/
def preorder (node : Node) : Array Node :=
  visitPending #[] [node]

/-- The number of nodes of a tree. -/
def count (node : Node) : Nat :=
  node.preorder.size

/-! ## Depth -/

/-- The greatest depth seen so far or found among the pending trees, whose roots
lie at the given depths.  Of the children of a node the last one is dealt with
first. -/
def deepestPending (deepest : Nat) (pending : List (Node × Nat)) : Nat :=
  match pending with
  | [] => deepest
  | (node, depth) :: rest =>
      deepestPending (max deepest depth) ((node.children.map (·, depth + 1)).reverse ++ rest)
termination_by sizeAll (pending.map Prod.fst)
decreasing_by
  simp only [List.map_append, List.map_reverse, List.map_map, List.map_cons, sizeAll_append,
    sizeAll_reverse, sizeAll_cons, size_eq, Function.comp_def, List.map_id']
  omega

/-- The length of the longest path from the root to a leaf; a lone node has
depth one. -/
def depth (node : Node) : Nat :=
  deepestPending 0 [(node, 1)]

/-! ## Comparison -/

/-- Whether all pending pairs of trees are equal.  Of the children of two nodes
the last pair is compared first. -/
def equalPending (pending : List (Node × Node)) : Bool :=
  match pending with
  | [] => true
  | (first, second) :: rest =>
      if first.header.same second.header && first.children.length == second.children.length then
        equalPending ((first.children.zip second.children).reverse ++ rest)
      else false
termination_by sizeAll (pending.map Prod.fst)
decreasing_by
  rename_i sameShape
  have equalLengths : first.children.length = second.children.length := by
    simp only [Bool.and_eq_true, beq_iff_eq] at sameShape
    exact sameShape.2
  simp only [List.map_append, List.map_reverse, List.map_cons, sizeAll_append, sizeAll_reverse,
    sizeAll_cons, size_eq, List.map_fst_zip (Nat.le_of_eq equalLengths)]
  omega

/-- Equality of trees. -/
def equal (first second : Node) : Bool :=
  equalPending [(first, second)]

/-! ## Copying -/

/-- A node that is being copied: its header, its children, and the copies of the
first of these. -/
structure Unfinished where
  header : Header
  originals : Array Node
  copies : Array Node

namespace Unfinished

/-- A node of whose children none is copied. -/
def start (node : Node) : Unfinished :=
  ⟨node.header, node.children.toArray, #[]⟩

/-- The first child that is not copied yet; as many copies as there are tell its
place. -/
def next? (unfinished : Unfinished) : Option Node :=
  unfinished.originals[unfinished.copies.size]?

/-- The node with one more child copied. -/
def attach (unfinished : Unfinished) (copied : Node) : Unfinished :=
  { unfinished with copies := unfinished.copies.push copied }

/-- The copy of the node, with the children that are copied. -/
def close (unfinished : Unfinished) : Node :=
  Node.mk unfinished.header unfinished.copies.toList

/-- The children that are not copied yet. -/
def uncopied (unfinished : Unfinished) : List Node :=
  unfinished.originals.toList.drop unfinished.copies.size

/-- How many steps the innermost node still takes: two for every node below it
that is not copied, and one to close it. -/
def steps (unfinished : Unfinished) : Nat :=
  2 * sizeAll unfinished.uncopied + 1

/-- How many steps a node still takes that waits for the copy of its next
child. -/
def stepsBehind (unfinished : Unfinished) : Nat :=
  2 * sizeAll unfinished.uncopied.tail + 1

/-- How many steps a stack of unfinished nodes still takes. -/
def stepsAll : List Unfinished → Nat
  | [] => 0
  | unfinished :: outer =>
      unfinished.steps + outer.foldr (fun waiting total => waiting.stepsBehind + total) 0

@[simp]
theorem uncopied_start (node : Node) : (start node).uncopied = node.children :=
  rfl

theorem uncopied_attach (unfinished : Unfinished) (copied : Node) :
    (unfinished.attach copied).uncopied = unfinished.uncopied.tail := by
  rw [uncopied, attach, Array.size_push, uncopied, List.tail_drop]

theorem uncopied_of_next {unfinished : Unfinished} {child : Node}
    (next : unfinished.next? = some child) :
    unfinished.uncopied = child :: unfinished.uncopied.tail := by
  have head : unfinished.uncopied.head? = some child := by
    rw [uncopied, List.head?_drop, Array.getElem?_toList]
    exact next
  obtain ⟨rest, whole⟩ := List.head?_eq_some_iff.mp head
  rw [whole]
  rfl

end Unfinished

/-- Copies what is pending in a stack of unfinished nodes, innermost first, and
answers the copy of the outermost one.  A stack that runs out before has no
answer. -/
def copyPending (stack : List Unfinished) : Option Node :=
  match stack with
  | [] => none
  | innermost :: outer =>
      match _ : innermost.next? with
      | some child => copyPending (.start child :: innermost :: outer)
      | none =>
          match outer with
          | [] => some innermost.close
          | parent :: above => copyPending (parent.attach innermost.close :: above)
termination_by Unfinished.stepsAll stack
decreasing_by
  · rename_i following
    have pending := Unfinished.uncopied_of_next following
    simp only [Unfinished.stepsAll, Unfinished.steps, Unfinished.stepsBehind, List.foldr_cons,
      Unfinished.uncopied_start]
    rw [pending]
    simp only [sizeAll_cons, size_eq, List.tail_cons]
    omega
  · simp only [Unfinished.stepsAll, Unfinished.steps, Unfinished.stepsBehind, List.foldr_cons,
      Unfinished.uncopied_attach]
    omega

/-- A copy of a tree. -/
def copy (node : Node) : Option Node :=
  copyPending [.start node]

end Cascade.Node
