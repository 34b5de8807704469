import Cascade.Proofs.Listing
import Mathlib.Algebra.Ring.Nat

/-!
# Depth-first walks as recursions

A walk takes trees one by one from a stack of pending ones.  The listing puts the children of
a node before whatever else is pending, the first child first, and the measuring of the depth
puts the last one first.  Both come to what the recursion on the tree says: the listing of a
tree is its root and the listings of its children in order, the count is one more than the
counts of its children together, and the depth is one more than the greatest of theirs.
-/

namespace Cascade.Node

/-! ## Listing step by step -/

/-- The node that a listing comes to next, and what is pending behind it. -/
def next? : List Node → Option (Node × List Node)
  | [] => none
  | node :: rest => some (node, node.children ++ rest)

/-- The nodes that a listing comes to until nothing is pending. -/
inductive Yields : List Node → List Node → Prop where
  | ended {pending : List Node} (last : next? pending = none) : Yields pending []
  | came {pending behind nodes : List Node} {node : Node}
      (next : next? pending = some (node, behind)) (others : Yields behind nodes) :
      Yields pending (node :: nodes)

theorem yields_listingAll : ∀ pending, Yields pending (listingAll pending) := by
  apply pending_induction
  · exact .ended rfl
  · intro node rest behind
    rw [listingAll_cons]
    exact .came rfl behind

/-- A listing comes to the nodes in one order only. -/
theorem Yields.unique {pending nodes others : List Node} (yields : Yields pending nodes)
    (yieldsOther : Yields pending others) : nodes = others := by
  induction yields generalizing others with
  | ended last =>
      cases yieldsOther with
      | ended => rfl
      | came next _ => exact nomatch last.symm.trans next
  | came next _ inductionHypothesis =>
      cases yieldsOther with
      | ended last => exact nomatch next.symm.trans last
      | came nextOther behind =>
          cases next.symm.trans nextOther
          rw [inductionHypothesis behind]

/-- A listing comes to an end, behind the nodes that the loop collects. -/
theorem yields_iff (node : Node) (nodes : List Node) :
    Yields [node] nodes ↔ nodes = node.preorder.toList := by
  have yields : Yields [node] node.preorder.toList := by
    have listed := yields_listingAll [node]
    rw [listingAll, listingAll, List.append_nil] at listed
    rwa [toList_preorder]
  constructor
  · intro given
    exact given.unique yields
  · rintro rfl
    exact yields

/-! ## Lists of trees -/

theorem listingAll_eq_flatMap (nodes : List Node) : listingAll nodes = nodes.flatMap listing := by
  induction nodes with
  | nil => rfl
  | cons node rest inductionHypothesis =>
      rw [listingAll, inductionHypothesis, List.flatMap_cons]

theorem sizeAll_eq_sum (nodes : List Node) : sizeAll nodes = (nodes.map size).sum := by
  induction nodes with
  | nil => rfl
  | cons node rest inductionHypothesis =>
      rw [sizeAll_cons, inductionHypothesis, List.map_cons, List.sum_cons]

theorem heightAll_eq_foldr (nodes : List Node) :
    heightAll nodes = (nodes.map height).foldr max 0 := by
  induction nodes with
  | nil => rfl
  | cons node rest inductionHypothesis =>
      rw [heightAll, inductionHypothesis, List.map_cons, List.foldr_cons]

theorem height_eq (node : Node) : node.height = heightAll node.children + 1 := by
  cases node
  rfl

/-! ## Depth -/

/-- The greatest depth in a tree whose root lies at the given depth. -/
def lowest (tree : Node × Nat) : Nat :=
  tree.2 + heightAll tree.1.children

theorem lowest_mk (node : Node) (depth : Nat) :
    lowest (node, depth) = depth + heightAll node.children :=
  rfl

/-- The trees below a node reach as deep as the node does, although the last child comes
first. -/
theorem foldl_lowest_children (children : List Node) {depth deepest : Nat}
    (reached : depth ≤ deepest) :
    ((children.map (·, depth + 1)).reverse.foldl (fun found tree => max found (lowest tree))
      deepest) = max deepest (depth + heightAll children) := by
  rw [List.foldl_reverse]
  induction children with
  | nil =>
      rw [heightAll]
      exact (Nat.max_eq_left reached).symm
  | cons child rest inductionHypothesis =>
      rw [List.map_cons, List.foldr_cons, inductionHypothesis, lowest_mk, heightAll, height_eq]
      omega

/-- The loop finds the greatest depth of all pending trees. -/
theorem deepestPending_eq (deepest : Nat) (pending : List (Node × Nat)) :
    deepestPending deepest pending =
      pending.foldl (fun found tree => max found (lowest tree)) deepest := by
  induction deepest, pending using deepestPending.induct with
  | case1 deepest =>
      rw [deepestPending]
      rfl
  | case2 deepest node depth rest inductionHypothesis =>
      have root : max (max deepest depth) (depth + heightAll node.children) =
          max deepest (lowest (node, depth)) := by
        rw [lowest_mk]
        omega
      rw [deepestPending, inductionHypothesis, List.foldl_append,
        foldl_lowest_children node.children (Nat.le_max_right deepest depth), root,
        List.foldl_cons]

theorem depth_eq_height (node : Node) : node.depth = node.height := by
  rw [depth, deepestPending_eq, height_eq]
  show max 0 (1 + heightAll node.children) = heightAll node.children + 1
  omega

/-! ## The walks by recursion -/

/-- The listing of a tree ends and comes to its root and then to what the listings of its
children come to, in order.  The count and the depth of the tree are told by those of its
children. -/
theorem walked_by_recursion (node : Node) :
    (∀ nodes, Yields [node] nodes ↔ nodes = node.preorder.toList) ∧
      node.preorder.toList =
        node :: node.children.flatMap (fun child => child.preorder.toList) ∧
      node.count = 1 + (node.children.map count).sum ∧
      node.depth = 1 + (node.children.map depth).foldr max 0 := by
  have counts : node.children.map count = node.children.map size :=
    List.map_congr_left fun child _ => count_eq_size child
  have depths : node.children.map depth = node.children.map height :=
    List.map_congr_left fun child _ => depth_eq_height child
  refine ⟨yields_iff node, ?_, ?_, ?_⟩
  · simp only [toList_preorder]
    rw [listing_eq, listingAll_eq_flatMap]
  · rw [count_eq_size, size_eq, sizeAll_eq_sum, counts, Nat.add_comm]
  · rw [depth_eq_height, height_eq, heightAll_eq_foldr, depths, Nat.add_comm]

end Cascade.Node
