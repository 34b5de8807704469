import Cascade.Tree.Walk

/-!
# Listing by recursion on the tree

The loop that lists the nodes of a tree over a stack of pending trees lists them
as the recursion does: the root, then its children's listings in order.
-/

namespace Cascade.Node

/-- What holds of no trees, and of pending trees if it holds once the first root is
replaced by its children, holds of all pending trees. -/
theorem pending_induction {holds : List Node → Prop} (nil : holds [])
    (cons : ∀ node rest, holds (node.children ++ rest) → holds (node :: rest)) :
    ∀ pending, holds pending
  | [] => nil
  | node :: rest => cons node rest (pending_induction nil cons (node.children ++ rest))
termination_by pending => sizeAll pending
decreasing_by
  simp only [sizeAll_append, sizeAll_cons, size_eq]
  omega

theorem listing_eq (node : Node) : node.listing = node :: listingAll node.children := by
  cases node
  rfl

theorem listingAll_append (first second : List Node) :
    listingAll (first ++ second) = listingAll first ++ listingAll second := by
  induction first with
  | nil => rfl
  | cons node rest inductionHypothesis =>
      rw [List.cons_append, listingAll, listingAll, inductionHypothesis, List.append_assoc]

/-- The children of the first tree take its place. -/
theorem listingAll_cons (node : Node) (rest : List Node) :
    listingAll (node :: rest) = node :: listingAll (node.children ++ rest) := by
  rw [listingAll, listing_eq, listingAll_append]
  rfl

theorem toList_visitPending (visited : Array Node) (pending : List Node) :
    (visitPending visited pending).toList = visited.toList ++ listingAll pending := by
  induction visited, pending using visitPending.induct with
  | case1 visited =>
      rw [visitPending]
      exact (List.append_nil visited.toList).symm
  | case2 visited node rest inductionHypothesis =>
      rw [visitPending, inductionHypothesis, listingAll_cons, Array.toList_push, List.append_assoc]
      rfl

/-- The loop lists the nodes in the order of the recursion. -/
theorem toList_preorder (node : Node) : node.preorder.toList = node.listing := by
  rw [preorder, toList_visitPending, listingAll, listingAll, List.append_nil]
  rfl

theorem length_listingAll : ∀ pending, (listingAll pending).length = sizeAll pending := by
  apply pending_induction
  · rfl
  · intro node rest inductionHypothesis
    rw [listingAll_cons, List.length_cons, inductionHypothesis, sizeAll_append, sizeAll_cons,
      size_eq]
    omega

/-- The loop counts as many nodes as the recursion does. -/
theorem count_eq_size (node : Node) : node.count = node.size := by
  rw [count, ← Array.length_toList, toList_preorder, listing_eq, List.length_cons,
    length_listingAll, size_eq]

end Cascade.Node
