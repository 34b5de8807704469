import Cascade.Proofs.Listing
import Cascade.Proofs.OpenNodes

/-!
# Traversals that do not grow trees

Where no handler answers more nodes than it was called with as it enters a node, a traversal
comes to an end.  It opens at most as many nodes as the tree has: the nodes that were opened
and those that are pending below open nodes never become more.  What handlers add as they
exit a node is not traversed again.
-/

namespace Cascade

variable {σ : Type}

/-! ## Entering -/

theorem Node.size_refillSpan (node : Node) (span : Option Span) :
    (node.refillSpan span).size = node.size := by
  rw [refillSpan_eq, size_eq, size_eq]
  rfl

/-- The handler that enters nodes answers no more nodes than it is called with. -/
def Visitor.EntersWithoutGrowth (visitor : Visitor σ) : Prop :=
  ∀ site node state, visitor.interest.includes node.kind = true →
    (visitor.enter site node state).node.count ≤ node.count

namespace Visitor

theorem EntersWithoutGrowth.size_call {visitor : Visitor σ} (within : visitor.EntersWithoutGrowth)
    (site : Site) (node : Node) (ledger : Ledger σ) :
    (visitor.call .enter site node ledger).1.size ≤ node.size := by
  unfold call
  by_cases wanted : visitor.interest.includes node.kind = true
  · have bound := within site node ledger.state wanted
    rw [Node.count_eq_size, Node.count_eq_size] at bound
    rw [if_pos wanted]
    exact Nat.le_trans (Nat.le_of_eq (Node.size_refillSpan _ _)) bound
  · exact Nat.le_of_eq (by rw [if_neg wanted])

theorem size_callAll {visitors : List (Visitor σ)}
    (within : ∀ visitor ∈ visitors, visitor.EntersWithoutGrowth) (site : Site) (node : Node)
    (ledger : Ledger σ) : (callAll .enter site visitors node ledger).1.size ≤ node.size := by
  induction visitors generalizing node ledger with
  | nil => exact Nat.le_refl _
  | cons visitor rest inductionHypothesis =>
      obtain ⟨first, others⟩ := List.forall_mem_cons.mp within
      exact Nat.le_trans (inductionHypothesis others _ _) (first.size_call site node ledger)

end Visitor

namespace Pass

/-- No visitor of the pass makes a tree grow as it enters it. -/
def EntersWithoutGrowth (pass : Pass σ) : Prop :=
  ∀ visitor ∈ pass.visitors, visitor.EntersWithoutGrowth

variable {pass : Pass σ}

/-- What hangs below a node that was entered is less than what the node was. -/
theorem EntersWithoutGrowth.sizeAll_children (within : pass.EntersWithoutGrowth) (depth : Nat)
    (node : Node) (ledger : Ledger σ) :
    Node.sizeAll (pass.visit .enter depth node ledger).1.children + 1 ≤ node.size := by
  rw [← Node.size_eq]
  exact Visitor.size_callAll within (pass.site depth) node ledger

end Pass

/-! ## The end of the loop -/

/-- The number of nodes that are pending below open nodes. -/
def Branch.pendingSize (branches : List Branch) : Nat :=
  Node.sizeAll (branches.flatMap Branch.pending)

@[simp]
theorem Branch.pendingSize_nil : pendingSize [] = 0 :=
  rfl

@[simp]
theorem Branch.pendingSize_cons (branch : Branch) (rest : List Branch) :
    pendingSize (branch :: rest) = Node.sizeAll branch.pending + pendingSize rest := by
  rw [pendingSize, List.flatMap_cons, Node.sizeAll_append]
  rfl

/-- How many steps a traversal still takes at most: two for every pending node, and one to
close each node around the innermost one. -/
def Walk.remaining (walk : Walk σ) : Nat :=
  2 * Branch.pendingSize (walk.current :: walk.outer) + walk.outer.length

namespace Pass

variable {pass : Pass σ}

theorem EntersWithoutGrowth.remaining_lt (within : pass.EntersWithoutGrowth)
    {walk next : Walk σ} (progress : pass.step walk = .running next) :
    next.remaining < walk.remaining := by
  obtain ⟨⟨header, pending, reduced, depth⟩, outer, ledger⟩ := walk
  cases pending with
  | cons child rest =>
      rw [step_pending] at progress
      cases progress
      have fewer := within.sizeAll_children (depth + 1) child ledger
      simp only [Walk.remaining, Branch.start, Branch.pendingSize_cons, Node.sizeAll_cons,
        List.length_cons]
      omega
  | nil =>
      cases outer with
      | nil =>
          rw [step_root] at progress
          cases progress
      | cons parent above =>
          rw [step_attach] at progress
          cases progress
          simp only [Walk.remaining, Branch.attach, Branch.pendingSize_cons, Node.sizeAll_nil,
            List.length_cons]
          omega

theorem EntersWithoutGrowth.exists_finishes (within : pass.EntersWithoutGrowth) (walk : Walk σ) :
    ∃ node ledger, pass.Finishes walk node ledger := by
  cases progress : pass.step walk with
  | finished node ledger => exact ⟨node, ledger, .now progress⟩
  | running next =>
      have fewer := within.remaining_lt progress
      obtain ⟨node, ledger, finishes⟩ := within.exists_finishes next
      exact ⟨node, ledger, .later progress finishes⟩
termination_by walk.remaining

/-! ## Nodes that are opened and closed -/

variable {root : Node} {before : Ledger σ} {survey : Survey σ}

/-- The nodes that were opened, and those that are pending, are no more than the tree had. -/
theorem Surveys.opened_add_pending (reached : pass.Surveys root before survey)
    (within : pass.EntersWithoutGrowth) :
    survey.opened + Branch.pendingSize (survey.stack.map OpenNode.branch) ≤ root.size := by
  induction reached with
  | start =>
      have fewer := within.sizeAll_children 0 root before
      simp only [List.map_cons, List.map_nil, Branch.pendingSize_cons, Branch.pendingSize_nil,
        openNode, Branch.start]
      omega
  | @opens _ child _ _ depth _ _ ledger _ _ _ inductionHypothesis =>
      have fewer := within.sizeAll_children (depth + 1) child ledger
      simp only [List.map_cons, Branch.pendingSize_cons, Node.sizeAll_cons, openNode,
        Branch.start] at inductionHypothesis ⊢
      omega
  | closes _ inductionHypothesis =>
      simp only [List.map_cons, Branch.pendingSize_cons, Node.sizeAll_nil,
        Branch.attach] at inductionHypothesis ⊢
      omega
  | ends _ inductionHypothesis =>
      exact Nat.le_trans (Nat.add_le_add_left (Nat.zero_le _) _) inductionHypothesis

/-- The nodes that were closed, in the order of their closing, and then the open ones, the
innermost first, are those that were opened. -/
theorem Surveys.numbers_perm (reached : pass.Surveys root before survey) :
    (survey.closings.map (·.opening.number) ++ survey.stack.map (·.opening.number)).Perm
      (List.range survey.opened) := by
  induction reached with
  | start => exact .refl _
  | opens _ inductionHypothesis =>
      rw [List.range_succ, List.map_cons]
      exact List.perm_middle.trans
        ((inductionHypothesis.cons _).trans (List.perm_append_singleton _ _).symm)
  | closes _ inductionHypothesis => simpa [closeNode, Opening.replied] using inductionHypothesis
  | ends _ inductionHypothesis => simpa [closeNode, Opening.replied] using inductionHypothesis

/-- Where no handler makes a tree grow as it enters it, a traversal comes to an end, and its
stack of open nodes does not run empty before.  It opens at most as many nodes as the tree
has, and closes every one of them exactly once. -/
theorem EntersWithoutGrowth.traverse_ends (within : pass.EntersWithoutGrowth) (root : Node)
    (before : Ledger σ) :
    (∀ survey, pass.Surveys root before survey → survey.stack = [] →
      ∃ node, survey.answer = some node) ∧
    ∃ node after last, pass.traverse root before = some (node, after) ∧
      pass.Surveys root before last ∧ last.Concludes node after ∧
      last.opened ≤ root.count ∧
      (last.closings.map (·.opening.number)).Perm (List.range last.opened) := by
  constructor
  · intro survey reached empty
    obtain ⟨node, answer, _⟩ := reached.concluded empty
    exact ⟨node, answer⟩
  · obtain ⟨node, after, finishes⟩ := within.exists_finishes (pass.start root before)
    have ends : pass.traverse root before = some (node, after) :=
      (run_eq_some_iff_finishes _ _ _ _).mpr finishes
    obtain ⟨last, reached, concludes⟩ := traverse_eq_some_iff_surveyed.mp ends
    have opened := reached.opened_add_pending within
    have closed := reached.numbers_perm
    rw [concludes.stack, List.map_nil] at opened closed
    rw [List.append_nil] at closed
    refine ⟨node, after, last, ends, reached, concludes, ?_, closed⟩
    rw [Node.count_eq_size]
    exact opened

/-- Takes the children of a function as it is entered, and makes a block around it as it is
exited. -/
def pruner : Visitor Unit where
  name := "prune"
  interest := .kinds [.function]
  enter := fun _ node state => { node := node.withChildren [], state }
  exit := fun _ node state => { node := .ofKind .block [node], state }

/-- A program that is pruned. -/
def pruning : Pass Unit :=
  ⟨"prune", {}, Dict.empty, [pruner]⟩

theorem pruning_entersWithoutGrowth : pruning.EntersWithoutGrowth := by
  intro visitor member site node state _
  rw [List.mem_singleton.mp member, Node.count_eq_size, Node.count_eq_size, node.size_eq]
  exact Nat.succ_le_succ (Nat.zero_le _)

/-- A function with a block below it and a block beside it: the block below is never opened,
and the one that is made around the function is not traversed. -/
theorem traverse_ends_pruning :
    let root := Node.program [.ofKind .function [.ofKind .block], .ofKind .block]
    pruning.EntersWithoutGrowth ∧
      ∃ node after last, pruning.traverse root { state := () } = some (node, after) ∧
        pruning.Surveys root { state := () } last ∧ last.Concludes node after ∧ last.opened ≤ 4 ∧
        (last.closings.map (·.opening.number)).Perm (List.range last.opened) := by
  intro root
  have four : root.count = 4 := by
    rw [Node.count_eq_size]
    rfl
  obtain ⟨_, node, after, last, ends, reached, concludes, opened, closed⟩ :=
    pruning_entersWithoutGrowth.traverse_ends root { state := () }
  exact ⟨pruning_entersWithoutGrowth, node, after, last, ends, reached, concludes, four ▸ opened,
    closed⟩

end Pass

end Cascade
