import Cascade.Reduction

/-!
# Reduction by recursion on the tree

The traversal of a pass is a loop over a stack of open nodes.  Here the same
reduction is defined by recursion: a node is entered, its children are reduced
one level deeper and put back in order, and the node is exited.  What is kept
on the way is a record that also lists every call of a handler.

A loop that logs the calls of its handlers arrives at the tree and the record of
the recursion, and neither has a result if the other has none.
-/

namespace Cascade

/-- What happens to a node at a phase and a depth, given what was kept before. -/
abbrev Treatment (S : Type) :=
  Phase → Nat → Node → S → Node × S

namespace Treatment

variable {S T : Type}

mutual

/-- A tree whose root lies at the given depth, reduced by recursion. -/
def reduceTree (treat : Treatment S) (depth : Nat) (node : Node) (kept : S) :
    Option (Node × S) := do
  let entered := treat .enter depth node kept
  let children ← treat |>.reduceTrees (depth + 1) entered.1.children entered.2
  return treat .exit depth (Node.mk entered.1.header children.1) children.2
partial_fixpoint

/-- Trees whose roots lie at the given depth, reduced one after another. -/
def reduceTrees (treat : Treatment S) (depth : Nat) (nodes : List Node) (kept : S) :
    Option (List Node × S) :=
  match nodes with
  | [] => some ([], kept)
  | node :: rest => do
      let first ← treat |>.reduceTree depth node kept
      let others ← treat |>.reduceTrees depth rest first.2
      return (first.1 :: others.1, others.2)
partial_fixpoint

end

variable {treat : Treatment S}

theorem reduceTree_of_children {depth : Nat} {node : Node} {kept : S} {children : List Node × S}
    (reduced : treat.reduceTrees (depth + 1) (treat .enter depth node kept).1.children
      (treat .enter depth node kept).2 = some children) :
    treat.reduceTree depth node kept =
      some (treat .exit depth (Node.mk (treat .enter depth node kept).1.header children.1)
        children.2) := by
  rw [reduceTree]
  simp [reduced]

theorem reduceTrees_nil {depth : Nat} {kept : S} :
    treat.reduceTrees depth [] kept = some ([], kept) := by
  rw [reduceTrees]

theorem reduceTrees_cons {depth : Nat} {node : Node} {rest : List Node} {kept : S}
    {first : Node × S} {others : List Node × S}
    (reduced : treat.reduceTree depth node kept = some first)
    (reducedRest : treat.reduceTrees depth rest first.2 = some others) :
    treat.reduceTrees depth (node :: rest) kept = some (first.1 :: others.1, others.2) := by
  rw [reduceTrees]
  simp [reduced, reducedRest]

/-- What holds of every reduction that comes to an end, by recursion on the tree
as it is entered. -/
theorem reduce_induction (ofTree : Nat → Node → S → Node × S → Prop)
    (ofTrees : Nat → List Node → S → List Node × S → Prop)
    (tree : ∀ depth node kept children,
      ofTrees (depth + 1) (treat .enter depth node kept).1.children
        (treat .enter depth node kept).2 children →
      ofTree depth node kept
        (treat .exit depth (Node.mk (treat .enter depth node kept).1.header children.1)
          children.2))
    (nil : ∀ depth kept, ofTrees depth [] kept ([], kept))
    (cons : ∀ depth node rest kept first others,
      ofTree depth node kept first → ofTrees depth rest first.2 others →
      ofTrees depth (node :: rest) kept (first.1 :: others.1, others.2)) :
    (∀ depth node kept result, treat.reduceTree depth node kept = some result →
      ofTree depth node kept result) ∧
    ∀ depth nodes kept result, treat.reduceTrees depth nodes kept = some result →
      ofTrees depth nodes kept result := by
  apply reduceTree.mutual_partial_correctness treat ofTree ofTrees
  · intro reduceTrees ofReduced depth node kept result reduced
    rcases Option.bind_eq_some_iff.mp reduced with ⟨children, reducedChildren, exited⟩
    cases exited
    exact tree depth node kept children (ofReduced _ _ _ _ reducedChildren)
  · intro reduceTree reduceTrees ofReducedTree ofReducedTrees depth nodes kept result reduced
    cases nodes with
    | nil =>
        cases reduced
        exact nil depth kept
    | cons node rest =>
        rcases Option.bind_eq_some_iff.mp reduced with ⟨first, reducedFirst, reducedRest⟩
        rcases Option.bind_eq_some_iff.mp reducedRest with ⟨others, reducedOthers, joined⟩
        cases joined
        exact cons depth node rest kept first others (ofReducedTree _ _ _ _ reducedFirst)
          (ofReducedTrees _ _ _ _ reducedOthers)

/-! ## Related recursions -/

/-- The same answer, with related things kept. -/
def SameAnswer {α : Type} (related : S → T → Prop) (first : α × S) (second : α × T) : Prop :=
  first.1 = second.1 ∧ related first.2 second.2

variable {other : Treatment T} {related : S → T → Prop}

/-- Treatments that answer the same nodes and keep what they keep related. -/
def Agree (treat : Treatment S) (other : Treatment T) (related : S → T → Prop) : Prop :=
  ∀ phase depth node kept keptOther, related kept keptOther →
    SameAnswer related (treat phase depth node kept) (other phase depth node keptOther)

theorem Agree.symm (agree : Agree treat other related) :
    Agree other treat (flip related) := by
  intro phase depth node kept keptOther relation
  rcases agree phase depth node keptOther kept relation with ⟨sameNode, relationBehind⟩
  exact ⟨sameNode.symm, relationBehind⟩

/-- Where one of two agreeing recursions comes to an end, so does the other. -/
theorem reduceTree_of_agree (agree : Agree treat other related) :
    ∀ depth node kept result, treat.reduceTree depth node kept = some result →
      ∀ keptOther, related kept keptOther →
        ∃ answer, other.reduceTree depth node keptOther = some answer ∧
          SameAnswer related result answer := by
  refine (reduce_induction _
    (fun depth nodes kept results => ∀ keptOther, related kept keptOther →
      ∃ answers, other.reduceTrees depth nodes keptOther = some answers ∧
        SameAnswer related results answers) ?tree ?nil ?cons).1
  case tree =>
    intro depth node kept children reduced keptOther relation
    rcases agree .enter depth node kept keptOther relation with ⟨sameEntered, entered⟩
    rcases reduced _ entered with ⟨answers, reducedOther, sameChildren, keptChildren⟩
    rw [sameEntered] at reducedOther ⊢
    have exited := agree .exit depth (Node.mk (other .enter depth node keptOther).1.header
      children.1) children.2 answers.2 keptChildren
    rw [sameChildren] at exited ⊢
    exact ⟨_, reduceTree_of_children reducedOther, exited⟩
  case nil =>
    intro depth kept keptOther relation
    exact ⟨([], keptOther), reduceTrees_nil, rfl, relation⟩
  case cons =>
    intro depth node rest kept first others reduced reducedRest keptOther relation
    rcases reduced keptOther relation with ⟨answer, reducedOther, sameNode, keptFirst⟩
    rcases reducedRest _ keptFirst with ⟨answers, reducedOthers, sameNodes, keptOthers⟩
    exact ⟨_, reduceTrees_cons reducedOther reducedOthers, by rw [sameNode, sameNodes], keptOthers⟩

/-- Agreeing recursions have the same tree as their result and related things
kept, or none has a result. -/
theorem reduceTree_rel (agree : Agree treat other related) (depth : Nat) (node : Node)
    {kept : S} {keptOther : T} (relation : related kept keptOther) :
    Option.Rel (SameAnswer related) (treat.reduceTree depth node kept)
      (other.reduceTree depth node keptOther) := by
  cases reduced : treat.reduceTree depth node kept with
  | some result =>
      obtain ⟨answer, reducedOther, same⟩ :=
        reduceTree_of_agree agree depth node kept result reduced keptOther relation
      rw [reducedOther]
      exact .some same
  | none =>
      cases reducedOther : other.reduceTree depth node keptOther with
      | none => exact .none
      | some answer =>
          obtain ⟨result, found, _⟩ :=
            reduceTree_of_agree agree.symm depth node keptOther answer reducedOther kept relation
          rw [reduced] at found
          exact nomatch found

/-- The recursion that keeps a view of what another one keeps arrives at the view
of what that one arrives at. -/
theorem reduceTree_view {view : S → T}
    (agree : ∀ phase depth node kept,
      other phase depth node (view kept) = (treat phase depth node kept).map id view)
    (depth : Nat) (node : Node) (kept : S) :
    other.reduceTree depth node (view kept) =
      (treat.reduceTree depth node kept).map (Prod.map id view) := by
  have agreeing : Agree treat other fun kept seen => seen = view kept := by
    rintro phase depth node kept _ rfl
    rw [agree]
    exact ⟨rfl, rfl⟩
  have results := reduceTree_rel agreeing depth node (rfl : view kept = view kept)
  generalize treat.reduceTree depth node kept = result at results ⊢
  generalize other.reduceTree depth node (view kept) = seen at results ⊢
  cases results with
  | none => rfl
  | @some result seen same => exact congrArg some (Prod.ext same.1.symm same.2)

end Treatment

namespace Pass

variable {σ : Type} {pass : Pass σ}

/-! ## The loop follows the recursion -/

theorem run_of_running {walk next : Walk σ} (progress : pass.step walk = .running next) :
    pass.run walk = pass.run next := by
  rw [run, progress]

theorem run_of_finished {walk : Walk σ} {node : Node} {ledger : Ledger σ}
    (progress : pass.step walk = .finished node ledger) :
    pass.run walk = some (node, ledger) := by
  rw [run, progress]

/-- Reducing the pending children by recursion takes the loop from where they are
pending to where they are attached. -/
theorem run_of_reduceTrees :
    ∀ depth children ledger results,
      Treatment.reduceTrees pass.visit depth children ledger = some results →
      ∀ header done outer level, depth = level + 1 →
        pass.run ⟨⟨header, children, done, level⟩, outer, ledger⟩ =
          pass.run ⟨⟨header, [], results.1.reverse ++ done, level⟩, outer, results.2⟩ := by
  refine (Treatment.reduce_induction
    (fun depth child ledger result => ∀ header rest done outer level,
      depth = level + 1 →
        pass.run ⟨⟨header, child :: rest, done, level⟩, outer, ledger⟩ =
          pass.run ⟨⟨header, rest, result.1 :: done, level⟩, outer, result.2⟩)
    _ ?tree ?nil ?cons).2
  case tree =>
    rintro depth node ledger children reduced header rest done outer level rfl
    calc pass.run ⟨⟨header, node :: rest, done, level⟩, outer, ledger⟩
      _ = pass.run ⟨.start (pass.visit .enter (level + 1) node ledger).1 (level + 1),
            ⟨header, rest, done, level⟩ :: outer,
            (pass.visit .enter (level + 1) node ledger).2⟩ :=
          run_of_running (step_pending _ _ _ _ _ _ _ _)
      _ = pass.run ⟨⟨(pass.visit .enter (level + 1) node ledger).1.header, [],
            children.1.reverse ++ [], level + 1⟩, ⟨header, rest, done, level⟩ :: outer,
            children.2⟩ := reduced _ _ _ _ rfl
      _ = _ := by
        rw [run_of_running (step_attach _ _ _ _ _ _ _), List.append_nil, List.reverse_reverse]
        rfl
  case nil =>
    intro depth ledger header done outer level _
    rfl
  case cons =>
    intro depth node rest ledger first others reduced reducedRest header done outer level here
    rw [reduced header rest done outer level here, reducedRest _ _ _ _ here]
    simp

/-- What is left of a traversal, by recursion: the pending children of the
innermost open node are reduced, the node is exited, and the nodes around it
follow. -/
def resume (pass : Pass σ) (current : Branch) (outer : List Branch) (ledger : Ledger σ) :
    Option (Node × Ledger σ) := do
  let children ← Treatment.reduceTrees pass.visit (current.depth + 1) current.pending ledger
  let exited := pass.visit .exit current.depth
    (Node.mk current.header (current.reduced.reverse ++ children.1)) children.2
  match outer with
  | [] => some exited
  | parent :: above => pass.resume (parent.attach exited.1) above exited.2

/-- What is left of a traversal stays the same with every step. -/
theorem resume_of_running {walk next : Walk σ} (progress : pass.step walk = .running next) :
    pass.resume walk.current walk.outer walk.ledger =
      pass.resume next.current next.outer next.ledger := by
  obtain ⟨⟨header, pending, reduced, depth⟩, outer, ledger⟩ := walk
  cases pending with
  | cons child rest =>
      rw [step_pending] at progress
      cases progress
      rw [resume, Treatment.reduceTrees, Treatment.reduceTree]
      conv => rhs; rw [resume]
      simp only [Option.bind_eq_bind, Option.bind_assoc]
      apply Option.bind_congr
      intro children _
      -- The child is closed on both sides; its siblings come next.
      simp only [Option.pure_def, Option.bind_some, Branch.start, Branch.attach_mk,
        List.reverse_nil, List.nil_append]
      rw [resume]
      simp
  | nil =>
      cases outer with
      | nil =>
          rw [step_root] at progress
          exact nomatch progress
      | cons parent above =>
          rw [step_attach] at progress
          cases progress
          rw [resume, Treatment.reduceTrees_nil]
          simp

/-- A loop that comes to an end answers what is left of it by recursion. -/
theorem resume_of_finishes {walk : Walk σ} {node : Node} {ledger : Ledger σ}
    (finishes : pass.Finishes walk node ledger) :
    pass.resume walk.current walk.outer walk.ledger = some (node, ledger) := by
  induction finishes with
  | @now walk node ledger last =>
      obtain ⟨⟨header, pending, reduced, depth⟩, outer, kept⟩ := walk
      cases pending with
      | cons child rest => exact nomatch last
      | nil =>
          cases outer with
          | cons parent above => exact nomatch last
          | nil =>
              rw [step_root] at last
              cases last
              rw [resume, Treatment.reduceTrees_nil]
              simp
  | later first _ inductionHypothesis =>
      rw [resume_of_running first]
      exact inductionHypothesis

/-- The loop and the recursion have the same result, or none has one. -/
theorem traverse_eq_reduceTree (root : Node) (ledger : Ledger σ) :
    pass.traverse root ledger = Treatment.reduceTree pass.visit 0 root ledger := by
  rw [Treatment.reduceTree, traverse, start_eq]
  cases reduced : Treatment.reduceTrees pass.visit 1 (pass.visit .enter 0 root ledger).1.children
      (pass.visit .enter 0 root ledger).2 with
  | some children =>
      rw [Branch.start, run_of_reduceTrees 1 _ _ _ reduced _ [] [] 0 rfl,
        run_of_finished (step_root _ _ _ _ _)]
      simp
  | none =>
      cases traversed : pass.run ⟨.start (pass.visit .enter 0 root ledger).1 0, [],
          (pass.visit .enter 0 root ledger).2⟩ with
      | none => rfl
      | some result =>
          have resumed := resume_of_finishes ((run_eq_some_iff_finishes _ _ _ _).mp traversed)
          simp only [resume, Branch.start, reduced] at resumed
          exact nomatch resumed

/-- A root that is left without children is exited right after it was entered. -/
theorem traverse_of_childless {root entered : Node} {ledger after : Ledger σ}
    (enters : pass.visit .enter 0 root ledger = (entered, after))
    (childless : entered.children = []) :
    pass.traverse root ledger =
      some (pass.visit .exit 0 (Node.mk entered.header []) after) := by
  have reduced : Treatment.reduceTrees pass.visit 1 entered.children after = some ([], after) := by
    rw [childless]
    exact Treatment.reduceTrees_nil
  rw [traverse_eq_reduceTree, Treatment.reduceTree_of_children (by rw [enters]; exact reduced),
    enters]

/-- Passes of one stage whose visits agree reduce a tree to the same answer. -/
theorem reduce_rel {τ : Type} {other : Pass τ} {related : Ledger σ → Ledger τ → Prop}
    (stage : other.stage = pass.stage)
    (agree : Treatment.Agree pass.visit other.visit related) (root : Node) {ledger : Ledger σ}
    {otherLedger : Ledger τ} (relation : related ledger otherLedger) :
    Treatment.SameAnswer related (pass.reduce root ledger) (other.reduce root otherLedger) := by
  have traversals := Treatment.reduceTree_rel agree 0 root relation
  rw [← traverse_eq_reduceTree, ← traverse_eq_reduceTree] at traversals
  unfold reduce
  rw [stage]
  generalize pass.traverse root ledger = result at traversals ⊢
  generalize other.traverse root otherLedger = otherResult at traversals ⊢
  cases traversals with
  | none => exact ⟨rfl, relation⟩
  | @some result otherResult same =>
      obtain ⟨node, behind⟩ := result
      obtain ⟨_, otherBehind⟩ := otherResult
      obtain ⟨rfl, relationBehind⟩ := same
      by_cases program : node.isProgram = true
      · simp only [if_pos program]
        exact ⟨rfl, relationBehind⟩
      · simp only [if_neg program]
        exact ⟨rfl, relationBehind⟩

end Pass

end Cascade
