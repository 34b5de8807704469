import Cascade.Error
import Cascade.Tree.Walk
import Cascade.Visitor.Ledger

/-!
# Reduction of a tree

A pass takes a tree through all visitors of a stage in one traversal.  At every
node the visitors enter it in order, its children are reduced, and the visitors
exit it in order.  The traversal is a loop over the nodes that are open, so that
the depth of the tree is bounded by memory alone.

Handlers may add children as they enter a node, and visitors that do so at every
node keep the traversal going for ever.  The loop is therefore defined as a least
fixed point: a traversal has a result exactly if finitely many steps lead to its
end, and `Pass.Finishes` says so step by step.
-/

namespace Cascade

/-- One traversal by the visitors of a stage. -/
structure Pass (σ : Type) where
  stage : String
  project : Project
  options : Options
  visitors : List (Visitor σ)

/-- A node that was entered and whose children are being reduced: the children
that are still pending, and the reduced ones, newest first. -/
structure Branch where
  header : Header
  pending : List Node
  reduced : List Node
  depth : Nat

namespace Branch

/-- Opens a node that was entered at the given depth. -/
def start (node : Node) (depth : Nat) : Branch :=
  ⟨node.header, node.children, [], depth⟩

/-- The node over its reduced children. -/
def close (node : Branch) : Node :=
  Node.mk node.header node.reduced.reverse

/-- The node with one more reduced child. -/
def attach (node : Branch) (child : Node) : Branch :=
  { node with reduced := child :: node.reduced }

@[simp]
theorem attach_mk (header : Header) (pending reduced : List Node) (depth : Nat) (child : Node) :
    attach ⟨header, pending, reduced, depth⟩ child =
      ⟨header, pending, child :: reduced, depth⟩ :=
  rfl

end Branch

/-- A traversal under way: the innermost open node, the open nodes around it, and
what has been reported. -/
structure Walk (σ : Type) where
  current : Branch
  outer : List Branch
  ledger : Ledger σ

/-- What one step of a traversal leads to. -/
inductive Progress (σ : Type) where
  | running (walk : Walk σ)
  | finished (node : Node) (ledger : Ledger σ)

namespace Pass

variable {σ : Type}

/-- The site of a node at the given depth. -/
def site (pass : Pass σ) (depth : Nat) : Site :=
  ⟨pass.stage, pass.project, pass.options, depth⟩

/-- Lets the visitors enter or exit a node. -/
def visit (pass : Pass σ) (phase : Phase) (depth : Nat) (node : Node) (ledger : Ledger σ) :
    Node × Ledger σ :=
  Visitor.callAll phase (pass.site depth) pass.visitors node ledger

/-- A traversal that has entered the root. -/
def start (pass : Pass σ) (root : Node) (ledger : Ledger σ) : Walk σ :=
  match pass.visit .enter 0 root ledger with
  | (entered, ledger) => ⟨.start entered 0, [], ledger⟩

/-- One step: the next pending child is entered, or the innermost node is closed
and attached to the node around it. -/
def step (pass : Pass σ) (walk : Walk σ) : Progress σ :=
  match walk with
  | ⟨⟨header, child :: rest, reduced, depth⟩, outer, ledger⟩ =>
      match pass.visit .enter (depth + 1) child ledger with
      | (entered, ledger) =>
          .running ⟨.start entered (depth + 1), ⟨header, rest, reduced, depth⟩ :: outer, ledger⟩
  | ⟨⟨header, [], reduced, depth⟩, outer, ledger⟩ =>
      match pass.visit .exit depth (Branch.close ⟨header, [], reduced, depth⟩) ledger with
      | (node, ledger) =>
          match outer with
          | [] => .finished node ledger
          | parent :: above => .running ⟨parent.attach node, above, ledger⟩

theorem start_eq (pass : Pass σ) (root : Node) (ledger : Ledger σ) :
    pass.start root ledger =
      ⟨.start (pass.visit .enter 0 root ledger).1 0, [], (pass.visit .enter 0 root ledger).2⟩ :=
  rfl

theorem step_pending (pass : Pass σ) (header : Header) (child : Node) (rest reduced : List Node)
    (depth : Nat) (outer : List Branch) (ledger : Ledger σ) :
    pass.step ⟨⟨header, child :: rest, reduced, depth⟩, outer, ledger⟩ =
      .running ⟨.start (pass.visit .enter (depth + 1) child ledger).1 (depth + 1),
        ⟨header, rest, reduced, depth⟩ :: outer,
        (pass.visit .enter (depth + 1) child ledger).2⟩ :=
  rfl

theorem step_attach (pass : Pass σ) (header : Header) (reduced : List Node) (depth : Nat)
    (parent : Branch) (above : List Branch) (ledger : Ledger σ) :
    pass.step ⟨⟨header, [], reduced, depth⟩, parent :: above, ledger⟩ =
      .running ⟨parent.attach
          (pass.visit .exit depth (Node.mk header reduced.reverse) ledger).1,
        above, (pass.visit .exit depth (Node.mk header reduced.reverse) ledger).2⟩ :=
  rfl

theorem step_root (pass : Pass σ) (header : Header) (reduced : List Node) (depth : Nat)
    (ledger : Ledger σ) :
    pass.step ⟨⟨header, [], reduced, depth⟩, [], ledger⟩ =
      .finished (pass.visit .exit depth (Node.mk header reduced.reverse) ledger).1
        (pass.visit .exit depth (Node.mk header reduced.reverse) ledger).2 :=
  rfl

/-- Runs a traversal to its end.  There is no result if it does not come to
one. -/
def run (pass : Pass σ) (walk : Walk σ) : Option (Node × Ledger σ) :=
  match pass.step walk with
  | .finished node ledger => some (node, ledger)
  | .running walk => pass |>.run walk
partial_fixpoint

/-- The tree after a traversal, and what was reported by then. -/
def traverse (pass : Pass σ) (root : Node) (ledger : Ledger σ) : Option (Node × Ledger σ) :=
  pass.run (pass.start root ledger)

/-- The tree after a traversal.  Its root must be a program. -/
def reduce (pass : Pass σ) (root : Node) (ledger : Ledger σ) : Except Failure Node × Ledger σ :=
  match pass.traverse root ledger with
  | none => (.error (.unfinished pass.stage), ledger)
  | some (node, ledger) =>
      if node.isProgram then (.ok node, ledger)
      else (.error (.invalidRoot pass.stage node.kind), ledger)

/-- The end of a traversal tells what the reduction answers. -/
theorem reduce_of_traverse {pass : Pass σ} {root node : Node} {before after : Ledger σ}
    (ends : pass.traverse root before = some (node, after)) :
    pass.reduce root before =
      (if node.isProgram then .ok node else .error (.invalidRoot pass.stage node.kind),
        after) := by
  rw [reduce, ends]
  by_cases program : node.isProgram = true <;> simp [program]

/-- A reduction that succeeds has come to an end with a program. -/
theorem traverse_of_reduce {pass : Pass σ} {root reduced : Node} {before after : Ledger σ}
    (succeeds : pass.reduce root before = (.ok reduced, after)) :
    pass.traverse root before = some (reduced, after) ∧ reduced.isProgram = true := by
  cases ends : pass.traverse root before with
  | none =>
      rw [reduce, ends] at succeeds
      cases succeeds
  | some result =>
      rw [reduce_of_traverse ends] at succeeds
      cases program : result.1.isProgram with
      | true =>
          rw [if_pos program] at succeeds
          cases succeeds
          exact ⟨rfl, program⟩
      | false =>
          rw [if_neg (Bool.eq_false_iff.mp program)] at succeeds
          cases succeeds

/-- A reduction that fails has left another root, or does not come to an end. -/
theorem failed_cases {pass : Pass σ} {root : Node} {before : Ledger σ} {failure : Failure}
    (fails : (pass.reduce root before).1 = .error failure) :
    (pass.traverse root before = none ∧ failure = .unfinished pass.stage) ∨
      ∃ reduced after, pass.traverse root before = some (reduced, after) ∧
        reduced.isProgram = false ∧ failure = .invalidRoot pass.stage reduced.kind := by
  cases ends : pass.traverse root before with
  | none =>
      rw [reduce, ends] at fails
      cases fails
      exact .inl ⟨rfl, rfl⟩
  | some result =>
      rw [reduce_of_traverse ends] at fails
      cases program : result.1.isProgram with
      | true =>
          rw [if_pos program] at fails
          cases fails
      | false =>
          rw [if_neg (Bool.eq_false_iff.mp program)] at fails
          cases fails
          exact .inr ⟨_, _, rfl, program, rfl⟩

/-! ## Ends of traversals -/

/-- Finitely many steps take a traversal to its end, with the given tree and
ledger. -/
inductive Finishes (pass : Pass σ) : Walk σ → Node → Ledger σ → Prop where
  | now {walk : Walk σ} {node : Node} {ledger : Ledger σ}
      (last : pass.step walk = .finished node ledger) : Finishes pass walk node ledger
  | later {walk next : Walk σ} {node : Node} {ledger : Ledger σ}
      (first : pass.step walk = .running next) (rest : Finishes pass next node ledger) :
      Finishes pass walk node ledger

/-- A run has a result exactly if finitely many steps lead to it. -/
theorem run_eq_some_iff_finishes (pass : Pass σ) (walk : Walk σ) (node : Node)
    (ledger : Ledger σ) :
    pass.run walk = some (node, ledger) ↔ pass.Finishes walk node ledger := by
  constructor
  · refine run.partial_correctness pass (fun walk result => pass.Finishes walk result.1 result.2)
      ?_ walk (node, ledger)
    intro run inductionHypothesis walk result finished
    cases progress : pass.step walk with
    | finished node ledger =>
        rw [progress] at finished
        cases finished
        exact .now progress
    | running next =>
        rw [progress] at finished
        exact .later progress (inductionHypothesis next result finished)
  · intro finishes
    induction finishes with
    | now last => rw [run, last]
    | later first _ inductionHypothesis => rw [run, first]; exact inductionHypothesis

end Pass

end Cascade
