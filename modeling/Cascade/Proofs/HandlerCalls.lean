import Cascade.Proofs.StructuralReduction

/-!
# Calls of handlers

What a reduction leaves behind, spelled out by recursion on the tree: at every
node the visitors take their turns in list order, each of them only if the node
is of a kind that it wants by then, and every call of a handler is noted.

Visitors that log their calls show that the loop makes the same calls with the
same nodes at the same depths in the same order.
-/

namespace Cascade

/-- A call of a handler: the place of its visitor in the list, the phase, and the
node and the depth that it is called with. -/
structure Call where
  visitor : Nat
  phase : Phase
  node : Node
  depth : Nat

/-- What visitors leave behind, with the calls of their handlers. -/
structure Record (σ : Type) where
  diagnostics : List Diagnostic
  dependencies : List String
  state : σ
  calls : List Call := []

namespace Record

variable {σ : Type}

/-- A record without calls. -/
def ofLedger (ledger : Ledger σ) : Record σ :=
  { diagnostics := ledger.diagnostics.toList, dependencies := ledger.dependencies,
    state := ledger.state }

/-- The record without its calls. -/
def ledger (record : Record σ) : Ledger σ :=
  ⟨record.diagnostics.toArray, record.dependencies, record.state⟩

/-- The record with its calls as a part of the state. -/
def loggedLedger (record : Record σ) : Ledger (σ × List Call) :=
  ⟨record.diagnostics.toArray, record.dependencies, (record.state, record.calls)⟩

end Record

namespace Visitor

variable {σ : Type}

/-- The turn of a visitor at a node.  If the node is of a kind that the visitor
wants, its handler is called and the call is noted; a missing span is refilled,
and reports without an origin get the visitor's. -/
def turn (phase : Phase) (site : Site) (held : Node × Record σ) (entry : Visitor σ × Nat) :
    Node × Record σ :=
  if entry.1.interest.includes held.1.kind then
    let visit := entry.1.handler phase site held.1 held.2.state
    let origin := Origin.ofVisitor site.stage entry.1.name
    (visit.node.withSpan (visit.node.span.or held.1.span),
      { diagnostics :=
          held.2.diagnostics ++ visit.reports.map fun report => report.withDefaultOrigin origin
        dependencies := visit.dependencies.foldl addNew held.2.dependencies
        state := visit.state
        calls := held.2.calls ++ [⟨entry.2, phase, held.1, site.depth⟩] })
  else held

/-- The visitor that also appends every call of its handlers to a log, under the
given place. -/
def logged (visitor : Visitor σ) (place : Nat) : Visitor (σ × List Call) where
  name := visitor.name
  interest := visitor.interest
  enter := fun site node (state, calls) =>
    let visit := visitor.enter site node state
    ⟨visit.node, visit.reports, visit.dependencies,
      (visit.state, calls ++ [⟨place, .enter, node, site.depth⟩])⟩
  exit := fun site node (state, calls) =>
    let visit := visitor.exit site node state
    ⟨visit.node, visit.reports, visit.dependencies,
      (visit.state, calls ++ [⟨place, .exit, node, site.depth⟩])⟩

end Visitor

namespace Pass

variable {σ : Type}

/-- The turns of all visitors at a node, in list order. -/
def turns (pass : Pass σ) : Treatment (Record σ) := fun phase depth node record =>
  pass.visitors.zipIdx.foldl (Visitor.turn phase (pass.site depth)) (node, record)

/-- The pass whose visitors log the calls of their handlers. -/
def logged (pass : Pass σ) : Pass (σ × List Call) where
  stage := pass.stage
  project := pass.project
  options := pass.options
  visitors := pass.visitors.zipIdx.map fun entry => entry.1.logged entry.2

/-- The tree and the record of a reduction by recursion from the root. -/
def recursive (pass : Pass σ) (root : Node) (ledger : Ledger σ) : Option (Node × Record σ) :=
  pass.turns.reduceTree 0 root (.ofLedger ledger)

end Pass

/-! ## Turns are calls -/

namespace Node

theorem withSpan_span (node : Node) : node.withSpan node.span = node := by
  cases node
  rfl

theorem refillSpan_eq (node : Node) (span : Option Span) :
    node.refillSpan span = node.withSpan (node.span.or span) := by
  cases given : node.span with
  | none => simp [refillSpan, given]
  | some own =>
      rw [Option.some_or, ← given, withSpan_span]
      simp [refillSpan, given]

end Node

namespace Visitor

variable {σ τ : Type} {phase : Phase} {site : Site}

/-- A turn is a call of the visitor, if the calls noted are disregarded. -/
theorem call_ledger (held : Node × Record σ) (entry : Visitor σ × Nat) :
    entry.1.call phase site held.1 held.2.ledger =
      (turn phase site held entry).map id Record.ledger := by
  by_cases wanted : entry.1.interest.includes held.1.kind = true
  · simp [call, turn, wanted, Record.ledger, Node.refillSpan_eq]
  · rw [call, if_neg wanted, turn, if_neg wanted]
    rfl

/-- A turn is a call of the logging visitor. -/
theorem call_loggedLedger (held : Node × Record σ) (entry : Visitor σ × Nat) :
    (entry.1.logged entry.2).call phase site held.1 held.2.loggedLedger =
      (turn phase site held entry).map id Record.loggedLedger := by
  have interest : (entry.1.logged entry.2).interest = entry.1.interest := rfl
  by_cases wanted : entry.1.interest.includes held.1.kind = true
  · cases phase <;>
      simp [call, turn, logged, handler, wanted, Record.loggedLedger, Node.refillSpan_eq]
  · rw [call, interest, if_neg wanted, turn, if_neg wanted]
    rfl

/-- Acts in list order are calls in list order, if each of them is a call in view of
what is kept. -/
theorem callAll_of_call {E S : Type} {act : Node × S → E → Node × S} (make : E → Visitor τ)
    (view : S → Ledger τ)
    (single : ∀ held entry,
      (make entry).call phase site held.1 (view held.2) = (act held entry).map id view)
    (entries : List E) (held : Node × S) :
    callAll phase site (entries.map make) held.1 (view held.2) =
      (entries.foldl act held).map id view := by
  induction entries generalizing held with
  | nil => rfl
  | cons entry rest inductionHypothesis =>
      rw [List.map_cons, callAll, single, List.foldl_cons]
      exact inductionHypothesis (act held entry)

end Visitor

namespace Pass

variable {σ : Type}

theorem visit_ledger (pass : Pass σ) (phase : Phase) (depth : Nat) (node : Node)
    (record : Record σ) :
    pass.visit phase depth node record.ledger =
      (pass.turns phase depth node record).map id Record.ledger := by
  have visitors : pass.visitors.zipIdx.map Prod.fst = pass.visitors := List.zipIdx_map_fst 0 _
  unfold visit turns
  conv => lhs; rw [← visitors]
  exact Visitor.callAll_of_call Prod.fst Record.ledger Visitor.call_ledger pass.visitors.zipIdx
    (node, record)

theorem visit_loggedLedger (pass : Pass σ) (phase : Phase) (depth : Nat) (node : Node)
    (record : Record σ) :
    pass.logged.visit phase depth node record.loggedLedger =
      (pass.turns phase depth node record).map id Record.loggedLedger :=
  Visitor.callAll_of_call (fun entry : Visitor σ × Nat => entry.1.logged entry.2)
    Record.loggedLedger Visitor.call_loggedLedger pass.visitors.zipIdx (node, record)

/-! ## The loop and the recursion -/

theorem traverse_eq_recursive (pass : Pass σ) (root : Node) (ledger : Ledger σ) :
    pass.traverse root ledger =
      (pass.recursive root ledger).map (Prod.map id Record.ledger) := by
  rw [traverse_eq_reduceTree]
  exact Treatment.reduceTree_view pass.visit_ledger 0 root (.ofLedger ledger)

theorem traverse_logged_eq_recursive (pass : Pass σ) (root : Node) (ledger : Ledger σ) :
    pass.logged.traverse root ⟨ledger.diagnostics, ledger.dependencies, (ledger.state, [])⟩ =
      (pass.recursive root ledger).map (Prod.map id Record.loggedLedger) := by
  rw [traverse_eq_reduceTree]
  exact Treatment.reduceTree_view pass.visit_loggedLedger 0 root (.ofLedger ledger)

/-- A recursion that comes to an end tells what the reduction answers. -/
theorem reduce_of_recursive {pass : Pass σ} {root node : Node} {ledger : Ledger σ}
    {record : Record σ} (reduced : pass.recursive root ledger = some (node, record)) :
    pass.reduce root ledger =
      (if node.kind = .program then .ok node
        else .error (.invalidRoot pass.stage node.kind), record.ledger) := by
  have ends : pass.traverse root ledger = some (node, record.ledger) := by
    rw [traverse_eq_recursive, reduced]
    rfl
  rw [reduce_of_traverse ends]
  by_cases program : node.kind = .program <;> simp [Node.isProgram, program]

/-- The loop arrives at the tree and the record of the recursion, with the same
calls of handlers in the same order, or neither comes to an end.  A reduction
that comes to an end fails exactly if its root is not a program then. -/
theorem reduction_eq_recursive (pass : Pass σ) (root : Node) (ledger : Ledger σ) :
    pass.traverse root ledger =
        (pass.recursive root ledger).map (Prod.map id Record.ledger) ∧
      pass.logged.traverse root ⟨ledger.diagnostics, ledger.dependencies, (ledger.state, [])⟩ =
        (pass.recursive root ledger).map (Prod.map id Record.loggedLedger) ∧
      (∀ node record, pass.recursive root ledger = some (node, record) →
        pass.reduce root ledger =
          (if node.kind = .program then .ok node
            else .error (.invalidRoot pass.stage node.kind), record.ledger)) ∧
      ∀ stage kind, (pass.reduce root ledger).1 = .error (.invalidRoot stage kind) ↔
        ∃ node record, pass.recursive root ledger = some (node, record) ∧
          node.kind ≠ .program ∧ stage = pass.stage ∧ kind = node.kind := by
  refine ⟨pass.traverse_eq_recursive root ledger, pass.traverse_logged_eq_recursive root ledger,
    fun _ _ => reduce_of_recursive, fun stage kind => ?_⟩
  constructor
  · intro failed
    cases reduced : pass.recursive root ledger with
    | none =>
        rw [reduce, traverse_eq_recursive, reduced] at failed
        cases failed
    | some result =>
        rw [reduce_of_recursive reduced] at failed
        by_cases program : result.1.kind = .program
        · simp [program] at failed
        · simp only [if_neg program, Except.error.injEq, Failure.invalidRoot.injEq] at failed
          exact ⟨_, _, rfl, program, failed.1.symm, failed.2.symm⟩
  · rintro ⟨node, record, reduced, program, rfl, rfl⟩
    rw [reduce_of_recursive reduced, if_neg program]

end Pass

end Cascade
