import Cascade.Proofs.HandlerCalls

/-!
# What the handlers report

The ledger of a pass only tells what all handlers reported together: origins are
filled in, and dependencies that are recorded again leave no trace.  Here the
reduction is told by recursion on the tree with minutes, which list what every call
of a handler reported, as it was reported.

The ledger that the loop arrives at is what the minutes come to.
-/

namespace Cascade

/-- What one call of a handler of the named visitor reported and recorded. -/
structure Report where
  visitor : String
  diagnostics : List Diagnostic
  dependencies : List String

/-- The reports of the calls made so far, in their order, and the state that the
handlers hand on. -/
structure Minutes (σ : Type) where
  state : σ
  reports : List Report := []

namespace Report

/-- The diagnostics of a report in a stage, each with its own origin or else that of
the visitor. -/
def attributed (stage : String) (report : Report) : List Diagnostic :=
  report.diagnostics.map fun diagnostic =>
    { diagnostic with
      origin := some (diagnostic.origin.getD (Origin.ofVisitor stage report.visitor)) }

end Report

namespace Minutes

variable {σ : Type}

/-- What the minutes of a stage come to behind the diagnostics with which it
began. -/
def ledger (stage : String) (opening : List Diagnostic) (minutes : Minutes σ) : Ledger σ where
  diagnostics := (opening ++ minutes.reports.flatMap (Report.attributed stage)).toArray
  dependencies := (minutes.reports.flatMap Report.dependencies).foldl addNew []
  state := minutes.state

end Minutes

namespace Visitor

variable {σ : Type}

/-- The turn of a visitor at a node, with its report taken down. -/
def minuted (phase : Phase) (site : Site) (held : Node × Minutes σ) (visitor : Visitor σ) :
    Node × Minutes σ :=
  if visitor.interest.includes held.1.kind then
    let visit := visitor.handler phase site held.1 held.2.state
    (visit.node.withSpan (visit.node.span.or held.1.span),
      { state := visit.state
        reports := held.2.reports ++ [⟨visitor.name, visit.reports, visit.dependencies⟩] })
  else held

end Visitor

namespace Pass

variable {σ : Type}

/-- The turns of all visitors at a node, in list order. -/
def minuted (pass : Pass σ) : Treatment (Minutes σ) := fun phase depth node minutes =>
  pass.visitors.foldl (Visitor.minuted phase (pass.site depth)) (node, minutes)

/-- The tree and the minutes of a reduction by recursion from the root. -/
def minutes (pass : Pass σ) (root : Node) (state : σ) : Option (Node × Minutes σ) :=
  pass.minuted.reduceTree 0 root { state }

end Pass

/-! ## Minutes come to ledgers -/

theorem Diagnostic.withDefaultOrigin_eq (diagnostic : Diagnostic) (origin : Origin) :
    diagnostic.withDefaultOrigin origin =
      { diagnostic with origin := some (diagnostic.origin.getD origin) } := by
  obtain ⟨_, _, _, _, own, _⟩ := diagnostic
  cases own <;> rfl

namespace Visitor

variable {σ : Type} {phase : Phase} {site : Site}

/-- A call of a visitor adds to the ledger what its report comes to. -/
theorem call_ledger_minuted (opening : List Diagnostic) (held : Node × Minutes σ)
    (visitor : Visitor σ) :
    visitor.call phase site held.1 (held.2.ledger site.stage opening) =
      (minuted phase site held visitor).map id (Minutes.ledger site.stage opening) := by
  by_cases wanted : visitor.interest.includes held.1.kind = true
  · simp [call, minuted, wanted, Minutes.ledger, Report.attributed, Node.refillSpan_eq,
      Diagnostic.withDefaultOrigin_eq]
  · rw [call, if_neg wanted, minuted, if_neg wanted]
    rfl

end Visitor

namespace Pass

variable {σ : Type} {pass : Pass σ}

theorem visit_ledger_minuted (pass : Pass σ) (opening : List Diagnostic) (phase : Phase)
    (depth : Nat) (node : Node) (minutes : Minutes σ) :
    pass.visit phase depth node (minutes.ledger pass.stage opening) =
      (pass.minuted phase depth node minutes).map id (Minutes.ledger pass.stage opening) := by
  have called := Visitor.callAll_of_call id (Minutes.ledger pass.stage opening)
    (@Visitor.call_ledger_minuted _ phase (pass.site depth) opening) pass.visitors (node, minutes)
  rwa [List.map_id] at called

/-- The ledger of a traversal is what the minutes come to, or neither comes to an
end. -/
theorem traverse_eq_minutes (pass : Pass σ) (opening : List Diagnostic) (root : Node)
    (state : σ) :
    pass.traverse root ⟨opening.toArray, [], state⟩ =
      (pass.minutes root state).map (Prod.map id (Minutes.ledger pass.stage opening)) := by
  have started : (⟨opening.toArray, [], state⟩ : Ledger σ) =
      Minutes.ledger pass.stage opening { state } := by
    simp [Minutes.ledger]
  rw [traverse_eq_reduceTree, started]
  exact Treatment.reduceTree_view (pass.visit_ledger_minuted opening) 0 root { state }

/-- A reduction that succeeds has minutes, which its ledger is made of. -/
theorem minutes_of_reduce {opening : List Diagnostic} {root reduced : Node} {state : σ}
    {ledger : Ledger σ}
    (ends : pass.reduce root ⟨opening.toArray, [], state⟩ = (.ok reduced, ledger)) :
    ∃ minutes, pass.minutes root state = some (reduced, minutes) ∧
      ledger = minutes.ledger pass.stage opening := by
  obtain ⟨traversed, _⟩ := traverse_of_reduce ends
  rw [traverse_eq_minutes] at traversed
  obtain ⟨⟨_, minutes⟩, heard, same⟩ := Option.map_eq_some_iff.mp traversed
  cases same
  exact ⟨minutes, heard, rfl⟩

end Pass

end Cascade
