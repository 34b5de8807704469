import Cascade.Visitor.Basic

/-!
# Ledgers

What the visitors of a stage report while they run: diagnostics in the order in
which they are reported, dependencies in the order in which they are first
recorded, and the state that the handlers hand on.
-/

namespace Cascade

/-- The list with an item added at its end, unless it holds the item already. -/
def addNew (items : List String) (item : String) : List String :=
  if items.contains item then items else items ++ [item]

/-- What has been reported so far. -/
structure Ledger (σ : Type) where
  diagnostics : Array Diagnostic := #[]
  dependencies : List String := []
  state : σ

namespace Diagnostic

/-- The diagnostic with an origin for the case that it has none. -/
def withDefaultOrigin (diagnostic : Diagnostic) (origin : Origin) : Diagnostic :=
  match diagnostic.origin with
  | none => { diagnostic with origin := some origin }
  | some _ => diagnostic

end Diagnostic

/-- The origin of what a visitor of a stage reports. -/
def Origin.ofVisitor (stage visitor : String) : Origin where
  category := "transform"
  stage := some stage
  visitor := some visitor

namespace Node

/-- The node with the given span in place of an absent one. -/
def refillSpan (node : Node) (span : Option Span) : Node :=
  match node.span with
  | none => node.withSpan span
  | some _ => node

end Node

namespace Visitor

variable {σ : Type}

/-- Calls the handler of a visitor on a node, if the node is of a kind that the
visitor wants.  A span that the handler dropped is refilled, and reports without
an origin get the visitor's. -/
def call (visitor : Visitor σ) (phase : Phase) (site : Site) (node : Node) (ledger : Ledger σ) :
    Node × Ledger σ :=
  if visitor.interest.includes node.kind then
    match ledger with
    | ⟨diagnostics, dependencies, state⟩ =>
        match visitor.handler phase site node state with
        | ⟨answer, reports, recorded, state⟩ =>
            let origin := Origin.ofVisitor site.stage visitor.name
            let reported := reports.map fun report => report.withDefaultOrigin origin
            (answer.refillSpan node.span,
              ⟨diagnostics ++ reported, recorded.foldl addNew dependencies, state⟩)
  else (node, ledger)

/-- Calls the handlers of all visitors on a node in order, each on the node that
the one before it left. -/
def callAll (phase : Phase) (site : Site) :
    List (Visitor σ) → Node → Ledger σ → Node × Ledger σ
  | [], node, ledger => (node, ledger)
  | visitor :: rest, node, ledger =>
      match visitor.call phase site node ledger with
      | (node, ledger) => callAll phase site rest node ledger

end Visitor

end Cascade
