import Cascade.Diagnostic
import Cascade.Project.Basic
import Cascade.Tree.Node

/-!
# Visitors

A visitor handles the nodes of the kinds it is interested in: once before their
children are reduced and once after.  A handler answers the node to go on with,
what it reports, the dependencies it records, and the state that it hands to the
next call of any handler.
-/

namespace Cascade

/-- The kinds of nodes that a visitor wants to see. -/
inductive Interest where
  | all
  | kinds (list : List Kind)
deriving DecidableEq

namespace Interest

/-- Whether nodes of the given kind are wanted. -/
def includes : Interest → Kind → Bool
  | all, _ => true
  | kinds list, kind => list.contains kind

end Interest

/-- What a handler may look at beside its node.  The root lies at depth zero. -/
structure Site where
  stage : String
  project : Project
  options : Options
  depth : Nat

/-- What one call of a handler leaves behind. -/
structure Visit (σ : Type) where
  node : Node
  reports : List Diagnostic := []
  dependencies : List String := []
  state : σ

/-- A handler of nodes. -/
abbrev Handler (σ : Type) :=
  Site → Node → σ → Visit σ

/-- The handler that leaves everything as it is. -/
def Handler.idle {σ : Type} : Handler σ := fun _ node state =>
  { node, state }

/-- Whether a node is being opened or closed. -/
inductive Phase where
  | enter
  | exit
deriving DecidableEq

/-- A named pair of handlers with the kinds of nodes that they are called for. -/
structure Visitor (σ : Type) where
  name : String
  interest : Interest := .all
  enter : Handler σ := Handler.idle
  exit : Handler σ := Handler.idle

namespace Visitor

variable {σ : Type}

/-- The handler for a phase. -/
def handler (visitor : Visitor σ) : Phase → Handler σ
  | .enter => visitor.enter
  | .exit => visitor.exit

end Visitor

end Cascade
