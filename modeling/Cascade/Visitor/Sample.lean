import Cascade.Visitor.Basic

/-!
# Sample visitors

Visitors for trying out pipelines: one that counts the nodes it enters, one that
reports a fixed diagnostic for every program, one that records a dependency, one
that warns about deep nesting, one that removes comments, one that gives nodes
another kind, and one that does nothing.
-/

namespace Cascade.Visitor

variable {σ : Type}

/-- A visitor that does nothing. -/
def plain (name : String) : Visitor σ :=
  { name }

/-- Counts the nodes that it enters; `bump` adds one to the count in the
state. -/
def counting (name : String) (bump : σ → σ) (interest : Interest := .all) : Visitor σ where
  name
  interest
  enter := fun _ node state => { node, state := bump state }

/-- Reports a diagnostic for every program that it enters. -/
def emitting (name : String) (diagnostic : Diagnostic) : Visitor σ where
  name
  interest := .kinds [.program]
  enter := fun _ node state => { node, reports := [diagnostic], state }

/-- Where a recorded dependency comes from. -/
inductive DependencySource where
  | fixed (dependency : String)
  | setting (key : String)

namespace DependencySource

/-- The dependency that a source gives for a project; a setting gives one only
if it is a string. -/
def dependency? (project : Project) : DependencySource → Option String
  | fixed dependency => some dependency
  | setting key => (project.setting? key).bind Json.Value.text?

end DependencySource

/-- Records a dependency for every program that it enters. -/
def dependency (source : DependencySource) : Visitor σ where
  name := "dependency"
  interest := .kinds [.program]
  enter := fun site node state =>
    { node, dependencies := (source.dependency? site.project).toList, state }

/-- Warns about every statement that lies deeper than the limit. -/
def depthLimit (limit : Nat) : Visitor σ where
  name := "max-depth"
  interest := .kinds [.statement]
  enter := fun site node state =>
    let warning : Diagnostic :=
      { category := "lint/max-depth", message := "nested too deeply", severity := .warning,
        location := node.span }
    { node, reports := if limit < site.depth then [warning] else [], state }

/-- Gives the nodes of one kind another one. -/
def recasting (name : String) (old new : Kind) : Visitor σ where
  name
  interest := .kinds [old]
  enter := fun _ node state => { node := node.withKind new, state }

/-- Removes the comments of every node. -/
def stripComments : Visitor σ where
  name := "strip-comments"
  enter := fun _ node state => { node := node.withComments [], state }

end Cascade.Visitor
