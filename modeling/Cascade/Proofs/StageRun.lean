import Cascade.Pipeline

/-!
# The run of a stage

A stage makes its visitors, lets them reduce the tree that comes in, and adds what
they report to what was reported before.  Here its run is cut into these parts,
and what it adds is told as a relation between the material and the outcome.
-/

namespace Cascade

/-! ## What a stage adds -/

theorem prefix_addNew (items : List String) (item : String) : items <+: addNew items item := by
  unfold addNew
  split
  · exact List.prefix_refl items
  · exact List.prefix_append items [item]

theorem prefix_foldl_addNew (items added : List String) : items <+: added.foldl addNew items := by
  induction added generalizing items with
  | nil => exact List.prefix_refl items
  | cons item rest inductionHypothesis =>
      exact (prefix_addNew items item).trans (inductionHypothesis (addNew items item))

/-- The outcome may have been made from the material: nothing that was reported
is lost, and the suppressions are those of the tree that came in. -/
structure Outcome.Continues (outcome : Outcome) (material : Material) : Prop where
  program : outcome.tree.isProgram = true
  diagnostics : material.diagnostics <+: outcome.diagnostics
  dependencies : material.dependencies <+: outcome.dependencies
  suppressions : outcome.suppressions = material.tree.extraction.suppressions

theorem Outcome.Continues.dependsOn {outcome previous : Outcome}
    (continues : outcome.Continues previous.material) {dependency : String}
    (depends : previous.dependsOn dependency = true) : outcome.dependsOn dependency = true := by
  have member : dependency ∈ previous.dependencies := List.contains_iff_mem.mp depends
  exact List.contains_iff_mem.mpr (continues.dependencies.subset member)

namespace Pass

variable {σ : Type} {pass : Pass σ} {root reduced : Node} {ledger after : Ledger σ}

theorem reduce_of_program (traversed : pass.traverse root ledger = some (reduced, after))
    (program : reduced.isProgram = true) : pass.reduce root ledger = (.ok reduced, after) := by
  rw [reduce_of_traverse traversed, if_pos program]

end Pass

/-! ## The parts of a run -/

/-- The outcome of a stage that reduced the tree of the material. -/
def Material.outcome {σ : Type} (material : Material) (reduced : Node) (ledger : Ledger σ) :
    Outcome where
  tree := reduced
  suppressions := material.tree.extraction.suppressions
  diagnostics := material.diagnostics ++
    (ledger.diagnostics.toList ++ material.tree.extraction.diagnostics)
  dependencies := ledger.dependencies.foldl addNew material.dependencies

namespace Pipeline

variable {σ : Type}

/-- The visitors that the stage at an index makes for a request. -/
def visitorsAt (pipeline : Pipeline σ) (request : Request) (index : Fin pipeline.registry.size)
    (state : σ) : Except Failure (List (Visitor σ)) × σ :=
  match (pipeline.registry.stage index).factory request.project request.options state with
  | (specs, state) =>
      Spec.resolveAll pipeline.catalog (pipeline.registry.stage index).id specs state

/-- The pass of the stage at an index: the hooks come before its own visitors. -/
def passAt (pipeline : Pipeline σ) (request : Request) (index : Fin pipeline.registry.size)
    (visitors : List (Visitor σ)) : Pass σ :=
  ⟨(pipeline.registry.stage index).id, request.project, request.options,
    pipeline.registry.hooks ++ visitors⟩

/-- The ledger with which the pass of the stage at an index begins. -/
def openingAt (pipeline : Pipeline σ) (request : Request) (index : Fin pipeline.registry.size)
    (state : σ) : Ledger σ :=
  ⟨(pipeline.openingDiagnostics request index (pipeline.registry.stage index).id).toArray, [],
    state⟩

variable {pipeline : Pipeline σ} {request : Request} {index : Fin pipeline.registry.size}
  {material : Material} {state : σ}

theorem runStage_eq (pipeline : Pipeline σ) (request : Request)
    (index : Fin pipeline.registry.size) (material : Material) (state : σ) :
    pipeline.runStage request index material state =
      match pipeline.visitorsAt request index state with
      | (.error failure, state) => (.error failure, state)
      | (.ok visitors, state) =>
          match (pipeline.passAt request index visitors).reduce material.tree
              (pipeline.openingAt request index state) with
          | (.error failure, ledger) => (.error failure, ledger.state)
          | (.ok reduced, ledger) => (.ok (material.outcome reduced ledger), ledger.state) :=
  rfl

theorem runStage_of_rejected {failure : Failure} {after : σ}
    (rejected : pipeline.visitorsAt request index state = (.error failure, after)) :
    pipeline.runStage request index material state = (.error failure, after) := by
  rw [runStage_eq, rejected]

theorem runStage_of_failed {visitors : List (Visitor σ)} {made : σ} {failure : Failure}
    {ledger : Ledger σ} (ready : pipeline.visitorsAt request index state = (.ok visitors, made))
    (failed : (pipeline.passAt request index visitors).reduce material.tree
      (pipeline.openingAt request index made) = (.error failure, ledger)) :
    pipeline.runStage request index material state = (.error failure, ledger.state) := by
  rw [runStage_eq, ready]
  simp only [failed]

theorem runStage_of_reduced {visitors : List (Visitor σ)} {made : σ} {reduced : Node}
    {ledger : Ledger σ} (ready : pipeline.visitorsAt request index state = (.ok visitors, made))
    (ends : (pipeline.passAt request index visitors).reduce material.tree
      (pipeline.openingAt request index made) = (.ok reduced, ledger)) :
    pipeline.runStage request index material state =
      (.ok (material.outcome reduced ledger), ledger.state) := by
  rw [runStage_eq, ready]
  simp only [ends]

/-- A stage that answers an outcome reduced the tree of its material to it. -/
theorem reduced_of_runStage {outcome : Outcome} {after : σ}
    (ran : pipeline.runStage request index material state = (.ok outcome, after)) :
    ∃ visitors made reduced ledger,
      pipeline.visitorsAt request index state = (.ok visitors, made) ∧
        (pipeline.passAt request index visitors).reduce material.tree
          (pipeline.openingAt request index made) = (.ok reduced, ledger) ∧
        outcome = material.outcome reduced ledger ∧ after = ledger.state := by
  cases ready : pipeline.visitorsAt request index state with
  | mk answer made =>
      cases answer with
      | error failure => exact nomatch ran.symm.trans (runStage_of_rejected ready)
      | ok visitors =>
          cases ends : (pipeline.passAt request index visitors).reduce material.tree
              (pipeline.openingAt request index made) with
          | mk answer ledger =>
              cases answer with
              | error failure => exact nomatch ran.symm.trans (runStage_of_failed ready ends)
              | ok reduced =>
                  cases ran.symm.trans (runStage_of_reduced ready ends)
                  exact ⟨visitors, made, reduced, ledger, rfl, ends, rfl, rfl⟩

/-- A stage answers if its visitors can be made and its traversal ends in a
program. -/
theorem runStage_of_traverse {visitors : List (Visitor σ)} {made : σ} {reduced : Node}
    {ledger : Ledger σ} (ready : pipeline.visitorsAt request index state = (.ok visitors, made))
    (traversed : (pipeline.passAt request index visitors).traverse material.tree
      (pipeline.openingAt request index made) = some (reduced, ledger))
    (program : reduced.isProgram = true) :
    ∃ outcome after, pipeline.runStage request index material state = (.ok outcome, after) ∧
      outcome.tree = reduced :=
  ⟨_, _, runStage_of_reduced ready (Pass.reduce_of_program traversed program), rfl⟩

theorem runStage_continues {outcome : Outcome} {after : σ}
    (ran : pipeline.runStage request index material state = (.ok outcome, after)) :
    outcome.Continues material := by
  rcases reduced_of_runStage ran with ⟨visitors, made, reduced, ledger, _, ends, rfl, _⟩
  exact ⟨(Pass.traverse_of_reduce ends).2, List.prefix_append _ _, prefix_foldl_addNew _ _, rfl⟩

end Pipeline

end Cascade
