import Cascade.Proofs.StageRun

/-!
# How outcomes come about

An outcome was made by its stage from the outcome of the stage before, and so on down to
the first stage, which worked on the tree of a request.  The stages need not have been run
for the same request, nor in one resolution: what was made for one request may be built on
for another one with the same fingerprint.
-/

namespace Cascade.Pipeline

variable {σ : Type}

/-- Outcomes of the first stages, the latest one first, were made one from another, each
by its stage run for one of the requests that were asked.  The first stage was run for
`first`. -/
inductive Derives (pipeline : Pipeline σ) (asked : Request → Prop) (first : Request) :
    List Outcome → Prop where
  | first {stage : Fin pipeline.registry.size} {state after : σ} {outcome : Outcome}
      (bottom : stage.1 = 0) (member : asked first)
      (ran : pipeline.runStage first stage first.material state = (.ok outcome, after)) :
      Derives pipeline asked first [outcome]
  | next {stage : Fin pipeline.registry.size} {request : Request} {state after : σ}
      {outcome source : Outcome} {earlier : List Outcome} (above : stage.1 = earlier.length + 1)
      (below : Derives pipeline asked first (source :: earlier)) (member : asked request)
      (ran : pipeline.runStage request stage source.material state = (.ok outcome, after)) :
      Derives pipeline asked first (outcome :: source :: earlier)

namespace Derives

variable {pipeline : Pipeline σ} {asked : Request → Prop} {first : Request}
  {outcomes : List Outcome}

theorem asked_first (derives : pipeline.Derives asked first outcomes) : asked first := by
  induction derives with
  | first _ member _ => exact member
  | next _ _ _ _ inductionHypothesis => exact inductionHypothesis

/-- The trees of all outcomes are programs. -/
theorem programs (derives : pipeline.Derives asked first outcomes) :
    ∀ outcome ∈ outcomes, outcome.tree.isProgram = true := by
  induction derives with
  | first _ _ ran =>
      intro outcome listed
      rw [List.mem_singleton.mp listed]
      exact (runStage_continues ran).program
  | next _ _ _ ran inductionHypothesis =>
      intro outcome listed
      rcases List.mem_cons.mp listed with rfl | before
      · exact (runStage_continues ran).program
      · exact inductionHypothesis outcome before

/-- An outcome depends on everything that the ones it was made from depend on. -/
theorem dependsOn {outcome : Outcome} {sources : List Outcome}
    (derives : pipeline.Derives asked first (outcome :: sources)) {dependency : String}
    {source : Outcome} (listed : source ∈ sources)
    (depends : source.dependsOn dependency = true) : outcome.dependsOn dependency = true := by
  induction sources generalizing outcome with
  | nil => exact nomatch listed
  | cons previous earlier inductionHypothesis =>
      cases derives with
      | next _ below _ ran =>
          apply (runStage_continues ran).dependsOn
          rcases List.mem_cons.mp listed with rfl | before
          · exact depends
          · exact inductionHypothesis below before

end Derives

end Cascade.Pipeline
