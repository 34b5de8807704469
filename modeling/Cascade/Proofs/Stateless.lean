import Cascade.Proofs.Resolution
import Cascade.Proofs.StageRun
import Cascade.Proofs.StructuralReduction

/-!
# Answers that do not depend on the shared state

Factories, constructors and handlers hand a state on, and what they answer may
depend on it.  They are stateless if it does not: the state may still change, so
that handlers may count their calls, but nothing that a stage answers tells what
the state was.
-/

namespace Cascade

variable {σ : Type}

/-! ## Stateless parts -/

/-- The node and the reports of the handler do not depend on the state. -/
def Handler.Stateless (handler : Handler σ) : Prop :=
  ∀ site node state other,
    (handler site node state).node = (handler site node other).node ∧
      (handler site node state).reports = (handler site node other).reports ∧
      (handler site node state).dependencies = (handler site node other).dependencies

/-- Both handlers of the visitor are stateless. -/
def Visitor.Stateless (visitor : Visitor σ) : Prop :=
  ∀ phase, (visitor.handler phase).Stateless

/-- The constructor makes the same stateless visitor of the same options, or
rejects them for the same reason. -/
def Constructor.Stateless (construct : Constructor σ) : Prop :=
  ∀ options state,
    (∀ other, (construct options other).1 = (construct options state).1) ∧
      ∀ visitor, (construct options state).1 = .ok visitor → visitor.Stateless

/-- All constructors of the catalog are stateless. -/
def Catalog.Stateless (catalog : Catalog σ) : Prop :=
  ∀ id construct, catalog.get? id = some construct → Constructor.Stateless construct

/-- The specification is not a ready visitor whose answers depend on the state. -/
def Spec.Stateless (spec : Spec σ) : Prop :=
  ∀ visitor, spec = .ready visitor → visitor.Stateless

/-- The factory gives the same stateless transforms for the same project and
options. -/
def Factory.Stateless (factory : Factory σ) : Prop :=
  ∀ project options state,
    (∀ other, (factory project options other).1 = (factory project options state).1) ∧
      ∀ spec ∈ (factory project options state).1, spec.Stateless

/-- The factories of all stages and all hooks are stateless. -/
structure Registry.Stateless (registry : Registry σ) : Prop where
  factories : ∀ index, (registry.stage index).factory.Stateless
  hooks : ∀ visitor ∈ registry.hooks, visitor.Stateless

/-- Everything that the pipeline runs is stateless. -/
structure Pipeline.Stateless (pipeline : Pipeline σ) : Prop where
  registry : pipeline.registry.Stateless
  catalog : Catalog.Stateless pipeline.catalog

/-! ## Reductions -/

/-- The ledgers list the same diagnostics and dependencies. -/
def Ledger.SameReports (first second : Ledger σ) : Prop :=
  first.diagnostics = second.diagnostics ∧ first.dependencies = second.dependencies

open Treatment (SameAnswer)

theorem Visitor.call_sameAnswer {visitor : Visitor σ} (stateless : visitor.Stateless)
    (phase : Phase) (site : Site) (node : Node) {first second : Ledger σ}
    (same : first.SameReports second) :
    SameAnswer Ledger.SameReports (visitor.call phase site node first)
      (visitor.call phase site node second) := by
  obtain ⟨diagnostics, dependencies, state⟩ := first
  obtain ⟨_, _, other⟩ := second
  obtain ⟨rfl, rfl⟩ := same
  rcases stateless phase site node state other with ⟨sameNode, sameReports, sameDependencies⟩
  unfold call
  by_cases wanted : visitor.interest.includes node.kind = true
  · simp only [if_pos wanted]
    constructor
    · exact congrArg (fun answer : Node => answer.refillSpan node.span) sameNode
    constructor
    · simp only [sameReports]
    · simp only [sameDependencies]
  · simp only [if_neg wanted]
    exact ⟨rfl, rfl, rfl⟩

theorem Visitor.callAll_sameAnswer {visitors : List (Visitor σ)}
    (stateless : ∀ visitor ∈ visitors, visitor.Stateless) (phase : Phase) (site : Site)
    (node : Node) {first second : Ledger σ} (same : first.SameReports second) :
    SameAnswer Ledger.SameReports (callAll phase site visitors node first)
      (callAll phase site visitors node second) := by
  induction visitors generalizing node first second with
  | nil => exact ⟨rfl, same⟩
  | cons visitor rest inductionHypothesis =>
      obtain ⟨sameNode, sameBehind⟩ :=
        call_sameAnswer (stateless visitor List.mem_cons_self) phase site node same
      have others := fun other member => stateless other (List.mem_cons_of_mem visitor member)
      unfold callAll
      simp only
      rw [sameNode]
      exact inductionHypothesis others _ sameBehind

namespace Pass

variable {pass : Pass σ}

theorem reduce_sameAnswer (stateless : ∀ visitor ∈ pass.visitors, visitor.Stateless)
    (root : Node) {first second : Ledger σ} (same : first.SameReports second) :
    SameAnswer Ledger.SameReports (pass.reduce root first) (pass.reduce root second) := by
  have agree : Treatment.Agree pass.visit pass.visit Ledger.SameReports := by
    intro phase depth node ledger other sameBefore
    exact Visitor.callAll_sameAnswer stateless phase (pass.site depth) node sameBefore
  exact reduce_rel rfl agree root same

end Pass

/-! ## Transforms of a stage -/

theorem Spec.resolve_sameAnswer {catalog : Catalog σ} (stateless : Catalog.Stateless catalog)
    {spec : Spec σ} (ready : spec.Stateless) (stage : String) (state other : σ) :
    (spec.resolve catalog stage state).1 = (spec.resolve catalog stage other).1 ∧
      ∀ visitor, (spec.resolve catalog stage state).1 = .ok visitor → visitor.Stateless := by
  cases spec with
  | ready visitor =>
      constructor
      · rfl
      · rintro _ ⟨⟩
        exact ready visitor rfl
  | named id options =>
      cases found : catalog.get? id with
      | none =>
          simp only [resolve, found]
          exact ⟨trivial, fun visitor answered => nomatch answered⟩
      | some construct =>
          simp only [resolve, found]
          rcases stateless id construct found options state with ⟨sameAnswer, made⟩
          have same := sameAnswer other
          generalize construct options state = constructed at same made ⊢
          generalize construct options other = constructedOther at same ⊢
          obtain ⟨answer, behind⟩ := constructed
          obtain ⟨_, behindOther⟩ := constructedOther
          cases same
          cases answer with
          | error reason => exact ⟨rfl, fun visitor answered => nomatch answered⟩
          | ok visitor =>
              constructor
              · rfl
              · rintro _ ⟨⟩
                exact made visitor rfl

theorem Spec.resolveAll_sameAnswer {catalog : Catalog σ} (stateless : Catalog.Stateless catalog)
    {specs : List (Spec σ)} (ready : ∀ spec ∈ specs, spec.Stateless) (stage : String)
    (state other : σ) :
    (resolveAll catalog stage specs state).1 = (resolveAll catalog stage specs other).1 ∧
      ∀ visitors, (resolveAll catalog stage specs state).1 = .ok visitors →
        ∀ visitor ∈ visitors, visitor.Stateless := by
  induction specs generalizing state other with
  | nil =>
      constructor
      · rfl
      · rintro _ ⟨⟩ visitor member
        exact nomatch member
  | cons spec rest inductionHypothesis =>
      obtain ⟨sameFirst, statelessFirst⟩ :=
        resolve_sameAnswer stateless (ready spec List.mem_cons_self) stage state other
      have readyRest := fun other member => ready other (List.mem_cons_of_mem spec member)
      simp only [resolveAll]
      generalize spec.resolve catalog stage state = first at sameFirst statelessFirst ⊢
      generalize spec.resolve catalog stage other = firstOther at sameFirst ⊢
      obtain ⟨answer, behind⟩ := first
      obtain ⟨_, behindOther⟩ := firstOther
      cases sameFirst
      cases answer with
      | error failure => exact ⟨rfl, fun visitors answered => nomatch answered⟩
      | ok visitor =>
          rcases inductionHypothesis readyRest behind behindOther with ⟨sameRest, statelessRest⟩
          simp only
          generalize resolveAll catalog stage rest behind = others at sameRest statelessRest ⊢
          generalize resolveAll catalog stage rest behindOther = othersOther at sameRest ⊢
          obtain ⟨answers, final⟩ := others
          obtain ⟨_, finalOther⟩ := othersOther
          cases sameRest
          cases answers with
          | error failure => exact ⟨rfl, fun visitors answered => nomatch answered⟩
          | ok visitors =>
              constructor
              · rfl
              · rintro _ ⟨⟩ member listed
                rcases List.mem_cons.mp listed with rfl | there
                · exact statelessFirst _ rfl
                · exact statelessRest visitors rfl member there

/-! ## Stages -/

/-- The requests ask for the same tree to be transformed for the same project and
with the same options. -/
structure Request.SameContent (first second : Request) : Prop where
  tree : first.tree = second.tree
  options : first.options = second.options
  project : first.project = second.project

theorem Request.SameContent.refl (request : Request) : request.SameContent request :=
  ⟨rfl, rfl, rfl⟩

theorem Material.outcome_congr (material : Material) (reduced : Node) {first second : Ledger σ}
    (same : first.SameReports second) :
    material.outcome reduced first = material.outcome reduced second := by
  rw [Material.outcome, Material.outcome, same.1, same.2]

namespace Pipeline

variable {pipeline : Pipeline σ}

theorem Stateless.visitorsAt (stateless : pipeline.Stateless) {first second : Request}
    (same : first.SameContent second) (index : Fin pipeline.registry.size) (state other : σ) :
    (pipeline.visitorsAt first index state).1 = (pipeline.visitorsAt second index other).1 ∧
      ∀ visitors, (pipeline.visitorsAt first index state).1 = .ok visitors →
        ∀ visitor ∈ visitors, visitor.Stateless := by
  unfold Pipeline.visitorsAt
  rw [← same.project, ← same.options]
  obtain ⟨sameSpecs, ready⟩ :=
    stateless.registry.factories index first.project first.options state
  have specs := sameSpecs other
  generalize (pipeline.registry.stage index).factory first.project first.options state = made
    at specs ready ⊢
  generalize (pipeline.registry.stage index).factory first.project first.options other = madeOther
    at specs ⊢
  obtain ⟨listed, behind⟩ := made
  obtain ⟨_, behindOther⟩ := madeOther
  cases specs
  exact Spec.resolveAll_sameAnswer stateless.catalog ready _ behind behindOther

theorem passAt_congr {first second : Request} (same : first.SameContent second)
    (index : Fin pipeline.registry.size) (visitors : List (Visitor σ)) :
    pipeline.passAt first index visitors = pipeline.passAt second index visitors := by
  rw [passAt, passAt, same.project, same.options]

theorem openingAt_sameReports {first second : Request} (same : first.SameContent second)
    (index : Fin pipeline.registry.size) (state other : σ) :
    (pipeline.openingAt first index state).SameReports (pipeline.openingAt second index other) := by
  constructor
  · simp only [openingAt, openingDiagnostics, same.options]
  · rfl

/-- The hooks and the visitors that a stage makes are stateless. -/
theorem Stateless.passAt (stateless : pipeline.Stateless) {request : Request}
    {index : Fin pipeline.registry.size} {state : σ} {visitors : List (Visitor σ)}
    (ready : (pipeline.visitorsAt request index state).1 = .ok visitors) :
    ∀ visitor ∈ (pipeline.passAt request index visitors).visitors, visitor.Stateless := by
  intro visitor member
  rcases List.mem_append.mp member with hook | transform
  · exact stateless.registry.hooks visitor hook
  · exact (stateless.visitorsAt (.refl request) index state state).2 visitors ready visitor
      transform

/-- A stage of a stateless pipeline answers the same to requests of the same
content, whatever the state. -/
theorem Stateless.runStage (stateless : pipeline.Stateless) {first second : Request}
    (same : first.SameContent second) (index : Fin pipeline.registry.size) (material : Material)
    (state other : σ) :
    (pipeline.runStage first index material state).1 =
      (pipeline.runStage second index material other).1 := by
  obtain ⟨sameVisitors, _⟩ := stateless.visitorsAt same index state other
  have statelessPass := @Stateless.passAt _ _ stateless first index state
  rw [runStage_eq, runStage_eq]
  generalize pipeline.visitorsAt first index state = ready at sameVisitors statelessPass ⊢
  generalize pipeline.visitorsAt second index other = readyOther at sameVisitors ⊢
  obtain ⟨answer, made⟩ := ready
  obtain ⟨_, madeOther⟩ := readyOther
  cases sameVisitors
  cases answer with
  | error failure => rfl
  | ok visitors =>
      have reductions := Pass.reduce_sameAnswer (statelessPass rfl) material.tree
        (openingAt_sameReports same index made madeOther)
      simp only
      rw [← passAt_congr same]
      generalize (pipeline.passAt first index visitors).reduce material.tree
        (pipeline.openingAt first index made) = reduction at reductions ⊢
      generalize (pipeline.passAt first index visitors).reduce material.tree
        (pipeline.openingAt second index madeOther) = reductionOther at reductions ⊢
      obtain ⟨answer, ledger⟩ := reduction
      obtain ⟨_, ledgerOther⟩ := reductionOther
      obtain ⟨rfl, sameReports⟩ := reductions
      cases answer with
      | error failure => rfl
      | ok reduced =>
          exact congrArg Except.ok (Material.outcome_congr material reduced sameReports)

/-- Stages that are run afresh answer the same to requests of the same content,
whatever the state. -/
theorem Stateless.freshAt (stateless : pipeline.Stateless) {first second : Request}
    (same : first.SameContent second) (index : Nat) (inRange : index < pipeline.registry.size)
    (state other : σ) :
    (pipeline.freshAt first index inRange state).1 =
      (pipeline.freshAt second index inRange other).1 := by
  induction index with
  | zero =>
      have sameMaterial : first.material = second.material := by
        rw [Request.material, Request.material, same.tree]
      rw [Pipeline.freshAt, Pipeline.freshAt, sameMaterial]
      exact stateless.runStage same ⟨0, inRange⟩ second.material state other
  | succ index inductionHypothesis =>
      have below := inductionHypothesis (Nat.lt_of_succ_lt inRange)
      rw [Pipeline.freshAt, Pipeline.freshAt]
      generalize pipeline.freshAt first index (Nat.lt_of_succ_lt inRange) state = resolved
        at below ⊢
      generalize pipeline.freshAt second index (Nat.lt_of_succ_lt inRange) other = resolvedOther
        at below ⊢
      obtain ⟨answer, behind⟩ := resolved
      obtain ⟨_, behindOther⟩ := resolvedOther
      cases below
      cases answer with
      | error failure => rfl
      | ok previous =>
          exact stateless.runStage same ⟨index + 1, inRange⟩ previous.material behind behindOther

section Runs

variable {request : Request} {answer : Except Failure Outcome} {state after : σ}

/-- What the first stage answered once it answers in every state. -/
theorem Stateless.freshAt_of_first (stateless : pipeline.Stateless)
    {inRange : 0 < pipeline.registry.size}
    (ran : pipeline.runStage request ⟨0, inRange⟩ request.material state = (answer, after)) :
    ∀ inRange other, (pipeline.freshAt request 0 inRange other).1 = answer := by
  intro inRange other
  have answered :=
    stateless.runStage (.refl request) ⟨0, inRange⟩ request.material other state
  rw [ran] at answered
  exact answered

/-- What a stage answered once to what the stage before it answers in every state,
it answers in every state. -/
theorem Stateless.freshAt_of_next (stateless : pipeline.Stateless) {index : Nat}
    {inRange : index + 1 < pipeline.registry.size} {previous : Outcome}
    (below : ∀ inRange other, (pipeline.freshAt request index inRange other).1 = .ok previous)
    (ran : pipeline.runStage request ⟨index + 1, inRange⟩ previous.material state =
      (answer, after)) :
    ∀ inRange other, (pipeline.freshAt request (index + 1) inRange other).1 = answer := by
  intro inRange other
  rw [freshAt_succ (below (Nat.lt_of_succ_lt inRange) other),
    stateless.runStage (.refl request) ⟨index + 1, inRange⟩ previous.material _ state, ran]

end Runs

end Pipeline

end Cascade
