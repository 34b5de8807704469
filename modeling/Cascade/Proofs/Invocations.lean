import Cascade.Proofs.History
import Cascade.Proofs.StageRun
import Cascade.Proofs.StructuralReduction

/-!
# Invocations

While a pipeline serves requests it calls the factories of its stages, the constructors of
its catalog and the handlers of visitors.  A traced pipeline notes each of these calls, in
their order, in a log beside the state that they share.  Otherwise it does what it would do
untraced: it gives the same answers, and leaves the same caches and the same state.
-/

namespace Cascade

/-- A call of a factory, a constructor or a handler. -/
inductive Invocation where
  | factory (stage : String)
  | constructs (id : String) (options : Options)
  | handles (stage visitor : String) (phase : Phase) (node : Node) (depth : Nat)

namespace Invocation

/-- The stage for which the call is made; a constructor is not told. -/
def stage? : Invocation → Option String
  | factory stage => some stage
  | constructs _ _ => none
  | handles stage _ _ _ _ => some stage

/-- The call is one of a handler, in the given stage. -/
def HandlesIn (stage : String) (invocation : Invocation) : Prop :=
  ∃ visitor phase node depth, invocation = handles stage visitor phase node depth

end Invocation

/-! ## Traced parts -/

namespace Dict

variable {α β : Type}

/-- The dictionary with every value replaced by what its key and it are taken to. -/
def mapEntries (act : String → α → β) (dict : Dict α) : Dict β where
  entries := dict.entries.map fun entry => (entry.1, act entry.1 entry.2)
  sorted := by
    unfold Entries.Sorted
    rw [List.pairwise_map]
    exact dict.sorted

theorem get?_mapEntries (act : String → α → β) (dict : Dict α) (key : String) :
    (dict.mapEntries act).get? key = (dict.get? key).map (act key) := by
  show (dict.entries.map fun entry => (entry.1, act entry.1 entry.2)).lookup key =
    (dict.entries.lookup key).map (act key)
  induction dict.entries with
  | nil => rfl
  | cons entry rest inductionHypothesis =>
      rw [List.map_cons, Entries.lookup_cons, Entries.lookup_cons, inductionHypothesis]
      by_cases here : key = entry.1 <;> simp [here]

end Dict

variable {σ : Type}

/-- The handler that also notes its calls. -/
def Handler.traced (name : String) (phase : Phase) (handler : Handler σ) :
    Handler (σ × List Invocation) := fun site node kept =>
  let visit := handler site node kept.1
  { node := visit.node
    reports := visit.reports
    dependencies := visit.dependencies
    state := (visit.state, kept.2 ++ [.handles site.stage name phase node site.depth]) }

/-- The visitor with traced handlers. -/
def Visitor.traced (visitor : Visitor σ) : Visitor (σ × List Invocation) where
  name := visitor.name
  interest := visitor.interest
  enter := visitor.enter.traced visitor.name .enter
  exit := visitor.exit.traced visitor.name .exit

/-- The constructor that also notes its calls, and makes traced visitors. -/
def Constructor.traced (id : String) (construct : Constructor σ) :
    Constructor (σ × List Invocation) := fun options kept =>
  ((construct options kept.1).1.map Visitor.traced,
    (construct options kept.1).2, kept.2 ++ [.constructs id options])

/-- The catalog of traced constructors. -/
def Catalog.traced (catalog : Catalog σ) : Catalog (σ × List Invocation) :=
  Dict.mapEntries Constructor.traced catalog

/-- The specification of the traced visitor. -/
def Spec.traced : Spec σ → Spec (σ × List Invocation)
  | ready visitor => ready visitor.traced
  | named id options => named id options

/-- The factory that also notes its calls, and asks for traced visitors. -/
def Factory.traced (stage : String) (factory : Factory σ) :
    Factory (σ × List Invocation) := fun project options kept =>
  ((factory project options kept.1).1.map Spec.traced,
    (factory project options kept.1).2, kept.2 ++ [.factory stage])

/-- The stage with a traced factory. -/
def Stage.traced (stage : Stage σ) : Stage (σ × List Invocation) :=
  ⟨stage.id, Factory.traced stage.id stage.factory⟩

/-- The registry of traced stages and hooks. -/
def Registry.traced (registry : Registry σ) : Registry (σ × List Invocation) where
  stages := registry.stages.map Stage.traced
  primary := registry.primary.cast (List.length_map _).symm
  hooks := registry.hooks.map Visitor.traced
  knownOptions := registry.knownOptions
  distinct := by
    rw [List.map_map]
    exact registry.distinct

/-- The pipeline of traced parts. -/
def Pipeline.traced (pipeline : Pipeline σ) : Pipeline (σ × List Invocation) where
  registry := pipeline.registry.traced
  catalog := Catalog.traced pipeline.catalog
  cacheEnabled := pipeline.cacheEnabled

/-- The pass with traced visitors. -/
def Pass.traced (pass : Pass σ) : Pass (σ × List Invocation) where
  stage := pass.stage
  project := pass.project
  options := pass.options
  visitors := pass.visitors.map Visitor.traced

/-- The session without its log. -/
def Session.untraced (session : Session (σ × List Invocation)) : Session σ :=
  ⟨session.memory, session.state.1⟩

/-! ## Traced reductions -/

open Treatment (SameAnswer)

/-- The second ledger lists the same reports as the first one and has the same state, with a
log that handlers of the stage have added to. -/
structure Ledger.Traces (log : List Invocation) (stage : String) (ledger : Ledger σ)
    (traced : Ledger (σ × List Invocation)) : Prop where
  diagnostics : traced.diagnostics = ledger.diagnostics
  dependencies : traced.dependencies = ledger.dependencies
  state : traced.state.1 = ledger.state
  log : ∃ handled, traced.state.2 = log ++ handled ∧
    ∀ invocation ∈ handled, invocation.HandlesIn stage

namespace Visitor

variable (phase : Phase) {site : Site} {log : List Invocation}

theorem call_traced (visitor : Visitor σ) (node : Node) {ledger : Ledger σ}
    {traced : Ledger (σ × List Invocation)} (same : ledger.Traces log site.stage traced) :
    SameAnswer (Ledger.Traces log site.stage) (visitor.call phase site node ledger)
      (visitor.traced.call phase site node traced) := by
  obtain ⟨diagnostics, dependencies, state⟩ := ledger
  obtain ⟨_, _, _, written⟩ := traced
  obtain ⟨rfl, rfl, rfl, handled, rfl, handles⟩ := same
  have interest : visitor.traced.interest = visitor.interest := rfl
  unfold call
  rw [interest]
  by_cases wanted : visitor.interest.includes node.kind = true
  · rw [if_pos wanted, if_pos wanted]
    have added : ∀ invocation ∈
        handled ++ [.handles site.stage visitor.name phase node site.depth],
        Invocation.HandlesIn site.stage invocation := by
      intro invocation member
      rcases List.mem_append.mp member with earlier | now
      · exact handles invocation earlier
      · rw [List.mem_singleton.mp now]
        exact ⟨_, _, _, _, rfl⟩
    cases phase <;> exact ⟨rfl, rfl, rfl, rfl, _, List.append_assoc _ _ _, added⟩
  · rw [if_neg wanted, if_neg wanted]
    exact ⟨rfl, rfl, rfl, rfl, handled, rfl, handles⟩

theorem callAll_traced (visitors : List (Visitor σ)) (node : Node) {ledger : Ledger σ}
    {traced : Ledger (σ × List Invocation)} (same : ledger.Traces log site.stage traced) :
    SameAnswer (Ledger.Traces log site.stage) (callAll phase site visitors node ledger)
      (callAll phase site (visitors.map Visitor.traced) node traced) := by
  induction visitors generalizing node ledger traced with
  | nil => exact ⟨rfl, same⟩
  | cons visitor rest inductionHypothesis =>
      obtain ⟨sameNode, sameBehind⟩ := visitor.call_traced phase node same
      rw [List.map_cons]
      unfold callAll
      simp only
      rw [← sameNode]
      exact inductionHypothesis _ sameBehind

end Visitor

theorem Pass.reduce_traced (pass : Pass σ) (root : Node) {log : List Invocation}
    {ledger : Ledger σ} {traced : Ledger (σ × List Invocation)}
    (same : ledger.Traces log pass.stage traced) :
    SameAnswer (Ledger.Traces log pass.stage) (pass.reduce root ledger)
      (pass.traced.reduce root traced) := by
  have agree : Treatment.Agree pass.visit pass.traced.visit (Ledger.Traces log pass.stage) :=
    fun phase _ node _ _ sameBefore =>
      Visitor.callAll_traced phase pass.visitors node sameBefore
  have stage : pass.traced.stage = pass.stage := rfl
  exact reduce_rel stage agree root same

/-! ## Traced specifications -/

namespace Spec

/-- The call of a constructor that a specification leads to. -/
def construction? (catalog : Catalog σ) : Spec σ → Option Invocation
  | ready _ => none
  | named id options => if catalog.contains id then some (.constructs id options) else none

/-- The calls of constructors that a list of specifications leads to. -/
def constructions (catalog : Catalog σ) (stage : String) : List (Spec σ) → σ → List Invocation
  | [], _ => []
  | spec :: rest, state =>
      (spec.construction? catalog).toList ++
        match spec.resolve catalog stage state with
        | (.error _, _) => []
        | (.ok _, state) => constructions catalog stage rest state

theorem resolve_traced (catalog : Catalog σ) (stage : String) (spec : Spec σ) (state : σ)
    (log : List Invocation) :
    spec.traced.resolve (Catalog.traced catalog) stage (state, log) =
      ((spec.resolve catalog stage state).1.map Visitor.traced,
        (spec.resolve catalog stage state).2,
        log ++ (spec.construction? catalog).toList) := by
  cases spec with
  | ready visitor => simp [traced, resolve, construction?, Except.map]
  | named id options =>
      have found : (Catalog.traced catalog).get? id =
          (catalog.get? id).map (Constructor.traced id) := Dict.get?_mapEntries _ _ _
      cases bound : catalog.get? id with
      | none => simp [traced, resolve, construction?, Dict.contains, found, bound, Except.map]
      | some construct =>
          cases constructed : construct options state with
          | mk answer after =>
              cases answer <;>
                simp [traced, resolve, construction?, Dict.contains, found, bound,
                  Constructor.traced, constructed, Except.map]

theorem resolveAll_traced (catalog : Catalog σ) (stage : String) (specs : List (Spec σ))
    (state : σ) (log : List Invocation) :
    resolveAll (Catalog.traced catalog) stage (specs.map traced) (state, log) =
      ((resolveAll catalog stage specs state).1.map (List.map Visitor.traced),
        (resolveAll catalog stage specs state).2,
        log ++ constructions catalog stage specs state) := by
  induction specs generalizing state log with
  | nil => simp [resolveAll, constructions, Except.map]
  | cons spec rest inductionHypothesis =>
      rw [List.map_cons, resolveAll, resolve_traced, resolveAll, constructions]
      cases resolved : spec.resolve catalog stage state with
      | mk answer after =>
          cases answer with
          | error failure => simp [Except.map]
          | ok visitor =>
              simp only [Except.map]
              rw [inductionHypothesis, List.append_assoc]
              cases resolveAll catalog stage rest after with
              | mk answers behind => cases answers <;> rfl

end Spec

/-! ## Traced stages -/

namespace Registry

variable (registry : Registry σ)

theorem size_traced : registry.traced.size = registry.size :=
  List.length_map _

theorem stageIds_traced : registry.traced.stageIds = registry.stageIds :=
  List.map_map

theorem stage_traced (index : Fin registry.size) :
    registry.traced.stage (index.cast registry.size_traced.symm) =
      (registry.stage index).traced := by
  have inRange : index.1 < (registry.stages.map Stage.traced).length := by
    rw [List.length_map]
    exact index.2
  exact List.getElem_map Stage.traced (h := inRange)

/-- The traced stage has the same place. -/
theorem target_traced (stage : Option String) :
    registry.traced.target stage =
      (registry.target stage).map (Fin.cast registry.size_traced.symm) := by
  cases stage with
  | none => rfl
  | some stage =>
      have found : (registry.traced.stages.findFinIdx? fun candidate =>
            candidate.id == stage).map Fin.val =
          (registry.stages.findFinIdx? fun candidate => candidate.id == stage).map Fin.val := by
        rw [← List.findIdx?_eq_map_findFinIdx?_val, ← List.findIdx?_eq_map_findFinIdx?_val,
          traced, List.findIdx?_map]
        rfl
      unfold target indexOf
      simp only
      cases tracedIndex : registry.traced.stages.findFinIdx? fun candidate =>
          candidate.id == stage with
      | none =>
          rw [tracedIndex] at found
          rw [Option.map_eq_none_iff.mp found.symm, stageIds_traced]
          rfl
      | some index =>
          rw [tracedIndex] at found
          obtain ⟨plain, plainIndex, same⟩ := Option.map_eq_some_iff.mp found.symm
          rw [plainIndex]
          exact congrArg Except.ok (Fin.ext same.symm)

end Registry

namespace Pipeline

variable (pipeline : Pipeline σ) (request : Request)

/-- The place of a stage in the traced pipeline. -/
def tracedAt (index : Fin pipeline.registry.size) : Fin pipeline.traced.registry.size :=
  index.cast pipeline.registry.size_traced.symm

theorem inRange_traced {index : Nat} (inRange : index < pipeline.registry.size) :
    index < pipeline.traced.registry.size :=
  Nat.lt_of_lt_of_eq inRange pipeline.registry.size_traced.symm

/-- The calls by which the visitors of the stage at an index are made. -/
def makingAt (index : Fin pipeline.registry.size) (state : σ) : List Invocation :=
  let stage := pipeline.registry.stage index
  let made := stage.factory request.project request.options state
  .factory stage.id :: Spec.constructions pipeline.catalog stage.id made.1 made.2

theorem visitorsAt_traced (index : Fin pipeline.registry.size) (state : σ)
    (log : List Invocation) :
    pipeline.traced.visitorsAt request (pipeline.tracedAt index) (state, log) =
      ((pipeline.visitorsAt request index state).1.map (List.map Visitor.traced),
        (pipeline.visitorsAt request index state).2,
        log ++ pipeline.makingAt request index state) := by
  have stage : pipeline.traced.registry.stage (pipeline.tracedAt index) =
      (pipeline.registry.stage index).traced := pipeline.registry.stage_traced index
  unfold visitorsAt
  rw [stage]
  refine (Spec.resolveAll_traced pipeline.catalog (pipeline.registry.stage index).id _ _
    _).trans ?_
  rw [List.append_assoc]
  rfl

theorem passAt_traced (index : Fin pipeline.registry.size) (visitors : List (Visitor σ)) :
    pipeline.traced.passAt request (pipeline.tracedAt index) (visitors.map Visitor.traced) =
      (pipeline.passAt request index visitors).traced := by
  have stage : pipeline.traced.registry.stage (pipeline.tracedAt index) =
      (pipeline.registry.stage index).traced := pipeline.registry.stage_traced index
  have visitors : pipeline.traced.registry.hooks ++ visitors.map Visitor.traced =
      (pipeline.registry.hooks ++ visitors).map Visitor.traced := List.map_append.symm
  unfold passAt
  rw [stage, visitors]
  rfl

theorem openingAt_traced (index : Fin pipeline.registry.size) (state : σ)
    (log : List Invocation) :
    Ledger.Traces log (pipeline.registry.stage index).id
      (pipeline.openingAt request index state)
      (pipeline.traced.openingAt request (pipeline.tracedAt index) (state, log)) := by
  have stage : pipeline.traced.registry.stage (pipeline.tracedAt index) =
      (pipeline.registry.stage index).traced := pipeline.registry.stage_traced index
  unfold openingAt
  rw [stage]
  exact ⟨rfl, rfl, rfl, [], (List.append_nil log).symm, fun _ absent => nomatch absent⟩

/-- A traced stage does what the stage does.  It notes the calls by which its visitors are
made and, unless one of them cannot be made, calls of its handlers. -/
theorem runStage_traced (index : Fin pipeline.registry.size) (material : Material) (state : σ)
    (log : List Invocation) :
    ∃ handled,
      pipeline.traced.runStage request (pipeline.tracedAt index) material (state, log) =
        ((pipeline.runStage request index material state).1,
          (pipeline.runStage request index material state).2,
          log ++ pipeline.makingAt request index state ++ handled) ∧
      (∀ invocation ∈ handled, invocation.HandlesIn (pipeline.registry.stage index).id) ∧
      ∀ failure, (pipeline.visitorsAt request index state).1 = .error failure → handled = [] := by
  have making := pipeline.visitorsAt_traced request index state log
  cases ready : pipeline.visitorsAt request index state with
  | mk answer made =>
      rw [ready] at making
      cases answer with
      | error failure =>
          refine ⟨[], ?_, (fun _ absent => nomatch absent), fun _ _ => rfl⟩
          rw [runStage_of_rejected ready, runStage_of_rejected making, List.append_nil]
      | ok visitors =>
          have opening := pipeline.openingAt_traced request index made
            (log ++ pipeline.makingAt request index state)
          have reductions := (pipeline.passAt request index visitors).reduce_traced
            material.tree opening
          rw [← passAt_traced] at reductions
          cases ends : (pipeline.passAt request index visitors).reduce material.tree
              (pipeline.openingAt request index made) with
          | mk answer ledger =>
              cases endsTraced : (pipeline.traced.passAt request (pipeline.tracedAt index)
                  (visitors.map Visitor.traced)).reduce material.tree
                    (pipeline.traced.openingAt request (pipeline.tracedAt index)
                      (made, log ++ pipeline.makingAt request index state)) with
              | mk answerTraced ledgerTraced =>
                  rw [ends, endsTraced] at reductions
                  obtain ⟨sameAnswer, diagnostics, dependencies, sameState, handled, written,
                    handles⟩ := reductions
                  obtain rfl : answer = answerTraced := sameAnswer
                  have state : ledgerTraced.state = (ledger.state,
                      log ++ pipeline.makingAt request index state ++ handled) :=
                    Prod.ext sameState written
                  refine ⟨handled, ?_, handles, fun _ failed => nomatch failed⟩
                  cases answer with
                  | error failure =>
                      rw [runStage_of_failed ready ends, runStage_of_failed making endsTraced,
                        state]
                  | ok reduced =>
                      have outcome : material.outcome reduced ledgerTraced =
                          material.outcome reduced ledger := by
                        rw [Material.outcome, Material.outcome, diagnostics, dependencies]
                      rw [runStage_of_reduced ready ends, runStage_of_reduced making endsTraced,
                        state, outcome]

theorem runStage_untraced (index : Fin pipeline.registry.size) (material : Material)
    (kept : σ × List Invocation) :
    (pipeline.traced.runStage request (pipeline.tracedAt index) material kept).map id Prod.fst =
      pipeline.runStage request index material kept.1 := by
  obtain ⟨handled, ran, _⟩ := pipeline.runStage_traced request index material kept.1 kept.2
  exact congrArg (Prod.map id Prod.fst) ran

end Pipeline

end Cascade
