import Cascade.Proofs.BlueprintChoices
import Cascade.Proofs.CheckedIndices
import Cascade.Proofs.Traffic

/-!
# Caches in line with the registry

The caches of a pipeline stand in the order of the registry's stages, and nothing ever
moves one.  So the index of a stage is the index of its cache, for one resolution after
another as for any number of resolutions at the same time, and no cache is ever asked for
the key of another stage.
-/

namespace Cascade

/-! ## Caches with callers -/

/-- No use of a shared cache changes the stage that it belongs to. -/
theorem Scene.Step.stage_eq {scene next : Scene} {act : Act} (step : Scene.Step scene act next) :
    next.shared.cache.stage = scene.shared.cache.stage := by
  cases step with
  | look free fingerprint =>
      simp only [Shared.look, Cache.get]
      split <;> rfl
  | fetch free fingerprint errand => rfl
  | @start caller slot errand holds empty idle => cases errand <;> rfl
  | @finish caller slot errand answer computes allowed =>
      cases answer with
      | ok outcome =>
          simp only [Scene.shared_move, Shared.finish, Shared.halt, Shared.put]
          split <;> rfl
      | error failure => rfl
  | take holds filled => rfl
  | drop how =>
      cases how with
      | remove fingerprint =>
          simp only [Shared.drop, Cache.drop, Cache.remove]
          split <;> rfl
      | retain keep => rfl
      | clear => rfl

/-! ## Resolvers beside each other -/

/-- The stage that the place refers to. -/
def Place.stage? : Place → Option Nat
  | .looking stage => some stage
  | .fetching stage => some stage
  | .holding stage _ => some stage
  | .running effort _ => some effort.stage
  | .failing _ => none

namespace Resolver

/-- The stages that a resolver refers to: that of its place, and those whose computations
wait for it. -/
def stages (resolver : Resolver) : List Nat :=
  resolver.place.stage?.toList ++ resolver.outer.map Effort.stage

/-- All stages that a resolver refers to are below a bound. -/
def Below (bound : Nat) (resolver : Resolver) : Prop :=
  ∀ stage ∈ resolver.stages, stage < bound

variable {bound stage : Nat} {request : Request} {place : Place} {outer : List Effort}

theorem Below.here (below : Below bound ⟨request, place, outer⟩)
    (here : place.stage? = some stage) : stage < bound := by
  apply below
  simp [stages, here]

theorem Below.waiting (below : Below bound ⟨request, place, outer⟩) :
    ∀ effort ∈ outer, effort.stage < bound :=
  fun _ member => below _ (List.mem_append_right _ (List.mem_map_of_mem member))

theorem below_mk (here : ∀ stage, place.stage? = some stage → stage < bound)
    (waiting : ∀ effort ∈ outer, effort.stage < bound) : Below bound ⟨request, place, outer⟩ := by
  intro stage member
  rcases List.mem_append.mp member with own | waits
  · exact here stage (Option.mem_toList.mp own)
  · obtain ⟨effort, listed, rfl⟩ := List.mem_map.mp waits
    exact waiting effort listed

end Resolver

namespace Request

variable {bound : Nat} {outer : List Effort}

/-- Who goes on behind an outcome refers to stages that waited for it. -/
theorem below_deliver (request : Request) (lineage : List Computation)
    (waiting : ∀ effort ∈ outer, effort.stage < bound) :
    ∀ resolver, request.deliver outer lineage = some resolver → resolver.Below bound := by
  intro resolver goes
  cases outer with
  | nil => exact nomatch goes
  | cons effort rest =>
      cases goes
      apply Resolver.below_mk
      · rintro _ ⟨⟩
        exact waiting effort List.mem_cons_self
      · exact fun other member => waiting other (List.mem_cons_of_mem effort member)

/-- Who begins to compute a stage refers to this one and, if there is one, to the stage
before. -/
theorem below_begin (request : Request) {effort : Effort} (inRange : effort.stage < bound)
    (waiting : ∀ effort ∈ outer, effort.stage < bound) :
    (request.begin effort outer).Below bound := by
  unfold begin
  cases first : effort.stage with
  | zero =>
      apply Resolver.below_mk
      · rintro _ ⟨⟩
        exact inRange
      · exact waiting
  | succ before =>
      apply Resolver.below_mk
      · rintro _ ⟨⟩
        rw [first] at inRange
        exact Nat.lt_of_succ_lt inRange
      · exact List.forall_mem_cons.mpr ⟨inRange, waiting⟩

end Request

namespace Traffic

variable {σ : Type} {pipeline : Pipeline σ} {traffic later : Traffic}

/-- Beside every stage stands its cache, and resolvers refer to stages that there are. -/
structure Aligned (pipeline : Pipeline σ) (traffic : Traffic) : Prop where
  named : ∀ stage,
    (traffic.scenes stage).shared.cache.stage = pipeline.registry.stageIds[stage]?.getD ""
  inRange : ∀ caller resolver, traffic.resolvers caller = some resolver →
    resolver.Below pipeline.registry.size

namespace Aligned

theorem setScene (aligned : Aligned pipeline traffic) {stage : Nat} {act : Act} {next : Scene}
    (step : Scene.Step (traffic.scenes stage) act next) :
    Aligned pipeline (traffic.setScene stage next) where
  named := by
    intro other
    rw [scenes_setScene]
    split
    next here => rw [step.stage_eq, here, aligned.named]
    next => exact aligned.named other
  inRange := aligned.inRange

theorem setLineage (aligned : Aligned pipeline traffic) (stage : Nat) (slot : Slot)
    (lineage : List Computation) : Aligned pipeline (traffic.setLineage stage slot lineage) :=
  ⟨aligned.named, aligned.inRange⟩

theorem advance (aligned : Aligned pipeline traffic) (caller : Nat) {going : Option Resolver}
    (below : ∀ resolver, going = some resolver → resolver.Below pipeline.registry.size) :
    Aligned pipeline (traffic.advance caller going) where
  named := aligned.named
  inRange := by
    intro other resolver goes
    rw [resolvers_advance] at goes
    split at goes
    next => exact below resolver goes
    next => exact aligned.inRange other resolver goes

/-- Every step leaves the caches in line and refers to stages that there are. -/
theorem step (aligned : Aligned pipeline traffic) (step : Step pipeline traffic later) :
    Aligned pipeline later := by
  cases step with
  | arrive request enabled free inRange =>
      apply aligned.advance
      rintro _ ⟨⟩
      apply Resolver.below_mk
      · rintro _ ⟨⟩
        exact inRange
      · exact fun _ absent => nomatch absent
  | miss here looks =>
      have below := aligned.inRange _ _ here
      apply (aligned.setScene looks).advance
      rintro _ ⟨⟩
      exact below
  | hit here looks =>
      have below := aligned.inRange _ _ here
      exact (aligned.setScene looks).advance _ (Request.below_deliver _ _ below.waiting)
  | fetch here asked fetches =>
      have below := aligned.inRange _ _ here
      apply (aligned.setScene fetches).advance
      rintro _ ⟨⟩
      exact below
  | take here takes =>
      have below := aligned.inRange _ _ here
      exact (aligned.setScene takes).advance _ (Request.below_deliver _ _ below.waiting)
  | start here starts =>
      have below := aligned.inRange _ _ here
      apply (aligned.setScene starts).advance
      rintro _ ⟨⟩
      exact Request.below_begin _ (below.here rfl) below.waiting
  | finish here inRange ran finishes =>
      have below := aligned.inRange _ _ here
      apply ((aligned.setScene finishes).setLineage _ _ _).advance
      exact Request.below_deliver _ _ below.waiting
  | fail here inRange ran finishes =>
      have below := aligned.inRange _ _ here
      apply (aligned.setScene finishes).advance
      rintro _ ⟨⟩
      exact Resolver.below_mk (fun _ absent => nomatch absent) below.waiting
  | unwind here finishes =>
      have below := aligned.inRange _ _ here
      apply (aligned.setScene finishes).advance
      rintro _ ⟨⟩
      apply Resolver.below_mk
      · exact fun _ absent => nomatch absent
      · exact fun effort member => below.waiting effort (List.mem_cons_of_mem _ member)
  | leave here => exact aligned.advance _ fun _ absent => nomatch absent
  | announce dependency => exact ⟨aligned.named, aligned.inRange⟩
  | sweep listed left drops =>
      have still := aligned.setScene drops
      exact ⟨still.named, still.inRange⟩
  | clear drops =>
      have still := aligned.setScene drops
      exact ⟨still.named, still.inRange⟩

end Aligned

theorem aligned_newTraffic (pipeline : Pipeline σ) : Aligned pipeline pipeline.newTraffic where
  named := fun _ => rfl
  inRange := fun _ _ absent => nomatch absent

/-- However resolutions run beside each other, caches stay in line. -/
theorem Run.aligned (run : Run pipeline pipeline.newTraffic traffic) :
    Aligned pipeline traffic := by
  induction run with
  | idle => exact aligned_newTraffic pipeline
  | more _ step inductionHypothesis => exact inductionHypothesis.step step

/-- A stage that a resolver refers to is there, and its cache takes the key. -/
theorem Aligned.owns (aligned : Aligned pipeline traffic) {caller stage : Nat}
    {resolver : Resolver} (going : traffic.resolvers caller = some resolver)
    (refers : stage ∈ resolver.stages) :
    ∃ inRange : stage < pipeline.registry.size,
      (traffic.scenes stage).shared.cache.owns
        (resolver.request.fingerprint.inStage (pipeline.registry.stage ⟨stage, inRange⟩).id) =
          true := by
  have inRange := aligned.inRange caller resolver going stage refers
  have present := Pipeline.stage?_of_inRange inRange
  have named : (traffic.scenes stage).shared.cache.stage =
      (pipeline.registry.stage ⟨stage, inRange⟩).id := by
    rw [aligned.named, Registry.stageIds, List.getElem?_map,
      show pipeline.registry.stages[stage]? = _ from present]
    rfl
  exact ⟨inRange, Cache.owns_inStage named _⟩

end Traffic

/-! ## The whole line -/

/-- The caches of a pipeline are in line with its registry.  In every session that can be
reached, the cache at an index is that of the stage at this index, and there are as many
caches as stages.  In every history of operations no lookup of a stage or a cache by its
index and no check of a key fails.  Nor does one while resolutions run beside each
other. -/
structure Pipeline.InLine {σ : Type} (pipeline : Pipeline σ) : Prop where
  caches : ∀ session, pipeline.Reachable session → ∀ index,
    (session.memory.cache? index).map Cache.stage =
      (pipeline.registry.stage? index).map Stage.id
  histories : ∀ operations state,
    pipeline.checkedPerformAll operations (pipeline.newSession state) =
      some (pipeline.performAll operations (pipeline.newSession state))
  beside : ∀ traffic, Traffic.Run pipeline pipeline.newTraffic traffic →
    ∀ caller resolver, traffic.resolvers caller = some resolver → ∀ stage ∈ resolver.stages,
      ∃ inRange : stage < pipeline.registry.size,
        (traffic.scenes stage).shared.cache.owns
          (resolver.request.fingerprint.inStage (pipeline.registry.stage ⟨stage, inRange⟩).id) =
            true

theorem Pipeline.inLine {σ : Type} (pipeline : Pipeline σ) : pipeline.InLine where
  caches := fun _ reachable => reachable.fits.named
  histories := fun operations state =>
    checkedPerformAll_eq (fits_newSession pipeline state) operations
  beside := fun _ run _ _ going _ => run.aligned.owns going

/-- A registry can be built from choices exactly if they add a stage, add no stage twice,
and set a stage as the primary if they set any.  The registry answers by its stages, and
the caches of every pipeline with it are in line with it. -/
theorem Blueprint.build_in_line {σ : Type} (choices : List (Choice σ)) :
    ((∃ registry, (ofChoices choices).build = .ok registry) ↔
      Choice.stages choices ≠ [] ∧ ((Choice.stages choices).map Stage.id).Nodup ∧
        ∀ id, Choice.lastPrimary? choices = some id →
          id ∈ (Choice.stages choices).map Stage.id) ∧
    ∀ registry, (ofChoices choices).build = .ok registry →
      registry.Answers (Choice.stages choices) (Choice.lastPrimary? choices) ∧
        ∀ catalog cacheEnabled, (Pipeline.mk registry catalog cacheEnabled).InLine := by
  constructor
  · have buildable := build_ok_iff (ofChoices choices)
    rw [stageIds, stages_ofChoices, primary_ofChoices] at buildable
    exact buildable
  · intro registry ok
    constructor
    · have answers := (built_of_build ok).answers
      rw [stages_ofChoices, primary_ofChoices] at answers
      exact answers
    · exact fun catalog cacheEnabled => (Pipeline.mk registry catalog cacheEnabled).inLine

/-- Two stages are added, and the primary is set twice: first to a name that no stage has,
and then to that of the second stage. -/
def sampleChoices : List (Choice Unit) :=
  [.primary "missing", .stage "normalize" (.fixed []), .options ["strict"],
    .configuredStage "lint", .primary "lint"]

/-- The last primary counts. -/
theorem Blueprint.build_in_line_sample :
    ∃ registry, (ofChoices sampleChoices).build = .ok registry ∧
      registry.stageIds = ["normalize", "lint"] ∧ registry.primaryStage.id = "lint" ∧
      (∀ index, registry.indexOf (registry.stage index).id = .ok index) ∧
      registry.target (some "missing") = .error (.unknownStage "missing" ["normalize", "lint"]) ∧
      (Pipeline.mk registry Dict.empty true).InLine := by
  obtain ⟨buildable, lines⟩ := build_in_line sampleChoices
  obtain ⟨registry, ok⟩ := buildable.mpr (by decide)
  obtain ⟨answers, inLine⟩ := lines registry ok
  have ids : registry.stageIds = ["normalize", "lint"] := by
    rw [Registry.stageIds, answers.stages]
    rfl
  refine ⟨registry, ok, ids, answers.chosen "lint" rfl, answers.located, ?_, inLine _ _⟩
  rw [answers.unknown "missing" (by rw [ids]; decide), ids]

end Cascade
