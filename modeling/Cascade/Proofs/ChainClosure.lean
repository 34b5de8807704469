import Cascade.Proofs.History
import Cascade.Proofs.StageRun
import Cascade.Proofs.StructuralReduction
import Cascade.Visitor.Sample

/-!
# Closed chains of outcomes

A stage works on the outcome of the stage before it, and adds what it reports
behind what was reported there.  Outcomes are stored only behind those that they
were made from, and depend on everything that these depend on.  So no history of
a pipeline leaves an outcome in a cache whose source is gone: the stages that hold
an outcome for a fingerprint are always the first ones.
-/

namespace Cascade

/-! ## Closed caches -/

/-- Every outcome has a program for its tree, and unless it belongs to the first
stage the one that it was made from is held too. -/
structure Memory.Closed (memory : Memory) : Prop where
  program : memory.Every fun _ _ outcome => outcome.tree.isProgram = true
  source : ∀ {index fingerprint outcome}, memory.held? (index + 1) fingerprint = some outcome →
    ∃ previous, memory.held? index fingerprint = some previous ∧
      outcome.Continues previous.material

namespace Memory.Closed

variable {memory : Memory} {fingerprint : Fingerprint}

theorem of_empty (empty : ∀ index fingerprint, memory.held? index fingerprint = none) :
    memory.Closed :=
  ⟨every_of_empty empty, fun held => nomatch (empty _ _).symm.trans held⟩

/-- Caches that hold the same as closed ones are closed. -/
theorem congr (closed : memory.Closed) {other : Memory}
    (same : ∀ index fingerprint, other.held? index fingerprint = memory.held? index fingerprint) :
    other.Closed := by
  constructor
  · exact closed.program.congr same
  · intro index fingerprint outcome held
    rw [same] at held ⊢
    exact closed.source held

theorem hit (closed : memory.Closed) (index : Nat) : (memory.hit index).Closed :=
  closed.congr (held?_hit memory index)

theorem miss (closed : memory.Closed) (index : Nat) (fingerprint : Fingerprint) :
    (memory.miss index fingerprint).Closed :=
  closed.congr fun other => held?_miss memory index other fingerprint

/-- An outcome may be stored where the one that it was made from is held. -/
theorem store (closed : memory.Closed) {index : Nat} {outcome : Outcome}
    (missing : memory.held? index fingerprint = none) (program : outcome.tree.isProgram = true)
    (source : ∀ below, index = below + 1 → ∃ previous,
      memory.held? below fingerprint = some previous ∧ outcome.Continues previous.material) :
    (memory.store index fingerprint outcome).Closed := by
  constructor
  · exact closed.program.store missing program
  · intro other given found held
    have sourceBefore : ∃ previous, memory.held? other given = some previous ∧
        found.Continues previous.material := by
      rcases held_or_stored missing held with before | ⟨sameIndex, sameFingerprint, here⟩
      · exact closed.source before
      · rw [sameFingerprint, here]
        exact source other sameIndex.symm
    rcases sourceBefore with ⟨previous, heldBefore, continues⟩
    exact ⟨previous, held?_store_of_held outcome missing heldBefore, continues⟩

/-- What is dropped with a dependency takes along everything made from it. -/
theorem forget (closed : memory.Closed) (dependency : String) :
    (memory.forget dependency).2.Closed := by
  constructor
  · exact closed.program.forget dependency
  · intro index fingerprint outcome held
    rw [held?_forget] at held
    rcases Option.filter_eq_some_iff.mp held with ⟨before, independent⟩
    rcases closed.source before with ⟨previous, heldBefore, continues⟩
    have independentBefore : previous.dependsOn dependency = false := by
      rw [Bool.not_eq_true'] at independent
      apply Bool.eq_false_iff.mpr
      intro depends
      exact Bool.eq_false_iff.mp independent (continues.dependsOn depends)
    have spared : (memory.forget dependency).2.held? index fingerprint = some previous := by
      rw [held?_forget, heldBefore]
      simp [independentBefore]
    exact ⟨previous, spared, continues⟩

/-- What is held for a later stage is held for every stage before it. -/
theorem held_before (closed : memory.Closed) {index later : Nat} {outcome : Outcome}
    (before : index ≤ later) (held : memory.held? later fingerprint = some outcome) :
    ∃ source, memory.held? index fingerprint = some source := by
  induction before generalizing outcome with
  | refl => exact ⟨outcome, held⟩
  | step _ inductionHypothesis =>
      rcases closed.source held with ⟨previous, heldBefore, _⟩
      exact inductionHypothesis heldBefore

/-- Below any bound, the stages that hold an outcome are the first ones. -/
theorem first_stages (closed : memory.Closed) (fingerprint : Fingerprint) (bound : Nat) :
    ∃ count ≤ bound, ∀ index < bound,
      (memory.held? index fingerprint).isSome ↔ index < count := by
  induction bound with
  | zero => exact ⟨0, Nat.le_refl 0, fun index below => absurd below (Nat.not_lt_zero index)⟩
  | succ bound inductionHypothesis =>
      obtain ⟨count, inBound, first⟩ := inductionHypothesis
      cases held : memory.held? bound fingerprint with
      | some outcome =>
          refine ⟨bound + 1, Nat.le_refl _, fun index below => ?_⟩
          rcases closed.held_before (Nat.le_of_lt_succ below) held with ⟨source, heldBefore⟩
          simp [heldBefore, below]
      | none =>
          refine ⟨count, Nat.le_succ_of_le inBound, fun index below => ?_⟩
          rcases Nat.lt_or_eq_of_le (Nat.le_of_lt_succ below) with earlier | rfl
          · exact first index earlier
          · simp [held, inBound]

theorem initial_segment (closed : memory.Closed) (fingerprint : Fingerprint) :
    ∃ count ≤ memory.stages.length, ∀ index,
      (memory.held? index fingerprint).isSome ↔ index < count := by
  rcases closed.first_stages fingerprint memory.stages.length with ⟨count, inRange, first⟩
  refine ⟨count, inRange, fun index => ?_⟩
  by_cases below : index < memory.stages.length
  · exact first index below
  · constructor
    · intro held
      rcases Option.isSome_iff_exists.mp held with ⟨outcome, heldHere⟩
      exact absurd (lt_of_held heldHere) below
    · intro early
      exact absurd (Nat.lt_of_lt_of_le early inRange) below

end Memory.Closed

namespace Pipeline

variable {σ : Type} {pipeline : Pipeline σ}

/-! ## Closed caches stay closed -/

theorem Resolves.closed {request : Request} {fingerprint : Fingerprint} {index : Nat}
    {session after : Session σ} {answer : Except Failure Outcome}
    (resolves : pipeline.Resolves request fingerprint index session answer after)
    (fits : pipeline.Fits session) (closed : session.memory.Closed) : after.memory.Closed := by
  induction resolves with
  | found held => exact closed.hit _
  | failedFirst inRange missing ran => exact closed.miss _ _
  | computedFirst inRange missing ran =>
      have continues := runStage_continues ran
      have stillMissing := (Memory.held?_miss _ 0 0 fingerprint fingerprint).trans missing
      exact (closed.miss 0 fingerprint).store stillMissing continues.program
        fun below first => nomatch first
  | @failedBelow index session after failure missing below inductionHypothesis =>
      exact inductionHypothesis (fits.miss _ _) (closed.miss _ _)
  | failed inRange missing below ran inductionHypothesis =>
      exact inductionHypothesis (fits.miss _ _) (closed.miss _ _)
  | @computed index session after previous outcome state inRange missing below ran
      inductionHypothesis =>
      have continues := runStage_continues ran
      have heldBelow := below.holds (fits.miss _ _) rfl
      have closedBelow := inductionHypothesis (fits.miss _ _) (closed.miss _ _)
      apply closedBelow.store (below.missing_of_below missing) continues.program
      rintro _ ⟨⟩
      exact ⟨previous, heldBelow, continues⟩

/-- The caches belong to the stages of the pipeline and are closed. -/
def InOrder (pipeline : Pipeline σ) (session : Session σ) : Prop :=
  pipeline.Fits session ∧ session.memory.Closed

theorem resolving_inOrder (requests : List Request) :
    pipeline.ResolvingKeeps requests pipeline.InOrder := by
  rintro request _ index inRange session ⟨fits, closed⟩
  cases enabled : pipeline.cacheEnabled with
  | true =>
      have course := @resolves_outcomeAt _ pipeline request request.fingerprint session
      rcases course enabled index inRange fits with ⟨answer, after, resolved, resolves⟩
      rw [resolved]
      exact ⟨resolves.fits fits, resolves.closed fits closed⟩
  | false =>
      rw [outcomeAt_of_disabled enabled]
      exact ⟨fits, closed⟩

theorem Reachable.inOrder {session : Session σ} (reachable : pipeline.Reachable session) :
    pipeline.InOrder session := by
  apply reachable.induction
  · intro state
    exact ⟨Memory.stages_ofStages _, .of_empty (Memory.held?_ofStages _)⟩
  · exact resolving_inOrder
  · rintro dependency session ⟨fits, closed⟩
    exact ⟨(Memory.stages_forget _ _).trans fits, closed.forget dependency⟩
  · rintro session ⟨fits, closed⟩
    exact ⟨(Memory.stages_clear _).trans fits, .of_empty (Memory.held?_clear _)⟩

/-- Whatever was performed before, an outcome is held together with the one of the
stage before that it was made from, the stages that hold an outcome for a
fingerprint are the first ones, and what an invalidation spares it spares with
everything that it was made from. -/
theorem Reachable.chain_closure {session : Session σ} (reachable : pipeline.Reachable session) :
    (∀ index fingerprint outcome, session.memory.held? (index + 1) fingerprint = some outcome →
      ∃ previous, session.memory.held? index fingerprint = some previous ∧
        previous.diagnostics <+: outcome.diagnostics ∧
        previous.dependencies <+: outcome.dependencies ∧
        outcome.suppressions = previous.tree.extraction.suppressions ∧
        previous.tree.isProgram = true ∧ outcome.tree.isProgram = true) ∧
    (∀ fingerprint, ∃ count ≤ pipeline.registry.size, ∀ index,
      (session.memory.held? index fingerprint).isSome ↔ index < count) ∧
    ∀ dependency fingerprint index later outcome, index ≤ later →
      (session.forget dependency).2.memory.held? later fingerprint = some outcome →
      ∃ source, session.memory.held? index fingerprint = some source ∧
        (session.forget dependency).2.memory.held? index fingerprint = some source := by
  obtain ⟨fits, closed⟩ := reachable.inOrder
  constructor
  · intro index fingerprint outcome held
    rcases closed.source held with ⟨previous, heldBefore, continues⟩
    exact ⟨previous, heldBefore, continues.diagnostics, continues.dependencies,
      continues.suppressions, closed.program _ _ _ heldBefore, closed.program _ _ _ held⟩
  constructor
  · intro fingerprint
    have size : session.memory.stages.length = pipeline.registry.size := by
      rw [fits, Registry.stageIds, List.length_map]
      rfl
    rw [← size]
    exact closed.initial_segment fingerprint
  · intro dependency fingerprint index later outcome before held
    rcases (closed.forget dependency).held_before before held with ⟨source, spared⟩
    have heldBefore := spared
    rw [Memory.held?_forget] at heldBefore
    exact ⟨source, (Option.filter_eq_some_iff.mp heldBefore).1, spared⟩

/-! ## A session with a chain in its caches -/

/-- A resolution answers if all stages do, on trees of a class that they keep. -/
theorem Resolves.answers {request : Request} {fingerprint : Fingerprint} {index : Nat}
    {session after : Session σ} {answer : Except Failure Outcome}
    (resolves : pipeline.Resolves request fingerprint index session answer after)
    (good : Node → Prop) (asked : good request.tree)
    (runs : ∀ index material state, good material.tree → ∃ outcome after,
      pipeline.runStage request index material state = (.ok outcome, after) ∧ good outcome.tree)
    (goodHeld : ∀ index outcome, session.memory.held? index fingerprint = some outcome →
      good outcome.tree) :
    ∃ outcome, answer = .ok outcome ∧ good outcome.tree := by
  induction resolves with
  | found held => exact ⟨_, rfl, goodHeld _ _ held⟩
  | failedFirst inRange missing ran =>
      rcases runs _ request.material _ asked with ⟨outcome, after, succeeds, _⟩
      exact nomatch ran.symm.trans succeeds
  | computedFirst inRange missing ran =>
      rcases runs _ request.material _ asked with ⟨outcome, after, succeeds, goodOutcome⟩
      cases ran.symm.trans succeeds
      exact ⟨_, rfl, goodOutcome⟩
  | failedBelow missing below inductionHypothesis =>
      rcases inductionHypothesis (by simpa using goodHeld) with ⟨outcome, answered, _⟩
      exact nomatch answered
  | @failed index session after previous failure state inRange missing below ran
      inductionHypothesis =>
      rcases inductionHypothesis (by simpa using goodHeld) with ⟨_, answered, goodPrevious⟩
      cases answered
      rcases runs _ previous.material _ goodPrevious with ⟨outcome, after, succeeds, _⟩
      exact nomatch ran.symm.trans succeeds
  | @computed index session after previous outcome state inRange missing below ran
      inductionHypothesis =>
      rcases inductionHypothesis (by simpa using goodHeld) with ⟨_, answered, goodPrevious⟩
      cases answered
      rcases runs _ previous.material _ goodPrevious with ⟨outcome, after, succeeds, goodOutcome⟩
      cases ran.symm.trans succeeds
      exact ⟨_, rfl, goodOutcome⟩

/-- A pipeline of two stages: the first one records a dependency, the second one
reports a diagnostic. -/
def recording : Pipeline Unit where
  registry :=
    { stages := [⟨"normalize", .fixed [.ready (.dependency (.fixed "base.toml"))]⟩,
        ⟨"lint", .fixed [.ready (.emitting "lint" { category := "lint", message := "found" })]⟩]
      primary := ⟨1, Nat.one_lt_two⟩
      hooks := []
      knownOptions := none
      distinct := by decide }
  catalog := Dict.empty

theorem recording_runStage (request : Request) (index : Fin recording.registry.size)
    (material : Material) (state : Unit) (leaf : material.tree = Node.program []) :
    ∃ outcome after, recording.runStage request index material state = (.ok outcome, after) ∧
      outcome.tree = Node.program [] := by
  obtain ⟨tree, diagnostics, dependencies⟩ := material
  cases leaf
  match index with
  | ⟨0, _⟩ => exact runStage_of_traverse rfl (Pass.traverse_of_childless rfl rfl) rfl
  | ⟨1, _⟩ => exact runStage_of_traverse rfl (Pass.traverse_of_childless rfl rfl) rfl

/-- The session of the sample pipeline behind one request. -/
def recorded : Session Unit :=
  (recording.perform (.serve { tree := Node.program [] }) (recording.newSession ())).2

theorem recorded_holds :
    ∃ outcome, recorded.memory.held? 1 (Request.fingerprint { tree := Node.program [] }) =
      some outcome := by
  let request : Request := { tree := Node.program [] }
  have fits : recording.Fits (recording.newSession ()) := Memory.stages_ofStages _
  have course := @resolves_outcomeAt _ recording request request.fingerprint
    (recording.newSession ()) rfl 1 (Nat.lt_succ_self 1) fits
  obtain ⟨answer, after, resolved, resolves⟩ := course
  have goodHeld : ∀ index outcome,
      (recording.newSession ()).memory.held? index request.fingerprint = some outcome →
        outcome.tree = Node.program [] := fun index outcome held =>
    nomatch (Memory.held?_ofStages _ index request.fingerprint).symm.trans held
  obtain ⟨outcome, answered, _⟩ :=
    resolves.answers (· = Node.program []) rfl (recording_runStage request) goodHeld
  refine ⟨outcome, ?_⟩
  have behind : recorded = after := congrArg Prod.snd resolved
  rw [behind]
  exact resolves.holds fits answered

/-- The caches behind one request hold a chain of two outcomes. -/
theorem recorded_chain :
    recording.Reachable recorded ∧
      ∃ previous outcome,
        recorded.memory.held? 0 (Request.fingerprint { tree := Node.program [] }) =
          some previous ∧
        recorded.memory.held? 1 (Request.fingerprint { tree := Node.program [] }) =
          some outcome ∧
        previous.dependencies <+: outcome.dependencies := by
  have reachable : recording.Reachable recorded := (Reachable.start ()).step _
  obtain ⟨outcome, held⟩ := recorded_holds
  obtain ⟨previous, heldBefore, _, dependencies, _⟩ :=
    reachable.chain_closure.1 0 _ outcome held
  exact ⟨reachable, previous, outcome, heldBefore, held, dependencies⟩

end Pipeline

end Cascade
