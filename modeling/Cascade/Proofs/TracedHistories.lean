import Cascade.Proofs.Invocations

/-!
# Traced histories

Whatever a traced pipeline is asked to do, it does what it would do untraced.  This is shown
for a stage that is run through its cache, and from there for resolutions, for all operations
and for whole histories.
-/

namespace Cascade.Pipeline

variable {σ : Type} {pipeline : Pipeline σ}

/-- The traced step does what the step does: it answers the same, and leaves the same but
for the log. -/
def DoesSame {α : Type}
    (traced : Session (σ × List Invocation) → α × Session (σ × List Invocation))
    (plain : Session σ → α × Session σ) : Prop :=
  ∀ session, (traced session).map id Session.untraced = plain session.untraced

/-! ## Traced resolutions -/

theorem DoesSame.throughCache {index : Fin pipeline.registry.size} {fingerprint : Fingerprint}
    {traced : Session (σ × List Invocation) →
      Except Failure Outcome × Session (σ × List Invocation)}
    {plain : Session σ → Except Failure Outcome × Session σ} (same : DoesSame traced plain) :
    DoesSame (pipeline.traced.throughCache (pipeline.tracedAt index) fingerprint traced)
      (pipeline.throughCache index fingerprint plain) := by
  intro session
  have stage : (pipeline.traced.registry.stage (pipeline.tracedAt index)).id =
      (pipeline.registry.stage index).id :=
    congrArg Stage.id (pipeline.registry.stage_traced index)
  have enabled : pipeline.traced.cacheEnabled = pipeline.cacheEnabled := rfl
  have place : (pipeline.tracedAt index).1 = index.1 := rfl
  have memory : session.untraced.memory = session.memory := rfl
  unfold Pipeline.throughCache
  rw [enabled, place, memory, stage]
  by_cases caching : pipeline.cacheEnabled = true
  · rw [if_pos caching, if_pos caching]
    cases session.memory.cache? index with
    | none => exact same session
    | some cache =>
        simp only
        cases cache.get (fingerprint.inStage (pipeline.registry.stage index).id) with
        | mk found looked =>
            cases found with
            | some outcome => rfl
            | none =>
                simp only
                cases looked.fetch (fingerprint.inStage (pipeline.registry.stage index).id) with
                | mk fetched begun =>
                    have computed := same
                      { session with memory := session.memory.setCache index begun }
                    cases fetched with
                    | filled outcome => rfl
                    | foreign => exact computed
                    | vacant =>
                        simp only
                        generalize traced
                          { session with memory := session.memory.setCache index begun } = result
                          at computed ⊢
                        obtain ⟨answer, after⟩ := result
                        have plainly : plain
                            { session.untraced with
                              memory := session.memory.setCache index begun } =
                              (answer, after.untraced) := computed.symm
                        rw [plainly]
                        cases answer with
                        | error failure => rfl
                        | ok outcome =>
                            have behind : after.untraced.memory = after.memory := rfl
                            simp only
                            rw [behind]
                            cases after.memory.cache? index with
                            | none => rfl
                            | some cache =>
                                simp only
                                cases cache.fill fingerprint outcome with
                                | mk held filled => rfl
  · rw [if_neg caching, if_neg caching]
    exact same session

theorem DoesSame.runStage (request : Request) (index : Fin pipeline.registry.size)
    (material : Material) :
    DoesSame
      (fun session =>
        match pipeline.traced.runStage request (pipeline.tracedAt index) material
            session.state with
        | (answer, state) => (answer, { session with state }))
      fun session =>
        match pipeline.runStage request index material session.state with
        | (answer, state) => (answer, { session with state }) := by
  intro session
  have ran := pipeline.runStage_untraced request index material session.state
  simp only [Session.untraced]
  rw [← ran]
  rfl

/-- A traced resolution does what the resolution does. -/
theorem doesSame_outcomeAt (request : Request) (fingerprint : Fingerprint) (index : Nat)
    (inRange : index < pipeline.registry.size) :
    DoesSame
      (pipeline.traced.outcomeAt request fingerprint index (pipeline.inRange_traced inRange))
      (pipeline.outcomeAt request fingerprint index inRange) := by
  induction index with
  | zero =>
      apply @DoesSame.throughCache _ _ ⟨0, inRange⟩
      exact DoesSame.runStage request ⟨0, inRange⟩ request.material
  | succ index inductionHypothesis =>
      refine @DoesSame.throughCache _ _ ⟨index + 1, inRange⟩ _ _ _ fun session => ?_
      rw [← inductionHypothesis (inRange_of_succ inRange) session]
      cases pipeline.traced.outcomeAt request fingerprint index
          (pipeline.inRange_traced (inRange_of_succ inRange)) session with
      | mk answer after =>
          cases answer with
          | error failure => rfl
          | ok previous =>
              exact DoesSame.runStage request ⟨index + 1, inRange⟩ previous.material after

/-! ## Traced histories -/

theorem untraced_newSession (pipeline : Pipeline σ) (state : σ) (log : List Invocation) :
    (pipeline.traced.newSession (state, log)).untraced = pipeline.newSession state := by
  have stages : pipeline.traced.registry.stageIds = pipeline.registry.stageIds :=
    pipeline.registry.stageIds_traced
  unfold newSession
  rw [stages]
  rfl

theorem doesSame_serve (request : Request) :
    DoesSame (pipeline.traced.serve request) (pipeline.serve request) := by
  intro session
  have target : pipeline.traced.registry.target request.stage =
      (pipeline.registry.target request.stage).map
        (Fin.cast pipeline.registry.size_traced.symm) :=
    pipeline.registry.target_traced request.stage
  unfold serve
  rw [target]
  cases pipeline.registry.target request.stage with
  | error failure => rfl
  | ok index => exact doesSame_outcomeAt request request.fingerprint index index.2 session

theorem doesSame_serveAll (requests : List Request) :
    DoesSame (pipeline.traced.serveAll requests) (pipeline.serveAll requests) := by
  intro session
  induction requests generalizing session with
  | nil => rfl
  | cons request rest inductionHypothesis =>
      rw [serveAll, serveAll, ← doesSame_serve request session]
      simp only [Prod.map]
      rw [← inductionHypothesis]
      rfl

theorem doesSame_outcomesAt (request : Request) (fingerprint : Fingerprint)
    (indices : List (Fin pipeline.registry.size)) :
    DoesSame
      (pipeline.traced.outcomesAt request fingerprint (indices.map pipeline.tracedAt))
      (pipeline.outcomesAt request fingerprint indices) := by
  intro session
  induction indices generalizing session with
  | nil => rfl
  | cons index rest inductionHypothesis =>
      have stage : (pipeline.traced.registry.stage (pipeline.tracedAt index)).id =
          (pipeline.registry.stage index).id :=
        congrArg Stage.id (pipeline.registry.stage_traced index)
      rw [List.map_cons, outcomesAt, outcomesAt,
        ← doesSame_outcomeAt request fingerprint index (pipeline.inRange index) session, stage]
      have place : (pipeline.tracedAt index).1 = index.1 := rfl
      simp only [place]
      cases pipeline.traced.outcomeAt request fingerprint index
          (pipeline.inRange_traced (pipeline.inRange index)) session with
      | mk answer after =>
          cases answer with
          | error failure => rfl
          | ok outcome =>
              simp only [Prod.map, id]
              rw [← inductionHypothesis after]
              cases pipeline.traced.outcomesAt request fingerprint
                  (rest.map pipeline.tracedAt) after with
              | mk answers behind => cases answers <;> rfl

theorem stagesUpTo_traced (target : Fin pipeline.registry.size) :
    pipeline.traced.stagesUpTo (pipeline.tracedAt target) =
      (pipeline.stagesUpTo target).map pipeline.tracedAt := by
  have stages : List.finRange pipeline.traced.registry.size =
      (List.finRange pipeline.registry.size).map pipeline.tracedAt := by
    apply List.ext_getElem
    · rw [List.length_map, List.length_finRange, List.length_finRange]
      exact pipeline.registry.size_traced
    · intro index _ _
      rw [List.getElem_finRange, List.getElem_map, List.getElem_finRange]
      rfl
  rw [stagesUpTo, stages, ← List.map_take]
  rfl

theorem doesSame_serveChain (request : Request) :
    DoesSame (pipeline.traced.serveChain request) (pipeline.serveChain request) := by
  intro session
  have target : pipeline.traced.registry.target request.stage =
      (pipeline.registry.target request.stage).map pipeline.tracedAt :=
    pipeline.registry.target_traced request.stage
  unfold serveChain
  rw [target]
  cases pipeline.registry.target request.stage with
  | error failure => rfl
  | ok index =>
      simp only [Except.map]
      rw [← doesSame_outcomeAt request request.fingerprint index (pipeline.inRange index) session,
        stagesUpTo_traced]
      have place : (pipeline.tracedAt index).1 = index.1 := rfl
      simp only [place]
      cases pipeline.traced.outcomeAt request request.fingerprint index
          (pipeline.inRange_traced (pipeline.inRange index)) session with
      | mk answer after =>
          cases answer with
          | error failure => rfl
          | ok outcome => exact doesSame_outcomesAt request _ _ after

/-- A traced operation does what the operation does. -/
theorem doesSame_perform (operation : Operation) :
    DoesSame (pipeline.traced.perform operation) (pipeline.perform operation) := by
  intro session
  cases operation with
  | serve request =>
      rw [perform, perform, ← doesSame_serve request session]
      rfl
  | serveAll requests =>
      rw [perform, perform, ← doesSame_serveAll requests session]
      rfl
  | serveChain request =>
      rw [perform, perform, ← doesSame_serveChain request session]
      rfl
  | forget dependency => rfl
  | clear => rfl

/-- A traced history answers what the history answers, and leaves the same caches and the
same state. -/
theorem doesSame_performAll (operations : List Operation) :
    DoesSame (pipeline.traced.performAll operations) (pipeline.performAll operations) := by
  intro session
  induction operations generalizing session with
  | nil => rfl
  | cons operation rest inductionHypothesis =>
      rw [performAll, performAll, ← doesSame_perform operation session]
      simp only [Prod.map]
      rw [← inductionHypothesis]
      rfl

end Cascade.Pipeline
