import Cascade.Proofs.Resolution

/-!
# Resolutions that resume

A resolution goes back to the last stage that holds an outcome, and runs every stage
behind it once, each on what the one before has left.  So its answer, and what it
makes of the shared state, is told by the outcomes that it reuses: no other stage
is run.
-/

namespace Cascade.Pipeline

variable {σ : Type}

/-- The outcome of the stage at an index, if the given outcomes are reused and all
other stages on the way are run. -/
def resumeAt (pipeline : Pipeline σ) (request : Request) (reused : Nat → Option Outcome) :
    (index : Nat) → index < pipeline.registry.size → σ → Except Failure Outcome × σ
  | 0, inRange, state =>
      match reused 0 with
      | some outcome => (.ok outcome, state)
      | none => pipeline.runStage request ⟨0, inRange⟩ request.material state
  | index + 1, inRange, state =>
      match reused (index + 1) with
      | some outcome => (.ok outcome, state)
      | none =>
          match pipeline.resumeAt request reused index (inRange_of_succ inRange) state with
          | (.error failure, state) => (.error failure, state)
          | (.ok previous, state) =>
              pipeline.runStage request ⟨index + 1, inRange⟩ previous.material state

variable {pipeline : Pipeline σ} {request : Request} {reused : Nat → Option Outcome}

theorem serve_of_target {target : Fin pipeline.registry.size}
    (asked : pipeline.registry.target request.stage = .ok target) (session : Session σ) :
    pipeline.serve request session =
      pipeline.outcomeAt request request.fingerprint target (pipeline.inRange target) session := by
  rw [serve, asked]

theorem serve_of_unknown {failure : Failure}
    (unknown : pipeline.registry.target request.stage = .error failure) (session : Session σ) :
    pipeline.serve request session = (.error failure, session) := by
  rw [serve, unknown]

/-! ## Reusing outcomes -/

theorem resumeAt_of_reused {index : Nat} {outcome : Outcome} (held : reused index = some outcome)
    (inRange : index < pipeline.registry.size) (state : σ) :
    pipeline.resumeAt request reused index inRange state = (.ok outcome, state) := by
  cases index <;> rw [resumeAt, held]

theorem resumeAt_zero (missing : reused 0 = none) (inRange : 0 < pipeline.registry.size)
    (state : σ) :
    pipeline.resumeAt request reused 0 inRange state =
      pipeline.runStage request ⟨0, inRange⟩ request.material state := by
  rw [resumeAt, missing]

theorem resumeAt_of_failedBelow {index : Nat} {inRange : index + 1 < pipeline.registry.size}
    {state after : σ} {failure : Failure} (missing : reused (index + 1) = none)
    (below : pipeline.resumeAt request reused index (Nat.lt_of_succ_lt inRange) state =
      (.error failure, after)) :
    pipeline.resumeAt request reused (index + 1) inRange state = (.error failure, after) := by
  rw [resumeAt, missing, below]

theorem resumeAt_succ {index : Nat} {inRange : index + 1 < pipeline.registry.size}
    {state after : σ} {previous : Outcome} (missing : reused (index + 1) = none)
    (below : pipeline.resumeAt request reused index (Nat.lt_of_succ_lt inRange) state =
      (.ok previous, after)) :
    pipeline.resumeAt request reused (index + 1) inRange state =
      pipeline.runStage request ⟨index + 1, inRange⟩ previous.material after := by
  rw [resumeAt, missing, below]

/-- If nothing is reused, every stage is run afresh. -/
theorem resumeAt_of_vacant (vacant : ∀ index, reused index = none) (index : Nat)
    (inRange : index < pipeline.registry.size) (state : σ) :
    pipeline.resumeAt request reused index inRange state =
      pipeline.freshAt request index inRange state := by
  induction index with
  | zero => exact resumeAt_zero (vacant 0) inRange state
  | succ index inductionHypothesis =>
      rw [resumeAt, vacant, inductionHypothesis (Nat.lt_of_succ_lt inRange)]
      rfl

/-- A resolution reuses what is held for its fingerprint. -/
theorem Resolves.eq_resumeAt {fingerprint : Fingerprint} {index : Nat}
    {session after : Session σ} {answer : Except Failure Outcome}
    (resolves : pipeline.Resolves request fingerprint index session answer after)
    (reusing : ∀ other, session.memory.held? other fingerprint = reused other)
    (inRange : index < pipeline.registry.size) :
    pipeline.resumeAt request reused index inRange session.state = (answer, after.state) := by
  induction resolves with
  | @found index session outcome held =>
      exact resumeAt_of_reused ((reusing index).symm.trans held) inRange session.state
  | failedFirst _ missing ran =>
      exact (resumeAt_zero ((reusing 0).symm.trans missing) _ _).trans ran
  | computedFirst _ missing ran =>
      exact (resumeAt_zero ((reusing 0).symm.trans missing) _ _).trans ran
  | @failedBelow index session after failure missing _ inductionHypothesis =>
      have below := inductionHypothesis (by simpa using reusing) (Nat.lt_of_succ_lt inRange)
      exact resumeAt_of_failedBelow ((reusing _).symm.trans missing) below
  | @failed index session after previous failure state _ missing _ ran inductionHypothesis =>
      have below := inductionHypothesis (by simpa using reusing) (Nat.lt_of_succ_lt inRange)
      exact (resumeAt_succ ((reusing _).symm.trans missing) below).trans ran
  | @computed index session after previous outcome state _ missing _ ran inductionHypothesis =>
      have below := inductionHypothesis (by simpa using reusing) (Nat.lt_of_succ_lt inRange)
      exact (resumeAt_succ ((reusing _).symm.trans missing) below).trans ran

/-- Without caching this goes for caches that hold nothing. -/
theorem outcomeAt_eq_resumeAt {session : Session σ} {fingerprint : Fingerprint}
    (fits : pipeline.Fits session)
    (vacant : pipeline.cacheEnabled = false →
      ∀ index, session.memory.held? index fingerprint = none)
    (reusing : ∀ index, session.memory.held? index fingerprint = reused index) (index : Nat)
    (inRange : index < pipeline.registry.size) :
    pipeline.resumeAt request reused index inRange session.state =
      ((pipeline.outcomeAt request fingerprint index inRange session).1,
        (pipeline.outcomeAt request fingerprint index inRange session).2.state) := by
  cases enabled : pipeline.cacheEnabled with
  | true =>
      have resolves := outcomeAt_resolves request fingerprint enabled inRange fits
      exact resolves.eq_resumeAt reusing inRange
  | false =>
      rw [resumeAt_of_vacant fun other => (reusing other).symm.trans (vacant enabled other),
        outcomeAt_of_disabled enabled]
      rfl

end Cascade.Pipeline
