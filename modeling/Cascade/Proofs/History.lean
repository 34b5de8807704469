import Cascade.Proofs.Resolution

/-!
# Histories of a pipeline

A pipeline in use performs operations one after another: it serves requests,
singly, in batches or with every stage on the way, and drops outcomes by
dependency or altogether.  What all operations keep holds of every session that
can be reached, and operations keep whatever resolutions, invalidations and
clearing keep.
-/

namespace Cascade

/-- An operation on a pipeline in use. -/
inductive Operation where
  | serve (request : Request)
  | serveAll (requests : List Request)
  | serveChain (request : Request)
  | forget (dependency : String)
  | clear

/-- What an operation answers. -/
inductive Answer where
  | outcome (answer : Except Failure Outcome)
  | outcomes (answers : List (Except Failure Outcome))
  | chain (answer : Except Failure (List (String × Outcome)))
  | dropped (count : Nat)
  | cleared

namespace Operation

/-- The requests that an operation serves. -/
def requests : Operation → List Request
  | serve request => [request]
  | serveAll requests => requests
  | serveChain request => [request]
  | forget _ => []
  | clear => []

/-- Whether an operation serves requests, as opposed to dropping outcomes. -/
def serves : Operation → Bool
  | serve _ => true
  | serveAll _ => true
  | serveChain _ => true
  | forget _ => false
  | clear => false

end Operation

namespace Pipeline

variable {σ : Type}

/-- Performs an operation. -/
def perform (pipeline : Pipeline σ) (operation : Operation) (session : Session σ) :
    Answer × Session σ :=
  match operation with
  | .serve request => (pipeline.serve request session).map .outcome id
  | .serveAll requests => (pipeline.serveAll requests session).map .outcomes id
  | .serveChain request => (pipeline.serveChain request session).map .chain id
  | .forget dependency => (session.forget dependency).map .dropped id
  | .clear => (.cleared, session.clear)

/-- Performs operations one after another. -/
def performAll (pipeline : Pipeline σ) :
    List Operation → Session σ → List Answer × Session σ
  | [], session => ([], session)
  | operation :: rest, session =>
      let performed := pipeline.perform operation session
      let others := pipeline.performAll rest performed.2
      (performed.1 :: others.1, others.2)

/-- The sessions that operations lead to from empty caches. -/
inductive Reachable (pipeline : Pipeline σ) : Session σ → Prop where
  | start (state : σ) : Reachable pipeline (pipeline.newSession state)
  | step {session : Session σ} (reachable : Reachable pipeline session) (operation : Operation) :
      Reachable pipeline (pipeline.perform operation session).2

/-! ## What operations keep -/

variable {pipeline : Pipeline σ} {holds : Session σ → Prop}

/-- Resolving requests up to stages keeps a property of sessions. -/
def ResolvingKeeps (pipeline : Pipeline σ) (requests : List Request)
    (holds : Session σ → Prop) : Prop :=
  ∀ request ∈ requests, ∀ index inRange session, holds session →
    holds (pipeline.outcomeAt request request.fingerprint index inRange session).2

theorem ResolvingKeeps.mono {requests fewer : List Request}
    (keeps : pipeline.ResolvingKeeps requests holds) (subset : fewer ⊆ requests) :
    pipeline.ResolvingKeeps fewer holds :=
  fun request member => keeps request (subset member)

theorem serve_keeps {request : Request} (keeps : pipeline.ResolvingKeeps [request] holds)
    {session : Session σ} (before : holds session) : holds (pipeline.serve request session).2 := by
  unfold serve
  cases pipeline.registry.target request.stage with
  | error failure => exact before
  | ok target => exact keeps request List.mem_cons_self target target.isLt session before

theorem serveAll_keeps {requests : List Request} (keeps : pipeline.ResolvingKeeps requests holds)
    {session : Session σ} (before : holds session) :
    holds (pipeline.serveAll requests session).2 := by
  induction requests generalizing session with
  | nil => exact before
  | cons request rest inductionHypothesis =>
      have keepsFirst : pipeline.ResolvingKeeps [request] holds := keeps.mono (by simp)
      have keepsRest : pipeline.ResolvingKeeps rest holds := keeps.mono (by simp)
      exact inductionHypothesis keepsRest (serve_keeps keepsFirst before)

theorem outcomesAt_keeps {request : Request} (keeps : pipeline.ResolvingKeeps [request] holds)
    (indices : List (Fin pipeline.registry.size)) {session : Session σ} (before : holds session) :
    holds (pipeline.outcomesAt request request.fingerprint indices session).2 := by
  induction indices generalizing session with
  | nil => exact before
  | cons index rest inductionHypothesis =>
      have first := keeps request List.mem_cons_self index index.isLt session before
      rw [outcomesAt]
      cases resolved : pipeline.outcomeAt request request.fingerprint index index.isLt session with
      | mk answer after =>
          rw [resolved] at first
          cases answer with
          | error failure => exact first
          | ok outcome =>
              have others := inductionHypothesis first
              simp only
              cases resolvedRest : pipeline.outcomesAt request request.fingerprint rest after with
              | mk answers behind =>
                  rw [resolvedRest] at others
                  cases answers <;> exact others

theorem serveChain_keeps {request : Request} (keeps : pipeline.ResolvingKeeps [request] holds)
    {session : Session σ} (before : holds session) :
    holds (pipeline.serveChain request session).2 := by
  unfold serveChain
  cases pipeline.registry.target request.stage with
  | error failure => exact before
  | ok target =>
      have first := keeps request List.mem_cons_self target target.isLt session before
      simp only
      cases resolved : pipeline.outcomeAt request request.fingerprint target target.isLt
          session with
      | mk answer after =>
          rw [resolved] at first
          cases answer with
          | error failure => exact first
          | ok outcome => exact outcomesAt_keeps keeps _ first

/-- An operation keeps what its resolutions, invalidations and clearing keep. -/
theorem perform_keeps {operation : Operation}
    (resolving : pipeline.ResolvingKeeps operation.requests holds)
    (forgetting : ∀ dependency session, holds session → holds (session.forget dependency).2)
    (clearing : ∀ session, holds session → holds session.clear)
    {session : Session σ} (before : holds session) :
    holds (pipeline.perform operation session).2 := by
  cases operation with
  | serve request => exact serve_keeps resolving before
  | serveAll requests => exact serveAll_keeps resolving before
  | serveChain request => exact serveChain_keeps resolving before
  | forget dependency => exact forgetting dependency session before
  | clear => exact clearing session before

/-- What holds of empty caches, and is kept by resolutions, invalidations and
clearing, holds of every session that can be reached. -/
theorem Reachable.induction {session : Session σ} (reachable : pipeline.Reachable session)
    (starting : ∀ state, holds (pipeline.newSession state))
    (resolving : ∀ requests, pipeline.ResolvingKeeps requests holds)
    (forgetting : ∀ dependency session, holds session → holds (session.forget dependency).2)
    (clearing : ∀ session, holds session → holds session.clear) : holds session := by
  induction reachable with
  | start state => exact starting state
  | step _ operation inductionHypothesis =>
      exact perform_keeps (resolving operation.requests) forgetting clearing inductionHypothesis

theorem Reachable.performAll {session : Session σ} (reachable : pipeline.Reachable session)
    (operations : List Operation) :
    pipeline.Reachable (pipeline.performAll operations session).2 := by
  induction operations generalizing session with
  | nil => exact reachable
  | cons operation rest inductionHypothesis =>
      exact inductionHypothesis (reachable.step operation)

/-- A history keeps what its resolutions, invalidations and clearing keep. -/
theorem performAll_keeps {operations : List Operation}
    (resolving : pipeline.ResolvingKeeps (operations.flatMap Operation.requests) holds)
    (forgetting : ∀ dependency session, holds session → holds (session.forget dependency).2)
    (clearing : ∀ session, holds session → holds session.clear)
    {session : Session σ} (before : holds session) :
    holds (pipeline.performAll operations session).2 := by
  induction operations generalizing session with
  | nil => exact before
  | cons operation rest inductionHypothesis =>
      rw [List.flatMap_cons] at resolving
      have first := resolving.mono (List.subset_append_left _ _)
      have others := resolving.mono (List.subset_append_right _ _)
      exact inductionHypothesis others (perform_keeps first forgetting clearing before)

end Pipeline

end Cascade
