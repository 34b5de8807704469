import Cascade.Proofs.PipelineEvents
import Cascade.Proofs.StageRun
import Cascade.Proofs.StructuralReduction
import Cascade.Visitor.Sample

/-!
# Outcomes are computed once

A stage computes the outcome of a fingerprint once, until the outcome is dropped by
a dependency of its own or with everything else, and answers it until then, whatever
else is served, dropped or fails in the meantime.
-/

namespace Cascade.Pipeline

variable {σ : Type}

/-! ## Single computation -/

theorem computations?_newSession (pipeline : Pipeline σ) (state : σ)
    (index : Fin pipeline.registry.size) :
    (pipeline.newSession state).memory.computations? index = some 0 := by
  unfold newSession Memory.computations? Memory.cache? Memory.ofStages
  rw [List.getElem?_map, Registry.stageIds, List.getElem?_map,
    List.getElem?_eq_getElem (show index.1 < pipeline.registry.stages.length from index.2)]
  rfl

/-- In every history of a pipeline with caching on, told by its events with one
computation for each that was counted: between a computation that succeeded and the
next one for the same stage and fingerprint, everything was dropped, or what depends
on some dependency of the first outcome; and until that happens the stage answers
the first outcome for the fingerprint. -/
theorem computed_once (pipeline : Pipeline σ) (enabled : pipeline.cacheEnabled = true)
    (operations : List Operation) (state : σ) :
    let events := pipeline.eventsAlong operations (pipeline.newSession state)
    let after := (pipeline.performAll operations (pipeline.newSession state)).2.memory
    (∀ index : Fin pipeline.registry.size,
      after.computations? index = some (events.countP (Event.computesAt index))) ∧
    ∀ early index fingerprint outcome late,
      events = early ++ .computed index fingerprint (.ok outcome) :: late →
        (∀ middle again rest, late = middle ++ .computed index fingerprint again :: rest →
          ∃ event ∈ middle, event.drops outcome = true) ∧
        ∀ middle answer rest, late = middle ++ .answered index fingerprint answer :: rest →
          (∀ event ∈ middle, event.drops outcome = false) → answer = .ok outcome := by
  intro events after
  have told : (pipeline.newSession state).memory.Told after events :=
    told_performAll enabled operations (Memory.stages_ofStages _)
  constructor
  · intro index
    rw [told.counts, computations?_newSession pipeline state index]
    simp
  · intro early index fingerprint outcome late split
    have chronicle := told.held
    rw [split] at chronicle
    constructor
    · rintro middle again rest rfl
      exact chronicle.dropped_between
    · rintro middle answer rest rfl spared
      exact chronicle.answered_since spared

/-! ## A computation that is repeated -/

/-- A pipeline of one stage, which depends on `base.toml`. -/
def based : Pipeline Unit where
  registry :=
    { stages := [⟨"load", .fixed [.ready (.dependency (.fixed "base.toml"))]⟩]
      primary := ⟨0, Nat.zero_lt_one⟩
      hooks := []
      knownOptions := none
      distinct := by decide }
  catalog := Dict.empty

/-- A request for an empty program. -/
def emptyProgram : Request where
  tree := Node.program []

/-- What the stage makes of an empty program. -/
def basedOutcome : Outcome :=
  emptyProgram.material.outcome (Node.program []) (⟨#[], ["base.toml"], ()⟩ : Ledger Unit)

theorem based_inRange : 0 < based.registry.size :=
  Nat.zero_lt_one

theorem based_runStage :
    based.runStage emptyProgram ⟨0, based_inRange⟩ emptyProgram.material () =
      (.ok basedOutcome, ()) :=
  runStage_of_reduced rfl (Pass.reduce_of_program (Pass.traverse_of_childless rfl rfl) rfl)

theorem based_computation (session : Session Unit) :
    based.computation emptyProgram emptyProgram.fingerprint 0 based_inRange session =
      (.ok basedOutcome, session.withState ()) :=
  computation_zero based_runStage

theorem based_outcomeAt {session : Session Unit} (fits : based.Fits session)
    (missing : session.memory.held? 0 emptyProgram.fingerprint = none) :
    (based.outcomeAt emptyProgram emptyProgram.fingerprint 0 based_inRange session).1 =
      .ok basedOutcome := by
  rw [outcomeAt_eq_throughCache,
    throughCache_of_computed rfl fits missing (based_computation _) rfl]

/-- Where nothing is held, the stage computes its outcome. -/
theorem based_events {session : Session Unit} (fits : based.Fits session)
    (missing : session.memory.held? 0 emptyProgram.fingerprint = none) :
    based.eventsOf (.serve emptyProgram) session =
      [.computed 0 emptyProgram.fingerprint (.ok basedOutcome),
        .answered 0 emptyProgram.fingerprint (.ok basedOutcome)] := by
  show based.eventsThrough emptyProgram emptyProgram.fingerprint 0 based_inRange (fun _ => [])
    session = _
  simp only [eventsThrough, missing, based_computation, based_outcomeAt fits missing]
  rfl

/-- What the stage has computed is held. -/
theorem based_held {session : Session Unit} (fits : based.Fits session)
    (missing : session.memory.held? 0 emptyProgram.fingerprint = none) :
    (based.perform (.serve emptyProgram) session).2.memory.held? 0 emptyProgram.fingerprint =
      some basedOutcome := by
  have resolves := outcomeAt_resolves emptyProgram emptyProgram.fingerprint rfl based_inRange fits
  exact resolves.holds fits (based_outcomeAt fits missing)

/-- An invalidation drops what the stage has computed. -/
theorem based_missing {session : Session Unit} (fits : based.Fits session)
    (missing : session.memory.held? 0 emptyProgram.fingerprint = none) :
    ((based.perform (.serve emptyProgram) session).2.forget "base.toml").2.memory.held? 0
      emptyProgram.fingerprint = none := by
  have dropped : basedOutcome.dependsOn "base.toml" = true := rfl
  refine (Memory.held?_forget _ _ _ _).trans ?_
  simp [based_held fits missing, dropped]

/-- The stage computes its outcome again behind an invalidation, which drops the
first one. -/
theorem computed_once_invalidated :
    let fingerprint := emptyProgram.fingerprint
    let again := [.serve emptyProgram, .forget "base.toml", .serve emptyProgram]
    based.cacheEnabled = true ∧
      based.eventsAlong again (based.newSession ()) =
        [.computed 0 fingerprint (.ok basedOutcome), .answered 0 fingerprint (.ok basedOutcome),
          .forgot "base.toml",
          .computed 0 fingerprint (.ok basedOutcome), .answered 0 fingerprint (.ok basedOutcome)] ∧
      ∃ event ∈ [.answered 0 fingerprint (.ok basedOutcome), .forgot "base.toml"],
        Event.drops basedOutcome event = true := by
  intro fingerprint again
  have fits : based.Fits (based.newSession ()) := Memory.stages_ofStages _
  have missing : (based.newSession ()).memory.held? 0 fingerprint = none :=
    Memory.held?_ofStages _ 0 _
  have fitsBehind : based.Fits
      ((based.perform (.serve emptyProgram) (based.newSession ())).2.forget "base.toml").2 :=
    (Memory.stages_forget _ _).trans (serve_keeps (resolving_fits rfl [emptyProgram]) fits)
  have told := calc based.eventsAlong again (based.newSession ())
    _ = based.eventsOf (.serve emptyProgram) (based.newSession ()) ++ ([.forgot "base.toml"] ++
          (based.eventsOf (.serve emptyProgram)
            ((based.perform (.serve emptyProgram) (based.newSession ())).2.forget
              "base.toml").2 ++ [])) := rfl
    _ = _ := by rw [based_events fits missing, based_events fitsBehind (based_missing fits missing)]
  have split : based.eventsAlong again (based.newSession ()) =
      [] ++ .computed 0 fingerprint (.ok basedOutcome) ::
        ([.answered 0 fingerprint (.ok basedOutcome), .forgot "base.toml"] ++
          .computed 0 fingerprint (.ok basedOutcome) ::
            [.answered 0 fingerprint (.ok basedOutcome)]) := told
  exact ⟨rfl, told, ((computed_once based rfl again ()).2 _ _ _ _ _ split).1 _ _ _ rfl⟩

end Cascade.Pipeline
