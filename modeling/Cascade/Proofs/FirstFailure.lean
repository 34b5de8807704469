import Cascade.Proofs.CacheTransparency
import Cascade.Proofs.FailingStages
import Cascade.Proofs.ResolutionEffect
import Cascade.Proofs.SingleComputation
import Cascade.Proofs.Stocks
import Cascade.Proofs.TracedHistories
import Cascade.Proofs.WholeChain

/-!
# The first failure

A resolution fails with what the first failing stage of its chain raises, however many of the
stages before it are found in caches.  By then no factory and no handler of a later stage has
been called, and in the failing stage only what led to the failure.
-/

namespace Cascade.Pipeline

variable {σ : Type} {pipeline : Pipeline σ} {request : Request}
  {index : Fin pipeline.registry.size} {material : Material}

/-! ## The first stage that fails -/

/-- What the stage at an index works on if all stages before it are run afresh. -/
def freshMaterial (pipeline : Pipeline σ) (request : Request) :
    (index : Nat) → index < pipeline.registry.size → σ → Except Failure Material
  | 0, _, _ => .ok request.material
  | index + 1, inRange, state =>
      (pipeline.freshAt request index (inRange_of_succ inRange) state).1.map Outcome.material

/-- Of all stages, run afresh one after another, the one at the index is the first that
fails. -/
structure FailsFirst (pipeline : Pipeline σ) (request : Request) (state : σ)
    (stage : Fin pipeline.registry.size) (material : Material) (failure : Failure) : Prop where
  before : ∀ index inRange, index < stage.1 →
    ∃ outcome, (pipeline.freshAt request index inRange state).1 = .ok outcome
  source : pipeline.freshMaterial request stage (pipeline.inRange stage) state = .ok material
  here : (pipeline.freshAt request stage (pipeline.inRange stage) state).1 = .error failure

theorem freshAt_succeeds_below {state : σ} {target : Nat}
    {inRange : target < pipeline.registry.size} {outcome : Outcome}
    (succeeds : (pipeline.freshAt request target inRange state).1 = .ok outcome) :
    ∀ index inRange, index ≤ target →
      ∃ outcome, (pipeline.freshAt request index inRange state).1 = .ok outcome := by
  induction target generalizing outcome with
  | zero =>
      intro index _ early
      obtain rfl := Nat.le_zero.mp early
      exact ⟨outcome, succeeds⟩
  | succ target inductionHypothesis =>
      intro index _ early
      rcases Nat.lt_or_eq_of_le early with earlier | rfl
      · cases below : (pipeline.freshAt request target (inRange_of_succ inRange) state).1 with
        | error failure => exact nomatch succeeds.symm.trans (freshAt_of_failedBelow below)
        | ok previous => exact inductionHypothesis below index _ (Nat.le_of_lt_succ earlier)
      · exact ⟨outcome, succeeds⟩

theorem succeeds_before_source {state : σ} {stage : Nat}
    {inRange : stage < pipeline.registry.size}
    (source : pipeline.freshMaterial request stage inRange state = .ok material) :
    ∀ index inRange, index < stage →
      ∃ outcome, (pipeline.freshAt request index inRange state).1 = .ok outcome := by
  intro index _ early
  cases stage with
  | zero => exact absurd early (Nat.not_lt_zero index)
  | succ stage =>
      rw [freshMaterial] at source
      cases below : (pipeline.freshAt request stage (inRange_of_succ inRange) state).1 with
      | error failure =>
          rw [below] at source
          exact nomatch source
      | ok previous =>
          exact freshAt_succeeds_below below index _ (Nat.le_of_lt_succ early)

theorem Stateless.freshAt_of_source (stateless : pipeline.Stateless) {state : σ}
    (source : pipeline.freshMaterial request index (pipeline.inRange index) state = .ok material)
    (current : σ) :
    (pipeline.freshAt request index (pipeline.inRange index) state).1 =
      (pipeline.runStage request index material current).1 := by
  obtain ⟨stage, inRange⟩ := index
  cases stage with
  | zero =>
      cases source
      exact stateless.runStage (.refl request) ⟨0, inRange⟩ _ state current
  | succ stage =>
      rw [freshMaterial] at source
      cases below : (pipeline.freshAt request stage (inRange_of_succ inRange) state).1 with
      | error failure =>
          rw [below] at source
          exact nomatch source
      | ok previous =>
          rw [below] at source
          cases source
          rw [freshAt_succ below]
          exact stateless.runStage (.refl request) ⟨stage + 1, inRange⟩ _ _ current

/-! ## What is called in a resolution -/

/-- What is called in a resolution up to the target: nothing for a later stage and, if the
resolution fails, nothing for a stage behind the first one that fails. -/
def Calls (pipeline : Pipeline σ) (request : Request) (state : σ) (target : Nat) :
    Except Failure Outcome → List Invocation → Prop
  | .ok _, called => ∀ invocation ∈ called, invocation.Below pipeline.registry (target + 1)
  | .error failure, called =>
      ∃ stage material earlier own, stage.1 ≤ target ∧
        pipeline.FailsFirst request state stage material failure ∧
        called = earlier ++ own ∧
        (∀ invocation ∈ earlier, invocation.Below pipeline.registry stage) ∧
        (∀ invocation ∈ own, invocation.Below pipeline.registry (stage + 1)) ∧
        pipeline.FailsIn request stage material state failure own

theorem Calls.of_below {state : σ} {target : Nat} {failure : Failure} {called : List Invocation}
    (calls : pipeline.Calls request state target (.error failure) called) :
    pipeline.Calls request state (target + 1) (.error failure) called := by
  obtain ⟨stage, material, earlier, own, early, rest⟩ := calls
  exact ⟨stage, material, earlier, own, Nat.le_succ_of_le early, rest⟩

/-- The stages have different names, so a call for one of them is for no other one. -/
theorem below_of_stage (index : Fin pipeline.registry.size) {invocation : Invocation}
    (own : ∀ stage, invocation.stage? = some stage →
      stage = (pipeline.registry.stage index).id) :
    invocation.Below pipeline.registry (index + 1) := by
  intro other same
  have asked := pipeline.registry.target_stage other
  rw [own _ same, pipeline.registry.target_stage index] at asked
  cases asked
  exact Nat.lt_succ_self _

theorem below_makingAt (request : Request) (index : Fin pipeline.registry.size) (state : σ) :
    ∀ invocation ∈ pipeline.makingAt request index state,
      invocation.Below pipeline.registry (index + 1) := by
  intro invocation member
  apply below_of_stage index
  intro stage told
  rcases List.mem_cons.mp member with rfl | constructing
  · exact (Option.some.inj told).symm
  · rw [Spec.stage?_of_mem_constructions constructing] at told
    exact nomatch told

theorem below_of_handles {index : Fin pipeline.registry.size} {invocation : Invocation}
    (handles : invocation.HandlesIn (pipeline.registry.stage index).id) :
    invocation.Below pipeline.registry (index + 1) := by
  obtain ⟨visitor, phase, node, depth, rfl⟩ := handles
  exact below_of_stage index fun stage told => (Option.some.inj told).symm

/-- A stage that is run behind calls for earlier stages. -/
theorem calls_of_runStage (stateless : pipeline.Stateless) {state : σ}
    (source : pipeline.freshMaterial request index (pipeline.inRange index) state = .ok material)
    {earlier : List Invocation}
    (below : ∀ invocation ∈ earlier, invocation.Below pipeline.registry index)
    {kept after : σ × List Invocation} {answer : Except Failure Outcome}
    (ran : pipeline.traced.runStage request (pipeline.tracedAt index) material kept =
      (answer, after)) :
    ∃ own, after.2 = kept.2 ++ own ∧
      pipeline.Calls request state index answer (earlier ++ own) := by
  obtain ⟨handled, same, handles, silent⟩ :=
    pipeline.runStage_traced request index material kept.1 kept.2
  obtain ⟨rfl, rfl⟩ := Prod.mk.inj (ran.symm.trans same)
  have ownBelow : ∀ invocation ∈ pipeline.makingAt request index kept.1 ++ handled,
      invocation.Below pipeline.registry (index + 1) :=
    List.forall_mem_append.mpr ⟨below_makingAt request index kept.1, fun invocation member =>
      below_of_handles (handles invocation member)⟩
  refine ⟨pipeline.makingAt request index kept.1 ++ handled, List.append_assoc _ _ _, ?_⟩
  cases answered : (pipeline.runStage request index material kept.1).1 with
  | ok outcome =>
      exact List.forall_mem_append.mpr
        ⟨fun invocation member => (below invocation member).mono (Nat.le_succ _), ownBelow⟩
  | error failure =>
      have here := (stateless.freshAt_of_source source kept.1).trans answered
      exact ⟨index, material, earlier, _, Nat.le_refl _,
        ⟨succeeds_before_source source, source, here⟩, rfl, below, ownBelow,
        stateless.failsIn state kept.1 answered handles silent⟩

/-! ## Resolutions -/

variable {requests : List Request}

/-- The outcome is what stages run afresh answer to one of the requests with the
fingerprint. -/
def WorthFresh (pipeline : Pipeline σ) (requests : List Request) (index : Nat)
    (fingerprint : Fingerprint) (outcome : Outcome) : Prop :=
  ∃ request ∈ requests, request.fingerprint = fingerprint ∧
    ∀ inRange state, (pipeline.freshAt request index inRange state).1 = .ok outcome

/-- In a stocked session, with or without caching, a request is answered as if all stages
were run afresh, and the session stays stocked. -/
theorem Stocked.afresh (stateless : pipeline.Stateless) (apart : Request.ToldApart requests)
    (member : request ∈ requests) {session : Session σ} {index : Nat}
    (inRange : index < pipeline.registry.size) (state : σ)
    (stocked : pipeline.Stocked (pipeline.WorthFresh requests) session) :
    (pipeline.outcomeAt request request.fingerprint index inRange session).1 =
        (pipeline.freshAt request index inRange state).1 ∧
      pipeline.Stocked (pipeline.WorthFresh requests)
        (pipeline.outcomeAt request request.fingerprint index inRange session).2 := by
  cases enabled : pipeline.cacheEnabled with
  | true =>
      have transparent := transparent_of_enabled enabled stateless apart
      have faithful : pipeline.Faithful requests session := ⟨stocked.fits, stocked.held⟩
      constructor
      · exact transparent.answers request member index inRange session state faithful
      · exact stocked.outcomeAt
          (transparent.keeps request member index inRange session faithful).2
  | false =>
      have transparent := @transparent_of_disabled _ _ requests enabled stateless
      constructor
      · exact transparent.answers request member index inRange session state trivial
      · apply stocked.outcomeAt
        rw [outcomeAt_of_disabled enabled]
        exact stocked.held

theorem Stocked.performAll (stateless : pipeline.Stateless) (apart : Request.ToldApart requests)
    {operations : List Operation} (subset : operations.flatMap Operation.requests ⊆ requests)
    (state : σ) :
    pipeline.Stocked (pipeline.WorthFresh requests)
      (pipeline.performAll operations (pipeline.newSession state)).2 := by
  have resolving : pipeline.ResolvingKeeps requests
      (pipeline.Stocked (pipeline.WorthFresh requests)) :=
    fun request member index inRange session stocked =>
      (stocked.afresh stateless apart member inRange session.state).2
  exact performAll_keeps (resolving.mono subset) (fun dependency _ stocked =>
    stocked.forget dependency) (fun _ stocked => stocked.clear) (.newSession _ _ state)

theorem Stocked.traced {good : Nat → Fingerprint → Outcome → Prop}
    {session : Session (σ × List Invocation)}
    (stocked : pipeline.Stocked good session.untraced) :
    pipeline.traced.Stocked good session where
  fits := stocked.fits.trans pipeline.registry.stageIds_traced.symm
  held := stocked.held
  unused := stocked.unused

/-- The traced resolution adds to the log what is called in a resolution that answers so. -/
def Notes (pipeline : Pipeline σ) (request : Request) (state : σ) (target : Nat)
    (before : List Invocation)
    (resolved : Except Failure Outcome × Session (σ × List Invocation)) : Prop :=
  ∃ called, resolved.2.state.2 = before ++ called ∧
    pipeline.Calls request state target resolved.1 called

/-- A resolution that finds its outcome calls nothing, and otherwise it calls what its
computation calls. -/
theorem notes_of_computation {good : Nat → Fingerprint → Outcome → Prop} {state : σ}
    {index : Nat} {inRange : index < pipeline.traced.registry.size}
    {session : Session (σ × List Invocation)} (stocked : pipeline.traced.Stocked good session)
    (computing : pipeline.Notes request state index session.state.2
      (pipeline.traced.computation request request.fingerprint index inRange
        (session.miss index request.fingerprint))) :
    pipeline.Notes request state index session.state.2
      (pipeline.traced.outcomeAt request request.fingerprint index inRange session) := by
  rcases stocked.found_or_computed request request.fingerprint inRange with
    ⟨outcome, _, found⟩ | ⟨_, answered, left⟩
  · rw [found]
    exact ⟨[], (List.append_nil _).symm, fun _ absent => nomatch absent⟩
  · rw [Notes, answered, left]
    exact computing

/-- What is called in a resolution up to a stage, through any caches. -/
theorem notes_outcomeAt (stateless : pipeline.Stateless) (apart : Request.ToldApart requests)
    (member : request ∈ requests) (state : σ) (index : Nat)
    (inRange : index < pipeline.registry.size) {session : Session (σ × List Invocation)}
    (stocked : pipeline.Stocked (pipeline.WorthFresh requests) session.untraced) :
    pipeline.Notes request state index session.state.2
      (pipeline.traced.outcomeAt request request.fingerprint index
        (pipeline.inRange_traced inRange) session) := by
  induction index generalizing session with
  | zero =>
      apply notes_of_computation stocked.traced
      cases ran : pipeline.traced.runStage request (pipeline.tracedAt ⟨0, inRange⟩)
          request.material session.state with
      | mk answer after =>
          have computed : pipeline.traced.computation request request.fingerprint 0
              (pipeline.inRange_traced inRange) (session.miss 0 request.fingerprint) =
                (answer, (session.miss 0 request.fingerprint).withState after) :=
            computation_zero ran
          have source : pipeline.freshMaterial request 0 inRange state = .ok request.material :=
            rfl
          have nothing : ∀ invocation ∈ [], Invocation.Below pipeline.registry 0 invocation :=
            fun _ absent => nomatch absent
          rw [computed]
          exact calls_of_runStage stateless source nothing ran
  | succ index inductionHypothesis =>
      have begun := stocked.miss (index + 1) request.fingerprint
      have same := doesSame_outcomeAt request request.fingerprint index (inRange_of_succ inRange)
        (session.miss (index + 1) request.fingerprint)
      obtain ⟨answered, _⟩ := begun.afresh stateless apart member (inRange_of_succ inRange) state
      have fresh := (congrArg Prod.fst same).trans answered
      obtain ⟨called, noted, calls⟩ := @inductionHypothesis (inRange_of_succ inRange)
        (session.miss (index + 1) request.fingerprint) begun
      apply notes_of_computation stocked.traced
      cases resolved : pipeline.traced.outcomeAt request request.fingerprint index
          (pipeline.inRange_traced (inRange_of_succ inRange))
          (session.miss (index + 1) request.fingerprint) with
      | mk answer after =>
          rw [resolved] at noted calls fresh
          cases answer with
          | error failure =>
              rw [computation_of_failedBelow resolved]
              exact ⟨called, noted, calls.of_below⟩
          | ok previous =>
              cases ran : pipeline.traced.runStage request
                  (pipeline.tracedAt ⟨index + 1, inRange⟩) previous.material after.state with
              | mk answer behind =>
                  have computed : pipeline.traced.computation request request.fingerprint
                      (index + 1) (pipeline.inRange_traced inRange)
                      (session.miss (index + 1) request.fingerprint) =
                        (answer, after.withState behind) := computation_succ resolved ran
                  have source : pipeline.freshMaterial request (index + 1) inRange state =
                      .ok previous.material := congrArg (Except.map Outcome.material) fresh.symm
                  have below : ∀ invocation ∈ called,
                      invocation.Below pipeline.registry (index + 1) := calls
                  obtain ⟨own, added, callsBehind⟩ :=
                    calls_of_runStage stateless source below ran
                  have log : behind.2 = session.state.2 ++ (called ++ own) := by
                    rw [added, ← List.append_assoc]
                    exact congrArg (· ++ own) noted
                  rw [computed]
                  exact ⟨called ++ own, log, callsBehind⟩

/-! ## Histories -/

/-- In a stateless pipeline that serves requests which the digest tells apart, a resolution
for a stage that is registered fails with what the first stage of its chain raises that
fails.  Whatever was found in caches by then, no factory and no handler of a later stage was
called, and in the failing stage what was called led to the failure.  The calls are noted by
the traced pipeline, which does otherwise what the pipeline does. -/
theorem first_failure (pipeline : Pipeline σ) (stateless : pipeline.Stateless)
    (operations : List Operation) (state : σ) (request : Request)
    (apart : Request.ToldApart (request :: operations.flatMap Operation.requests))
    (target : Fin pipeline.registry.size)
    (registered : pipeline.registry.target request.stage = .ok target) :
    let plain := (pipeline.performAll operations (pipeline.newSession state)).2
    let traced := (pipeline.traced.performAll operations
      (pipeline.traced.newSession (state, []))).2
    traced.untraced = plain ∧
    (pipeline.traced.serve request traced).map id Session.untraced =
      pipeline.serve request plain ∧
    ∀ failure, (pipeline.serve request plain).1 = .error failure →
      ∃ stage material earlier own, stage ≤ target ∧
        pipeline.FailsFirst request state stage material failure ∧
        (pipeline.traced.serve request traced).2.state.2 =
          traced.state.2 ++ (earlier ++ own) ∧
        (∀ invocation ∈ earlier, invocation.Below pipeline.registry stage) ∧
        (∀ invocation ∈ own, invocation.Below pipeline.registry (stage + 1)) ∧
        pipeline.FailsIn request stage material state failure own := by
  intro plain traced
  have erased : traced.untraced = plain := by
    have same := @doesSame_performAll _ pipeline operations
      (pipeline.traced.newSession (state, []))
    rw [untraced_newSession] at same
    exact congrArg Prod.snd same
  have served := @doesSame_serve _ pipeline request traced
  rw [erased] at served
  refine ⟨erased, served, fun failure failed => ?_⟩
  have stocked : pipeline.Stocked
      (pipeline.WorthFresh (request :: operations.flatMap Operation.requests))
      traced.untraced := by
    rw [erased]
    exact .performAll stateless apart (List.subset_cons_self _ _) state
  have noted := notes_outcomeAt stateless apart List.mem_cons_self state target target.isLt stocked
  have resolved : pipeline.traced.serve request traced =
      pipeline.traced.outcomeAt request request.fingerprint target
        (pipeline.inRange_traced target.isLt) traced := by
    have asked : pipeline.traced.registry.target request.stage =
        (pipeline.registry.target request.stage).map pipeline.tracedAt :=
      pipeline.registry.target_traced request.stage
    rw [serve, asked, registered]
    rfl
  rw [← resolved] at noted
  obtain ⟨called, log, calls⟩ := noted
  rw [show (pipeline.traced.serve request traced).1 = .error failure from
    (congrArg Prod.fst served).trans failed] at calls
  obtain ⟨stage, material, earlier, own, early, first, rfl, below, ownBelow, fails⟩ := calls
  exact ⟨stage, material, earlier, own, early, first, log, below, ownBelow, fails⟩

/-! ## A transform that is not known -/

theorem faulty_stateless : faulty.Stateless := by
  constructor
  · constructor
    · intro index
      match index with
      | ⟨0, _⟩ => exact Factory.fixed_stateless fun _ absent => nomatch absent
      | ⟨1, _⟩ =>
          apply Factory.fixed_stateless
          intro spec member visitor ready
          rw [List.mem_singleton.mp member] at ready
          exact nomatch ready
    · exact fun _ absent => nomatch absent
  · exact fun _ _ absent => nomatch absent

theorem faulty_inRange : 1 < faulty.registry.size :=
  Nat.one_lt_two

theorem faulty_freshAt_first :
    ∃ outcome, (faulty.freshAt emptyProgram 0 (inRange_of_succ faulty_inRange) ()).1 =
      .ok outcome := by
  obtain ⟨outcome, after, succeeds, _⟩ :=
    @runStage_of_traverse _ faulty emptyProgram ⟨0, inRange_of_succ faulty_inRange⟩
      emptyProgram.material () [] () _ _ rfl (Pass.traverse_of_childless rfl rfl) rfl
  exact ⟨outcome, congrArg Prod.fst succeeds⟩

theorem faulty_freshAt_second :
    (faulty.freshAt emptyProgram 1 faulty_inRange ()).1 =
      .error (.unknownTransform "minify" "compile") := by
  obtain ⟨outcome, first⟩ := faulty_freshAt_first
  rw [freshAt_succ first]
  exact congrArg Prod.fst (runStage_of_rejected rfl)

theorem faulty_unmade {answer : Except Failure (List (Visitor Unit))}
    {called : List Invocation}
    (turned : Spec.Turned faulty.catalog "compile" () [.named "minify" Dict.empty] answer
      called) :
    called = [] ∧ ∀ visitors, answer ≠ .ok visitors := by
  have unmade : ∀ visitor, ¬Spec.Makes faulty.catalog "compile" ()
      (.named "minify" Dict.empty) visitor := fun _ makes => nomatch makes
  cases turned with
  | made all =>
      cases all with
      | cons makes _ => exact absurd makes (unmade _)
  | @failed good rest bad failure split made fails =>
      refine ⟨?_, fun _ same => nomatch same⟩
      cases good with
      | nil =>
          obtain ⟨rfl, _⟩ := List.cons.inj split
          rfl
      | cons spec good =>
          obtain ⟨rfl, _⟩ := List.cons.inj split
          obtain ⟨visitor, makes⟩ := made _ List.mem_cons_self
          exact absurd makes (unmade visitor)

theorem faulty_failsIn {material : Material} {failure : Failure} {own : List Invocation}
    (fails : faulty.FailsIn emptyProgram ⟨1, faulty_inRange⟩ material () failure own) :
    own = [.factory "compile"] := by
  cases fails with
  | unmade turned =>
      obtain ⟨rfl, _⟩ := faulty_unmade turned
      rfl
  | otherRoot turned _ _ _ => exact absurd rfl ((faulty_unmade turned).2 _)
  | endless turned _ _ => exact absurd rfl ((faulty_unmade turned).2 _)

/-- The second stage of the faulty pipeline fails again and again, and only its factory is
called for it. -/
theorem first_failure_faulty :
    let operations : List Operation := [.serve emptyProgram]
    let traced := (faulty.traced.performAll operations
      (faulty.traced.newSession ((), []))).2
    faulty.Stateless ∧ Request.ToldApart [emptyProgram, emptyProgram] ∧
      ∃ earlier, (faulty.traced.serve emptyProgram traced).2.state.2 =
          traced.state.2 ++ (earlier ++ [.factory "compile"]) ∧
        ∀ invocation ∈ earlier, invocation.Below faulty.registry 1 := by
  intro operations traced
  have apart : Request.ToldApart [emptyProgram, emptyProgram] := by
    intro first firstListed second secondListed _
    simp only [List.mem_cons, List.not_mem_nil, or_false, or_self] at firstListed secondListed
    rw [firstListed, secondListed]
    exact .refl emptyProgram
  obtain ⟨_, _, failing⟩ := faulty.first_failure faulty_stateless operations () emptyProgram
    apart ⟨1, faulty_inRange⟩ rfl
  have subset : operations.flatMap Operation.requests ⊆ [emptyProgram, emptyProgram] :=
    List.subset_cons_self _ _
  have stocked := Stocked.performAll faulty_stateless apart subset ()
  have failed := (stocked.afresh faulty_stateless apart List.mem_cons_self faulty_inRange ()).1
  rw [faulty_freshAt_second] at failed
  obtain ⟨stage, material, earlier, own, early, first, log, below, _, fails⟩ := failing _ failed
  obtain rfl : stage = ⟨1, faulty_inRange⟩ := by
    match stage with
    | ⟨0, _⟩ =>
        obtain ⟨outcome, succeeds⟩ := faulty_freshAt_first
        exact nomatch succeeds.symm.trans first.here
    | ⟨1, _⟩ => rfl
  rw [faulty_failsIn fails] at log
  exact ⟨faulty_stateless, apart, earlier, log, below⟩

end Cascade.Pipeline
