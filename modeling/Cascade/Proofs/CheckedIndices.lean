import Cascade.Proofs.RootShape
import Cascade.Proofs.WholeChain

/-!
# Resolutions that check their indices

A resolution passes bare indices of stages down its recursion and looks stages and caches
up by them.  Here the same is done with every such lookup checked: the answer is `none` as
soon as there is no stage or no cache at an index, or a cache does not take the key that
it is asked for.  In caches that belong to the stages no check fails, and what is
answered, and left behind, is the same as without checks.
-/

namespace Cascade

/-- The bare index of the stage that a request asks for. -/
def Registry.position {σ : Type} (registry : Registry σ) (stage : Option String) :
    Except Failure Nat :=
  match stage with
  | none => .ok registry.primary
  | some stage =>
      match registry.stages.findIdx? fun candidate => candidate.id == stage with
      | some index => .ok index
      | none => .error (.unknownStage stage registry.stageIds)

theorem Registry.position_eq {σ : Type} (registry : Registry σ) (stage : Option String) :
    registry.position stage = (registry.target stage).map Fin.val := by
  cases stage with
  | none => rfl
  | some stage =>
      rw [position, target, indexOf, List.findIdx?_eq_map_findFinIdx?_val]
      cases registry.stages.findFinIdx? fun candidate => candidate.id == stage <;> rfl

namespace Pipeline

variable {σ : Type}

/-! ## Checked lookups -/

/-- Runs the stage at an index, if there is one. -/
def checkedRun (pipeline : Pipeline σ) (request : Request) (index : Nat) (material : Material)
    (session : Session σ) : Option (Except Failure Outcome × Session σ) :=
  if inRange : index < pipeline.registry.size then
    match pipeline.runStage request ⟨index, inRange⟩ material session.state with
    | (answer, state) => some (answer, session.withState state)
  else none

/-- Runs a computation unless the cache at an index holds the outcome of the stage at the
same index.  There have to be such a stage and such a cache, and the cache has to take
the key of the stage. -/
def checkedThroughCache (pipeline : Pipeline σ) (index : Nat) (fingerprint : Fingerprint)
    (compute : Session σ → Option (Except Failure Outcome × Session σ)) (session : Session σ) :
    Option (Except Failure Outcome × Session σ) :=
  match pipeline.registry.stage? index with
  | none => none
  | some stage =>
      if pipeline.cacheEnabled then
        match session.memory.cache? index with
        | none => none
        | some cache =>
            let key := fingerprint.inStage stage.id
            if cache.owns key then
              match cache.get key with
              | (some outcome, cache) =>
                  some (.ok outcome, { session with memory := session.memory.setCache index cache })
              | (none, cache) =>
                  match cache.fetch key with
                  | (.filled outcome, cache) =>
                      some (.ok outcome,
                        { session with memory := session.memory.setCache index cache })
                  | (.foreign, _) => none
                  | (.vacant, cache) =>
                      match compute
                          { session with memory := session.memory.setCache index cache } with
                      | none => none
                      | some (.error failure, session) => some (.error failure, session)
                      | some (.ok outcome, session) =>
                          match session.memory.cache? index with
                          | none => none
                          | some cache =>
                              match cache.fill fingerprint outcome with
                              | (held, cache) =>
                                  some (.ok held,
                                    { session with memory := session.memory.setCache index cache })
            else none
      else compute session

/-- Resolves a request up to the stage at an index. -/
def checkedOutcomeAt (pipeline : Pipeline σ) (request : Request) (fingerprint : Fingerprint) :
    Nat → Session σ → Option (Except Failure Outcome × Session σ)
  | 0, session =>
      pipeline.checkedThroughCache 0 fingerprint (pipeline.checkedRun request 0 request.material)
        session
  | index + 1, session =>
      pipeline.checkedThroughCache (index + 1) fingerprint (fun session =>
        match pipeline.checkedOutcomeAt request fingerprint index session with
        | none => none
        | some (.error failure, session) => some (.error failure, session)
        | some (.ok previous, session) =>
            pipeline.checkedRun request (index + 1) previous.material session) session

/-- Serves a request. -/
def checkedServe (pipeline : Pipeline σ) (request : Request) (session : Session σ) :
    Option (Except Failure Outcome × Session σ) :=
  match pipeline.registry.position request.stage with
  | .error failure => some (.error failure, session)
  | .ok target => pipeline.checkedOutcomeAt request request.fingerprint target session

/-- Serves requests one after another. -/
def checkedServeAll (pipeline : Pipeline σ) :
    List Request → Session σ → Option (List (Except Failure Outcome) × Session σ)
  | [], session => some ([], session)
  | request :: rest, session =>
      match pipeline.checkedServe request session with
      | none => none
      | some (answer, session) =>
          (pipeline.checkedServeAll rest session).map fun served =>
            (answer :: served.1, served.2)

/-- Resolves a request up to the stages at the given indices in turn, until one
fails. -/
def checkedOutcomesAt (pipeline : Pipeline σ) (request : Request) (fingerprint : Fingerprint) :
    List Nat → Session σ → Option (Except Failure (List (String × Outcome)) × Session σ)
  | [], session => some (.ok [], session)
  | index :: rest, session =>
      match pipeline.registry.stage? index with
      | none => none
      | some stage =>
          match pipeline.checkedOutcomeAt request fingerprint index session with
          | none => none
          | some (.error failure, session) => some (.error failure, session)
          | some (.ok outcome, session) =>
              match pipeline.checkedOutcomesAt request fingerprint rest session with
              | none => none
              | some (.error failure, session) => some (.error failure, session)
              | some (.ok outcomes, session) =>
                  some (.ok ((stage.id, outcome) :: outcomes), session)

/-- The outcomes of every stage up to the one that the request asks for. -/
def checkedServeChain (pipeline : Pipeline σ) (request : Request) (session : Session σ) :
    Option (Except Failure (List (String × Outcome)) × Session σ) :=
  match pipeline.registry.position request.stage with
  | .error failure => some (.error failure, session)
  | .ok target =>
      match pipeline.checkedOutcomeAt request request.fingerprint target session with
      | none => none
      | some (.error failure, session) => some (.error failure, session)
      | some (.ok _, session) =>
          pipeline.checkedOutcomesAt request request.fingerprint (List.range (target + 1)) session

/-- Performs an operation. -/
def checkedPerform (pipeline : Pipeline σ) (operation : Operation) (session : Session σ) :
    Option (Answer × Session σ) :=
  match operation with
  | .serve request => (pipeline.checkedServe request session).map (Prod.map .outcome id)
  | .serveAll requests => (pipeline.checkedServeAll requests session).map (Prod.map .outcomes id)
  | .serveChain request => (pipeline.checkedServeChain request session).map (Prod.map .chain id)
  | .forget dependency => some ((session.forget dependency).map .dropped id)
  | .clear => some (.cleared, session.clear)

/-- Performs operations one after another. -/
def checkedPerformAll (pipeline : Pipeline σ) :
    List Operation → Session σ → Option (List Answer × Session σ)
  | [], session => some ([], session)
  | operation :: rest, session =>
      match pipeline.checkedPerform operation session with
      | none => none
      | some (answer, session) =>
          (pipeline.checkedPerformAll rest session).map fun performed =>
            (answer :: performed.1, performed.2)

/-! ## No check fails -/

variable {pipeline : Pipeline σ} {request : Request} {session : Session σ} {index : Nat}

theorem stage?_of_inRange (inRange : index < pipeline.registry.size) :
    pipeline.registry.stage? index = some (pipeline.registry.stage ⟨index, inRange⟩) :=
  List.getElem?_eq_getElem inRange

theorem checkedRun_eq (inRange : index < pipeline.registry.size) (material : Material) :
    pipeline.checkedRun request index material session =
      some ((pipeline.runStage request ⟨index, inRange⟩ material session.state).map id
        session.withState) :=
  dif_pos inRange

section ThroughCache

variable {fingerprint : Fingerprint}
  {checked : Session σ → Option (Except Failure Outcome × Session σ)}
  {compute : Session σ → Except Failure Outcome × Session σ}

theorem checkedThroughCache_of_held (enabled : pipeline.cacheEnabled = true)
    (fits : pipeline.Fits session) (inRange : index < pipeline.registry.size) {outcome : Outcome}
    (held : session.memory.held? index fingerprint = some outcome) :
    pipeline.checkedThroughCache index fingerprint checked session =
      some (.ok outcome, session.hit index) := by
  obtain ⟨cache, present, named⟩ := cache?_of_fits fits ⟨index, inRange⟩
  rw [Memory.held?, present] at held
  have found := (Cache.held?_inStage named fingerprint).trans held
  rw [checkedThroughCache, stage?_of_inRange inRange]
  simp only [if_pos enabled, present, if_pos (Cache.owns_inStage named fingerprint),
    Cache.get_of_held found]
  rw [Session.hit, Memory.hit, Memory.change_of_cache? present]

/-- The cache takes the key, and so the computation runs behind a miss. -/
theorem checkedThroughCache_of_missing (enabled : pipeline.cacheEnabled = true)
    (fits : pipeline.Fits session) (inRange : index < pipeline.registry.size)
    (missing : session.memory.held? index fingerprint = none) :
    pipeline.checkedThroughCache index fingerprint checked session =
      match checked (session.miss index fingerprint) with
      | none => none
      | some (.error failure, after) => some (.error failure, after)
      | some (.ok outcome, after) =>
          match after.memory.cache? index with
          | none => none
          | some cache =>
              match cache.fill fingerprint outcome with
              | (held, cache) =>
                  some (.ok held, { after with memory := after.memory.setCache index cache }) := by
  obtain ⟨cache, present, named⟩ := cache?_of_fits fits ⟨index, inRange⟩
  rw [Memory.held?, present] at missing
  have notFound := (Cache.held?_inStage named fingerprint).trans missing
  have owned := Cache.owns_inStage named fingerprint
  have ownedStill : cache.countMiss.owns
      (fingerprint.inStage (pipeline.registry.stage ⟨index, inRange⟩).id) = true := owned
  have begun : session.memory.setCache index
        (cache.countMiss.ensure fingerprint).countComputation =
      session.memory.miss index fingerprint := by
    rw [Memory.miss, Memory.change_of_cache? present]
  rw [checkedThroughCache, stage?_of_inRange inRange]
  simp only [if_pos enabled, present, if_pos owned, Cache.get_of_missing notFound]
  rw [Cache.fetch_of_missing ownedStill notFound]
  simp only [Fingerprint.inStage, begun]
  rfl

/-- No check fails at a stage in fitting caches if none fails in its computation, and that
leaves the caches fitting. -/
theorem checkedThroughCache_eq (fits : pipeline.Fits session)
    (inRange : index < pipeline.registry.size)
    (agrees : ∀ session, pipeline.Fits session → checked session = some (compute session))
    (keeps : ∀ session, pipeline.Fits session → pipeline.Fits (compute session).2) :
    pipeline.checkedThroughCache index fingerprint checked session =
      some (pipeline.throughCache ⟨index, inRange⟩ fingerprint compute session) := by
  cases enabled : pipeline.cacheEnabled with
  | false =>
      rw [checkedThroughCache, stage?_of_inRange inRange, throughCache, enabled]
      exact agrees session fits
  | true =>
      cases held : session.memory.held? index fingerprint with
      | some outcome =>
          rw [checkedThroughCache_of_held enabled fits inRange held,
            throughCache_of_held enabled fits held]
      | none =>
          have fitsBehind := fits.miss index fingerprint
          have fitsAfter := keeps _ fitsBehind
          rw [checkedThroughCache_of_missing enabled fits inRange held,
            throughCache_of_missing enabled fits held, agrees _ fitsBehind]
          generalize compute (session.miss index fingerprint) = computed at fitsAfter ⊢
          obtain ⟨answer, after⟩ := computed
          cases answer with
          | error failure => rfl
          | ok outcome =>
              obtain ⟨cache, present, _⟩ := cache?_of_fits fitsAfter ⟨index, inRange⟩
              simp only [present]

end ThroughCache

theorem Fits.computation (fits : pipeline.Fits session) (inRange : index < pipeline.registry.size) :
    pipeline.Fits (pipeline.computation request request.fingerprint index inRange session).2 := by
  cases index with
  | zero => exact fits
  | succ index =>
      have below := fits.outcomeAt request (inRange_of_succ inRange)
      rw [Pipeline.computation]
      generalize pipeline.outcomeAt request request.fingerprint index _ session = resolved
        at below ⊢
      obtain ⟨answer, after⟩ := resolved
      cases answer <;> exact below

/-- In fitting caches no check fails on the way to a stage. -/
theorem checkedOutcomeAt_eq (fits : pipeline.Fits session)
    (inRange : index < pipeline.registry.size) :
    pipeline.checkedOutcomeAt request request.fingerprint index session =
      some (pipeline.outcomeAt request request.fingerprint index inRange session) := by
  rw [outcomeAt_eq_throughCache]
  induction index generalizing session with
  | zero =>
      apply checkedThroughCache_eq fits inRange
      · exact fun session _ => checkedRun_eq inRange _
      · exact fun session fits => fits.computation inRange
  | succ index inductionHypothesis =>
      apply checkedThroughCache_eq fits inRange
      · intro session fits
        rw [inductionHypothesis fits (inRange_of_succ inRange), ← outcomeAt_eq_throughCache,
          computation]
        generalize pipeline.outcomeAt request request.fingerprint index _ session = resolved
        obtain ⟨answer, after⟩ := resolved
        cases answer with
        | error failure => rfl
        | ok previous => exact checkedRun_eq inRange previous.material
      · exact fun session fits => fits.computation inRange

theorem checkedServe_eq (fits : pipeline.Fits session) (request : Request) :
    pipeline.checkedServe request session = some (pipeline.serve request session) := by
  rw [checkedServe, serve, Registry.position_eq]
  cases pipeline.registry.target request.stage with
  | error failure => rfl
  | ok target => exact checkedOutcomeAt_eq fits target.isLt

/-- Resolutions leave the caches fitting. -/
theorem resolvingKeeps_fits (requests : List Request) :
    pipeline.ResolvingKeeps requests pipeline.Fits :=
  fun request _ _ inRange _ fits => fits.outcomeAt request inRange

theorem checkedServeAll_eq (fits : pipeline.Fits session) (requests : List Request) :
    pipeline.checkedServeAll requests session = some (pipeline.serveAll requests session) := by
  induction requests generalizing session with
  | nil => rfl
  | cons request rest inductionHypothesis =>
      rw [checkedServeAll, checkedServe_eq fits]
      simp only
      rw [inductionHypothesis (serve_keeps (resolvingKeeps_fits _) fits)]
      rfl

theorem checkedOutcomesAt_eq (fits : pipeline.Fits session)
    (indices : List (Fin pipeline.registry.size)) :
    pipeline.checkedOutcomesAt request request.fingerprint (indices.map Fin.val) session =
      some (pipeline.outcomesAt request request.fingerprint indices session) := by
  induction indices generalizing session with
  | nil => rfl
  | cons index rest inductionHypothesis =>
      have fitsAfter := fits.outcomeAt request index.isLt
      rw [List.map_cons, checkedOutcomesAt, outcomesAt, stage?_of_inRange index.isLt,
        checkedOutcomeAt_eq fits index.isLt]
      generalize pipeline.outcomeAt request request.fingerprint index _ session = resolved
        at fitsAfter ⊢
      obtain ⟨answer, after⟩ := resolved
      cases answer with
      | error failure => rfl
      | ok outcome =>
          simp only
          rw [inductionHypothesis fitsAfter]
          generalize pipeline.outcomesAt request request.fingerprint rest after = others
          obtain ⟨answers, behind⟩ := others
          cases answers <;> rfl

/-- The stages up to a target are those at the indices up to its own. -/
theorem stagesUpTo_val (target : Fin pipeline.registry.size) :
    (pipeline.stagesUpTo target).map Fin.val = List.range (target + 1) := by
  rw [stagesUpTo, List.map_take, List.map_coe_finRange_eq_range, List.take_range,
    Nat.min_eq_left target.isLt]

theorem checkedServeChain_eq (fits : pipeline.Fits session) (request : Request) :
    pipeline.checkedServeChain request session = some (pipeline.serveChain request session) := by
  rw [checkedServeChain, serveChain, Registry.position_eq]
  cases pipeline.registry.target request.stage with
  | error failure => rfl
  | ok target =>
      have fitsAfter := fits.outcomeAt request target.isLt
      simp only [Except.map, checkedOutcomeAt_eq fits target.isLt]
      generalize pipeline.outcomeAt request request.fingerprint target _ session = resolved
        at fitsAfter ⊢
      obtain ⟨answer, after⟩ := resolved
      cases answer with
      | error failure => rfl
      | ok outcome =>
          rw [← stagesUpTo_val]
          exact checkedOutcomesAt_eq fitsAfter _

theorem checkedPerform_eq (fits : pipeline.Fits session) (operation : Operation) :
    pipeline.checkedPerform operation session = some (pipeline.perform operation session) := by
  cases operation with
  | serve request =>
      rw [checkedPerform, checkedServe_eq fits]
      rfl
  | serveAll requests =>
      rw [checkedPerform, checkedServeAll_eq fits]
      rfl
  | serveChain request =>
      rw [checkedPerform, checkedServeChain_eq fits]
      rfl
  | forget dependency => rfl
  | clear => rfl

theorem Fits.forget (fits : pipeline.Fits session) (dependency : String) :
    pipeline.Fits (session.forget dependency).2 :=
  (Memory.stages_forget session.memory dependency).trans fits

theorem Fits.clear (fits : pipeline.Fits session) : pipeline.Fits session.clear :=
  (Memory.stages_clear session.memory).trans fits

theorem Fits.perform (fits : pipeline.Fits session) (operation : Operation) :
    pipeline.Fits (pipeline.perform operation session).2 :=
  perform_keeps (resolvingKeeps_fits _) (fun dependency _ fits => fits.forget dependency)
    (fun _ fits => fits.clear) fits

/-- In fitting caches no check fails in any history. -/
theorem checkedPerformAll_eq (fits : pipeline.Fits session) (operations : List Operation) :
    pipeline.checkedPerformAll operations session =
      some (pipeline.performAll operations session) := by
  induction operations generalizing session with
  | nil => rfl
  | cons operation rest inductionHypothesis =>
      rw [checkedPerformAll, checkedPerform_eq fits]
      simp only
      rw [inductionHypothesis (fits.perform operation)]
      rfl

theorem fits_newSession (pipeline : Pipeline σ) (state : σ) :
    pipeline.Fits (pipeline.newSession state) :=
  Memory.stages_ofStages _

/-- The caches of every session that can be reached belong to the stages. -/
theorem Reachable.fits (reachable : pipeline.Reachable session) : pipeline.Fits session := by
  induction reachable with
  | start state => exact fits_newSession pipeline state
  | step _ operation inductionHypothesis => exact inductionHypothesis.perform operation

/-- Beside every stage stands its cache, and there are no others. -/
theorem Fits.named (fits : pipeline.Fits session) (index : Nat) :
    (session.memory.cache? index).map Cache.stage =
      (pipeline.registry.stage? index).map Stage.id := by
  have names : session.memory.stages[index]? = pipeline.registry.stageIds[index]? :=
    congrArg (·[index]?) fits
  rw [Memory.stages, Registry.stageIds, List.getElem?_map, List.getElem?_map] at names
  exact names

end Pipeline

end Cascade
