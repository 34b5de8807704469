import Cascade.Pipeline
import Cascade.Proofs.MemoryView

/-!
# The course of a resolution

With caching on, a resolution up to a stage either finds the outcome of that
stage, or counts a miss there, resolves up to the stage before, runs the stage
and stores its outcome.  `Pipeline.Resolves` tells this course as a relation
between the session before, the answer and the session behind, so that what a
resolution keeps is shown by induction on its course.
-/

namespace Cascade

namespace Session

variable {σ : Type}

/-- The session behind a lookup that found an outcome. -/
def hit (session : Session σ) (index : Nat) : Session σ :=
  { session with memory := session.memory.hit index }

/-- The session behind a lookup that found none, with a computation begun. -/
def miss (session : Session σ) (index : Nat) (fingerprint : Fingerprint) : Session σ :=
  { session with memory := session.memory.miss index fingerprint }

/-- The session with an outcome stored. -/
def store (session : Session σ) (index : Nat) (fingerprint : Fingerprint) (outcome : Outcome) :
    Session σ :=
  { session with memory := session.memory.store index fingerprint outcome }

/-- The session with another shared state. -/
def withState (session : Session σ) (state : σ) : Session σ :=
  { session with state }

@[simp]
theorem memory_hit (session : Session σ) (index : Nat) :
    (session.hit index).memory = session.memory.hit index :=
  rfl

@[simp]
theorem memory_miss (session : Session σ) (index : Nat) (fingerprint : Fingerprint) :
    (session.miss index fingerprint).memory = session.memory.miss index fingerprint :=
  rfl

@[simp]
theorem memory_store (session : Session σ) (index : Nat) (fingerprint : Fingerprint)
    (outcome : Outcome) :
    (session.store index fingerprint outcome).memory =
      session.memory.store index fingerprint outcome :=
  rfl

@[simp]
theorem memory_withState (session : Session σ) (state : σ) :
    (session.withState state).memory = session.memory :=
  rfl

end Session

namespace Pipeline

variable {σ : Type}

theorem inRange (pipeline : Pipeline σ) (index : Fin pipeline.registry.size) :
    index.1 < pipeline.registry.size :=
  index.isLt

theorem inRange_of_succ {pipeline : Pipeline σ} {index : Nat}
    (inRange : index + 1 < pipeline.registry.size) : index < pipeline.registry.size :=
  Nat.lt_of_succ_lt inRange

/-- The caches of the session belong to the stages of the pipeline. -/
def Fits (pipeline : Pipeline σ) (session : Session σ) : Prop :=
  session.memory.stages = pipeline.registry.stageIds

theorem Fits.inRange {pipeline : Pipeline σ} {session : Session σ}
    (fits : pipeline.Fits session) {index : Nat} (inRange : index < pipeline.registry.size) :
    index < session.memory.stages.length := by
  rw [fits, Registry.stageIds, List.length_map]
  exact inRange

theorem Fits.miss {pipeline : Pipeline σ} {session : Session σ} (fits : pipeline.Fits session)
    (index : Nat) (fingerprint : Fingerprint) : pipeline.Fits (session.miss index fingerprint) :=
  (Memory.stages_miss session.memory index fingerprint).trans fits

/-- The course of a resolution up to the stage at an index: the session before,
the answer, and the session behind. -/
inductive Resolves (pipeline : Pipeline σ) (request : Request) (fingerprint : Fingerprint) :
    Nat → Session σ → Except Failure Outcome → Session σ → Prop where
  | found {index : Nat} {session : Session σ} {outcome : Outcome}
      (held : session.memory.held? index fingerprint = some outcome) :
      Resolves pipeline request fingerprint index session (.ok outcome) (session.hit index)
  | failedFirst {session : Session σ} {failure : Failure} {state : σ}
      (inRange : 0 < pipeline.registry.size)
      (missing : session.memory.held? 0 fingerprint = none)
      (ran : pipeline.runStage request ⟨0, inRange⟩ request.material session.state =
        (.error failure, state)) :
      Resolves pipeline request fingerprint 0 session (.error failure)
        ((session.miss 0 fingerprint).withState state)
  | computedFirst {session : Session σ} {outcome : Outcome} {state : σ}
      (inRange : 0 < pipeline.registry.size)
      (missing : session.memory.held? 0 fingerprint = none)
      (ran : pipeline.runStage request ⟨0, inRange⟩ request.material session.state =
        (.ok outcome, state)) :
      Resolves pipeline request fingerprint 0 session (.ok outcome)
        (((session.miss 0 fingerprint).withState state).store 0 fingerprint outcome)
  | failedBelow {index : Nat} {session after : Session σ} {failure : Failure}
      (missing : session.memory.held? (index + 1) fingerprint = none)
      (below : Resolves pipeline request fingerprint index
        (session.miss (index + 1) fingerprint) (.error failure) after) :
      Resolves pipeline request fingerprint (index + 1) session (.error failure) after
  | failed {index : Nat} {session after : Session σ} {previous : Outcome} {failure : Failure}
      {state : σ} (inRange : index + 1 < pipeline.registry.size)
      (missing : session.memory.held? (index + 1) fingerprint = none)
      (below : Resolves pipeline request fingerprint index
        (session.miss (index + 1) fingerprint) (.ok previous) after)
      (ran : pipeline.runStage request ⟨index + 1, inRange⟩ previous.material after.state =
        (.error failure, state)) :
      Resolves pipeline request fingerprint (index + 1) session (.error failure)
        (after.withState state)
  | computed {index : Nat} {session after : Session σ} {previous outcome : Outcome} {state : σ}
      (inRange : index + 1 < pipeline.registry.size)
      (missing : session.memory.held? (index + 1) fingerprint = none)
      (below : Resolves pipeline request fingerprint index
        (session.miss (index + 1) fingerprint) (.ok previous) after)
      (ran : pipeline.runStage request ⟨index + 1, inRange⟩ previous.material after.state =
        (.ok outcome, state)) :
      Resolves pipeline request fingerprint (index + 1) session (.ok outcome)
        ((after.withState state).store (index + 1) fingerprint outcome)

namespace Resolves

variable {pipeline : Pipeline σ} {request : Request} {fingerprint : Fingerprint} {index : Nat}
  {session after : Session σ} {answer : Except Failure Outcome}

/-! ## What every resolution keeps -/

/-- A resolution keeps the stages of the caches. -/
theorem stages (resolves : pipeline.Resolves request fingerprint index session answer after) :
    after.memory.stages = session.memory.stages := by
  induction resolves with
  | found held => simp
  | failedFirst inRange missing ran => simp
  | computedFirst inRange missing ran => simp
  | failedBelow missing below inductionHypothesis => simpa using inductionHypothesis
  | failed inRange missing below ran inductionHypothesis => simpa using inductionHypothesis
  | computed inRange missing below ran inductionHypothesis => simpa using inductionHypothesis

theorem fits (resolves : pipeline.Resolves request fingerprint index session answer after)
    (fits : pipeline.Fits session) : pipeline.Fits after :=
  resolves.stages.trans fits

/-- A resolution does not touch the caches of later stages. -/
theorem cache?_above
    (resolves : pipeline.Resolves request fingerprint index session answer after)
    {other : Nat} (above : index < other) :
    after.memory.cache? other = session.memory.cache? other := by
  induction resolves with
  | found held => exact Memory.cache?_hit_of_ne (Nat.ne_of_gt above)
  | failedFirst inRange missing ran => exact Memory.cache?_miss_of_ne (Nat.ne_of_gt above)
  | computedFirst inRange missing ran =>
      rw [Session.memory_store, Memory.cache?_store_of_ne (Nat.ne_of_gt above)]
      exact Memory.cache?_miss_of_ne (Nat.ne_of_gt above)
  | failedBelow missing below inductionHypothesis =>
      rw [inductionHypothesis (Nat.lt_of_succ_lt above)]
      exact Memory.cache?_miss_of_ne (Nat.ne_of_gt above)
  | failed inRange missing below ran inductionHypothesis =>
      rw [Session.memory_withState, inductionHypothesis (Nat.lt_of_succ_lt above)]
      exact Memory.cache?_miss_of_ne (Nat.ne_of_gt above)
  | computed inRange missing below ran inductionHypothesis =>
      rw [Session.memory_store, Memory.cache?_store_of_ne (Nat.ne_of_gt above),
        Session.memory_withState, inductionHypothesis (Nat.lt_of_succ_lt above)]
      exact Memory.cache?_miss_of_ne (Nat.ne_of_gt above)

theorem held?_above
    (resolves : pipeline.Resolves request fingerprint index session answer after)
    {other : Nat} (above : index < other) (given : Fingerprint) :
    after.memory.held? other given = session.memory.held? other given := by
  rw [Memory.held?, resolves.cache?_above above, Memory.held?]

/-- What was missing behind a miss is still missing when the stage before has been
resolved. -/
theorem missing_of_below
    (below : pipeline.Resolves request fingerprint index
      (session.miss (index + 1) fingerprint) answer after)
    (missing : session.memory.held? (index + 1) fingerprint = none) :
    after.memory.held? (index + 1) fingerprint = none := by
  rw [below.held?_above (Nat.lt_succ_self index)]
  simpa using missing

/-- What is held stays held during a resolution. -/
theorem keeps (resolves : pipeline.Resolves request fingerprint index session answer after)
    {other : Nat} {given : Fingerprint} {outcome : Outcome}
    (held : session.memory.held? other given = some outcome) :
    after.memory.held? other given = some outcome := by
  induction resolves with
  | found _ => simpa using held
  | failedFirst _ _ _ => simpa using held
  | computedFirst _ missing _ =>
      exact Memory.held?_store_of_held _ (by simpa using missing) (by simpa using held)
  | failedBelow _ _ inductionHypothesis => exact inductionHypothesis (by simpa using held)
  | failed _ _ _ _ inductionHypothesis => exact inductionHypothesis (by simpa using held)
  | computed _ missing below _ inductionHypothesis =>
      exact Memory.held?_store_of_held _ (below.missing_of_below missing)
        (inductionHypothesis (by simpa using held))

/-- The outcome that a resolution answers is held behind it. -/
theorem holds (resolves : pipeline.Resolves request fingerprint index session answer after)
    (fits : pipeline.Fits session) {outcome : Outcome} (answered : answer = .ok outcome) :
    after.memory.held? index fingerprint = some outcome := by
  cases resolves with
  | found held =>
      cases answered
      simpa using held
  | failedFirst _ _ _ => exact nomatch answered
  | computedFirst inRange missing _ =>
      cases answered
      have inCaches := fits.inRange inRange
      exact Memory.held?_store_self (by simpa using inCaches) (by simpa using missing) outcome
  | failedBelow _ _ => exact nomatch answered
  | failed _ _ _ _ => exact nomatch answered
  | computed inRange missing below _ =>
      cases answered
      have inCaches := fits.inRange inRange
      have kept := below.stages
      exact Memory.held?_store_self (by simpa [kept] using inCaches)
        (below.missing_of_below missing) outcome

end Resolves

/-! ## Resolutions through caches -/

variable {pipeline : Pipeline σ} {request : Request} {fingerprint : Fingerprint}
  {session : Session σ}

theorem cache?_of_fits (fits : pipeline.Fits session) (index : Fin pipeline.registry.size) :
    ∃ cache, session.memory.cache? index = some cache ∧
      cache.stage = (pipeline.registry.stage index).id := by
  have named : session.memory.stages[index.1]? = some (pipeline.registry.stage index).id := by
    rw [fits, Registry.stageIds, List.getElem?_map,
      List.getElem?_eq_getElem (show index.1 < pipeline.registry.stages.length from index.2)]
    rfl
  rw [Memory.stages, List.getElem?_map] at named
  exact Option.map_eq_some_iff.mp named

theorem throughCache_of_held (enabled : pipeline.cacheEnabled = true)
    (fits : pipeline.Fits session) {index : Fin pipeline.registry.size} {outcome : Outcome}
    (held : session.memory.held? index fingerprint = some outcome)
    (compute : Session σ → Except Failure Outcome × Session σ) :
    pipeline.throughCache index fingerprint compute session =
      (.ok outcome, session.hit index) := by
  rcases cache?_of_fits fits index with ⟨cache, present, named⟩
  rw [Memory.held?, present] at held
  have found := (Cache.held?_inStage named fingerprint).trans held
  rw [throughCache, if_pos enabled, present]
  simp only [Cache.get_of_held found]
  rw [Session.hit, Memory.hit, Memory.change_of_cache? present]

/-- Where nothing is held the computation runs behind a miss. -/
theorem throughCache_of_missing (enabled : pipeline.cacheEnabled = true)
    (fits : pipeline.Fits session) {index : Fin pipeline.registry.size}
    (missing : session.memory.held? index fingerprint = none)
    (compute : Session σ → Except Failure Outcome × Session σ) :
    pipeline.throughCache index fingerprint compute session =
      match compute (session.miss index fingerprint) with
      | (.error failure, after) => (.error failure, after)
      | (.ok outcome, after) =>
          match after.memory.cache? index with
          | none => (.ok outcome, after)
          | some cache =>
              match cache.fill fingerprint outcome with
              | (held, cache) =>
                  (.ok held, { after with memory := after.memory.setCache index cache }) := by
  rcases cache?_of_fits fits index with ⟨cache, present, named⟩
  rw [Memory.held?, present] at missing
  have notFound := (Cache.held?_inStage named fingerprint).trans missing
  have begun : session.memory.setCache index
        (cache.countMiss.ensure fingerprint).countComputation =
      session.memory.miss index fingerprint := by
    rw [Memory.miss, Memory.change_of_cache? present]
  have owned : cache.countMiss.owns
      (fingerprint.inStage (pipeline.registry.stage index).id) = true :=
    Cache.owns_inStage named fingerprint
  rw [throughCache, if_pos enabled, present]
  simp only [Cache.get_of_missing notFound]
  rw [Cache.fetch_of_missing owned notFound]
  simp only [Fingerprint.inStage, begun]
  rfl

theorem throughCache_of_failed (enabled : pipeline.cacheEnabled = true)
    (fits : pipeline.Fits session) {index : Fin pipeline.registry.size}
    (missing : session.memory.held? index fingerprint = none)
    {compute : Session σ → Except Failure Outcome × Session σ} {failure : Failure}
    {after : Session σ}
    (failed : compute (session.miss index fingerprint) = (.error failure, after)) :
    pipeline.throughCache index fingerprint compute session = (.error failure, after) := by
  rw [throughCache_of_missing enabled fits missing, failed]

/-- An outcome that was computed without touching the stage's cache is stored and
answered. -/
theorem throughCache_of_computed (enabled : pipeline.cacheEnabled = true)
    (fits : pipeline.Fits session) {index : Fin pipeline.registry.size}
    (missing : session.memory.held? index fingerprint = none)
    {compute : Session σ → Except Failure Outcome × Session σ} {outcome : Outcome}
    {after : Session σ}
    (computed : compute (session.miss index fingerprint) = (.ok outcome, after))
    (untouched : after.memory.cache? index =
      (session.miss index fingerprint).memory.cache? index) :
    pipeline.throughCache index fingerprint compute session =
      (.ok outcome, after.store index fingerprint outcome) := by
  rcases cache?_of_fits fits index with ⟨cache, present, _⟩
  have stillMissing : after.memory.held? index fingerprint = none := by
    rw [Memory.held?, untouched]
    exact (Memory.held?_miss _ _ _ _ _).trans missing
  obtain ⟨filled, stillPresent⟩ : ∃ filled, after.memory.cache? index = some filled := by
    rw [untouched, Session.memory_miss, Memory.miss, Memory.cache?_change, if_pos rfl, present]
    exact ⟨_, rfl⟩
  rw [Memory.held?, stillPresent] at stillMissing
  rw [throughCache_of_missing enabled fits missing, computed]
  simp only [stillPresent]
  rw [Session.store, Memory.store, Memory.change_of_cache? stillPresent, Cache.fill,
    show filled.slots.held? fingerprint = none from stillMissing]
  rfl

/-! ## Computations of stages -/

/-- What is computed for the stage at an index if its cache holds nothing. -/
def computation (pipeline : Pipeline σ) (request : Request) (fingerprint : Fingerprint) :
    (index : Nat) → index < pipeline.registry.size → Session σ →
      Except Failure Outcome × Session σ
  | 0, inRange, session =>
      match pipeline.runStage request ⟨0, inRange⟩ request.material session.state with
      | (answer, state) => (answer, session.withState state)
  | index + 1, inRange, session =>
      match pipeline.outcomeAt request fingerprint index (inRange_of_succ inRange) session with
      | (.error failure, session) => (.error failure, session)
      | (.ok previous, session) =>
          match pipeline.runStage request ⟨index + 1, inRange⟩ previous.material
              session.state with
          | (answer, state) => (answer, session.withState state)

theorem outcomeAt_eq_throughCache (index : Nat) (inRange : index < pipeline.registry.size) :
    pipeline.outcomeAt request fingerprint index inRange session =
      pipeline.throughCache ⟨index, inRange⟩ fingerprint
        (pipeline.computation request fingerprint index inRange) session := by
  cases index <;> rfl

/-- A stage that is held is answered with a hit. -/
theorem outcomeAt_of_held (enabled : pipeline.cacheEnabled = true) (fits : pipeline.Fits session)
    {index : Nat} (inRange : index < pipeline.registry.size) {outcome : Outcome}
    (held : session.memory.held? index fingerprint = some outcome) :
    pipeline.outcomeAt request fingerprint index inRange session =
      (.ok outcome, session.hit index) := by
  rw [outcomeAt_eq_throughCache]
  exact throughCache_of_held enabled fits held _

theorem computation_zero {inRange : 0 < pipeline.registry.size}
    {answer : Except Failure Outcome} {state : σ}
    (ran : pipeline.runStage request ⟨0, inRange⟩ request.material session.state =
      (answer, state)) :
    pipeline.computation request fingerprint 0 inRange session =
      (answer, session.withState state) := by
  rw [computation, ran]

theorem computation_of_failedBelow {index : Nat} {inRange : index + 1 < pipeline.registry.size}
    {failure : Failure} {after : Session σ}
    (below : pipeline.outcomeAt request fingerprint index (Nat.lt_of_succ_lt inRange) session =
      (.error failure, after)) :
    pipeline.computation request fingerprint (index + 1) inRange session =
      (.error failure, after) := by
  rw [computation, below]

theorem computation_succ {index : Nat} {inRange : index + 1 < pipeline.registry.size}
    {previous : Outcome} {after : Session σ} {answer : Except Failure Outcome} {state : σ}
    (below : pipeline.outcomeAt request fingerprint index (Nat.lt_of_succ_lt inRange) session =
      (.ok previous, after))
    (ran : pipeline.runStage request ⟨index + 1, inRange⟩ previous.material after.state =
      (answer, state)) :
    pipeline.computation request fingerprint (index + 1) inRange session =
      (answer, after.withState state) := by
  rw [computation, below]
  simp only [ran]

/-- With caching on, resolving up to a stage takes the course of a resolution. -/
theorem resolves_outcomeAt (enabled : pipeline.cacheEnabled = true) (index : Nat)
    (inRange : index < pipeline.registry.size) (fits : pipeline.Fits session) :
    ∃ answer after,
      pipeline.outcomeAt request fingerprint index inRange session = (answer, after) ∧
        pipeline.Resolves request fingerprint index session answer after := by
  induction index generalizing session with
  | zero =>
      rw [outcomeAt_eq_throughCache]
      cases held : session.memory.held? 0 fingerprint with
      | some outcome => exact ⟨_, _, throughCache_of_held enabled fits held _, .found held⟩
      | none =>
          cases ran : pipeline.runStage request ⟨0, inRange⟩ request.material session.state with
          | mk answer state =>
              have computed : pipeline.computation request fingerprint 0 inRange
                  (session.miss 0 fingerprint) =
                    (answer, (session.miss 0 fingerprint).withState state) :=
                computation_zero ran
              cases answer with
              | error failure =>
                  exact ⟨_, _, throughCache_of_failed enabled fits held computed,
                    .failedFirst inRange held ran⟩
              | ok outcome =>
                  exact ⟨_, _, throughCache_of_computed enabled fits held computed rfl,
                    .computedFirst inRange held ran⟩
  | succ index inductionHypothesis =>
      rw [outcomeAt_eq_throughCache]
      cases held : session.memory.held? (index + 1) fingerprint with
      | some outcome => exact ⟨_, _, throughCache_of_held enabled fits held _, .found held⟩
      | none =>
          obtain ⟨answer, after, resolved, below⟩ :=
            inductionHypothesis (Nat.lt_of_succ_lt inRange) (fits.miss (index + 1) fingerprint)
          cases answer with
          | error failure =>
              exact ⟨_, _, throughCache_of_failed enabled fits held
                (computation_of_failedBelow resolved), .failedBelow held below⟩
          | ok previous =>
              cases ran : pipeline.runStage request ⟨index + 1, inRange⟩ previous.material
                  after.state with
              | mk answer state =>
                  have computed := computation_succ resolved ran
                  cases answer with
                  | error failure =>
                      exact ⟨_, _, throughCache_of_failed enabled fits held computed,
                        .failed inRange held below ran⟩
                  | ok outcome =>
                      have untouched := below.cache?_above (Nat.lt_succ_self index)
                      exact ⟨_, _, throughCache_of_computed enabled fits held computed untouched,
                        .computed inRange held below ran⟩

theorem outcomeAt_resolves (request : Request) (fingerprint : Fingerprint)
    (enabled : pipeline.cacheEnabled = true) {index : Nat}
    (inRange : index < pipeline.registry.size) (fits : pipeline.Fits session) :
    pipeline.Resolves request fingerprint index session
      (pipeline.outcomeAt request fingerprint index inRange session).1
      (pipeline.outcomeAt request fingerprint index inRange session).2 := by
  obtain ⟨answer, after, resolved, resolves⟩ := resolves_outcomeAt enabled index inRange fits
  rw [resolved]
  exact resolves

/-! ## Resolutions without caches -/

/-- The outcome of the stage at an index, with this stage and all before it run
afresh. -/
def freshAt (pipeline : Pipeline σ) (request : Request) :
    (index : Nat) → index < pipeline.registry.size → σ → Except Failure Outcome × σ
  | 0, inRange, state => pipeline.runStage request ⟨0, inRange⟩ request.material state
  | index + 1, inRange, state =>
      match pipeline.freshAt request index (inRange_of_succ inRange) state with
      | (.error failure, state) => (.error failure, state)
      | (.ok previous, state) =>
          pipeline.runStage request ⟨index + 1, inRange⟩ previous.material state

theorem freshAt_of_failedBelow {index : Nat} {inRange : index + 1 < pipeline.registry.size}
    {state : σ} {failure : Failure}
    (below : (pipeline.freshAt request index (Nat.lt_of_succ_lt inRange) state).1 =
      .error failure) :
    (pipeline.freshAt request (index + 1) inRange state).1 = .error failure := by
  rw [freshAt]
  generalize pipeline.freshAt request index (Nat.lt_of_succ_lt inRange) state = resolved at below ⊢
  obtain ⟨_, behind⟩ := resolved
  cases below
  rfl

theorem freshAt_succ {index : Nat} {inRange : index + 1 < pipeline.registry.size} {state : σ}
    {previous : Outcome}
    (below : (pipeline.freshAt request index (Nat.lt_of_succ_lt inRange) state).1 = .ok previous) :
    (pipeline.freshAt request (index + 1) inRange state).1 =
      (pipeline.runStage request ⟨index + 1, inRange⟩ previous.material
        (pipeline.freshAt request index (Nat.lt_of_succ_lt inRange) state).2).1 := by
  rw [freshAt]
  generalize pipeline.freshAt request index (Nat.lt_of_succ_lt inRange) state = resolved at below ⊢
  obtain ⟨_, behind⟩ := resolved
  cases below
  rfl

theorem outcomeAt_eq_computation (disabled : pipeline.cacheEnabled = false) (index : Nat)
    (inRange : index < pipeline.registry.size) :
    pipeline.outcomeAt request fingerprint index inRange session =
      pipeline.computation request fingerprint index inRange session := by
  rw [outcomeAt_eq_throughCache, throughCache, disabled]
  rfl

/-- With caching off, a resolution runs every stage afresh and leaves the caches as
they are. -/
theorem outcomeAt_of_disabled (disabled : pipeline.cacheEnabled = false) (index : Nat)
    (inRange : index < pipeline.registry.size) :
    pipeline.outcomeAt request fingerprint index inRange session =
      ((pipeline.freshAt request index inRange session.state).1,
        session.withState (pipeline.freshAt request index inRange session.state).2) := by
  rw [outcomeAt_eq_computation disabled]
  induction index with
  | zero => rfl
  | succ index inductionHypothesis =>
      have below := (outcomeAt_eq_computation disabled index _).trans
        (inductionHypothesis (Nat.lt_of_succ_lt inRange))
      rw [freshAt]
      cases fresh : pipeline.freshAt request index (Nat.lt_of_succ_lt inRange) session.state with
      | mk answer state =>
          rw [fresh] at below
          cases answer with
          | error failure => exact computation_of_failedBelow below
          | ok previous =>
              rw [computation, below]
              rfl

end Pipeline

end Cascade
