import Cascade.Proofs.Lineage
import Cascade.Proofs.History

/-!
# One resolution after another

A pipeline that is used by one caller at a time takes steps of the same kind as one that
is used by many.  What an operation leaves in the caches, a run leaves in which no resolver
is disturbed: every session that can be reached is mirrored by some traffic.
-/

namespace Cascade

/-! ## The steps of one resolver -/

namespace Scene

variable {scene : Scene} {caller : Nat} {fingerprint : Fingerprint}
  {answer : Except Failure Outcome}

/-- Nobody is about anything. -/
structure AtRest (scene : Scene) : Prop where
  free : ∀ caller, scene.callers caller = .free
  idle : ∀ slot, scene.shared.running slot = false

/-- The scene behind a lookup that finds nothing and the start of the computation, if no
other step comes between. -/
def begun (scene : Scene) (caller : Nat) (fingerprint : Fingerprint) : Scene where
  shared := ((scene.shared.look fingerprint).2.fetch fingerprint).2.start
    (scene.shared.current fingerprint) true
  callers := Function.update scene.callers caller
    (.computing (scene.shared.current fingerprint) .compute)

/-- The scene behind the end of a computation that was begun in it. -/
def ended (scene : Scene) (caller : Nat) (fingerprint : Fingerprint)
    (answer : Except Failure Outcome) : Scene where
  shared := (scene.begun caller fingerprint).shared.finish (scene.shared.current fingerprint) answer
  callers := Function.update scene.callers caller .free

theorem begun_steps (free : scene.callers caller = .free)
    (missing : scene.shared.cache.slots.held? fingerprint = none)
    (idle : scene.shared.running (scene.shared.current fingerprint) = false) :
    ∃ looked held, Step scene (.looked caller fingerprint none) looked ∧
      Step looked (.fetched caller (scene.shared.current fingerprint) .compute) held ∧
      Step held (.began caller (scene.shared.current fingerprint))
        (scene.begun caller fingerprint) := by
  have vacant := (Shared.content_current _ fingerprint).trans missing
  let looked : Scene := { scene with shared := (scene.shared.look fingerprint).2 }
  let held : Scene := { looked with shared := (looked.shared.fetch fingerprint).2 }.move caller
    (.holding (scene.shared.current fingerprint) .compute)
  have fetches : Step looked (.fetched caller (scene.shared.current fingerprint) .compute) held :=
    @Step.fetch looked caller free fingerprint .compute
  have starts := @Step.start held caller _ .compute (Function.update_self ..)
    (by simpa [held, looked] using vacant) idle
  refine ⟨looked, held, .of_content free vacant, fetches, ?_⟩
  simpa only [begun, move, held, looked, Errand.counted, Function.update_idem] using starts

theorem ended_step :
    Step (scene.begun caller fingerprint)
      (.finished caller (scene.shared.current fingerprint) answer)
      (scene.ended caller fingerprint answer) := by
  have finishes := @Step.finish (scene.begun caller fingerprint) caller _ .compute answer
    (Function.update_self ..) trivial
  simpa only [ended, move, begun, Function.update_idem] using finishes

theorem AtRest.ended (rest : scene.AtRest) : (scene.ended caller fingerprint answer).AtRest where
  free := by
    intro other
    refine (Function.update_apply ..).trans ?_
    split
    next => rfl
    next => exact rest.free other
  idle := by
    intro slot
    rw [Scene.ended, Shared.running_finish]
    refine (Function.update_apply ..).trans ?_
    split
    next => rfl
    next apart => exact (Function.update_of_ne apart ..).trans (rest.idle slot)

theorem cache_begun (missing : scene.shared.cache.slots.held? fingerprint = none) :
    (scene.begun caller fingerprint).shared.cache =
      (scene.shared.cache.countMiss.ensure fingerprint).countComputation := by
  have absent := (@Cache.held?_inStage scene.shared.cache _ rfl fingerprint).trans missing
  have looked : (scene.shared.look fingerprint).2.cache = scene.shared.cache.countMiss := by
    rw [Shared.look, Cache.get_of_missing absent]
  rw [← looked]
  rfl

theorem cache_ended :
    (scene.ended caller fingerprint answer).shared.cache =
      match answer with
      | .ok outcome => ((scene.begun caller fingerprint).shared.cache.fill fingerprint outcome).2
      | .error _ => (scene.begun caller fingerprint).shared.cache := by
  cases answer with
  | ok outcome => exact congrArg Shared.cache (if_pos rfl)
  | error failure => rfl

theorem held?_ended {outcome : Outcome}
    (missing : scene.shared.cache.slots.held? fingerprint = none) :
    (scene.ended caller fingerprint (.ok outcome)).shared.cache.slots.held? fingerprint =
      some outcome := by
  have vacant := (Slots.held?_ensure scene.shared.cache.slots fingerprint fingerprint).trans missing
  rw [cache_ended, cache_begun missing]
  refine (Slots.held?_fill_self ..).trans ?_
  exact congrArg (fun held : Option Outcome => some (held.getD outcome)) vacant

end Scene

namespace Traffic

/-- The traffic when a resolver has taken some steps at one stage. -/
def alone (traffic : Traffic) (caller stage steps : Nat) (scene : Scene)
    (resolver : Option Resolver) : Traffic where
  calendar := { traffic.calendar with now := traffic.calendar.now + steps }
  scenes := Function.update traffic.scenes stage scene
  lineage := traffic.lineage
  resolvers := Function.update traffic.resolvers caller resolver

section Alone

variable {σ : Type} {pipeline : Pipeline σ} {first traffic : Traffic} {caller stage steps : Nat}
  {scene next : Scene} {resolver other : Option Resolver}

theorem scenes_alone : (traffic.alone caller stage steps scene resolver).scenes stage = scene :=
  Function.update_self ..

theorem scenes_alone_of_ne {given : Nat} (elsewhere : given ≠ stage) :
    (traffic.alone caller stage steps scene resolver).scenes given = traffic.scenes given :=
  Function.update_of_ne elsewhere ..

theorem resolvers_alone :
    (traffic.alone caller stage steps scene resolver).resolvers caller = resolver :=
  Function.update_self ..

theorem Run.turn (run : Run pipeline first (traffic.alone caller stage steps scene resolver))
    (step : Step pipeline (traffic.alone caller stage steps scene resolver)
      (((traffic.alone caller stage steps scene resolver).setScene stage next).advance caller
        other)) :
    Run pipeline first (traffic.alone caller stage (steps + 1) next other) := by
  have behind := run.more step
  simp only [alone, setScene, advance, Calendar.tick, Function.update_idem] at behind
  exact behind

/-- A resolver that finds nothing begins to compute three steps later. -/
theorem Run.begins (run : Run pipeline first traffic) {request : Request} {outer : List Effort}
    (here : traffic.resolvers caller = some ⟨request, .looking stage, outer⟩)
    (free : (traffic.scenes stage).callers caller = .free)
    (missing : (traffic.scenes stage).shared.cache.slots.held? request.fingerprint = none)
    (idle : (traffic.scenes stage).shared.running (traffic.current stage request.fingerprint) =
      false) :
    Run pipeline first (traffic.alone caller stage 3
      ((traffic.scenes stage).begun caller request.fingerprint)
      (some (request.begin
        ⟨stage, traffic.current stage request.fingerprint, traffic.calendar.now + 2⟩ outer))) := by
  obtain ⟨looked, held, looks, fetches, starts⟩ := Scene.begun_steps free missing idle
  have missed : Run pipeline first (traffic.alone caller stage 1 _ _) := run.more (.miss here looks)
  have fetched := missed.turn (@Step.fetch _ _ _ caller stage
    (traffic.current stage request.fingerprint) request outer held resolvers_alone rfl
    (by rw [scenes_alone]; exact fetches))
  exact fetched.turn (.start resolvers_alone (by rw [scenes_alone]; exact starts))

/-- A resolver that finds an outcome goes on with the computations behind it. -/
theorem Run.hits (run : Run pipeline first traffic) {request : Request} {outer : List Effort}
    (here : traffic.resolvers caller = some ⟨request, .looking stage, outer⟩)
    (free : (traffic.scenes stage).callers caller = .free) {outcome : Outcome}
    (held : (traffic.scenes stage).shared.cache.slots.held? request.fingerprint = some outcome)
    {lineage : List Computation}
    (listed : traffic.lineage stage (traffic.current stage request.fingerprint) = lineage) :
    Run pipeline first (traffic.alone caller stage 1
      { traffic.scenes stage with
        shared := ((traffic.scenes stage).shared.look request.fingerprint).2 }
      (request.deliver outer lineage)) := by
  rw [← listed]
  exact run.more (.hit here (.of_content free ((Shared.content_current _ _).trans held)))

end Alone

end Traffic

/-! ## A resolution -/

/-- The caches behind a computation of the stage at an index. -/
def Memory.ended (memory : Memory) (index : Nat) (fingerprint : Fingerprint) :
    Except Failure Outcome → Memory
  | .ok outcome => memory.store index fingerprint outcome
  | .error _ => memory

namespace Traffic

/-- The caches hold the same as in a session, and have counted the same. -/
def Mirrors (traffic : Traffic) (memory : Memory) : Prop :=
  ∀ stage cache, memory.cache? stage = some cache → (traffic.scenes stage).shared.cache = cache

variable {traffic later : Traffic} {memory : Memory}

theorem Mirrors.change (mirrors : traffic.Mirrors memory) {stage : Nat} {act : Cache → Cache}
    (here : (later.scenes stage).shared.cache = act (traffic.scenes stage).shared.cache)
    (elsewhere : ∀ other, other ≠ stage → later.scenes other = traffic.scenes other) :
    later.Mirrors (memory.change stage act) := by
  intro other cache present
  rw [Memory.cache?_change] at present
  split at present
  next same =>
    obtain ⟨before, was, rfl⟩ := Option.map_eq_some_iff.mp present
    rw [same, here, mirrors stage before was]
  next apart => rw [elsewhere other apart, mirrors other cache present]

/-- Nobody is about anything in the first stages. -/
def Still (traffic : Traffic) (stages : Nat) : Prop :=
  ∀ stage, stage < stages → (traffic.scenes stage).AtRest

end Traffic

namespace Resolver

/-- The resolver that goes on with the answer of the stage that it looked up. -/
def Follows (request : Request) (outer : List Effort) (resolver : Option Resolver) :
    Except Failure Outcome → Prop
  | .ok outcome => ∃ own sources, own.outcome = outcome ∧
      resolver = request.deliver outer (own :: sources)
  | .error failure => resolver = some ⟨request, .failing failure, outer⟩

end Resolver

section Resolution

variable {σ : Type} {pipeline : Pipeline σ}

/-- A resolver alone came to the answer of a stage, and left the caches behind as told. -/
structure Traffic.Resolved (pipeline : Pipeline σ) (traffic : Traffic) (caller stage : Nat)
    (request : Request) (outer : List Effort) (answer : Except Failure Outcome) (memory : Memory)
    (later : Traffic) : Prop where
  run : Run pipeline pipeline.newTraffic later
  mirrors : later.Mirrors memory
  still : later.Still (stage + 1)
  above : ∀ other, stage < other → later.scenes other = traffic.scenes other
  others : ∀ other, other ≠ caller → later.resolvers other = traffic.resolvers other
  follows : Resolver.Follows request outer (later.resolvers caller) answer

/-- A resolver alone began the computation of a stage. -/
structure Traffic.Opened (pipeline : Pipeline σ) (traffic : Traffic) (caller : Nat)
    (request : Request) (outer : List Effort) (effort : Effort) (memory : Memory)
    (later : Traffic) : Prop where
  run : Run pipeline pipeline.newTraffic later
  mirrors : later.Mirrors memory
  still : later.Still effort.stage
  begun : later.scenes effort.stage =
    (traffic.scenes effort.stage).begun caller request.fingerprint
  above : ∀ other, effort.stage < other → later.scenes other = traffic.scenes other
  others : ∀ other, other ≠ caller → later.resolvers other = traffic.resolvers other
  running : later.resolvers caller = some (request.begin effort outer)

variable {traffic later : Traffic} {caller stage : Nat} {request : Request} {outer : List Effort}
  {answer : Except Failure Outcome} {memory : Memory} {scene : Scene}

/-- What is held for a stage is what its table holds. -/
theorem Traffic.Mirrors.held? (mirrors : traffic.Mirrors memory)
    (inRange : stage < memory.stages.length) (fingerprint : Fingerprint) :
    memory.held? stage fingerprint =
      (traffic.scenes stage).shared.cache.slots.held? fingerprint := by
  rw [Memory.stages, List.length_map] at inRange
  have present : memory.cache? stage = some memory.caches[stage] := List.getElem?_eq_getElem inRange
  rw [mirrors stage _ present, Memory.held?, present]
  rfl

/-- The step that ends a computation. -/
theorem Traffic.Run.concludes (run : Run pipeline pipeline.newTraffic traffic)
    (step : Step pipeline traffic later) (still : traffic.Still stage) (rest : scene.AtRest)
    (begun : traffic.scenes stage = scene.begun caller request.fingerprint)
    (scenes : later.scenes =
      Function.update traffic.scenes stage (scene.ended caller request.fingerprint answer))
    (others : ∀ other, other ≠ caller → later.resolvers other = traffic.resolvers other)
    (follows : Resolver.Follows request outer (later.resolvers caller) answer)
    (mirrors : traffic.Mirrors memory) :
    Resolved pipeline traffic caller stage request outer answer
      (memory.ended stage request.fingerprint answer) later where
  run := run.more step
  mirrors := by
    have here := congrFun scenes stage
    rw [Function.update_self] at here
    have elsewhere : ∀ other, other ≠ stage → later.scenes other = traffic.scenes other := by
      intro other apart
      rw [scenes, Function.update_of_ne apart]
    have cache := @Scene.cache_ended scene caller request.fingerprint answer
    rw [← here, ← begun] at cache
    cases answer with
    | ok outcome => exact mirrors.change cache elsewhere
    | error failure =>
        intro other before present
        rw [← mirrors other before present]
        by_cases same : other = stage
        · rw [same, cache]
        · rw [elsewhere other same]
  still := by
    intro other below
    rw [scenes, Function.update_apply]
    split
    next => exact rest.ended
    next apart => exact still other (Nat.lt_of_le_of_ne (Nat.le_of_lt_succ below) apart)
  above := by
    intro other above
    rw [scenes, Function.update_of_ne (Nat.ne_of_gt above)]
  others := others
  follows := follows

theorem Traffic.Resolved.since {mid : Traffic}
    (resolved : Resolved pipeline mid caller stage request outer answer memory later)
    (above : ∀ other, stage < other → mid.scenes other = traffic.scenes other)
    (others : ∀ other, other ≠ caller → mid.resolvers other = traffic.resolvers other) :
    Resolved pipeline traffic caller stage request outer answer memory later :=
  { resolved with
    above := fun other higher => (resolved.above other higher).trans (above other higher)
    others := fun other apart => (resolved.others other apart).trans (others other apart) }

section Opening

variable (run : Traffic.Run pipeline pipeline.newTraffic traffic)
  (here : traffic.resolvers caller = some ⟨request, .looking stage, outer⟩)
  (still : traffic.Still (stage + 1)) (mirrors : traffic.Mirrors memory)
  (inRange : stage < memory.stages.length)
include run here still mirrors inRange

/-- Where nothing is held for a stage, its computation begins. -/
theorem Traffic.Run.opens (missing : memory.held? stage request.fingerprint = none) :
    ∃ started later, Opened pipeline traffic caller request outer
      ⟨stage, traffic.current stage request.fingerprint, started⟩
      (memory.miss stage request.fingerprint) later := by
  have rest := still stage (Nat.lt_succ_self _)
  rw [mirrors.held? inRange] at missing
  refine ⟨_, _,
    { run := run.begins here (rest.free caller) missing (rest.idle _)
      mirrors := ?_
      still := ?_
      begun := scenes_alone
      above := fun other above => scenes_alone_of_ne (Nat.ne_of_gt above)
      others := fun other apart => Function.update_of_ne apart ..
      running := resolvers_alone }⟩
  · apply mirrors.change
    · rw [scenes_alone]
      exact Scene.cache_begun missing
    · exact fun other apart => scenes_alone_of_ne apart
  · intro other below
    rw [scenes_alone_of_ne (Nat.ne_of_lt below)]
    exact still other (Nat.lt_succ_of_lt below)

/-- What is held for a stage is found. -/
theorem Traffic.Run.finds {outcome : Outcome}
    (held : memory.held? stage request.fingerprint = some outcome) :
    ∃ later, Resolved pipeline traffic caller stage request outer (.ok outcome)
      (memory.hit stage) later := by
  have rest := still stage (Nat.lt_succ_self _)
  rw [mirrors.held? inRange] at held
  have filled := (Shared.content_current _ request.fingerprint).trans held
  obtain ⟨own, sources, entry⟩ := run.sound.entries stage _ outcome filled
  have cache : ((traffic.scenes stage).shared.look request.fingerprint).2.cache =
      (traffic.scenes stage).shared.cache.countHit := by
    have found := (@Cache.held?_inStage (traffic.scenes stage).shared.cache _ rfl _).trans held
    rw [Shared.look, Cache.get_of_held found]
  refine ⟨_,
    { run := run.hits here (rest.free caller) held entry.listed
      mirrors := ?_
      still := ?_
      above := fun other above => scenes_alone_of_ne (Nat.ne_of_gt above)
      others := fun other apart => Function.update_of_ne apart ..
      follows := ⟨own, sources, ?_, resolvers_alone⟩ }⟩
  · apply mirrors.change
    · rw [scenes_alone]
      exact cache
    · exact fun other apart => scenes_alone_of_ne apart
  · intro other below
    by_cases here : other = stage
    · rw [here, scenes_alone]
      exact ⟨rest.free, rest.idle⟩
    · rw [scenes_alone_of_ne here]
      exact still other below
  · exact Option.some.inj (entry.holds.symm.trans filled)

end Opening

/-- A stage is run, and its computation ends with what it came to. -/
theorem Traffic.Run.ends (run : Run pipeline pipeline.newTraffic traffic) {effort : Effort}
    {sources : List Computation}
    (here : traffic.resolvers caller = some ⟨request, .running effort sources, outer⟩)
    (inRange : effort.stage < pipeline.registry.size) {state after : σ}
    (ran : pipeline.runStage request ⟨effort.stage, inRange⟩ (request.materialBehind sources)
      state = (answer, after))
    (slot : effort.slot = scene.shared.current request.fingerprint) (rest : scene.AtRest)
    (begun : traffic.scenes effort.stage = scene.begun caller request.fingerprint)
    (still : traffic.Still effort.stage) (mirrors : traffic.Mirrors memory) :
    ∃ later, Resolved pipeline traffic caller effort.stage request outer answer
      (memory.ended effort.stage request.fingerprint answer) later := by
  have finishes := @Scene.ended_step scene caller request.fingerprint answer
  rw [← begun, ← slot] at finishes
  cases answer with
  | ok outcome =>
      refine ⟨_, run.concludes (.finish here inRange ran finishes) still rest begun rfl
        ?_ ?_ mirrors⟩
      · exact fun other apart => Function.update_of_ne apart ..
      · exact ⟨_, sources, rfl, Function.update_self ..⟩
  | error failure =>
      refine ⟨_, run.concludes (.fail here inRange ran finishes) still rest begun rfl
        ?_ ?_ mirrors⟩
      · exact fun other apart => Function.update_of_ne apart ..
      · exact Function.update_self ..

/-- A stage is run on what the stage before came to. -/
theorem Traffic.Opened.ends {mid lower : Traffic} {slot : Slot} {started : Nat}
    {opening behind : Memory} {previous : Outcome}
    (opened : Opened pipeline traffic caller request outer ⟨stage + 1, slot, started⟩ opening mid)
    (resolved : Resolved pipeline mid caller stage request (⟨stage + 1, slot, started⟩ :: outer)
      (.ok previous) behind lower)
    (inRange : stage + 1 < pipeline.registry.size) {state after : σ}
    (ran : pipeline.runStage request ⟨stage + 1, inRange⟩ previous.material state =
      (answer, after))
    (slotIs : slot = traffic.current (stage + 1) request.fingerprint)
    (rest : (traffic.scenes (stage + 1)).AtRest) :
    ∃ later, Resolved pipeline traffic caller (stage + 1) request outer answer
      (behind.ended (stage + 1) request.fingerprint answer) later := by
  obtain ⟨own, sources, rfl, running⟩ := resolved.follows
  have begun := (resolved.above _ (Nat.lt_succ_self _)).trans opened.begun
  have above := fun other (higher : stage + 1 < other) =>
    resolved.above other (Nat.lt_of_succ_lt higher)
  obtain ⟨later, ended⟩ := resolved.run.ends running inRange ran slotIs rest begun resolved.still
    resolved.mirrors
  exact ⟨later, (ended.since above resolved.others).since opened.above opened.others⟩

/-- A resolver that nobody disturbs takes the course of a resolution. -/
theorem Pipeline.Resolves.undisturbed {session after : Session σ}
    (resolves : pipeline.Resolves request request.fingerprint stage session answer after)
    (fits : pipeline.Fits session) (inRange : stage < pipeline.registry.size)
    (run : Traffic.Run pipeline pipeline.newTraffic traffic)
    (here : traffic.resolvers caller = some ⟨request, .looking stage, outer⟩)
    (still : traffic.Still (stage + 1)) (mirrors : traffic.Mirrors session.memory) :
    ∃ later, Traffic.Resolved pipeline traffic caller stage request outer answer after.memory
      later := by
  -- The slot of a stage is taken while the stages before are resolved, and filled behind them.
  induction resolves generalizing traffic outer with
  | found held => exact run.finds here still mirrors (fits.inRange inRange) held
  | failedFirst atZero missing ran =>
      obtain ⟨started, mid, opened⟩ := run.opens here still mirrors (fits.inRange inRange) missing
      obtain ⟨later, resolved⟩ := opened.run.ends opened.running atZero ran rfl
        (still 0 Nat.zero_lt_one) opened.begun opened.still opened.mirrors
      exact ⟨later, resolved.since opened.above opened.others⟩
  | computedFirst atZero missing ran =>
      obtain ⟨started, mid, opened⟩ := run.opens here still mirrors (fits.inRange inRange) missing
      obtain ⟨later, resolved⟩ := opened.run.ends opened.running atZero ran rfl
        (still 0 Nat.zero_lt_one) opened.begun opened.still opened.mirrors
      exact ⟨later, resolved.since opened.above opened.others⟩
  | @failedBelow stage session after failure missing below inductionHypothesis =>
      obtain ⟨started, mid, opened⟩ := run.opens here still mirrors (fits.inRange inRange) missing
      obtain ⟨lower, resolved⟩ := inductionHypothesis (fits.miss _ _)
        (Pipeline.inRange_of_succ inRange) opened.run opened.running opened.still opened.mirrors
      have rest := still (stage + 1) (Nat.lt_succ_self _)
      have begun := (resolved.above _ (Nat.lt_succ_self _)).trans opened.begun
      have finishes := @Scene.ended_step (traffic.scenes (stage + 1)) caller request.fingerprint
        (.error failure)
      rw [← begun] at finishes
      have ended := resolved.run.concludes (.unwind resolved.follows finishes) resolved.still rest
        begun rfl (fun other apart => Function.update_of_ne apart ..)
        (Function.update_self ..) resolved.mirrors
      have above := fun other (higher : stage + 1 < other) =>
        resolved.above other (Nat.lt_of_succ_lt higher)
      exact ⟨_, (ended.since above resolved.others).since opened.above opened.others⟩
  | failed higher missing below ran inductionHypothesis =>
      obtain ⟨started, mid, opened⟩ := run.opens here still mirrors (fits.inRange inRange) missing
      obtain ⟨lower, resolved⟩ := inductionHypothesis (fits.miss _ _)
        (Pipeline.inRange_of_succ inRange) opened.run opened.running opened.still opened.mirrors
      exact opened.ends resolved higher ran rfl (still _ (Nat.lt_succ_self _))
  | computed higher missing below ran inductionHypothesis =>
      obtain ⟨started, mid, opened⟩ := run.opens here still mirrors (fits.inRange inRange) missing
      obtain ⟨lower, resolved⟩ := inductionHypothesis (fits.miss _ _)
        (Pipeline.inRange_of_succ inRange) opened.run opened.running opened.still opened.mirrors
      exact opened.ends resolved higher ran rfl (still _ (Nat.lt_succ_self _))

end Resolution

/-! ## Operations -/

section Operations

variable {σ : Type} {pipeline : Pipeline σ} {session : Session σ} {traffic later : Traffic}

/-- The caches are those of a session, and nobody is about anything. -/
structure Traffic.Reflects (pipeline : Pipeline σ) (session : Session σ) (traffic : Traffic) :
    Prop where
  run : Run pipeline pipeline.newTraffic traffic
  mirrors : traffic.Mirrors session.memory
  rest : ∀ stage, (traffic.scenes stage).AtRest
  vacant : ∀ caller, traffic.resolvers caller = none

theorem Traffic.reflects_newTraffic (state : σ) :
    Reflects pipeline (pipeline.newSession state) pipeline.newTraffic where
  run := .idle
  mirrors := by
    intro stage cache present
    have present : (pipeline.registry.stageIds.map Cache.empty)[stage]? = some cache := present
    rw [List.getElem?_map] at present
    obtain ⟨name, named, rfl⟩ := Option.map_eq_some_iff.mp present
    show Cache.empty (pipeline.registry.stageIds[stage]?.getD "") = Cache.empty name
    rw [named]
    rfl
  rest := fun _ => ⟨fun _ => rfl, fun _ => rfl⟩
  vacant := fun _ => rfl

/-- What a resolution leaves in the caches, a resolver leaves that nobody disturbs. -/
theorem Traffic.Reflects.outcomeAt (reflects : Reflects pipeline session traffic)
    (enabled : pipeline.cacheEnabled = true) (fits : pipeline.Fits session) (request : Request)
    {index : Nat} (inRange : index < pipeline.registry.size) :
    ∃ later, Reflects pipeline
      (pipeline.outcomeAt request request.fingerprint index inRange session).2 later := by
  have resolves := Pipeline.outcomeAt_resolves request request.fingerprint enabled inRange fits
  have arrived := reflects.run.more (.arrive request enabled (reflects.vacant 0) inRange)
  obtain ⟨later, resolved⟩ := resolves.undisturbed fits inRange arrived (Function.update_self ..)
    (fun stage _ => reflects.rest stage) reflects.mirrors
  have rest : ∀ stage, (later.scenes stage).AtRest := by
    intro stage
    rcases Nat.lt_or_ge index stage with above | upTo
    · rw [resolved.above stage above]
      exact reflects.rest stage
    · exact resolved.still stage (Nat.lt_succ_of_le upTo)
  have others : ∀ caller, caller ≠ 0 → later.resolvers caller = none := by
    intro caller apart
    rw [resolved.others caller apart]
    exact (Function.update_of_ne apart ..).trans (reflects.vacant caller)
  have follows := resolved.follows
  cases answered : (pipeline.outcomeAt request request.fingerprint index inRange session).1 with
  | ok outcome =>
      rw [answered] at follows
      obtain ⟨_, _, _, gone⟩ := follows
      refine ⟨later, resolved.run, resolved.mirrors, rest, fun caller => ?_⟩
      by_cases here : caller = 0
      · rw [here, gone]
        rfl
      · exact others caller here
  | error failure =>
      rw [answered] at follows
      refine ⟨_, resolved.run.more (.leave follows), resolved.mirrors, rest, fun caller => ?_⟩
      rw [resolvers_advance]
      split
      next => rfl
      next here => exact others caller here

/-- The tables of the first stages have dropped slots, and all else is as before. -/
structure Traffic.Dropped (pipeline : Pipeline σ) (traffic : Traffic) (how : Drop) (count : Nat)
    (later : Traffic) : Prop where
  run : Run pipeline pipeline.newTraffic later
  scenes : ∀ stage, later.scenes stage =
    if stage < count then
      { traffic.scenes stage with shared := (traffic.scenes stage).shared.drop how }
    else traffic.scenes stage
  resolvers : later.resolvers = traffic.resolvers

namespace Traffic.Dropped

variable {how : Drop} {count : Nat}

theorem none (run : Run pipeline pipeline.newTraffic later)
    (scenes : later.scenes = traffic.scenes) (resolvers : later.resolvers = traffic.resolvers) :
    Dropped pipeline traffic how 0 later :=
  ⟨run, fun stage => congrFun scenes stage, resolvers⟩

theorem more (dropped : Dropped pipeline traffic how count later) {calendar : Calendar}
    (step : ∀ next, Scene.Step (later.scenes count) (.dropped how) next →
      Step pipeline later { later.setScene count next with calendar }) :
    ∃ behind, Dropped pipeline traffic how (count + 1) behind ∧ behind.calendar = calendar := by
  refine ⟨_, ⟨dropped.run.more (step _ (.drop how)), ?_, dropped.resolvers⟩, rfl⟩
  intro stage
  have before := dropped.scenes stage
  show (later.setScene count _).scenes stage = _
  rw [scenes_setScene]
  rcases Nat.lt_trichotomy stage count with below | rfl | above
  · rw [if_neg (Nat.ne_of_lt below), before, if_pos below, if_pos (Nat.lt_succ_of_lt below)]
  · rw [if_pos rfl, before, if_neg (Nat.lt_irrefl _), if_pos (Nat.lt_succ_self _)]
  · rw [if_neg (Nat.ne_of_gt above), before, if_neg (Nat.lt_asymm above),
      if_neg (Nat.not_lt.mpr above)]

theorem reflects (dropped : Dropped pipeline traffic how pipeline.registry.size later)
    (reflects : Reflects pipeline session traffic) (fits : pipeline.Fits session)
    {memory : Memory}
    (caches : memory.caches = session.memory.caches.map fun cache => cache.drop how) :
    Reflects pipeline { session with memory } later where
  run := dropped.run
  mirrors := by
    intro stage cache present
    have present : memory.caches[stage]? = some cache := present
    rw [caches, List.getElem?_map] at present
    obtain ⟨before, was, rfl⟩ := Option.map_eq_some_iff.mp present
    have inRange : stage < pipeline.registry.size := by
      obtain ⟨inCaches, _⟩ := List.getElem?_eq_some_iff.mp was
      have sizes : session.memory.caches.length = pipeline.registry.size := by
        have stages := congrArg List.length fits
        rwa [Memory.stages, List.length_map, Registry.stageIds, List.length_map] at stages
      exact sizes ▸ inCaches
    rw [dropped.scenes, if_pos inRange]
    exact congrArg (Cache.drop · how) (reflects.mirrors stage before was)
  rest := by
    intro stage
    obtain ⟨free, idle⟩ := reflects.rest stage
    rw [dropped.scenes]
    split
    next => exact ⟨free, idle⟩
    next => exact ⟨free, idle⟩
  vacant := fun caller => (congrFun dropped.resolvers caller).trans (reflects.vacant caller)

end Traffic.Dropped

/-- What an invalidation leaves in the caches, the sweeps of all stages leave. -/
theorem Traffic.Reflects.forget (reflects : Reflects pipeline session traffic)
    (fits : pipeline.Fits session) (dependency : String) :
    ∃ later, Reflects pipeline (session.forget dependency).2 later := by
  let keep : Key → Outcome → Bool := fun _ outcome => !outcome.dependsOn dependency
  -- The invalidation stands behind all others, and sweeps one stage after another.
  have swept : ∀ count, count ≤ pipeline.registry.size → ∃ later,
      Dropped pipeline traffic (.retain keep) count later ∧
        ∃ invalidation, invalidation.swept.length = count ∧
          invalidation.dependency = dependency ∧
          later.calendar.invalidations[traffic.calendar.invalidations.length]? =
            some invalidation := by
    intro count upTo
    induction count with
    | zero =>
        refine ⟨_, .none (reflects.run.more (.announce dependency)) rfl rfl,
          ⟨dependency, traffic.calendar.now, []⟩, rfl, rfl, ?_⟩
        exact List.getElem?_concat_length ..
    | succ count inductionHypothesis =>
        obtain ⟨before, dropped, invalidation, rfl, rfl, listed⟩ :=
          inductionHypothesis (Nat.le_of_succ_le upTo)
        obtain ⟨behind, droppedNext, calendar⟩ :=
          dropped.more fun next => .sweep listed (Nat.lt_of_succ_le upTo)
        obtain ⟨place, _⟩ := List.getElem?_eq_some_iff.mp listed
        refine ⟨behind, droppedNext, invalidation.sweep before.calendar.now, ?_, rfl, ?_⟩
        · exact List.length_append
        · rw [calendar]
          exact List.getElem?_set_self place
  obtain ⟨later, dropped, _⟩ := swept _ (Nat.le_refl _)
  exact ⟨later, dropped.reflects reflects fits (session.memory.caches_forget dependency)⟩

theorem Traffic.Reflects.clear (reflects : Reflects pipeline session traffic)
    (fits : pipeline.Fits session) : ∃ later, Reflects pipeline session.clear later := by
  have cleared : ∀ count, ∃ later, Dropped pipeline traffic .clear count later := by
    intro count
    induction count with
    | zero => exact ⟨traffic, .none reflects.run rfl rfl⟩
    | succ count inductionHypothesis =>
        obtain ⟨before, dropped⟩ := inductionHypothesis
        obtain ⟨behind, droppedNext, _⟩ := dropped.more fun next => .clear
        exact ⟨behind, droppedNext⟩
  obtain ⟨later, dropped⟩ := cleared pipeline.registry.size
  exact ⟨later, dropped.reflects reflects fits rfl⟩

/-- Every session that operations lead to is reflected by what steps of resolvers lead to,
with nobody disturbed. -/
theorem Pipeline.Reachable.reflected (reachable : pipeline.Reachable session)
    (enabled : pipeline.cacheEnabled = true) :
    ∃ traffic, Traffic.Reflects pipeline session traffic := by
  have both : pipeline.Fits session ∧ ∃ traffic, Traffic.Reflects pipeline session traffic := by
    apply reachable.induction
    · exact fun state => ⟨Memory.stages_ofStages _, _, Traffic.reflects_newTraffic state⟩
    · rintro requests request member index inRange session ⟨fits, traffic, reflects⟩
      have resolves := Pipeline.outcomeAt_resolves request request.fingerprint enabled inRange fits
      exact ⟨resolves.fits fits, reflects.outcomeAt enabled fits request inRange⟩
    · rintro dependency session ⟨fits, traffic, reflects⟩
      exact ⟨(Memory.stages_forget _ _).trans fits, reflects.forget fits dependency⟩
    · rintro session ⟨fits, traffic, reflects⟩
      exact ⟨(Memory.stages_clear _).trans fits, reflects.clear fits⟩
  exact both.2

end Operations

end Cascade
