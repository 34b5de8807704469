import Cascade.Proofs.Chronicle
import Cascade.Proofs.History

/-!
# The events of operations

With caching on, every operation has its events.  A stage that is resolved is
answered at once if its cache holds the outcome; otherwise the stages before it have
their events, its own computation ends, and then it is answered.

The events of a history are an account of the caches: they lead from what was held
to what is held behind it, and have one computation for each that was counted.
-/

namespace Cascade

/-! ## Computations that were counted -/

namespace Memory

/-- The number of computations that the cache of the stage at an index has
counted. -/
def computations? (memory : Memory) (index : Nat) : Option Nat :=
  (memory.cache? index).map Cache.computations

theorem computations?_change (memory : Memory) (index other : Nat) {act : Cache → Cache}
    {added : Nat} (adds : ∀ cache, (act cache).computations = cache.computations + added) :
    (memory.change index act).computations? other =
      (memory.computations? other).map fun count =>
        count + if other = index then added else 0 := by
  rw [computations?, computations?, cache?_change]
  by_cases here : other = index
  · simp [here, Option.map_map, Function.comp_def, adds]
  · simp [here, Option.map_map, Function.comp_def]

theorem computations?_change_of_eq (memory : Memory) (index other : Nat) {act : Cache → Cache}
    (keeps : ∀ cache, (act cache).computations = cache.computations) :
    (memory.change index act).computations? other = memory.computations? other := by
  have unchanged : (memory.change index act).computations? other =
      (memory.computations? other).map fun count => count + if other = index then 0 else 0 :=
    computations?_change memory index other keeps
  simpa using unchanged

@[simp]
theorem computations?_hit (memory : Memory) (index other : Nat) :
    (memory.hit index).computations? other = memory.computations? other :=
  computations?_change_of_eq memory index other fun _ => rfl

theorem computations?_miss (memory : Memory) (index other : Nat) (fingerprint : Fingerprint) :
    (memory.miss index fingerprint).computations? other =
      (memory.computations? other).map fun count => count + if other = index then 1 else 0 :=
  computations?_change memory index other fun _ => rfl

@[simp]
theorem computations?_store (memory : Memory) (index other : Nat) (fingerprint : Fingerprint)
    (outcome : Outcome) :
    (memory.store index fingerprint outcome).computations? other = memory.computations? other :=
  computations?_change_of_eq memory index other fun _ => rfl

@[simp]
theorem computations?_forget (memory : Memory) (dependency : String) (index : Nat) :
    (memory.forget dependency).2.computations? index = memory.computations? index := by
  unfold computations? cache?
  rw [caches_forget, List.getElem?_map, Option.map_map]
  rfl

@[simp]
theorem computations?_clear (memory : Memory) (index : Nat) :
    memory.clear.computations? index = memory.computations? index := by
  unfold computations? cache? clear
  rw [List.getElem?_map, Option.map_map]
  rfl

/-- A stored outcome is held in addition to what was held before. -/
theorem held?_store {memory : Memory} {index : Nat} {fingerprint : Fingerprint}
    (present : index < memory.stages.length) (missing : memory.held? index fingerprint = none)
    (outcome : Outcome) :
    (memory.store index fingerprint outcome).held? =
      Holdings.put memory.held? index fingerprint outcome := by
  funext other given
  unfold Holdings.put
  by_cases here : other = index ∧ given = fingerprint
  · obtain ⟨rfl, rfl⟩ := here
    rw [if_pos ⟨rfl, rfl⟩, held?_store_self present missing]
  · rw [if_neg here, held?_store_of_ne outcome (Decidable.not_and_iff_not_or_not.mp here)]

/-! ## Accounts of changes -/

/-- The events are an account of what changed in the caches: they lead from what was
held to what is held, and have as many computations as were counted. -/
structure Told (before after : Memory) (events : List Event) : Prop where
  held : Chronicle before.held? events after.held?
  counts : ∀ index, after.computations? index =
    (before.computations? index).map fun count =>
      count + events.countP (Event.computesAt index)

namespace Told

variable {before between after : Memory}

/-- Nothing is told where nothing is dropped, held or computed anew. -/
theorem quiet (held : after.held? = before.held?)
    (counts : ∀ index, after.computations? index = before.computations? index) :
    Told before after [] := by
  constructor
  · rw [held]
    exact .nil
  · simpa using counts

/-- An event that is not a computation. -/
theorem single {event : Event} (takes : event.Takes before.held? after.held?)
    (counts : ∀ index, after.computations? index = before.computations? index)
    (idle : ∀ index, event.computesAt index = false) : Told before after [event] := by
  constructor
  · exact .single takes
  · simpa [idle] using counts

theorem append {first second : List Event} (early : Told before between first)
    (late : Told between after second) : Told before after (first ++ second) := by
  constructor
  · exact early.held.append late.held
  · intro index
    rw [late.counts, early.counts, Option.map_map, List.countP_append]
    simp [Function.comp_def, Nat.add_assoc]

/-- A computation that has ended, with what happened since it was begun. -/
theorem computed {index : Nat} {fingerprint : Fingerprint} {events : List Event}
    {answer : Except Failure Outcome}
    (below : Told (before.miss index fingerprint) between events)
    (takes : (Event.computed index fingerprint answer).Takes between.held? after.held?)
    (counts : ∀ other, after.computations? other = between.computations? other) :
    Told before after (events ++ [.computed index fingerprint answer]) := by
  have same : (before.miss index fingerprint).held? = before.held? := by
    funext other given
    exact held?_miss _ _ _ _ _
  constructor
  · rw [← same]
    exact below.held.append (.single takes)
  · intro other
    rw [counts, below.counts, computations?_miss, Option.map_map]
    congr 1
    funext count
    -- The miss counted the computation that ends only now, behind the events below.
    by_cases here : other = index
    · simp [here, Event.computesAt]
      omega
    · simp [here, Ne.symm here, Event.computesAt]

end Told

end Memory

/-! ## The events of operations -/

namespace Pipeline

variable {σ : Type}

/-- The events of a resolution at the stage at an index, given those of the stages
before it. -/
def eventsThrough (pipeline : Pipeline σ) (request : Request) (fingerprint : Fingerprint)
    (index : Nat) (inRange : index < pipeline.registry.size) (below : Session σ → List Event)
    (session : Session σ) : List Event :=
  let computing : List Event :=
    match session.memory.held? index fingerprint with
    | some _ => []
    | none =>
        let begun := session.miss index fingerprint
        below begun ++ [.computed index fingerprint
          (pipeline.computation request fingerprint index inRange begun).1]
  computing ++ [.answered index fingerprint
    (pipeline.outcomeAt request fingerprint index inRange session).1]

/-- The events of a resolution up to the stage at an index. -/
def eventsAt (pipeline : Pipeline σ) (request : Request) (fingerprint : Fingerprint) :
    (index : Nat) → index < pipeline.registry.size → Session σ → List Event
  | 0, inRange, session =>
      pipeline.eventsThrough request fingerprint 0 inRange (fun _ => []) session
  | index + 1, inRange, session =>
      pipeline.eventsThrough request fingerprint (index + 1) inRange
        (pipeline.eventsAt request fingerprint index (inRange_of_succ inRange)) session

/-- The events of serving a request. -/
def eventsOfServe (pipeline : Pipeline σ) (request : Request) (session : Session σ) :
    List Event :=
  match pipeline.registry.target request.stage with
  | .error _ => []
  | .ok target =>
      pipeline.eventsAt request request.fingerprint target (pipeline.inRange target) session

/-- The events of serving requests one after another. -/
def eventsOfServeAll (pipeline : Pipeline σ) : List Request → Session σ → List Event
  | [], _ => []
  | request :: rest, session =>
      pipeline.eventsOfServe request session ++
        pipeline.eventsOfServeAll rest (pipeline.serve request session).2

/-- The events of resolving a request up to each of the given stages, until one
fails. -/
def eventsOfStages (pipeline : Pipeline σ) (request : Request) (fingerprint : Fingerprint) :
    List (Fin pipeline.registry.size) → Session σ → List Event
  | [], _ => []
  | index :: rest, session =>
      pipeline.eventsAt request fingerprint index (pipeline.inRange index) session ++
        match pipeline.outcomeAt request fingerprint index (pipeline.inRange index) session with
        | (.error _, _) => []
        | (.ok _, session) => pipeline.eventsOfStages request fingerprint rest session

/-- The events of resolving a request up to every stage on the way to its
target. -/
def eventsOfServeChain (pipeline : Pipeline σ) (request : Request) (session : Session σ) :
    List Event :=
  match pipeline.registry.target request.stage with
  | .error _ => []
  | .ok target =>
      pipeline.eventsOfStages request request.fingerprint
        (target :: pipeline.stagesUpTo target) session

/-- The events of an operation. -/
def eventsOf (pipeline : Pipeline σ) (operation : Operation) (session : Session σ) :
    List Event :=
  match operation with
  | .serve request => pipeline.eventsOfServe request session
  | .serveAll requests => pipeline.eventsOfServeAll requests session
  | .serveChain request => pipeline.eventsOfServeChain request session
  | .forget dependency => [.forgot dependency]
  | .clear => [.cleared]

/-- The events of operations, one after another. -/
def eventsAlong (pipeline : Pipeline σ) : List Operation → Session σ → List Event
  | [], _ => []
  | operation :: rest, session =>
      pipeline.eventsOf operation session ++
        pipeline.eventsAlong rest (pipeline.perform operation session).2

/-! ## What a computation leaves -/

variable {pipeline : Pipeline σ} {request : Request} {fingerprint : Fingerprint} {index : Nat}
  {session : Session σ}

theorem memory_computation_succ {inRange : index + 1 < pipeline.registry.size} :
    (pipeline.computation request fingerprint (index + 1) inRange session).2.memory =
      (pipeline.outcomeAt request fingerprint index (Nat.lt_of_succ_lt inRange)
        session).2.memory := by
  rw [computation]
  generalize pipeline.outcomeAt request fingerprint index (Nat.lt_of_succ_lt inRange) session =
    resolved
  rcases resolved with ⟨_ | previous, after⟩ <;> rfl

/-- A computation does not touch the cache of its own stage. -/
theorem cache?_computation (request : Request) (fingerprint : Fingerprint)
    (enabled : pipeline.cacheEnabled = true) (fits : pipeline.Fits session)
    (inRange : index < pipeline.registry.size) :
    (pipeline.computation request fingerprint index inRange session).2.memory.cache? index =
      session.memory.cache? index := by
  cases index with
  | zero => rfl
  | succ index =>
      have below := outcomeAt_resolves request fingerprint enabled (Nat.lt_of_succ_lt inRange) fits
      rw [memory_computation_succ]
      exact below.cache?_above (Nat.lt_succ_self index)

theorem fits_computation (request : Request) (fingerprint : Fingerprint)
    (enabled : pipeline.cacheEnabled = true) (fits : pipeline.Fits session)
    (inRange : index < pipeline.registry.size) :
    pipeline.Fits (pipeline.computation request fingerprint index inRange session).2 := by
  cases index with
  | zero => exact fits
  | succ index =>
      have below := outcomeAt_resolves request fingerprint enabled (Nat.lt_of_succ_lt inRange) fits
      rw [Fits, memory_computation_succ]
      exact below.fits fits

/-! ## Operations are told by their events -/

/-- A stage whose outcome is held is answered at once. -/
theorem told_of_held (enabled : pipeline.cacheEnabled = true) (fits : pipeline.Fits session)
    (inRange : index < pipeline.registry.size) {outcome : Outcome}
    (held : session.memory.held? index fingerprint = some outcome) :
    session.memory.Told (pipeline.outcomeAt request fingerprint index inRange session).2.memory
      [.answered index fingerprint
        (pipeline.outcomeAt request fingerprint index inRange session).1] := by
  have same : (session.memory.hit index).held? = session.memory.held? := by
    funext other given
    exact Memory.held?_hit _ _ _ _
  rw [outcomeAt_of_held enabled fits inRange held]
  refine .single ?_ (Memory.computations?_hit _ _) fun _ => rfl
  rw [Session.memory_hit, same]
  refine .answered fun other => ?_
  rw [held, Option.some.injEq, Except.ok.injEq]

/-- A stage whose outcome is missing is answered behind its computation. -/
theorem told_of_missing (enabled : pipeline.cacheEnabled = true) (fits : pipeline.Fits session)
    (inRange : index < pipeline.registry.size)
    (missing : session.memory.held? index fingerprint = none) {events : List Event}
    (below : (session.miss index fingerprint).memory.Told
      (pipeline.computation request fingerprint index inRange
        (session.miss index fingerprint)).2.memory events) :
    session.memory.Told (pipeline.outcomeAt request fingerprint index inRange session).2.memory
      (events ++
        [.computed index fingerprint (pipeline.computation request fingerprint index inRange
          (session.miss index fingerprint)).1] ++
        [.answered index fingerprint
          (pipeline.outcomeAt request fingerprint index inRange session).1]) := by
  have begun := fits.miss index fingerprint
  have untouched := cache?_computation request fingerprint enabled begun inRange
  have inCaches := (fits_computation request fingerprint enabled begun inRange).inRange inRange
  rw [outcomeAt_eq_throughCache]
  cases computed : pipeline.computation request fingerprint index inRange
      (session.miss index fingerprint) with
  | mk answer after =>
      rw [computed] at below untouched inCaches
      -- The events below end where this computation does, before its outcome is stored.
      have stillMissing : after.memory.held? index fingerprint = none := by
        rw [Memory.held?, untouched]
        exact (Memory.held?_miss _ _ _ _ _).trans missing
      cases answer with
      | error failure =>
          rw [throughCache_of_failed enabled fits missing computed]
          refine (below.computed (.failed stillMissing) fun _ => rfl).append
            (.single (.answered fun outcome => ?_) (fun _ => rfl) fun _ => rfl)
          simp [stillMissing]
      | ok outcome =>
          rw [throughCache_of_computed enabled fits missing computed untouched]
          have stored := Memory.held?_store inCaches stillMissing outcome
          have takes : (Event.computed index fingerprint (.ok outcome)).Takes after.memory.held?
              (after.memory.store index fingerprint outcome).held? := by
            rw [stored]
            exact .computed stillMissing
          refine (below.computed takes (Memory.computations?_store _ _ · _ _)).append
            (.single (.answered fun other => ?_) (fun _ => rfl) fun _ => rfl)
          rw [Memory.held?_store_self inCaches stillMissing, Option.some.injEq, Except.ok.injEq]

theorem told_through (enabled : pipeline.cacheEnabled = true) (fits : pipeline.Fits session)
    (inRange : index < pipeline.registry.size) {below : Session σ → List Event}
    (told : (session.miss index fingerprint).memory.Told
      (pipeline.computation request fingerprint index inRange
        (session.miss index fingerprint)).2.memory (below (session.miss index fingerprint))) :
    session.memory.Told (pipeline.outcomeAt request fingerprint index inRange session).2.memory
      (pipeline.eventsThrough request fingerprint index inRange below session) := by
  unfold eventsThrough
  cases held : session.memory.held? index fingerprint with
  | some outcome => exact told_of_held enabled fits inRange held
  | none => exact told_of_missing enabled fits inRange held told

theorem told_outcomeAt (request : Request) (fingerprint : Fingerprint)
    (enabled : pipeline.cacheEnabled = true) (fits : pipeline.Fits session) (index : Nat)
    (inRange : index < pipeline.registry.size) :
    session.memory.Told (pipeline.outcomeAt request fingerprint index inRange session).2.memory
      (pipeline.eventsAt request fingerprint index inRange session) := by
  induction index generalizing session with
  | zero => exact told_through enabled fits inRange (.quiet rfl fun _ => rfl)
  | succ index inductionHypothesis =>
      apply told_through enabled fits inRange
      rw [memory_computation_succ]
      exact inductionHypothesis (fits.miss _ _) (Nat.lt_of_succ_lt inRange)

/-- Resolutions keep the stages of the caches. -/
theorem resolving_fits (enabled : pipeline.cacheEnabled = true) (requests : List Request) :
    pipeline.ResolvingKeeps requests pipeline.Fits :=
  fun request _ _ inRange _ fits =>
    (outcomeAt_resolves request request.fingerprint enabled inRange fits).fits fits

theorem told_forget (session : Session σ) (dependency : String) :
    session.memory.Told (session.forget dependency).2.memory [.forgot dependency] := by
  have held : (session.memory.forget dependency).2.held? = fun index fingerprint =>
      (session.memory.held? index fingerprint).filter fun outcome =>
        !outcome.dependsOn dependency := by
    funext index fingerprint
    exact Memory.held?_forget _ _ _ _
  refine .single ?_ (Memory.computations?_forget _ _) fun _ => rfl
  show (Event.forgot dependency).Takes session.memory.held?
    (session.memory.forget dependency).2.held?
  rw [held]
  exact .forgot dependency

theorem told_clear (session : Session σ) :
    session.memory.Told session.clear.memory [.cleared] := by
  have held : session.memory.clear.held? = fun _ _ => none := by
    funext index fingerprint
    exact Memory.held?_clear _ _ _
  refine .single ?_ (Memory.computations?_clear _) fun _ => rfl
  show Event.cleared.Takes session.memory.held? session.memory.clear.held?
  rw [held]
  exact .cleared

/-! ## Histories -/

/-- What relates the sessions before and behind to the events in between: it does so for
resolutions of the requests, invalidations and clearing in sessions that are ready, and for
what is composed of these. -/
structure Traces (pipeline : Pipeline σ) (requests : List Request) (ready : Session σ → Prop)
    (related : Session σ → List Event → Session σ → Prop) : Prop where
  nil : ∀ session, related session [] session
  append : ∀ {before between after : Session σ} {early late : List Event},
    related before early between → related between late after →
      related before (early ++ late) after
  resolving : ∀ request ∈ requests, ∀ index inRange session, ready session →
    related session (pipeline.eventsAt request request.fingerprint index inRange session)
        (pipeline.outcomeAt request request.fingerprint index inRange session).2 ∧
      ready (pipeline.outcomeAt request request.fingerprint index inRange session).2
  forgetting : ∀ dependency session, ready session →
    related session [.forgot dependency] (session.forget dependency).2 ∧
      ready (session.forget dependency).2
  clearing : ∀ session, ready session →
    related session [.cleared] session.clear ∧ ready session.clear

/-- Serving a chain resolves the target and then every stage on the way to it. -/
theorem serveChain_session {target : Fin pipeline.registry.size}
    (asked : pipeline.registry.target request.stage = .ok target) :
    (pipeline.serveChain request session).2 =
      (pipeline.outcomesAt request request.fingerprint (target :: pipeline.stagesUpTo target)
        session).2 := by
  rw [serveChain, asked, outcomesAt]
  simp only
  cases pipeline.outcomeAt request request.fingerprint target target.isLt session with
  | mk answer after =>
      cases answer with
      | error failure => rfl
      | ok outcome =>
          simp only
          cases pipeline.outcomesAt request request.fingerprint (pipeline.stagesUpTo target)
              after with
          | mk answers behind => cases answers <;> rfl

namespace Traces

variable {requests : List Request} {ready : Session σ → Prop}
  {related : Session σ → List Event → Session σ → Prop}

theorem serve (traces : pipeline.Traces requests ready related) (member : request ∈ requests)
    (before : ready session) :
    related session (pipeline.eventsOfServe request session) (pipeline.serve request session).2 ∧
      ready (pipeline.serve request session).2 := by
  unfold Pipeline.serve eventsOfServe
  cases pipeline.registry.target request.stage with
  | error failure => exact ⟨traces.nil session, before⟩
  | ok target => exact traces.resolving request member target target.isLt session before

theorem serveAll (traces : pipeline.Traces requests ready related) {served : List Request}
    (subset : served ⊆ requests) (before : ready session) :
    related session (pipeline.eventsOfServeAll served session)
        (pipeline.serveAll served session).2 ∧
      ready (pipeline.serveAll served session).2 := by
  induction served generalizing session with
  | nil => exact ⟨traces.nil session, before⟩
  | cons request rest inductionHypothesis =>
      obtain ⟨first, between⟩ := traces.serve (subset List.mem_cons_self) before
      obtain ⟨others, after⟩ :=
        inductionHypothesis (List.subset_of_cons_subset subset) between
      exact ⟨traces.append first others, after⟩

theorem outcomesAt (traces : pipeline.Traces requests ready related) (member : request ∈ requests)
    (indices : List (Fin pipeline.registry.size)) (before : ready session) :
    related session (pipeline.eventsOfStages request request.fingerprint indices session)
        (pipeline.outcomesAt request request.fingerprint indices session).2 ∧
      ready (pipeline.outcomesAt request request.fingerprint indices session).2 := by
  induction indices generalizing session with
  | nil => exact ⟨traces.nil session, before⟩
  | cons index rest inductionHypothesis =>
      obtain ⟨first, between⟩ := traces.resolving request member index index.isLt session before
      rw [Pipeline.outcomesAt, eventsOfStages]
      cases resolved : pipeline.outcomeAt request request.fingerprint index index.isLt session with
      | mk answer behind =>
          rw [resolved] at first between
          cases answer with
          | error failure => exact ⟨traces.append first (traces.nil behind), between⟩
          | ok outcome =>
              obtain ⟨others, after⟩ := inductionHypothesis between
              have joined := traces.append first others
              simp only
              cases resolvedRest : pipeline.outcomesAt request request.fingerprint rest behind with
              | mk answers last =>
                  rw [resolvedRest] at joined after
                  cases answers <;> exact ⟨joined, after⟩

theorem serveChain (traces : pipeline.Traces requests ready related) (member : request ∈ requests)
    (before : ready session) :
    related session (pipeline.eventsOfServeChain request session)
        (pipeline.serveChain request session).2 ∧
      ready (pipeline.serveChain request session).2 := by
  unfold eventsOfServeChain
  cases asked : pipeline.registry.target request.stage with
  | error failure =>
      rw [Pipeline.serveChain, asked]
      exact ⟨traces.nil session, before⟩
  | ok target =>
      rw [serveChain_session asked]
      exact traces.outcomesAt member _ before

theorem perform (traces : pipeline.Traces requests ready related) {operation : Operation}
    (subset : operation.requests ⊆ requests) (before : ready session) :
    related session (pipeline.eventsOf operation session)
        (pipeline.perform operation session).2 ∧
      ready (pipeline.perform operation session).2 := by
  cases operation with
  | serve request => exact traces.serve (subset List.mem_cons_self) before
  | serveAll served => exact traces.serveAll subset before
  | serveChain request => exact traces.serveChain (subset List.mem_cons_self) before
  | forget dependency => exact traces.forgetting dependency session before
  | clear => exact traces.clearing session before

/-- A history is related by its events. -/
theorem performAll (traces : pipeline.Traces requests ready related) {operations : List Operation}
    (subset : operations.flatMap Operation.requests ⊆ requests) (before : ready session) :
    related session (pipeline.eventsAlong operations session)
        (pipeline.performAll operations session).2 ∧
      ready (pipeline.performAll operations session).2 := by
  induction operations generalizing session with
  | nil => exact ⟨traces.nil session, before⟩
  | cons operation rest inductionHypothesis =>
      rw [List.flatMap_cons] at subset
      obtain ⟨here, behind⟩ := List.append_subset.mp subset
      obtain ⟨first, between⟩ := traces.perform here before
      obtain ⟨others, after⟩ := inductionHypothesis behind between
      exact ⟨traces.append first others, after⟩

end Traces

/-- A history is told by its events. -/
theorem told_performAll (enabled : pipeline.cacheEnabled = true) (operations : List Operation)
    (fits : pipeline.Fits session) :
    session.memory.Told (pipeline.performAll operations session).2.memory
      (pipeline.eventsAlong operations session) := by
  have traces : pipeline.Traces (operations.flatMap Operation.requests) pipeline.Fits
      fun before events after => before.memory.Told after.memory events := by
    constructor
    case nil => exact fun _ => .quiet rfl fun _ => rfl
    case append => exact fun early late => early.append late
    case resolving =>
      intro request _ index inRange session fits
      exact ⟨told_outcomeAt request request.fingerprint enabled fits index inRange,
        (outcomeAt_resolves request request.fingerprint enabled inRange fits).fits fits⟩
    case forgetting =>
      intro dependency session fits
      exact ⟨told_forget session dependency, (Memory.stages_forget _ _).trans fits⟩
    case clearing =>
      exact fun session fits => ⟨told_clear session, (Memory.stages_clear _).trans fits⟩
  exact (traces.performAll (List.Subset.refl _) fits).1

end Pipeline

end Cascade
