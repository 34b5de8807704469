import Cascade.Proofs.History
import Cascade.Proofs.Stateless
import Cascade.Visitor.Sample
import Mathlib.Data.List.Forall2

/-!
# Caches do not show

In a stateless pipeline, a cache entry is worth what a run of all stages up to its
own would answer to any request with its fingerprint.  Every operation keeps it
so, whether it succeeds or fails halfway.  If fingerprints tell the requests of a
history apart, then every answer along the history is the one of a pipeline
without caches.
-/

namespace Cascade

variable {σ : Type}

/-- Among the requests, equal fingerprints mean equal content. -/
def Request.ToldApart (requests : List Request) : Prop :=
  ∀ first ∈ requests, ∀ second ∈ requests, first.fingerprint = second.fingerprint →
    first.SameContent second

namespace Pipeline

variable {pipeline : Pipeline σ} {requests : List Request} {holds : Session σ → Prop}

/-! ## Answers of stages that are run afresh -/

/-- What a request is answered if all stages are run afresh. -/
def fresh (pipeline : Pipeline σ) (request : Request) (state : σ) : Except Failure Outcome :=
  match pipeline.registry.target request.stage with
  | .error failure => .error failure
  | .ok target => (pipeline.freshAt request target (pipeline.inRange target) state).1

/-- What a request is answered up to each of the given stages, if all stages are run
afresh. -/
def freshEach (pipeline : Pipeline σ) (request : Request) (state : σ) :
    List (Fin pipeline.registry.size) → Except Failure (List (String × Outcome))
  | [] => .ok []
  | index :: rest =>
      match (pipeline.freshAt request index (pipeline.inRange index) state).1 with
      | .error failure => .error failure
      | .ok outcome =>
          match pipeline.freshEach request state rest with
          | .error failure => .error failure
          | .ok outcomes => .ok (((pipeline.registry.stage index).id, outcome) :: outcomes)

/-- What a request is answered up to every stage on the way, if all stages are run
afresh. -/
def freshChain (pipeline : Pipeline σ) (request : Request) (state : σ) :
    Except Failure (List (String × Outcome)) :=
  match pipeline.registry.target request.stage with
  | .error failure => .error failure
  | .ok target =>
      match (pipeline.freshAt request target (pipeline.inRange target) state).1 with
      | .error failure => .error failure
      | .ok _ => pipeline.freshEach request state (pipeline.stagesUpTo target)

section Switch

variable (registry : Registry σ) (catalog : Catalog σ) (first second : Bool) (request : Request)
  (state : σ)

/-- Caching makes no difference to stages that are run afresh. -/
theorem freshAt_switch (index : Nat) (inRange : index < registry.size) :
    (Pipeline.mk registry catalog first).freshAt request index inRange state =
      (Pipeline.mk registry catalog second).freshAt request index inRange state := by
  induction index with
  | zero => rfl
  | succ index inductionHypothesis =>
      rw [freshAt, freshAt, inductionHypothesis (Nat.lt_of_succ_lt inRange)]
      rfl

theorem fresh_switch :
    (Pipeline.mk registry catalog first).fresh request state =
      (Pipeline.mk registry catalog second).fresh request state := by
  unfold fresh
  cases registry.target request.stage with
  | error failure => rfl
  | ok target =>
      exact congrArg Prod.fst (freshAt_switch registry catalog first second request state target _)

theorem freshEach_switch (indices : List (Fin registry.size)) :
    (Pipeline.mk registry catalog first).freshEach request state indices =
      (Pipeline.mk registry catalog second).freshEach request state indices := by
  induction indices with
  | nil => rfl
  | cons index rest inductionHypothesis =>
      rw [freshEach, freshEach, freshAt_switch registry catalog first second,
        inductionHypothesis]

theorem freshChain_switch :
    (Pipeline.mk registry catalog first).freshChain request state =
      (Pipeline.mk registry catalog second).freshChain request state := by
  unfold freshChain
  cases registry.target request.stage with
  | error failure => rfl
  | ok target =>
      simp only
      rw [freshAt_switch registry catalog first second,
        freshEach_switch registry catalog first second]
      rfl

end Switch

/-- In sessions of a class that resolutions do not leave, requests are resolved as
if all stages were run afresh. -/
structure Transparent (pipeline : Pipeline σ) (requests : List Request)
    (holds : Session σ → Prop) : Prop where
  answers : ∀ request ∈ requests, ∀ index inRange session state, holds session →
    (pipeline.outcomeAt request request.fingerprint index inRange session).1 =
      (pipeline.freshAt request index inRange state).1
  keeps : pipeline.ResolvingKeeps requests holds

namespace Transparent

theorem mono {fewer : List Request} (transparent : pipeline.Transparent requests holds)
    (subset : fewer ⊆ requests) : pipeline.Transparent fewer holds :=
  ⟨fun request member => transparent.answers request (subset member),
    transparent.keeps.mono subset⟩

theorem serve {request : Request} (transparent : pipeline.Transparent [request] holds)
    {session : Session σ} (before : holds session) (state : σ) :
    (pipeline.serve request session).1 = pipeline.fresh request state := by
  unfold Pipeline.serve fresh
  cases pipeline.registry.target request.stage with
  | error failure => rfl
  | ok target =>
      exact transparent.answers request List.mem_cons_self target target.isLt session state before

theorem serveAll (transparent : pipeline.Transparent requests holds) {session : Session σ}
    (before : holds session) (state : σ) :
    (pipeline.serveAll requests session).1 =
      requests.map fun request => pipeline.fresh request state := by
  induction requests generalizing session with
  | nil => rfl
  | cons request rest inductionHypothesis =>
      have first : pipeline.Transparent [request] holds := transparent.mono (by simp)
      have others : pipeline.Transparent rest holds := transparent.mono (by simp)
      rw [List.map_cons, ← first.serve before state,
        ← inductionHypothesis others (serve_keeps first.keeps before)]
      rfl

theorem outcomesAt {request : Request} (transparent : pipeline.Transparent [request] holds)
    (indices : List (Fin pipeline.registry.size)) {session : Session σ} (before : holds session)
    (state : σ) :
    (pipeline.outcomesAt request request.fingerprint indices session).1 =
      pipeline.freshEach request state indices := by
  induction indices generalizing session with
  | nil => rfl
  | cons index rest inductionHypothesis =>
      have answered := transparent.answers request List.mem_cons_self index index.isLt session
        state before
      have kept := transparent.keeps request List.mem_cons_self index index.isLt session before
      rw [Pipeline.outcomesAt, freshEach, ← answered]
      cases resolved : pipeline.outcomeAt request request.fingerprint index index.isLt session with
      | mk answer after =>
          rw [resolved] at kept
          cases answer with
          | error failure => rfl
          | ok outcome =>
              simp only
              rw [← inductionHypothesis kept]
              cases pipeline.outcomesAt request request.fingerprint rest after with
              | mk answers behind => cases answers <;> rfl

theorem serveChain {request : Request} (transparent : pipeline.Transparent [request] holds)
    {session : Session σ} (before : holds session) (state : σ) :
    (pipeline.serveChain request session).1 = pipeline.freshChain request state := by
  unfold Pipeline.serveChain freshChain
  cases pipeline.registry.target request.stage with
  | error failure => rfl
  | ok target =>
      have answered := transparent.answers request List.mem_cons_self target target.isLt session
        state before
      have kept := transparent.keeps request List.mem_cons_self target target.isLt session before
      simp only
      rw [← answered]
      cases resolved : pipeline.outcomeAt request request.fingerprint target target.isLt
          session with
      | mk answer after =>
          rw [resolved] at kept
          cases answer with
          | error failure => rfl
          | ok outcome => exact transparent.outcomesAt _ kept state

end Transparent

/-! ## Without caches -/

/-- Without caches every session will do. -/
theorem transparent_of_disabled (disabled : pipeline.cacheEnabled = false)
    (stateless : pipeline.Stateless) : pipeline.Transparent requests fun _ => True := by
  constructor
  · intro request _ index inRange session state _
    rw [outcomeAt_of_disabled disabled]
    exact stateless.freshAt (.refl request) index inRange session.state state
  · exact fun _ _ _ _ _ _ => trivial

/-- Without caches no resolution changes what is cached or counted. -/
theorem resolving_memory (disabled : pipeline.cacheEnabled = false) (memory : Memory) :
    pipeline.ResolvingKeeps requests fun session => session.memory = memory := by
  intro request _ index inRange session before
  rw [outcomeAt_of_disabled disabled]
  exact before

/-! ## Through caches -/

/-- What is held for a fingerprint is what stages run afresh answer to one of the
requests with this fingerprint. -/
def Sound (pipeline : Pipeline σ) (requests : List Request) (memory : Memory) : Prop :=
  memory.Every fun index fingerprint outcome =>
    ∃ request ∈ requests, request.fingerprint = fingerprint ∧
      ∀ inRange state, (pipeline.freshAt request index inRange state).1 = .ok outcome

/-- A resolution through sound caches answers what stages run afresh answer, and
leaves the caches sound. -/
theorem Resolves.afresh (stateless : pipeline.Stateless) (apart : Request.ToldApart requests)
    {request : Request} (member : request ∈ requests) {index : Nat} {session after : Session σ}
    {answer : Except Failure Outcome}
    (resolves : pipeline.Resolves request request.fingerprint index session answer after)
    (sound : pipeline.Sound requests session.memory) :
    (∀ inRange state, (pipeline.freshAt request index inRange state).1 = answer) ∧
      pipeline.Sound requests after.memory := by
  induction resolves with
  | @found index session outcome held =>
      rcases sound _ _ _ held with ⟨other, memberOther, sameFingerprint, answers⟩
      have same := apart request member other memberOther sameFingerprint.symm
      constructor
      · intro inRange state
        exact (stateless.freshAt same index inRange state state).trans (answers inRange state)
      · exact sound.hit index
  | failedFirst inRange missing ran =>
      exact ⟨stateless.freshAt_of_first ran, sound.miss 0 _⟩
  | computedFirst inRange missing ran =>
      have answers := stateless.freshAt_of_first ran
      have stillMissing := (Memory.held?_miss _ 0 0 request.fingerprint _).trans missing
      exact ⟨answers, (sound.miss 0 _).store stillMissing ⟨request, member, rfl, answers⟩⟩
  | @failedBelow index session after failure missing below inductionHypothesis =>
      rcases inductionHypothesis (sound.miss (index + 1) _) with ⟨answersBelow, soundBehind⟩
      constructor
      · intro inRange state
        exact freshAt_of_failedBelow (answersBelow (Nat.lt_of_succ_lt inRange) state)
      · exact soundBehind
  | failed inRange missing below ran inductionHypothesis =>
      rcases inductionHypothesis (sound.miss _ _) with ⟨answersBelow, soundBehind⟩
      exact ⟨stateless.freshAt_of_next answersBelow ran, soundBehind⟩
  | computed inRange missing below ran inductionHypothesis =>
      rcases inductionHypothesis (sound.miss _ _) with ⟨answersBelow, soundBehind⟩
      have answers := stateless.freshAt_of_next answersBelow ran
      exact ⟨answers, soundBehind.store (below.missing_of_below missing)
        ⟨request, member, rfl, answers⟩⟩

/-- The caches belong to the stages of the pipeline, and are sound. -/
def Faithful (pipeline : Pipeline σ) (requests : List Request) (session : Session σ) : Prop :=
  pipeline.Fits session ∧ pipeline.Sound requests session.memory

/-- With caches, sessions with sound caches will do. -/
theorem transparent_of_enabled (enabled : pipeline.cacheEnabled = true)
    (stateless : pipeline.Stateless) (apart : Request.ToldApart requests) :
    pipeline.Transparent requests (pipeline.Faithful requests) := by
  have course : ∀ request ∈ requests, ∀ index (inRange : index < pipeline.registry.size) session,
      pipeline.Faithful requests session → ∃ answer after,
        pipeline.outcomeAt request request.fingerprint index inRange session = (answer, after) ∧
          pipeline.Resolves request request.fingerprint index session answer after := by
    intro request _ index inRange session faithful
    exact resolves_outcomeAt enabled index inRange faithful.1
  constructor
  · intro request member index inRange session state faithful
    obtain ⟨answer, after, resolved, resolves⟩ := course request member index inRange session
      faithful
    rw [resolved]
    exact ((resolves.afresh stateless apart member faithful.2).1 inRange state).symm
  · intro request member index inRange session faithful
    obtain ⟨answer, after, resolved, resolves⟩ := course request member index inRange session
      faithful
    rw [resolved]
    exact ⟨resolves.fits faithful.1, (resolves.afresh stateless apart member faithful.2).2⟩

theorem Faithful.forget {session : Session σ} (faithful : pipeline.Faithful requests session)
    (dependency : String) : pipeline.Faithful requests (session.forget dependency).2 :=
  ⟨(Memory.stages_forget _ _).trans faithful.1, faithful.2.forget dependency⟩

theorem Faithful.clear {session : Session σ} (faithful : pipeline.Faithful requests session) :
    pipeline.Faithful requests session.clear :=
  ⟨(Memory.stages_clear _).trans faithful.1, Memory.every_of_empty (Memory.held?_clear _)⟩

theorem faithful_newSession (pipeline : Pipeline σ) (requests : List Request) (state : σ) :
    pipeline.Faithful requests (pipeline.newSession state) :=
  ⟨Memory.stages_ofStages _, Memory.every_of_empty (Memory.held?_ofStages _)⟩

/-! ## Histories -/

/-- The answer to an operation is the one that the pipeline gives in each of its
sessions; batches are answered request by request. -/
def Answers (pipeline : Pipeline σ) : Operation → Answer → Prop
  | .serve request, answer =>
      ∀ session, answer = .outcome (pipeline.serve request session).1
  | .serveAll requests, answer =>
      ∀ session, answer = .outcomes (requests.map fun request => (pipeline.serve request session).1)
  | .serveChain request, answer =>
      ∀ session, answer = .chain (pipeline.serveChain request session).1
  | .forget _, _ => True
  | .clear, _ => True

variable {registry : Registry σ} {catalog : Catalog σ} {operation : Operation}
  {session : Session σ}

/-- One operation on faithful caches. -/
theorem perform_answers (stateless : (Pipeline.mk registry catalog true).Stateless)
    (apart : Request.ToldApart requests) (subset : operation.requests ⊆ requests)
    (faithful : (Pipeline.mk registry catalog true).Faithful requests session) :
    (Pipeline.mk registry catalog false).Answers operation
        ((Pipeline.mk registry catalog true).perform operation session).1 ∧
      (Pipeline.mk registry catalog true).Faithful requests
        ((Pipeline.mk registry catalog true).perform operation session).2 := by
  have cached := (transparent_of_enabled rfl stateless apart).mono subset
  have statelessPlain : (Pipeline.mk registry catalog false).Stateless :=
    ⟨stateless.registry, stateless.catalog⟩
  have plain : ∀ request, (Pipeline.mk registry catalog false).Transparent [request]
      fun _ => True := fun request => transparent_of_disabled rfl statelessPlain
  constructor
  · cases operation with
    | serve request =>
        intro other
        have same := calc
          ((Pipeline.mk registry catalog true).serve request session).1
          _ = (Pipeline.mk registry catalog true).fresh request other.state :=
            cached.serve faithful other.state
          _ = (Pipeline.mk registry catalog false).fresh request other.state :=
            fresh_switch registry catalog true false request other.state
          _ = ((Pipeline.mk registry catalog false).serve request other).1 :=
            ((plain request).serve trivial other.state).symm
        exact congrArg Answer.outcome same
    | serveAll served =>
        intro other
        have each : ∀ request ∈ served, (Pipeline.mk registry catalog true).fresh request
            other.state = ((Pipeline.mk registry catalog false).serve request other).1 := by
          intro request _
          rw [(plain request).serve trivial other.state]
          exact fresh_switch registry catalog true false request other.state
        have same : ((Pipeline.mk registry catalog true).serveAll served session).1 =
            served.map fun request =>
              ((Pipeline.mk registry catalog false).serve request other).1 :=
          (Transparent.serveAll cached faithful other.state).trans (List.map_congr_left each)
        exact congrArg Answer.outcomes same
    | serveChain request =>
        intro other
        have same := calc
          ((Pipeline.mk registry catalog true).serveChain request session).1
          _ = (Pipeline.mk registry catalog true).freshChain request other.state :=
            cached.serveChain faithful other.state
          _ = (Pipeline.mk registry catalog false).freshChain request other.state :=
            freshChain_switch registry catalog true false request other.state
          _ = ((Pipeline.mk registry catalog false).serveChain request other).1 :=
            ((plain request).serveChain trivial other.state).symm
        exact congrArg Answer.chain same
    | forget dependency => exact trivial
    | clear => exact trivial
  · exact perform_keeps cached.keeps (fun dependency _ before => before.forget dependency)
      (fun _ before => before.clear) faithful

/-- All operations of a history that starts with faithful caches. -/
theorem performAll_answers (stateless : (Pipeline.mk registry catalog true).Stateless)
    (apart : Request.ToldApart requests) (operations : List Operation)
    (subset : operations.flatMap Operation.requests ⊆ requests)
    (faithful : (Pipeline.mk registry catalog true).Faithful requests session) :
    List.Forall₂ (Pipeline.mk registry catalog false).Answers operations
      ((Pipeline.mk registry catalog true).performAll operations session).1 := by
  induction operations generalizing session with
  | nil => exact .nil
  | cons operation rest inductionHypothesis =>
      rw [List.flatMap_cons] at subset
      rcases List.append_subset.mp subset with ⟨first, others⟩
      rcases perform_answers stateless apart first faithful with ⟨answered, faithfulBehind⟩
      exact .cons answered (inductionHypothesis others faithfulBehind)

/-- In a stateless pipeline whose fingerprints tell the requests of a history
apart, caches do not show: along every history from empty caches, each answer is
the one of the same pipeline without caches, which never changes what is cached
and counted while it serves requests. -/
theorem caches_do_not_show (registry : Registry σ) (catalog : Catalog σ)
    (statelessRegistry : registry.Stateless) (statelessCatalog : Catalog.Stateless catalog)
    (operations : List Operation)
    (apart : Request.ToldApart (operations.flatMap Operation.requests)) (state : σ) :
    List.Forall₂ (Pipeline.mk registry catalog false).Answers operations
        ((Pipeline.mk registry catalog true).performAll operations
          ((Pipeline.mk registry catalog true).newSession state)).1 ∧
      ∀ operation session, operation.serves = true →
        ((Pipeline.mk registry catalog false).perform operation session).2.memory =
          session.memory := by
  constructor
  · exact performAll_answers ⟨statelessRegistry, statelessCatalog⟩ apart operations
      (List.Subset.refl _) (faithful_newSession _ _ state)
  · intro operation session serving
    cases operation with
    | serve request => exact serve_keeps (resolving_memory rfl session.memory) rfl
    | serveAll served => exact serveAll_keeps (resolving_memory rfl session.memory) rfl
    | serveChain request => exact serveChain_keeps (resolving_memory rfl session.memory) rfl
    | forget dependency => exact nomatch serving
    | clear => exact nomatch serving

end Pipeline

/-! ## A history of two requests -/

theorem Visitor.counting_stateless (name : String) (bump : σ → σ) :
    (Visitor.counting name bump).Stateless := by
  intro phase site node state other
  cases phase <;> exact ⟨rfl, rfl, rfl⟩

theorem Visitor.dependency_stateless (source : DependencySource) :
    (Visitor.dependency source : Visitor σ).Stateless := by
  intro phase site node state other
  cases phase <;> exact ⟨rfl, rfl, rfl⟩

theorem Visitor.emitting_stateless (name : String) (diagnostic : Diagnostic) :
    (Visitor.emitting name diagnostic : Visitor σ).Stateless := by
  intro phase site node state other
  cases phase <;> exact ⟨rfl, rfl, rfl⟩

theorem Factory.fixed_stateless {specs : List (Spec σ)}
    (stateless : ∀ spec ∈ specs, spec.Stateless) : (Factory.fixed specs).Stateless :=
  fun _ _ _ => ⟨fun _ => rfl, stateless⟩

theorem Factory.configured_stateless (stage : String) :
    (Factory.configured stage : Factory σ).Stateless := by
  intro project options state
  constructor
  · exact fun _ => rfl
  · intro spec member visitor ready
    rcases List.mem_map.mp member with ⟨transform, _, named⟩
    exact nomatch named.trans ready

namespace Pipeline

/-- Two stages, of which the second one runs what the project lists, behind a hook
that counts the nodes it enters. -/
def counted : Registry Nat where
  stages := [⟨"normalize", .fixed [.ready (.dependency (.fixed "base.toml"))]⟩,
    ⟨"lint", .configured "lint"⟩]
  primary := ⟨1, Nat.one_lt_two⟩
  hooks := [.counting "count" Nat.succ]
  knownOptions := none
  distinct := by decide

/-- A catalog with one constructor. -/
def emitters : Catalog Nat :=
  Dict.empty.insert "emit" fun _ state =>
    (.ok (.emitting "emit" { category := "lint", message := "found" }), state)

/-- A request for an empty program, with or without an option. -/
def sampleRequest (strict : Bool) : Request where
  tree := Node.program []
  options := if strict then Dict.empty.insert "strict" (.bool true) else Dict.empty

theorem sampleRequest_fingerprint :
    (sampleRequest true).fingerprint ≠ (sampleRequest false).fingerprint := by
  intro same
  exact absurd (congrArg Fingerprint.options same) (by decide +kernel)

theorem sampleRequest_apart (kinds : List Bool) :
    Request.ToldApart (kinds.map sampleRequest) := by
  intro first firstMember second secondMember same
  rcases List.mem_map.mp firstMember with ⟨strict, _, rfl⟩
  rcases List.mem_map.mp secondMember with ⟨other, _, rfl⟩
  cases strict <;> cases other
  · exact ⟨rfl, rfl, rfl⟩
  · exact absurd same.symm sampleRequest_fingerprint
  · exact absurd same sampleRequest_fingerprint
  · exact ⟨rfl, rfl, rfl⟩

theorem counted_stateless : counted.Stateless := by
  constructor
  · intro index
    match index with
    | ⟨0, _⟩ =>
        apply Factory.fixed_stateless
        intro spec member visitor ready
        cases List.mem_singleton.mp member
        cases ready
        exact Visitor.dependency_stateless _
    | ⟨1, _⟩ => exact Factory.configured_stateless "lint"
  · intro visitor member
    cases List.mem_singleton.mp member
    exact Visitor.counting_stateless _ _

theorem emitters_stateless : Catalog.Stateless emitters := by
  intro id construct found options state
  rw [emitters, Dict.get?_insert] at found
  by_cases here : id = "emit"
  · rw [if_pos here] at found
    cases found
    constructor
    · exact fun _ => rfl
    · rintro _ ⟨⟩
      exact Visitor.emitting_stateless _ _
  · rw [if_neg here] at found
    exact nomatch found

/-- Two requests that differ in an option, with an invalidation between them. -/
def sampleHistory : List Operation :=
  [.serve (sampleRequest false), .serveChain (sampleRequest true), .forget "base.toml",
    .serveAll [sampleRequest true, sampleRequest false]]

theorem sampleHistory_apart : Request.ToldApart (sampleHistory.flatMap Operation.requests) :=
  sampleRequest_apart [false, true, true, false]

/-- The requests of the history are answered alike with and without caches. -/
theorem caches_do_not_show_option :
    counted.Stateless ∧ Catalog.Stateless emitters ∧
      Request.ToldApart (sampleHistory.flatMap Operation.requests) ∧
      List.Forall₂ (Pipeline.mk counted emitters false).Answers sampleHistory
        ((Pipeline.mk counted emitters true).performAll sampleHistory
          ((Pipeline.mk counted emitters true).newSession 0)).1 :=
  ⟨counted_stateless, emitters_stateless, sampleHistory_apart,
    (caches_do_not_show counted emitters counted_stateless emitters_stateless sampleHistory
      sampleHistory_apart 0).1⟩

end Pipeline

end Cascade
