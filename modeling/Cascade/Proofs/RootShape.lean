import Cascade.Proofs.ChainClosure
import Cascade.Proofs.Derivation

/-!
# The shape of roots

Every tree that leaves a stage has a program for its root, for a reduction fails
otherwise, and so has every tree that enters a later stage, for it left the stage
before.  The tree of a request enters the first stage as it is.  Only the handlers of
that stage may give a root of another kind the kind of a program.  Where none of them
does, such a request is rejected, and no cache holds anything that was made from its
tree.
-/

namespace Cascade

variable {σ : Type}

/-! ## Handlers and roots of other kinds -/

/-- At the root of a tree, the handlers of the visitor never make a program of a node of
another kind. -/
def Visitor.KeepsOtherRoots (visitor : Visitor σ) : Prop :=
  ∀ phase site node state, site.depth = 0 → visitor.interest.includes node.kind = true →
    node.isProgram = false → (visitor.handler phase site node state).node.isProgram = false

theorem Node.isProgram_refillSpan (node : Node) (span : Option Span) :
    (node.refillSpan span).isProgram = node.isProgram := by
  unfold refillSpan
  cases node.span <;> rfl

namespace Visitor

variable {phase : Phase} {site : Site} {node : Node}

theorem KeepsOtherRoots.call {visitor : Visitor σ} (keeps : visitor.KeepsOtherRoots)
    (top : site.depth = 0) (other : node.isProgram = false) (ledger : Ledger σ) :
    (visitor.call phase site node ledger).1.isProgram = false := by
  unfold Visitor.call
  by_cases wanted : visitor.interest.includes node.kind = true
  · rw [if_pos wanted]
    exact (Node.isProgram_refillSpan _ _).trans (keeps phase site node _ top wanted other)
  · rw [if_neg wanted]
    exact other

theorem callAll_isProgram {visitors : List (Visitor σ)}
    (keeps : ∀ visitor ∈ visitors, visitor.KeepsOtherRoots) (top : site.depth = 0)
    (other : node.isProgram = false) (ledger : Ledger σ) :
    (callAll phase site visitors node ledger).1.isProgram = false := by
  induction visitors generalizing node ledger with
  | nil => exact other
  | cons visitor rest inductionHypothesis =>
      have keepsRest := fun later member => keeps later (List.mem_cons_of_mem visitor member)
      apply inductionHypothesis keepsRest
      exact (keeps visitor List.mem_cons_self).call top other ledger

end Visitor

/-- A reduction of a tree with a root of another kind does not succeed, unless a handler
makes a program of the root. -/
theorem Pass.reduce_of_otherRoot {pass : Pass σ}
    (keeps : ∀ visitor ∈ pass.visitors, visitor.KeepsOtherRoots) {root reduced : Node}
    (other : root.isProgram = false) {ledger after : Ledger σ} :
    pass.reduce root ledger ≠ (.ok reduced, after) := by
  intro ends
  obtain ⟨traversed, program⟩ := traverse_of_reduce ends
  rw [traverse_eq_reduceTree, Treatment.reduceTree] at traversed
  obtain ⟨children, _, exited⟩ := Option.bind_eq_some_iff.mp traversed
  have entered : (pass.visit .enter 0 root ledger).1.isProgram = false :=
    Visitor.callAll_isProgram keeps rfl other ledger
  have left : (pass.visit .exit 0 (Node.mk (pass.visit .enter 0 root ledger).1.header children.1)
      children.2).1.isProgram = false := by
    apply Visitor.callAll_isProgram keeps rfl
    exact entered
  have same : pass.visit .exit 0 (Node.mk (pass.visit .enter 0 root ledger).1.header children.1)
      children.2 = (reduced, after) := Option.some.inj exited
  rw [same, program] at left
  cases left

namespace Pipeline

variable {pipeline : Pipeline σ}

/-- No handler of the first stage makes a program of a root of another kind. -/
def KeepsOtherRoots (pipeline : Pipeline σ) : Prop :=
  ∀ request index state visitors made, index.1 = 0 →
    pipeline.visitorsAt request index state = (.ok visitors, made) →
      ∀ visitor ∈ pipeline.registry.hooks ++ visitors, visitor.KeepsOtherRoots

theorem runStage_of_otherRoot (keeps : pipeline.KeepsOtherRoots) {request : Request}
    {index : Fin pipeline.registry.size} (first : index.1 = 0) {material : Material}
    (other : material.tree.isProgram = false) {state after : σ} {outcome : Outcome} :
    pipeline.runStage request index material state ≠ (.ok outcome, after) := by
  intro ran
  obtain ⟨visitors, made, reduced, ledger, ready, ends, _⟩ := reduced_of_runStage ran
  exact Pass.reduce_of_otherRoot (keeps request index state visitors made first ready) other ends

/-- If no handler makes a program of another root, then only a program enters the first
stage. -/
theorem Derives.first_program {asked : Request → Prop} {first : Request}
    {outcomes : List Outcome} (derives : pipeline.Derives asked first outcomes)
    (keeps : pipeline.KeepsOtherRoots) : first.tree.isProgram = true := by
  induction derives with
  | first bottom _ ran =>
      cases root : first.tree.isProgram with
      | true => rfl
      | false => exact absurd ran (runStage_of_otherRoot keeps bottom root)
  | next _ _ _ _ inductionHypothesis => exact inductionHypothesis

/-! ## What caches hold was made from requests -/

/-- One of the requests, with the fingerprint. -/
def Asked (requests : List Request) (fingerprint : Fingerprint) (request : Request) : Prop :=
  request ∈ requests ∧ request.fingerprint = fingerprint

/-- The outcome of the stage at an index was made from the request `first`, by the stages up
to this one, and for requests with the fingerprint only.  The outcomes of the stages before
are `sources`. -/
structure Made (pipeline : Pipeline σ) (requests : List Request) (fingerprint : Fingerprint)
    (index : Nat) (first : Request) (sources : List Outcome) (outcome : Outcome) : Prop where
  derives : pipeline.Derives (Asked requests fingerprint) first (outcome :: sources)
  length : sources.length = index

/-- Every outcome in the caches was made for the requests of its fingerprint. -/
def Descends (pipeline : Pipeline σ) (requests : List Request) (session : Session σ) : Prop :=
  session.memory.Every fun index fingerprint outcome =>
    ∃ first sources, pipeline.Made requests fingerprint index first sources outcome

variable {requests : List Request} {request : Request} {index : Nat} {session after : Session σ}
  {answer : Except Failure Outcome}

theorem Made.of_first {fingerprint : Fingerprint} {state after : σ} {outcome : Outcome}
    (inRange : 0 < pipeline.registry.size) (asked : Asked requests fingerprint request)
    (ran : pipeline.runStage request ⟨0, inRange⟩ request.material state = (.ok outcome, after)) :
    pipeline.Made requests fingerprint 0 request [] outcome :=
  ⟨.first rfl asked ran, rfl⟩

theorem Made.next {fingerprint : Fingerprint} {first : Request} {sources : List Outcome}
    {previous outcome : Outcome} {state after : σ}
    (made : pipeline.Made requests fingerprint index first sources previous)
    (inRange : index + 1 < pipeline.registry.size) (asked : Asked requests fingerprint request)
    (ran : pipeline.runStage request ⟨index + 1, inRange⟩ previous.material state =
      (.ok outcome, after)) :
    pipeline.Made requests fingerprint (index + 1) first (previous :: sources) outcome := by
  obtain ⟨derives, rfl⟩ := made
  exact ⟨.next rfl derives asked ran, rfl⟩

theorem Resolves.descends
    (resolves : pipeline.Resolves request request.fingerprint index session answer after)
    (member : request ∈ requests) (descends : pipeline.Descends requests session) :
    pipeline.Descends requests after ∧ ∀ outcome, answer = .ok outcome →
      ∃ first sources,
        pipeline.Made requests request.fingerprint index first sources outcome := by
  have asked : Asked requests request.fingerprint request := ⟨member, rfl⟩
  induction resolves with
  | found held =>
      refine ⟨descends.hit _, ?_⟩
      rintro _ ⟨⟩
      exact descends _ _ _ held
  | failedFirst inRange missing ran => exact ⟨descends.miss _ _, fun _ failed => nomatch failed⟩
  | computedFirst inRange missing ran =>
      have made := Made.of_first inRange asked ran
      have stillMissing := (Memory.held?_miss _ 0 0 request.fingerprint _).trans missing
      refine ⟨(descends.miss 0 _).store stillMissing ⟨_, _, made⟩, ?_⟩
      rintro _ ⟨⟩
      exact ⟨_, _, made⟩
  | failedBelow missing below inductionHypothesis =>
      exact ⟨(inductionHypothesis (descends.miss _ _)).1, fun _ failed => nomatch failed⟩
  | failed inRange missing below ran inductionHypothesis =>
      exact ⟨(inductionHypothesis (descends.miss _ _)).1, fun _ failed => nomatch failed⟩
  | computed inRange missing below ran inductionHypothesis =>
      obtain ⟨descendsBelow, answered⟩ := inductionHypothesis (descends.miss _ _)
      obtain ⟨first, sources, madeBelow⟩ := answered _ rfl
      have made := madeBelow.next inRange asked ran
      refine ⟨descendsBelow.store (below.missing_of_below missing) ⟨_, _, made⟩, ?_⟩
      rintro _ ⟨⟩
      exact ⟨_, _, made⟩

theorem made_of_freshAt {inRange : index < pipeline.registry.size} {state : σ} {outcome : Outcome}
    {fingerprint : Fingerprint} (asked : Asked requests fingerprint request)
    (answered : (pipeline.freshAt request index inRange state).1 = .ok outcome) :
    ∃ first sources, pipeline.Made requests fingerprint index first sources outcome := by
  induction index generalizing outcome with
  | zero => exact ⟨_, _, .of_first inRange asked (Prod.ext answered rfl)⟩
  | succ index inductionHypothesis =>
      cases below : (pipeline.freshAt request index (inRange_of_succ inRange) state).1 with
      | error failure =>
          rw [freshAt_of_failedBelow below] at answered
          exact nomatch answered
      | ok previous =>
          obtain ⟨first, sources, made⟩ := inductionHypothesis below
          rw [freshAt_succ below] at answered
          exact ⟨_, _, made.next inRange asked (Prod.ext answered rfl)⟩

/-- A resolution keeps that outcomes were made for requests, and answers such an
outcome. -/
theorem outcomeAt_descends (member : request ∈ requests) (inRange : index < pipeline.registry.size)
    (fits : pipeline.Fits session) (descends : pipeline.Descends requests session) :
    pipeline.Descends requests
        (pipeline.outcomeAt request request.fingerprint index inRange session).2 ∧
      ∀ outcome,
        (pipeline.outcomeAt request request.fingerprint index inRange session).1 = .ok outcome →
        ∃ first sources,
          pipeline.Made requests request.fingerprint index first sources outcome := by
  cases enabled : pipeline.cacheEnabled with
  | true => exact (outcomeAt_resolves request _ enabled inRange fits).descends member descends
  | false =>
      rw [outcomeAt_of_disabled enabled]
      exact ⟨descends, fun outcome => made_of_freshAt ⟨member, rfl⟩⟩

theorem Fits.outcomeAt (fits : pipeline.Fits session) (request : Request)
    (inRange : index < pipeline.registry.size) :
    pipeline.Fits (pipeline.outcomeAt request request.fingerprint index inRange session).2 := by
  cases enabled : pipeline.cacheEnabled with
  | true => exact (outcomeAt_resolves request _ enabled inRange fits).fits fits
  | false =>
      rw [outcomeAt_of_disabled enabled]
      exact fits

theorem performAll_descends {operations : List Operation}
    (subset : operations.flatMap Operation.requests ⊆ requests) (state : σ) :
    pipeline.Fits (pipeline.performAll operations (pipeline.newSession state)).2 ∧
      pipeline.Descends requests
        (pipeline.performAll operations (pipeline.newSession state)).2 := by
  have resolving : pipeline.ResolvingKeeps requests
      fun session => pipeline.Fits session ∧ pipeline.Descends requests session := by
    rintro request member index inRange session ⟨fits, descends⟩
    exact ⟨fits.outcomeAt request inRange, (outcomeAt_descends member inRange fits descends).1⟩
  refine performAll_keeps (resolving.mono subset) ?_ ?_ ⟨Memory.stages_ofStages _, ?_⟩
  · rintro dependency session ⟨fits, descends⟩
    exact ⟨(Memory.stages_forget _ _).trans fits, descends.forget dependency⟩
  · rintro session ⟨fits, _⟩
    exact ⟨(Memory.stages_clear _).trans fits, Memory.every_of_empty (Memory.held?_clear _)⟩
  · exact Memory.every_of_empty (Memory.held?_ofStages _)

/-! ## Roots of what enters and leaves stages -/

/-- The roots of the trees behind an outcome: programs left the stages, and so programs
entered the later ones; a program entered the first one too, if its handlers keep roots of
other kinds. -/
structure RootsFit (pipeline : Pipeline σ) (first : Request) (sources : List Outcome)
    (outcome : Outcome) : Prop where
  left : outcome.tree.isProgram = true
  later : ∀ source ∈ sources, source.tree.isProgram = true
  entered : pipeline.KeepsOtherRoots → first.tree.isProgram = true

theorem Made.rootsFit {fingerprint : Fingerprint} {first : Request} {sources : List Outcome}
    {outcome : Outcome} (made : pipeline.Made requests fingerprint index first sources outcome) :
    pipeline.RootsFit first sources outcome where
  left := made.derives.programs outcome List.mem_cons_self
  later := fun source listed =>
    made.derives.programs source (List.mem_cons_of_mem outcome listed)
  entered := made.derives.first_program

/-- Behind any history of a pipeline, what a resolution answers was made from requests of
its fingerprint, and so was what is stored then; what left a stage or entered a later one
on the way was a program.  Unless a handler of the first stage makes a program of another
root, only programs entered the first stage, and a request with another root is rejected
(if the digest tells it from the requests before with a root of a different kind). -/
theorem root_shape (pipeline : Pipeline σ) (operations : List Operation) (state : σ)
    (request : Request) :
    let before := (pipeline.performAll operations (pipeline.newSession state)).2
    let served := request :: operations.flatMap Operation.requests
    (∀ outcome, (pipeline.serve request before).1 = .ok outcome →
      ∃ target first sources, pipeline.registry.target request.stage = .ok target ∧
        pipeline.Made served request.fingerprint target first sources outcome ∧
        pipeline.RootsFit first sources outcome) ∧
    (∀ index fingerprint outcome,
      (pipeline.serve request before).2.memory.held? index fingerprint = some outcome →
      ∃ first sources, pipeline.Made served fingerprint index first sources outcome ∧
        pipeline.RootsFit first sources outcome) ∧
    (pipeline.KeepsOtherRoots → request.tree.isProgram = false →
      (∀ other ∈ operations.flatMap Operation.requests,
        other.fingerprint = request.fingerprint → other.tree.kind = request.tree.kind) →
      ∃ failure, (pipeline.serve request before).1 = .error failure) := by
  intro before served
  obtain ⟨fits, descends⟩ : pipeline.Fits before ∧ pipeline.Descends served before :=
    performAll_descends (List.subset_cons_self request _) state
  have behind : pipeline.Descends served (pipeline.serve request before).2 ∧
      ∀ outcome, (pipeline.serve request before).1 = .ok outcome →
        ∃ target first sources, pipeline.registry.target request.stage = .ok target ∧
          pipeline.Made served request.fingerprint target first sources outcome := by
    unfold serve
    cases pipeline.registry.target request.stage with
    | error failure => exact ⟨descends, fun _ failed => nomatch failed⟩
    | ok target =>
        obtain ⟨stored, answered⟩ :=
          outcomeAt_descends List.mem_cons_self target.isLt fits descends
        refine ⟨stored, fun outcome succeeded => ?_⟩
        obtain ⟨first, sources, made⟩ := answered outcome succeeded
        exact ⟨target, first, sources, rfl, made⟩
  obtain ⟨stored, answered⟩ := behind
  refine ⟨?_, ?_, ?_⟩
  · intro outcome succeeded
    obtain ⟨target, first, sources, asksFor, made⟩ := answered outcome succeeded
    exact ⟨target, first, sources, asksFor, made, made.rootsFit⟩
  · intro index fingerprint outcome held
    obtain ⟨first, sources, made⟩ := stored index fingerprint outcome held
    exact ⟨first, sources, made, made.rootsFit⟩
  · intro keeps other sameKind
    cases succeeded : (pipeline.serve request before).1 with
    | error failure => exact ⟨failure, rfl⟩
    | ok outcome =>
        obtain ⟨target, first, sources, _, made⟩ := answered outcome succeeded
        obtain ⟨member, sameFingerprint⟩ := made.derives.asked_first
        have program := made.derives.first_program keeps
        have kinds : first.tree.kind = request.tree.kind := by
          rcases List.mem_cons.mp member with rfl | earlier
          · rfl
          · exact sameKind first earlier sameFingerprint
        unfold Node.isProgram at program other
        rw [kinds, other] at program
        exact nomatch program

/-- The visitors of the sample pipeline only want programs. -/
theorem recording_keepsOtherRoots : recording.KeepsOtherRoots := by
  rintro request ⟨_, inRange⟩ state visitors made rfl ready visitor member phase site node _ _
    wanted other
  cases ready
  have only : visitor = .dependency (.fixed "base.toml") := List.mem_singleton.mp member
  have program : node.isProgram = true := by
    rw [only] at wanted
    simpa [Visitor.dependency, Interest.includes, Node.isProgram] using wanted
  rw [program] at other
  exact nomatch other

/-- A request for a block is rejected by the sample pipeline, again and again. -/
theorem root_shape_recording :
    ∃ failure, (recording.serve { tree := .ofKind .block }
      (recording.performAll [.serve { tree := .ofKind .block }]
        (recording.newSession ())).2).1 = .error failure := by
  obtain ⟨_, _, rejected⟩ := recording.root_shape [.serve { tree := .ofKind .block }] ()
    { tree := .ofKind .block }
  refine rejected recording_keepsOtherRoots rfl fun other served _ => ?_
  rw [List.mem_singleton.mp served]

/-- A pipeline with a hook that makes programs of blocks. -/
def mending : Pipeline Unit where
  registry :=
    { stages := [⟨"normalize", .fixed []⟩]
      primary := ⟨0, Nat.one_pos⟩
      hooks := [.recasting "mend" .block .program]
      knownOptions := none
      distinct := by decide }
  catalog := Dict.empty

theorem mending_runStage (request : Request) (index : Fin mending.registry.size)
    (material : Material) (state : Unit)
    (leaf : material.tree = .ofKind .block ∨ material.tree = .program []) :
    ∃ outcome after, mending.runStage request index material state = (.ok outcome, after) ∧
      (outcome.tree = .ofKind .block ∨ outcome.tree = .program []) := by
  obtain ⟨tree, diagnostics, dependencies⟩ := material
  have ran : ∃ outcome after,
      mending.runStage request index ⟨tree, diagnostics, dependencies⟩ state =
        (.ok outcome, after) ∧ outcome.tree = .program [] := by
    match index with
    | ⟨0, _⟩ =>
        rcases leaf with rfl | rfl
        · exact runStage_of_traverse rfl (Pass.traverse_of_childless rfl rfl) rfl
        · exact runStage_of_traverse rfl (Pass.traverse_of_childless rfl rfl) rfl
  obtain ⟨outcome, after, succeeds, reduced⟩ := ran
  exact ⟨outcome, after, succeeds, .inr reduced⟩

/-- The hook lets the tree of a request with another root pass: the request is answered,
and what was made of its tree is stored. -/
theorem mending_serves_block :
    (Node.ofKind .block).isProgram = false ∧
      ∃ outcome,
        (mending.serve { tree := .ofKind .block } (mending.newSession ())).1 = .ok outcome ∧
        (mending.serve { tree := .ofKind .block } (mending.newSession ())).2.memory.held? 0
          (Request.fingerprint { tree := .ofKind .block }) = some outcome := by
  have fits : mending.Fits (mending.newSession ()) := Memory.stages_ofStages _
  have resolves := @outcomeAt_resolves _ mending (mending.newSession ()) { tree := .ofKind .block }
    (Request.fingerprint { tree := .ofKind .block }) rfl 0 Nat.one_pos fits
  have goodHeld : ∀ index outcome, (mending.newSession ()).memory.held? index
      (Request.fingerprint { tree := .ofKind .block }) = some outcome →
        outcome.tree = .ofKind .block ∨ outcome.tree = .program [] := fun index _ held =>
    nomatch (Memory.held?_ofStages _ index _).symm.trans held
  obtain ⟨outcome, answered, _⟩ := resolves.answers
    (fun tree => tree = .ofKind .block ∨ tree = .program []) (.inl rfl)
    (mending_runStage { tree := .ofKind .block }) goodHeld
  exact ⟨rfl, outcome, answered, resolves.holds fits answered⟩

end Pipeline

end Cascade
