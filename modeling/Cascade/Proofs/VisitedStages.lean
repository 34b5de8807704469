import Cascade.Proofs.Stocks
import Cascade.Proofs.VisitOrder

/-!
# Stages that tour the trees of requests

Where all visitors leave nodes as they are, what the stages make of a tree is that tree, and
so every stage that is computed takes the tree of its request on a tour, whatever was found
in caches.  The events of a history tell so, one after the other, with the states of the
visitors that they lead through.
-/

namespace Cascade

variable {σ : Type}

namespace Pipeline

variable {pipeline : Pipeline σ}

/-! ## Stages that leave nodes as they are -/

/-- The hooks and the visitors of all stages leave every node as it is. -/
def KeepsNodes (pipeline : Pipeline σ) : Prop :=
  ∀ request index state visitors made,
    pipeline.visitorsAt request index state = (.ok visitors, made) →
      (pipeline.passAt request index visitors).KeepsNodes

theorem KeepsNodes.tree (keeps : pipeline.KeepsNodes) {request : Request}
    {index : Fin pipeline.registry.size} {material : Material} {state after : σ}
    {outcome : Outcome}
    (ran : pipeline.runStage request index material state = (.ok outcome, after)) :
    outcome.tree = material.tree := by
  obtain ⟨visitors, made, reduced, ledger, ready, ends, rfl, _⟩ := reduced_of_runStage ran
  rw [Pass.reduce_of_keepsNodes (keeps _ _ _ _ _ ready)] at ends
  by_cases program : material.tree.isProgram = true
  · rw [if_pos program] at ends
    cases ends
    rfl
  · rw [if_neg program] at ends
    cases ends

/-- What the stages make of a tree is that tree. -/
theorem KeepsNodes.derives (keeps : pipeline.KeepsNodes) {asked : Request → Prop}
    {first : Request} {outcomes : List Outcome}
    (derives : pipeline.Derives asked first outcomes) :
    ∀ outcome ∈ outcomes, outcome.tree = first.tree := by
  induction derives with
  | first _ _ ran =>
      intro outcome listed
      rw [List.mem_singleton.mp listed]
      exact keeps.tree ran
  | next _ _ _ ran inductionHypothesis =>
      intro outcome listed
      rcases List.mem_cons.mp listed with rfl | before
      · exact (keeps.tree ran).trans (inductionHypothesis _ List.mem_cons_self)
      · exact inductionHypothesis outcome before

/-! ## What events do to the state -/

/-- The event leads from one state of the visitors to another.  A computation that
succeeded, for a request for a program, was a run of its stage that took a fitting tree on a
tour; one that failed did so before any handler was called.  Nothing is said about
computations for requests for other trees, and other events leave the state. -/
inductive Leads (pipeline : Pipeline σ) (requests : List Request)
    (fitting : Request → Node → Prop) : Event → σ → σ → Prop where
  | visited {request : Request} {index : Fin pipeline.registry.size} {material : Material}
      {outcome : Outcome} {visitors : List (Visitor σ)} {before made after : σ}
      (member : request ∈ requests)
      (ran : pipeline.runStage request index material before = (.ok outcome, after))
      (fits : fitting request material.tree)
      (kept : outcome.tree = material.tree)
      (ready : pipeline.visitorsAt request index before = (.ok visitors, made))
      (visits : (pipeline.passAt request index visitors).Visits material.tree
        (pipeline.openingAt request index made)) :
      Leads pipeline requests fitting (.computed index request.fingerprint (.ok outcome))
        before after
  | rejected {request : Request} {index : Fin pipeline.registry.size} {failure : Failure}
      {before after : σ} (member : request ∈ requests)
      (rejected : pipeline.visitorsAt request index before = (.error failure, after)) :
      Leads pipeline requests fitting (.computed index request.fingerprint (.error failure))
        before after
  | failedBelow {index : Nat} {fingerprint : Fingerprint} {failure : Failure} {state : σ} :
      Leads pipeline requests fitting (.computed (index + 1) fingerprint (.error failure))
        state state
  | other {request : Request} {index : Nat} {answer : Except Failure Outcome} {before after : σ}
      (member : request ∈ requests) (other : request.tree.isProgram = false) :
      Leads pipeline requests fitting (.computed index request.fingerprint answer) before after
  | answered {index : Nat} {fingerprint : Fingerprint} {answer : Except Failure Outcome}
      {state : σ} :
      Leads pipeline requests fitting (.answered index fingerprint answer) state state
  | forgot {dependency : String} {state : σ} :
      Leads pipeline requests fitting (.forgot dependency) state state
  | cleared {state : σ} : Leads pipeline requests fitting .cleared state state

/-- The events lead from one state of the visitors to another, one after the other. -/
inductive LeadsThrough (pipeline : Pipeline σ) (requests : List Request)
    (fitting : Request → Node → Prop) : σ → List Event → σ → Prop where
  | nil {state : σ} : LeadsThrough pipeline requests fitting state [] state
  | cons {before between after : σ} {event : Event} {rest : List Event}
      (first : pipeline.Leads requests fitting event before between)
      (others : LeadsThrough pipeline requests fitting between rest after) :
      LeadsThrough pipeline requests fitting before (event :: rest) after

variable {requests : List Request} {fitting : Request → Node → Prop} {request : Request}

namespace LeadsThrough

theorem single {before after : σ} {event : Event}
    (leads : pipeline.Leads requests fitting event before after) :
    pipeline.LeadsThrough requests fitting before [event] after :=
  .cons leads .nil

theorem append {before between after : σ} {first second : List Event}
    (early : pipeline.LeadsThrough requests fitting before first between)
    (late : pipeline.LeadsThrough requests fitting between second after) :
    pipeline.LeadsThrough requests fitting before (first ++ second) after := by
  induction early with
  | nil => exact late
  | cons leads _ inductionHypothesis => exact .cons leads (inductionHypothesis late)

end LeadsThrough

/-- For a request for a program, the trees of all requests with its fingerprint are fitting,
and programs themselves. -/
structure Fitting (requests : List Request) (fitting : Request → Node → Prop) : Prop where
  same : ∀ request ∈ requests, request.tree.isProgram = true →
    ∀ other ∈ requests, other.fingerprint = request.fingerprint → fitting request other.tree
  program : ∀ request tree, request.tree.isProgram = true → fitting request tree →
    tree.isProgram = true

/-- A stage that is run on a fitting tree takes it on a tour, unless its visitors cannot be
made. -/
theorem leads_of_runStage (keeps : pipeline.KeepsNodes) (fit : Fitting requests fitting)
    (member : request ∈ requests) {index : Fin pipeline.registry.size} {material : Material}
    {before after : σ} {answer : Except Failure Outcome}
    (ran : pipeline.runStage request index material before = (answer, after))
    (given : request.tree.isProgram = true → fitting request material.tree) :
    pipeline.Leads requests fitting (.computed index request.fingerprint answer) before after := by
  cases program : request.tree.isProgram with
  | false => exact .other member program
  | true =>
      have fits := given program
      cases ready : pipeline.visitorsAt request index before with
      | mk answered made =>
          cases answered with
          | error failure =>
              cases ran.symm.trans (runStage_of_rejected ready)
              exact .rejected member ready
          | ok visitors =>
              have visits := Pass.visits_of_keepsNodes (keeps _ _ _ _ _ ready)
                (fit.program request _ program fits) (pipeline.openingAt request index made)
              obtain ⟨ledger, calls, ends, _⟩ := id visits
              cases ran.symm.trans (runStage_of_reduced ready ends)
              exact .visited member ran fits rfl ready visits

/-! ## Resolutions -/

/-- The outcome was made from a request with the fingerprint. -/
def MadeFor (pipeline : Pipeline σ) (requests : List Request) (index : Nat)
    (fingerprint : Fingerprint) (outcome : Outcome) : Prop :=
  ∃ first sources, pipeline.Made requests fingerprint index first sources outcome

variable {session : Session σ} {index : Nat} {inRange : index < pipeline.registry.size}

/-- A resolution for a program answers with a fitting tree. -/
theorem fitting_of_outcomeAt (keeps : pipeline.KeepsNodes) (fit : Fitting requests fitting)
    (member : request ∈ requests) (stocked : pipeline.Stocked (pipeline.MadeFor requests) session)
    {outcome : Outcome}
    (answered : (pipeline.outcomeAt request request.fingerprint index inRange session).1 =
      .ok outcome)
    (program : request.tree.isProgram = true) : fitting request outcome.tree := by
  obtain ⟨first, sources, made⟩ :=
    (outcomeAt_descends member inRange stocked.fits stocked.held).2 outcome answered
  obtain ⟨asked, sameFingerprint⟩ := made.derives.asked_first
  rw [keeps.derives made.derives outcome List.mem_cons_self]
  exact fit.same request member program first asked sameFingerprint

/-- The events of a stage lead where its resolution does, if those of its computation lead
where that does. -/
theorem leadsThrough_through (stocked : pipeline.Stocked (pipeline.MadeFor requests) session)
    {below : Session σ → List Event}
    (computing : let begun := session.miss index request.fingerprint
      let computed := pipeline.computation request request.fingerprint index inRange begun
      pipeline.LeadsThrough requests fitting begun.state
        (below begun ++ [.computed index request.fingerprint computed.1]) computed.2.state) :
    pipeline.LeadsThrough requests fitting session.state
      (pipeline.eventsThrough request request.fingerprint index inRange below session)
      (pipeline.outcomeAt request request.fingerprint index inRange session).2.state := by
  unfold eventsThrough
  rcases stocked.found_or_computed request request.fingerprint inRange with
    ⟨outcome, held, found⟩ | ⟨missing, _, sameState⟩
  · rw [held, found]
    exact .single .answered
  · rw [missing, sameState]
    exact computing.append (.single .answered)

/-- The events of a resolution lead from the state before it to the state behind. -/
theorem leadsThrough_outcomeAt (keeps : pipeline.KeepsNodes) (fit : Fitting requests fitting)
    (member : request ∈ requests) (index : Nat) (inRange : index < pipeline.registry.size)
    (stocked : pipeline.Stocked (pipeline.MadeFor requests) session) :
    pipeline.LeadsThrough requests fitting session.state
      (pipeline.eventsAt request request.fingerprint index inRange session)
      (pipeline.outcomeAt request request.fingerprint index inRange session).2.state := by
  induction index generalizing session with
  | zero =>
      apply leadsThrough_through stocked
      refine .single ?_
      cases ran : pipeline.runStage request ⟨0, inRange⟩ request.material
          (session.miss 0 request.fingerprint).state with
      | mk answer after =>
          rw [computation_zero ran]
          refine leads_of_runStage keeps fit member ran fun program => ?_
          exact fit.same request member program request member rfl
  | succ index inductionHypothesis =>
      have begun := stocked.miss (index + 1) request.fingerprint
      have below := inductionHypothesis (inRange_of_succ inRange) begun
      have fitBelow := @fitting_of_outcomeAt _ _ _ _ _ _ _ (inRange_of_succ inRange) keeps fit
        member begun
      apply leadsThrough_through stocked
      refine below.append (.single ?_)
      cases resolved : pipeline.outcomeAt request request.fingerprint index
          (inRange_of_succ inRange) (session.miss (index + 1) request.fingerprint) with
      | mk answer after =>
          rw [resolved] at fitBelow
          cases answer with
          | error failure =>
              rw [computation_of_failedBelow resolved]
              exact .failedBelow
          | ok previous =>
              cases ran : pipeline.runStage request ⟨index + 1, inRange⟩ previous.material
                  after.state with
              | mk answer behind =>
                  rw [computation_succ resolved ran]
                  exact leads_of_runStage keeps fit member ran (fitBelow rfl)

/-- The events of a history lead from the first state of the visitors to the last one. -/
theorem leadsThrough_performAll (keeps : pipeline.KeepsNodes) (fit : Fitting requests fitting)
    {operations : List Operation} (subset : operations.flatMap Operation.requests ⊆ requests)
    (stocked : pipeline.Stocked (pipeline.MadeFor requests) session) :
    pipeline.LeadsThrough requests fitting session.state
      (pipeline.eventsAlong operations session)
      (pipeline.performAll operations session).2.state := by
  have traces : pipeline.Traces requests (pipeline.Stocked (pipeline.MadeFor requests))
      fun before events after =>
        pipeline.LeadsThrough requests fitting before.state events after.state := by
    constructor
    case nil => exact fun _ => .nil
    case append => exact fun early late => early.append late
    case resolving =>
      intro request member index inRange session stocked
      exact ⟨leadsThrough_outcomeAt keeps fit member index inRange stocked,
        stocked.outcomeAt (outcomeAt_descends member inRange stocked.fits stocked.held).1⟩
    case forgetting =>
      exact fun dependency session stocked => ⟨.single .forgot, stocked.forget dependency⟩
    case clearing => exact fun session stocked => ⟨.single .cleared, stocked.clear⟩
  exact (traces.performAll subset stocked).1

end Pipeline

end Cascade
