import Cascade.Proofs.VisitCounts
import Cascade.Proofs.VisitedStages
import Mathlib.Algebra.Ring.Nat

/-!
# Totals of visits

A visitor that counts the nodes it enters, and is listed once in each of its stages, comes to
the number of nodes of its kinds in the trees for which these stages were computed, however
caches are used and whatever is served, dropped or fails in between.
-/

namespace Cascade

variable {σ : Type}

namespace Pipeline

variable {pipeline : Pipeline σ} {requests : List Request} {fitting : Request → Node → Prop}
  {request : Request}

/-! ## Totals -/

/-- A visitor that counts the nodes of its kinds as it enters them, listed once in each of
its stages.  Nothing else touches the count. -/
structure Counter (pipeline : Pipeline σ) where
  count : σ → Nat
  name : String
  bump : σ → σ
  interest : Interest
  stages : Nat → Bool
  bumps : ∀ state, count (bump state) = count state + 1
  making : ∀ request (index : Fin pipeline.registry.size) state,
    count (pipeline.visitorsAt request index state).2 = count state
  listed : ∀ request (index : Fin pipeline.registry.size) state visitors made,
    stages index = true →
    pipeline.visitorsAt request index state = (.ok visitors, made) →
      ∃ before behind, (pipeline.passAt request index visitors).visitors =
          before ++ .counting name bump interest :: behind ∧
        ∀ visitor ∈ before ++ behind, visitor.LeavesCount count
  absent : ∀ request (index : Fin pipeline.registry.size) state visitors made,
    stages index = false →
    pipeline.visitorsAt request index state = (.ok visitors, made) →
      ∀ visitor ∈ (pipeline.passAt request index visitors).visitors, visitor.LeavesCount count

namespace Counter

/-- The kinds of nodes that are counted in the stage at an index. -/
def wants (counter : pipeline.Counter) (index : Nat) (kind : Kind) : Bool :=
  counter.stages index && counter.interest.includes kind

/-- What an event adds to the count: a computation that succeeded adds the number of nodes
of its tree that are counted in its stage. -/
def added (counter : pipeline.Counter) : Event → Nat
  | .computed index _ (.ok outcome) =>
      outcome.tree.listing.countP fun node => counter.wants index node.kind
  | _ => 0

theorem counts (counter : pipeline.Counter) (keeps : pipeline.KeepsNodes)
    {index : Fin pipeline.registry.size} {visitors : List (Visitor σ)} {state made : σ}
    (ready : pipeline.visitorsAt request index state = (.ok visitors, made)) :
    (pipeline.passAt request index visitors).Counts counter.count (counter.wants index) := by
  cases stage : counter.stages index with
  | false =>
      have wants : counter.wants index = fun _ => false := by
        funext kind
        rw [Counter.wants, stage, Bool.false_and]
      rw [wants]
      exact Pass.counts_of_leave (counter.absent _ _ _ _ _ stage ready)
  | true =>
      have wants : counter.wants index = counter.interest.includes := by
        funext kind
        rw [Counter.wants, stage, Bool.true_and]
      obtain ⟨before, behind, listed, leave⟩ := counter.listed _ _ _ _ _ stage ready
      rw [wants]
      exact Pass.counts_of_listed counter.bumps (keeps _ _ _ _ _ ready) listed leave

end Counter

/-- An event adds to the count what it should, if all requests are for programs. -/
theorem Leads.count (keeps : pipeline.KeepsNodes)
    (programs : ∀ request ∈ requests, request.tree.isProgram = true)
    (counter : pipeline.Counter) {event : Event} {before after : σ}
    (leads : pipeline.Leads requests fitting event before after) :
    counter.count after = counter.count before + counter.added event := by
  cases leads with
  | @visited request index material outcome visitors _ made _ member ran fits kept ready visits =>
      obtain ⟨ledger, _, ends, _⟩ := visits
      have counted := (counter.counts keeps ready).reduce (keeps _ _ _ _ _ ready) material.tree
        (pipeline.openingAt request index made)
      have making := counter.making request index before
      rw [ends] at counted
      rw [ready] at making
      cases ran.symm.trans (runStage_of_reduced ready ends)
      rw [← making]
      exact counted
  | @rejected request index failure _ _ member rejected =>
      have making := counter.making request index before
      rw [rejected] at making
      exact making
  | other member other => exact nomatch other.symm.trans (programs _ member)
  | failedBelow => rfl
  | answered => rfl
  | forgot => rfl
  | cleared => rfl

theorem LeadsThrough.count (keeps : pipeline.KeepsNodes)
    (programs : ∀ request ∈ requests, request.tree.isProgram = true)
    (counter : pipeline.Counter) {events : List Event} {before after : σ}
    (leads : pipeline.LeadsThrough requests fitting before events after) :
    counter.count after = counter.count before + (events.map counter.added).sum := by
  induction leads with
  | nil => rfl
  | cons first _ inductionHypothesis =>
      rw [inductionHypothesis, first.count keeps programs counter, List.map_cons, List.sum_cons,
        Nat.add_assoc]

end Pipeline

/-- Where all handlers leave nodes as they are, every node is visited once, in order.  A pass
reduces a program to itself, with its calls along a tour of the tree.  In every history of a
pipeline, each stage that is computed for a request for a program takes the request's own
tree on a tour, if the digest tells the trees apart.  And if all requests are for programs, a
visitor that counts the nodes it enters comes to the sum, over the computations that
succeeded in its stages, of the number of nodes of its kinds. -/
theorem visits_every_node_once {σ : Type} :
    (∀ (pass : Pass σ) root before, pass.KeepsNodes → root.isProgram = true →
      pass.Visits root before) ∧
    ∀ (pipeline : Pipeline σ), pipeline.KeepsNodes → ∀ operations state,
      let requests := operations.flatMap Operation.requests
      let events := pipeline.eventsAlong operations (pipeline.newSession state)
      let after := (pipeline.performAll operations (pipeline.newSession state)).2.state
      ((∀ request ∈ requests, request.tree.isProgram = true → ∀ other ∈ requests,
          other.fingerprint = request.fingerprint → other.tree = request.tree) →
        pipeline.LeadsThrough requests (fun request tree => tree = request.tree) state events
          after) ∧
      ((∀ request ∈ requests, request.tree.isProgram = true) → ∀ counter : pipeline.Counter,
        counter.count after = counter.count state + (events.map counter.added).sum) := by
  constructor
  · exact fun pass root before keeps program => Pass.visits_of_keepsNodes keeps program before
  intro pipeline keeps operations state requests events after
  have stocked := Pipeline.Stocked.newSession pipeline (pipeline.MadeFor requests) state
  constructor
  · intro apart
    have fit : Pipeline.Fitting requests fun request tree => tree = request.tree := by
      constructor
      · exact apart
      · rintro request _ program rfl
        exact program
    exact Pipeline.leadsThrough_performAll keeps fit (List.Subset.refl _) stocked
  · intro programs counter
    have fit : Pipeline.Fitting requests fun _ tree => tree.isProgram = true :=
      ⟨fun _ _ _ other member _ => programs other member, fun _ _ _ program => program⟩
    exact (Pipeline.leadsThrough_performAll keeps fit (List.Subset.refl _) stocked).count keeps
      programs counter

/-! ## A stage that counts statements -/

namespace Pipeline

/-- A pipeline of one stage, which counts statements behind a hook that does nothing. -/
def tallying : Pipeline Nat where
  registry :=
    { stages := [⟨"lint", .fixed [.ready (.counting "count" Nat.succ (.kinds [.statement]))]⟩]
      primary := ⟨0, Nat.zero_lt_one⟩
      hooks := [.plain "watch"]
      knownOptions := none
      distinct := by decide }
  catalog := Dict.empty

/-- A request for a program of two statements, one of them in a block. -/
def nestedStatements : Request where
  tree := Node.program [Node.ofKind .block [Node.ofKind .statement], Node.ofKind .statement]

theorem tallying_visitorsAt (request : Request) (index : Fin tallying.registry.size)
    (state : Nat) :
    tallying.visitorsAt request index state =
      (.ok [.counting "count" Nat.succ (.kinds [.statement])], state) := by
  match index with
  | ⟨0, _⟩ => rfl

theorem tallying_keepsNodes : tallying.KeepsNodes := by
  intro request index state visitors made ready visitor listed phase site node kept _
  rw [tallying_visitorsAt] at ready
  cases ready
  rcases List.mem_cons.mp listed with rfl | listed
  · cases phase <;> rfl
  · obtain rfl := List.mem_singleton.mp listed
    cases phase <;> rfl

/-- The count of statements. -/
def tallyingCounter : tallying.Counter where
  count := id
  name := "count"
  bump := Nat.succ
  interest := .kinds [.statement]
  stages := fun _ => true
  bumps := fun _ => rfl
  making := by
    intro request index state
    rw [tallying_visitorsAt]
  listed := by
    intro request index state visitors made _ ready
    rw [tallying_visitorsAt] at ready
    cases ready
    refine ⟨[.plain "watch"], [], rfl, fun visitor listed phase site node kept => ?_⟩
    obtain rfl := List.mem_singleton.mp listed
    cases phase <;> rfl
  absent := fun _ _ _ _ _ absent => nomatch absent

theorem tallying_events : ∃ outcome answer, outcome.tree = nestedStatements.tree ∧
    tallying.eventsAlong [.serve nestedStatements] (tallying.newSession 0) =
      [.computed 0 nestedStatements.fingerprint (.ok outcome),
        .answered 0 nestedStatements.fingerprint answer] := by
  have inRange : 0 < tallying.registry.size := Nat.zero_lt_one
  have ready := tallying_visitorsAt nestedStatements ⟨0, inRange⟩ 0
  have missing : (tallying.newSession 0).memory.held? 0 nestedStatements.fingerprint = none :=
    Memory.held?_ofStages _ 0 _
  obtain ⟨ledger, _, ends, _⟩ := Pass.visits_of_keepsNodes (tallying_keepsNodes _ _ _ _ _ ready)
    (rfl : nestedStatements.material.tree.isProgram = true)
    (tallying.openingAt nestedStatements ⟨0, inRange⟩ 0)
  have computed : tallying.computation nestedStatements nestedStatements.fingerprint 0 inRange
      ((tallying.newSession 0).miss 0 nestedStatements.fingerprint) = _ :=
    computation_zero (runStage_of_reduced ready ends)
  refine ⟨nestedStatements.material.outcome nestedStatements.tree ledger,
    (tallying.outcomeAt nestedStatements nestedStatements.fingerprint 0 inRange
      (tallying.newSession 0)).1, rfl, ?_⟩
  show tallying.eventsThrough nestedStatements nestedStatements.fingerprint 0 inRange
    (fun _ => []) (tallying.newSession 0) ++ [] = _
  simp only [eventsThrough, missing, computed]
  rfl

/-- The statements are counted once, on a tour of the tree that was asked for. -/
theorem visits_every_node_once_tallying :
    let operations : List Operation := [.serve nestedStatements]
    let after := (tallying.performAll operations (tallying.newSession 0)).2.state
    tallying.KeepsNodes ∧ nestedStatements.tree.isProgram = true ∧
      (tallying.passAt nestedStatements ⟨0, Nat.zero_lt_one⟩
        [.counting "count" Nat.succ (.kinds [.statement])]).Visits nestedStatements.tree
          { state := 0 } ∧
      tallying.LeadsThrough [nestedStatements] (fun request tree => tree = request.tree) 0
        (tallying.eventsAlong operations (tallying.newSession 0)) after ∧
      after = 2 := by
  intro operations after
  obtain ⟨visits, histories⟩ := @visits_every_node_once Nat
  obtain ⟨leads, total⟩ := histories tallying tallying_keepsNodes operations 0
  obtain ⟨outcome, answer, same, events⟩ := tallying_events
  have only : ∀ request ∈ [nestedStatements], request = nestedStatements := fun request member =>
    List.mem_singleton.mp member
  have keeps := tallying_keepsNodes nestedStatements ⟨0, Nat.zero_lt_one⟩ 0 _ _
    (tallying_visitorsAt _ _ _)
  have counted : after = 0 + ((tallying.eventsAlong operations (tallying.newSession 0)).map
      tallyingCounter.added).sum :=
    total (fun request member => only request member ▸ rfl) tallyingCounter
  refine ⟨tallying_keepsNodes, rfl, visits _ _ _ keeps rfl, leads ?_, ?_⟩
  · intro request member _ other listed _
    rw [only request member, only other listed]
  · rw [counted, events, List.map_cons, Counter.added, same]
    rfl

end Pipeline

end Cascade
