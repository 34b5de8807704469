import Cascade.Proofs.VisitOrder
import Cascade.Visitor.Sample

/-!
# Counting visits

A visitor that adds one to a count for each node that it enters, among visitors that leave
nodes and the count as they are, counts the nodes of its kinds in the tree.  What is counted
is told of one call, then of the visitors at a node, and then along the tour of a tree.
-/

namespace Cascade

variable {σ : Type}

/-! ## One call -/

/-- The handlers of the visitor leave the count as it is. -/
def Visitor.LeavesCount (visitor : Visitor σ) (count : σ → Nat) : Prop :=
  ∀ phase site node state, count (visitor.handler phase site node state).state = count state

namespace Visitor

variable {count : σ → Nat} {phase : Phase} {site : Site} {node : Node} {ledger : Ledger σ}

theorem LeavesCount.call {visitor : Visitor σ} (leaves : visitor.LeavesCount count) :
    count (visitor.call phase site node ledger).2.state = count ledger.state := by
  unfold Visitor.call
  by_cases wanted : visitor.interest.includes node.kind = true
  · rw [if_pos wanted]
    exact leaves phase site node ledger.state
  · rw [if_neg wanted]

theorem count_callAll {visitors : List (Visitor σ)}
    (leave : ∀ visitor ∈ visitors, visitor.LeavesCount count) :
    count (callAll phase site visitors node ledger).2.state = count ledger.state := by
  induction visitors generalizing node ledger with
  | nil => rfl
  | cons visitor rest inductionHypothesis =>
      obtain ⟨first, others⟩ := List.forall_mem_cons.mp leave
      exact (inductionHypothesis others).trans first.call

/-- A counting visitor counts a node of its kinds as it enters it. -/
theorem count_counting {name : String} {bump : σ → σ} {interest : Interest}
    (bumps : ∀ state, count (bump state) = count state + 1) :
    count ((counting name bump interest).call phase site node ledger).2.state =
      count ledger.state + if phase = .enter ∧ interest.includes node.kind then 1 else 0 := by
  by_cases wanted : interest.includes node.kind = true
  · cases phase with
    | enter => simp [call, counting, handler, bumps, wanted]
    | exit => simp [call, counting, handler, Handler.idle, wanted]
  · simp [call, counting, wanted]

end Visitor

/-! ## The visitors at a node -/

theorem Visitor.callAll_append (phase : Phase) (site : Site) (first second : List (Visitor σ))
    (node : Node) (ledger : Ledger σ) :
    callAll phase site (first ++ second) node ledger =
      callAll phase site second (callAll phase site first node ledger).1
        (callAll phase site first node ledger).2 := by
  induction first generalizing node ledger with
  | nil => rfl
  | cons visitor rest inductionHypothesis => exact inductionHypothesis _ _

namespace Pass

variable {pass : Pass σ} {count : σ → Nat} {wants : Kind → Bool}

/-- The visitors of the pass count the nodes of the kinds that are wanted, each as it is
entered. -/
def Counts (pass : Pass σ) (count : σ → Nat) (wants : Kind → Bool) : Prop :=
  ∀ phase depth node ledger, count (pass.visit phase depth node ledger).2.state =
    count ledger.state + if phase = .enter ∧ wants node.kind then 1 else 0

theorem counts_of_leave (leave : ∀ visitor ∈ pass.visitors, visitor.LeavesCount count) :
    pass.Counts count fun _ => false := by
  intro phase depth node ledger
  rw [if_neg fun wanted => nomatch wanted.2]
  exact Visitor.count_callAll leave

/-- Among visitors that leave the count, one that is listed once counts the nodes. -/
theorem counts_of_listed {name : String} {bump : σ → σ} {interest : Interest}
    (bumps : ∀ state, count (bump state) = count state + 1) (keeps : pass.KeepsNodes)
    {before behind : List (Visitor σ)}
    (listed : pass.visitors = before ++ .counting name bump interest :: behind)
    (leave : ∀ visitor ∈ before ++ behind, visitor.LeavesCount count) :
    pass.Counts count interest.includes := by
  obtain ⟨leaveBefore, leaveBehind⟩ := List.forall_mem_append.mp leave
  intro phase depth node ledger
  have keepsBefore : ∀ visitor ∈ before, visitor.KeepsNodes := fun visitor member =>
    keeps visitor (listed ▸ List.mem_append_left _ member)
  rw [visit, listed, Visitor.callAll_append, Visitor.callAll_of_keepsNodes keepsBefore]
  exact calc
    _ = count ((Visitor.counting name bump interest).call phase (pass.site depth) node
          (Visitor.callAll phase (pass.site depth) before node ledger).2).2.state :=
      Visitor.count_callAll leaveBehind
    _ = _ := by rw [Visitor.count_counting bumps, Visitor.count_callAll leaveBefore]

/-! ## Along a tour -/

theorem Counts.along (counts : pass.Counts count wants) (ledger : Ledger σ)
    (moments : List Moment) :
    count (Treatment.along pass.visit ledger moments).state =
      count ledger.state + (Node.nodesAt .enter moments).countP fun node => wants node.kind := by
  induction moments generalizing ledger with
  | nil => rfl
  | cons moment rest inductionHypothesis =>
      have first := counts moment.phase moment.path.length moment.node ledger
      have others := inductionHypothesis
        (pass.visit moment.phase moment.path.length moment.node ledger).2
      rw [first] at others
      refine others.trans ?_
      by_cases entered : moment.phase = .enter
      · by_cases wanted : wants moment.node.kind = true
        · simp [Node.nodesAt, entered, wanted]
          omega
        · simp [Node.nodesAt, entered, wanted]
      · simp [Node.nodesAt, entered]

/-- A reduction counts the nodes of the tree that are wanted. -/
theorem Counts.reduce (counts : pass.Counts count wants) (keeps : pass.KeepsNodes) (root : Node)
    (before : Ledger σ) :
    count (pass.reduce root before).2.state =
      count before.state + root.listing.countP fun node => wants node.kind := by
  rw [reduce_of_keepsNodes keeps, counts.along, root.toured.entered]

end Pass

end Cascade
