import Cascade.Proofs.StageRun
import Cascade.Proofs.Tours
import Cascade.Proofs.Transcript

/-!
# The order of visits

Visitors that leave every node as it is are taken on a tour of the tree: at every moment of
the tour each visitor that wants nodes of the kind is called with the node, in list order.
So each visitor enters the nodes that it wants in pre-order and exits them in post-order,
and the tree comes out as it went in.
-/

namespace Cascade

/-! ## Treatments that leave nodes as they are -/

namespace Treatment

variable {S : Type} {treat : Treatment S}

/-- The treatment leaves every node as it is. -/
def KeepsNodes (treat : Treatment S) : Prop :=
  ∀ phase depth node kept, (treat phase depth node kept).1 = node

/-- What is kept along the moments of a tour. -/
def along (treat : Treatment S) (kept : S) (moments : List Moment) : S :=
  moments.foldl
    (fun kept moment => (treat moment.phase moment.path.length moment.node kept).2) kept

theorem along_append (kept : S) (first second : List Moment) :
    treat.along kept (first ++ second) = treat.along (treat.along kept first) second :=
  List.foldl_append

theorem along_tour (kept : S) (path : List Nat) (node : Node) :
    treat.along kept (node.tour path) =
      (treat .exit path.length node (treat.along (treat .enter path.length node kept).2
        (Node.tourAll path 0 node.children))).2 := by
  rw [Node.tour_eq]
  exact along_append _ _ _

mutual

/-- The recursion takes a tour of the tree. -/
theorem reduceTree_of_keepsNodes (keeps : treat.KeepsNodes) :
    ∀ (node : Node) (path : List Nat) (kept : S),
      treat.reduceTree path.length node kept = some (node, treat.along kept (node.tour path))
  | .mk header children, path, kept => by
      have entered : treat .enter path.length (.mk header children) kept =
          (.mk header children, (treat .enter path.length (.mk header children) kept).2) :=
        Prod.ext (keeps ..) rfl
      have inside : treat.reduceTrees (path.length + 1)
          (treat .enter path.length (.mk header children) kept).1.children
          (treat .enter path.length (.mk header children) kept).2 =
            some (children, treat.along (treat .enter path.length (.mk header children) kept).2
              (Node.tourAll path 0 children)) := by
        rw [entered]
        exact reduceTrees_of_keepsNodes keeps children path 0 _
      rw [reduceTree_of_children inside, entered]
      exact congrArg some (Prod.ext (keeps ..) (along_tour kept path (.mk header children)).symm)

theorem reduceTrees_of_keepsNodes (keeps : treat.KeepsNodes) :
    ∀ (nodes : List Node) (path : List Nat) (index : Nat) (kept : S),
      treat.reduceTrees (path.length + 1) nodes kept =
        some (nodes, treat.along kept (Node.tourAll path index nodes))
  | [], _, _, _ => reduceTrees_nil
  | node :: rest, path, index, kept => by
      have first := reduceTree_of_keepsNodes keeps node (path ++ [index]) kept
      rw [List.length_append, List.length_singleton] at first
      rw [reduceTrees_cons first (reduceTrees_of_keepsNodes keeps rest path (index + 1) _),
        Node.tourAll, along_append]

end

end Treatment

/-! ## Visitors that leave nodes as they are -/

variable {σ : Type}

/-- The handlers of the visitor answer the nodes that they are called with. -/
def Visitor.KeepsNodes (visitor : Visitor σ) : Prop :=
  ∀ phase site node state, visitor.interest.includes node.kind = true →
    (visitor.handler phase site node state).node = node

theorem Visitor.transcribe_of_keepsNodes {entry : Visitor σ × Nat} (keeps : entry.1.KeepsNodes)
    (phase : Phase) (site : Site) (node : Node) (transcript : Transcript σ) :
    (Visitor.transcribe phase site (node, transcript) entry).1 = node ∧
      (Visitor.transcribe phase site (node, transcript) entry).2.calls =
        transcript.calls ++ if entry.1.interest.includes node.kind then
          [⟨entry.2, phase, node, site.depth⟩] else [] := by
  unfold Visitor.transcribe
  by_cases wanted : entry.1.interest.includes node.kind = true
  · rw [if_pos wanted, if_pos wanted]
    constructor
    · have kept := keeps phase site node transcript.state wanted
      simp only [kept]
      rw [Option.or_self]
      exact node.withSpan_span
    · simp [Transcript.calls]
  · rw [if_neg wanted, if_neg wanted, List.append_nil]
    exact ⟨rfl, rfl⟩

namespace Pass

/-- The calls at a moment of a tour: every visitor that wants nodes of the kind is called
with the node at its depth, in list order. -/
def callsAt (pass : Pass σ) (moment : Moment) : List Call :=
  (pass.visitors.zipIdx.filter fun entry => entry.1.interest.includes moment.node.kind).map
    fun entry => ⟨entry.2, moment.phase, moment.node, moment.path.length⟩

/-- All visitors of the pass leave every node as it is. -/
def KeepsNodes (pass : Pass σ) : Prop :=
  ∀ visitor ∈ pass.visitors, visitor.KeepsNodes

variable {pass : Pass σ}

theorem foldl_transcribe_of_keepsNodes {entries : List (Visitor σ × Nat)}
    (keeps : ∀ entry ∈ entries, entry.1.KeepsNodes) (phase : Phase) (site : Site) (node : Node)
    (transcript : Transcript σ) :
    (entries.foldl (Visitor.transcribe phase site) (node, transcript)).1 = node ∧
      (entries.foldl (Visitor.transcribe phase site) (node, transcript)).2.calls =
        transcript.calls ++
          (entries.filter fun entry => entry.1.interest.includes node.kind).map fun entry =>
            ⟨entry.2, phase, node, site.depth⟩ := by
  induction entries generalizing transcript with
  | nil => exact ⟨rfl, (List.append_nil _).symm⟩
  | cons entry rest inductionHypothesis =>
      obtain ⟨first, others⟩ := List.forall_mem_cons.mp keeps
      obtain ⟨sameNode, calls⟩ := Visitor.transcribe_of_keepsNodes first phase site node transcript
      have turned : Visitor.transcribe phase site (node, transcript) entry =
          (node, (Visitor.transcribe phase site (node, transcript) entry).2) :=
        Prod.ext sameNode rfl
      obtain ⟨sameBehind, callsBehind⟩ := inductionHypothesis others
        (Visitor.transcribe phase site (node, transcript) entry).2
      rw [List.foldl_cons, turned]
      refine ⟨sameBehind, callsBehind.trans ?_⟩
      rw [calls, List.append_assoc]
      by_cases wanted : entry.1.interest.includes node.kind = true <;> simp [wanted]

theorem transcribed_of_keepsNodes (keeps : pass.KeepsNodes) (phase : Phase) (depth : Nat)
    (node : Node) (transcript : Transcript σ) :
    (pass.transcribed phase depth node transcript).1 = node ∧
      (pass.transcribed phase depth node transcript).2.calls =
        transcript.calls ++
          (pass.visitors.zipIdx.filter fun entry => entry.1.interest.includes node.kind).map
            fun entry => ⟨entry.2, phase, node, depth⟩ := by
  refine foldl_transcribe_of_keepsNodes (fun entry member => keeps entry.1 ?_) ..
  exact List.fst_mem_of_mem_zipIdx member

theorem calls_along (keeps : pass.KeepsNodes) (moments : List Moment)
    (transcript : Transcript σ) :
    (pass.transcribed.along transcript moments).calls =
      transcript.calls ++ moments.flatMap pass.callsAt := by
  induction moments generalizing transcript with
  | nil => exact (List.append_nil _).symm
  | cons moment rest inductionHypothesis =>
      obtain ⟨_, here⟩ := transcribed_of_keepsNodes keeps moment.phase moment.path.length
        moment.node transcript
      have behind := inductionHypothesis
        (pass.transcribed moment.phase moment.path.length moment.node transcript).2
      rw [here, List.append_assoc] at behind
      exact behind

/-- Visitors that leave nodes as they are make their calls along a tour of the tree, which
comes out as it went in. -/
theorem transcript_of_keepsNodes (keeps : pass.KeepsNodes) (root : Node) (state : σ) :
    ∃ transcript, pass.transcript root state = some (root, transcript) ∧
      transcript.calls = (root.tour []).flatMap pass.callsAt :=
  ⟨_, Treatment.reduceTree_of_keepsNodes
    (fun phase depth node kept => (transcribed_of_keepsNodes keeps phase depth node kept).1)
    root [] _, calls_along keeps _ _⟩

/-! ## The calls of one visitor -/

end Pass

/-- Whether the call is one of the visitor at a place, at the given phase. -/
def Call.concerns (place : Nat) (phase : Phase) (call : Call) : Bool :=
  decide (call.visitor = place ∧ call.phase = phase)

namespace Pass

variable {pass : Pass σ} {place : Nat} {visitor : Visitor σ}

theorem filter_zipIdx {visitors : List (Visitor σ)} {place : Nat}
    (listed : visitors[place]? = some visitor) (first : Nat) :
    (visitors.zipIdx first).filter (·.2 = first + place) = [(visitor, first + place)] := by
  induction visitors generalizing first place with
  | nil => exact nomatch listed
  | cons other rest inductionHypothesis =>
      cases place with
      | zero =>
          obtain rfl := Option.some.inj listed
          have none : (rest.zipIdx (first + 1)).filter (·.2 = first + 0) = [] := by
            refine List.filter_eq_nil_iff.mpr fun entry member => ?_
            have behind := List.le_snd_of_mem_zipIdx member
            simp only [decide_eq_true_eq]
            omega
          rw [List.zipIdx_cons, List.filter_cons_of_pos (by simp), none]
          rfl
      | succ place =>
          have behind := inductionHypothesis listed (first + 1)
          rw [Nat.add_right_comm, Nat.add_assoc] at behind
          rw [List.zipIdx_cons, List.filter_cons_of_neg (by simp), behind]

/-- At a moment of a tour a visitor is called once, if it wants the node. -/
theorem filter_callsAt (listed : pass.visitors[place]? = some visitor) (phase : Phase)
    (moment : Moment) :
    (pass.callsAt moment).filter (Call.concerns place phase) =
      if moment.phase = phase ∧ visitor.interest.includes moment.node.kind = true then
        [⟨place, phase, moment.node, moment.path.length⟩] else [] := by
  rw [callsAt, List.filter_map, List.filter_filter]
  by_cases same : moment.phase = phase
  · have own := filter_zipIdx listed 0
    rw [Nat.zero_add] at own
    have chosen : (pass.visitors.zipIdx.filter fun entry =>
        (Call.concerns place phase ∘ fun entry : Visitor σ × Nat =>
          ⟨entry.2, moment.phase, moment.node, moment.path.length⟩) entry &&
            entry.1.interest.includes moment.node.kind) =
          [(visitor, place)].filter fun entry => entry.1.interest.includes moment.node.kind := by
      rw [← own, List.filter_filter]
      refine List.filter_congr fun entry _ => ?_
      simp [Call.concerns, same, Bool.and_comm]
    rw [chosen, same]
    by_cases wanted : visitor.interest.includes moment.node.kind = true <;> simp [wanted]
  · rw [if_neg fun both => same both.1]
    refine List.map_eq_nil_iff.mpr (List.filter_eq_nil_iff.mpr fun entry _ => ?_)
    simp [Call.concerns, same]

/-- Along a tour a visitor is called with the nodes that it wants, in the order of the tour. -/
theorem nodes_of_calls (listed : pass.visitors[place]? = some visitor) (phase : Phase)
    (moments : List Moment) :
    ((moments.flatMap pass.callsAt).filter (Call.concerns place phase)).map Call.node =
      (Node.nodesAt phase moments).filter fun node => visitor.interest.includes node.kind := by
  induction moments with
  | nil => rfl
  | cons moment rest inductionHypothesis =>
      rw [List.flatMap_cons, List.filter_append, List.map_append, inductionHypothesis,
        filter_callsAt listed, Node.nodesAt, Node.nodesAt]
      by_cases same : moment.phase = phase
      · by_cases wanted : visitor.interest.includes moment.node.kind = true <;>
          simp [same, wanted]
      · simp [same]

/-- The calls of handlers take the tree on a tour: the calls at the moments of the tour
follow one another, and so each visitor enters the nodes that it wants in pre-order, and
exits the same ones in post-order. -/
structure Tours (pass : Pass σ) (root : Node) (calls : List Call) : Prop where
  moments : ∃ moments, root.Toured moments ∧ calls = moments.flatMap pass.callsAt
  entered : ∀ place visitor, pass.visitors[place]? = some visitor →
    (calls.filter (Call.concerns place .enter)).map Call.node =
      root.listing.filter fun node => visitor.interest.includes node.kind
  exited : ∀ place visitor, pass.visitors[place]? = some visitor →
    (calls.filter (Call.concerns place .exit)).map Call.node =
      root.closing.filter fun node => visitor.interest.includes node.kind

theorem tours_of_moments (pass : Pass σ) (root : Node) :
    pass.Tours root ((root.tour []).flatMap pass.callsAt) where
  moments := ⟨_, root.toured, rfl⟩
  entered := by
    intro place visitor listed
    rw [nodes_of_calls listed, root.toured.entered]
  exited := by
    intro place visitor listed
    rw [nodes_of_calls listed, root.toured.exited]

/-- The pass reduces the tree to itself, and its handlers are called along a tour of it. -/
def Visits (pass : Pass σ) (root : Node) (before : Ledger σ) : Prop :=
  ∃ after calls, pass.reduce root before = (.ok root, after) ∧
    pass.logged.traverse root before.logging =
      some (root, ⟨after.diagnostics, after.dependencies, (after.state, calls)⟩) ∧
    pass.Tours root calls

theorem visits_of_keepsNodes (keeps : pass.KeepsNodes) {root : Node}
    (program : root.isProgram = true) (before : Ledger σ) : pass.Visits root before := by
  obtain ⟨transcript, told, calls⟩ := pass.transcript_of_keepsNodes keeps root before.state
  have answered := reduce_of_transcript told
  rw [if_pos program] at answered
  have loggedAlong := pass.traverse_logged_eq_transcript root before
  rw [told] at loggedAlong
  refine ⟨_, transcript.calls, answered, loggedAlong, ?_⟩
  rw [calls]
  exact pass.tours_of_moments root

end Pass

/-! ## The ledger behind a tour -/

theorem Visitor.KeepsNodes.call {visitor : Visitor σ} (keeps : visitor.KeepsNodes) (phase : Phase)
    (site : Site) (node : Node) (ledger : Ledger σ) :
    (visitor.call phase site node ledger).1 = node := by
  unfold Visitor.call
  by_cases wanted : visitor.interest.includes node.kind = true
  · rw [if_pos wanted]
    simp only [keeps phase site node ledger.state wanted]
    rw [Node.refillSpan_eq, Option.or_self]
    exact node.withSpan_span
  · rw [if_neg wanted]

theorem Visitor.callAll_of_keepsNodes {visitors : List (Visitor σ)}
    (keeps : ∀ visitor ∈ visitors, visitor.KeepsNodes) (phase : Phase) (site : Site) (node : Node)
    (ledger : Ledger σ) : (callAll phase site visitors node ledger).1 = node := by
  induction visitors generalizing ledger with
  | nil => rfl
  | cons visitor rest inductionHypothesis =>
      obtain ⟨first, others⟩ := List.forall_mem_cons.mp keeps
      have called := first.call phase site node ledger
      unfold callAll
      simp only [called]
      exact inductionHypothesis others _

namespace Pass

variable {pass : Pass σ}

theorem KeepsNodes.visit (keeps : pass.KeepsNodes) : Treatment.KeepsNodes pass.visit :=
  fun phase depth node ledger =>
    Visitor.callAll_of_keepsNodes keeps phase (pass.site depth) node ledger

/-- The ledger behind a tour of the tree. -/
theorem reduce_of_keepsNodes (keeps : pass.KeepsNodes) (root : Node) (before : Ledger σ) :
    pass.reduce root before =
      (if root.isProgram then .ok root else .error (.invalidRoot pass.stage root.kind),
        Treatment.along pass.visit before (root.tour [])) := by
  apply reduce_of_traverse
  rw [traverse_eq_reduceTree]
  exact Treatment.reduceTree_of_keepsNodes keeps.visit root [] before

end Pass

end Cascade
