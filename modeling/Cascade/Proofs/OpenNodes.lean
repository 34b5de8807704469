import Cascade.Proofs.HandlerCalls

/-!
# The nodes that a traversal opens

The loop of a traversal takes nodes from the open nodes around them, opens them, and hands
them back when they are closed.  A survey is the same loop over a bare stack of open nodes,
which could run empty before there is an answer.  It remembers for every node that was
opened how many were opened before it, what it was, what the handlers answered that were
called on it, and what it was handed back as.

The surveys show just the states that the loop passes through, and its end.
-/

namespace Cascade

/-! ## Replies of handlers -/

/-- A call of a handler: the node that it was asked about, and the node that it answered,
before a missing span was refilled. -/
structure Reply where
  asked : Node
  answer : Node

/-- The replies of the handlers that visitors call on a node, each on the node that the one
before it left. -/
def Visitor.replies {σ : Type} (phase : Phase) (site : Site) :
    List (Visitor σ) → Node → Ledger σ → List Reply
  | [], _, _ => []
  | visitor :: rest, node, ledger =>
      let behind := replies phase site rest (visitor.call phase site node ledger).1
        (visitor.call phase site node ledger).2
      if visitor.interest.includes node.kind then
        ⟨node, (visitor.handler phase site node ledger.state).node⟩ :: behind
      else behind

/-- The replies of the handlers that the visitors of a pass call on a node. -/
def Pass.replies {σ : Type} (pass : Pass σ) (phase : Phase) (depth : Nat) (node : Node)
    (ledger : Ledger σ) : List Reply :=
  Visitor.replies phase (pass.site depth) pass.visitors node ledger

/-! ## Surveys -/

/-- A node that was opened: how many were opened before it, the node before any handler was
called on it, and the replies of the handlers called on it so far, in their order. -/
structure Opening where
  number : Nat
  given : Node
  replies : List Reply

/-- An open node, with its opening. -/
structure OpenNode where
  branch : Branch
  opening : Opening

/-- A node that was closed: its opening, and the node that was handed to the node around it,
or is the answer. -/
structure Closing where
  opening : Opening
  handed : Node

namespace Opening

/-- The opening with further replies. -/
def replied (opening : Opening) (replies : List Reply) : Opening :=
  { opening with replies := opening.replies ++ replies }

end Opening

/-- A traversal over a bare stack of open nodes, the innermost first: what was reported,
which nodes were closed, in their order, how many nodes were opened, and the answer, if the
root was closed. -/
structure Survey (σ : Type) where
  stack : List OpenNode
  ledger : Ledger σ
  closings : List Closing
  opened : Nat
  answer : Option Node

namespace Pass

variable {σ : Type}

/-- The node entered at a depth, after the given number of others were opened. -/
def openNode (pass : Pass σ) (depth number : Nat) (node : Node) (ledger : Ledger σ) : OpenNode where
  branch := .start (pass.visit .enter depth node ledger).1 depth
  opening := .replied ⟨number, node, []⟩ (pass.replies .enter depth node ledger)

/-- The node closed at a depth. -/
def closeNode (pass : Pass σ) (depth : Nat) (node : Node) (opening : Opening)
    (ledger : Ledger σ) : Closing where
  opening := opening.replied (pass.replies .exit depth node ledger)
  handed := (pass.visit .exit depth node ledger).1

/-- The surveys of a traversal: the root is opened first; as long as the innermost open node
has pending children, the next one is opened; then it is closed and handed to the node
around it, and the root is the answer. -/
inductive Surveys (pass : Pass σ) (root : Node) (before : Ledger σ) : Survey σ → Prop where
  | start :
      Surveys pass root before
        ⟨[pass.openNode 0 0 root before], (pass.visit .enter 0 root before).2, [], 1, none⟩
  | opens {header : Header} {child : Node} {rest reduced : List Node} {depth : Nat}
      {opening : Opening} {outer : List OpenNode} {ledger : Ledger σ} {closings : List Closing}
      {opened : Nat}
      (reached : Surveys pass root before
        ⟨⟨⟨header, child :: rest, reduced, depth⟩, opening⟩ :: outer, ledger, closings, opened,
          none⟩) :
      Surveys pass root before
        ⟨pass.openNode (depth + 1) opened child ledger ::
            ⟨⟨header, rest, reduced, depth⟩, opening⟩ :: outer,
          (pass.visit .enter (depth + 1) child ledger).2, closings, opened + 1, none⟩
  | closes {header : Header} {reduced : List Node} {depth : Nat} {opening : Opening}
      {parent : OpenNode} {above : List OpenNode} {ledger : Ledger σ} {closings : List Closing}
      {opened : Nat}
      (reached : Surveys pass root before
        ⟨⟨⟨header, [], reduced, depth⟩, opening⟩ :: parent :: above, ledger, closings, opened,
          none⟩) :
      Surveys pass root before
        ⟨⟨parent.branch.attach
              (pass.visit .exit depth (Node.mk header reduced.reverse) ledger).1,
            parent.opening⟩ :: above,
          (pass.visit .exit depth (Node.mk header reduced.reverse) ledger).2,
          closings ++ [pass.closeNode depth (Node.mk header reduced.reverse) opening ledger],
          opened, none⟩
  | ends {header : Header} {reduced : List Node} {depth : Nat} {opening : Opening}
      {ledger : Ledger σ} {closings : List Closing} {opened : Nat}
      (reached : Surveys pass root before
        ⟨[⟨⟨header, [], reduced, depth⟩, opening⟩], ledger, closings, opened, none⟩) :
      Surveys pass root before
        ⟨[], (pass.visit .exit depth (Node.mk header reduced.reverse) ledger).2,
          closings ++ [pass.closeNode depth (Node.mk header reduced.reverse) opening ledger],
          opened, some (pass.visit .exit depth (Node.mk header reduced.reverse) ledger).1⟩

/-- The states that a traversal passes through. -/
inductive Passes (pass : Pass σ) (root : Node) (before : Ledger σ) : Walk σ → Prop where
  | start : Passes pass root before (pass.start root before)
  | step {walk next : Walk σ} (passed : Passes pass root before walk)
      (progress : pass.step walk = .running next) : Passes pass root before next

end Pass

/-! ## What surveys show -/

namespace Survey

variable {σ : Type}

/-- The survey has the open nodes of a traversal under way on its stack, and its ledger. -/
structure Shows (survey : Survey σ) (walk : Walk σ) : Prop where
  stack : survey.stack.map OpenNode.branch = walk.current :: walk.outer
  ledger : survey.ledger = walk.ledger
  answer : survey.answer = none

/-- A survey of a traversal that is under way has an innermost open node. -/
theorem Shows.parts {survey : Survey σ} {walk : Walk σ} (shows : survey.Shows walk) :
    ∃ opening around closings opened,
      survey = ⟨⟨walk.current, opening⟩ :: around, walk.ledger, closings, opened, none⟩ ∧
        around.map OpenNode.branch = walk.outer := by
  obtain ⟨innermost, around, stack, current, outer⟩ := List.map_eq_cons_iff.mp shows.stack
  refine ⟨innermost.opening, around, survey.closings, survey.opened, ?_, outer⟩
  rw [← current, ← shows.ledger, ← shows.answer, ← stack]

/-- The survey has arrived at an answer, with the given ledger. -/
structure Concludes (survey : Survey σ) (node : Node) (ledger : Ledger σ) : Prop where
  stack : survey.stack = []
  ledger : survey.ledger = ledger
  answer : survey.answer = some node

end Survey

namespace Pass

variable {σ : Type} {pass : Pass σ} {root : Node} {before : Ledger σ} {survey : Survey σ}

/-- A survey follows each step of the loop. -/
theorem Surveys.running (reached : pass.Surveys root before survey) {walk next : Walk σ}
    (shows : survey.Shows walk) (progress : pass.step walk = .running next) :
    ∃ further, pass.Surveys root before further ∧ further.Shows next := by
  obtain ⟨opening, around, closings, opened, rfl, branches⟩ := shows.parts
  obtain ⟨⟨header, pending, reduced, depth⟩, outer, ledger⟩ := walk
  subst branches
  cases pending with
  | cons child rest =>
      rw [step_pending] at progress
      cases progress
      exact ⟨_, reached.opens, rfl, rfl, rfl⟩
  | nil =>
      cases around with
      | nil => exact nomatch progress
      | cons parent above =>
          rw [List.map_cons, step_attach] at progress
          cases progress
          exact ⟨_, reached.closes, rfl, rfl, rfl⟩

theorem Surveys.finished (reached : pass.Surveys root before survey) {walk : Walk σ} {node : Node}
    {after : Ledger σ} (shows : survey.Shows walk)
    (progress : pass.step walk = .finished node after) :
    ∃ last, pass.Surveys root before last ∧ last.Concludes node after := by
  obtain ⟨opening, around, closings, opened, rfl, branches⟩ := shows.parts
  obtain ⟨⟨header, pending, reduced, depth⟩, outer, ledger⟩ := walk
  subst branches
  cases pending with
  | cons child rest => exact nomatch progress
  | nil =>
      cases around with
      | cons parent above => exact nomatch progress
      | nil =>
          rw [List.map_nil, step_root] at progress
          cases progress
          exact ⟨_, reached.ends, rfl, rfl, rfl⟩

/-- The open nodes of a survey are those of a state that the loop passes through. -/
theorem Surveys.passed (reached : pass.Surveys root before survey) :
    ∀ innermost around, survey.stack = innermost :: around →
      pass.Passes root before
        ⟨innermost.branch, around.map OpenNode.branch, survey.ledger⟩ := by
  induction reached with
  | start =>
      intro innermost around opened
      cases opened
      exact .start
  | opens _ inductionHypothesis =>
      intro innermost around opened
      cases opened
      exact (inductionHypothesis _ _ rfl).step (step_pending ..)
  | closes _ inductionHypothesis =>
      intro innermost around opened
      cases opened
      exact (inductionHypothesis _ _ rfl).step (step_attach ..)
  | ends _ _ => exact fun _ _ opened => nomatch opened

theorem Passes.run_eq_traverse {walk : Walk σ} (passed : pass.Passes root before walk) :
    pass.run walk = pass.traverse root before := by
  induction passed with
  | start => rfl
  | step _ progress inductionHypothesis => rw [← run_of_running progress, inductionHypothesis]

/-- A survey whose stack is empty has arrived at the answer of the traversal. -/
theorem Surveys.concluded (reached : pass.Surveys root before survey) (empty : survey.stack = []) :
    ∃ node, survey.answer = some node ∧
      pass.traverse root before = some (node, survey.ledger) := by
  cases reached with
  | start => exact nomatch empty
  | opens reached => exact nomatch empty
  | closes reached => exact nomatch empty
  | ends reached =>
      refine ⟨_, rfl, ?_⟩
      rw [← (reached.passed _ _ rfl).run_eq_traverse]
      exact run_of_finished (step_root ..)

/-- The surveys of traversals under way show the states that the loop passes through. -/
theorem passes_iff_surveyed {walk : Walk σ} :
    pass.Passes root before walk ↔
      ∃ survey, pass.Surveys root before survey ∧ survey.Shows walk := by
  constructor
  · intro passed
    induction passed with
    | start => exact ⟨_, .start, rfl, rfl, rfl⟩
    | step _ progress inductionHypothesis =>
        obtain ⟨survey, reached, shows⟩ := inductionHypothesis
        exact reached.running shows progress
  · rintro ⟨survey, reached, shows⟩
    obtain ⟨opening, around, closings, opened, rfl, branches⟩ := shows.parts
    have passed := reached.passed _ _ rfl
    rwa [branches] at passed

theorem Finishes.surveyed {walk : Walk σ} {node : Node} {after : Ledger σ}
    (finishes : pass.Finishes walk node after) (passed : pass.Passes root before walk) :
    ∃ last, pass.Surveys root before last ∧ last.Concludes node after := by
  induction finishes with
  | now progress =>
      obtain ⟨survey, reached, shows⟩ := passes_iff_surveyed.mp passed
      exact reached.finished shows progress
  | later progress _ inductionHypothesis => exact inductionHypothesis (passed.step progress)

/-- A traversal comes to an end exactly if a survey arrives at the answer. -/
theorem traverse_eq_some_iff_surveyed {node : Node} {after : Ledger σ} :
    pass.traverse root before = some (node, after) ↔
      ∃ last, pass.Surveys root before last ∧ last.Concludes node after := by
  constructor
  · exact fun ends => Finishes.surveyed ((run_eq_some_iff_finishes _ _ _ _).mp ends) .start
  · rintro ⟨last, reached, empty, rfl, answer⟩
    obtain ⟨other, answered, ends⟩ := reached.concluded empty
    rwa [Option.some.inj (answer.symm.trans answered)]

end Pass

end Cascade
