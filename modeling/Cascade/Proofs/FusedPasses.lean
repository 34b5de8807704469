import Cascade.Proofs.Courses
import Cascade.Visitor.Sample
import Mathlib.Tactic.Choose

/-!
# Visitors in one traversal

A pass takes a tree through all of its visitors in one traversal, node by node.
Visitors that only act as they enter a node, and there on its header alone, may as
well take the tree through one at a time, each in a traversal of its own: the tree
is the same in the end, every visitor reports the same, and the same dependencies
are recorded.

Such a traversal is told by two functions of the tree: one changes the headers, the
other gathers what is noted at them.  Changing headers twice is changing them by the
composition, and gathering behind a change is gathering what the change leads to.
-/

namespace Cascade

variable {σ α β : Type}

/-! ## Trees with changed headers -/

namespace Node

mutual

/-- The tree with every header changed, given its depth. -/
def mapHeaders (change : Nat → Header → Header) (depth : Nat) : Node → Node
  | mk header children => mk (change depth header) (mapHeadersAll change (depth + 1) children)

/-- A list of trees with every header changed. -/
def mapHeadersAll (change : Nat → Header → Header) (depth : Nat) : List Node → List Node
  | [] => []
  | node :: rest => mapHeaders change depth node :: mapHeadersAll change depth rest

end

mutual

/-- What is noted at the headers of a tree, in pre-order. -/
def gather (note : Nat → Header → List α) (depth : Nat) : Node → List α
  | mk header children => note depth header ++ gatherAll note (depth + 1) children

/-- What is noted at the headers of a list of trees. -/
def gatherAll (note : Nat → Header → List α) (depth : Nat) : List Node → List α
  | [] => []
  | node :: rest => gather note depth node ++ gatherAll note depth rest

end

mutual

theorem mapHeaders_id (depth : Nat) (node : Node) :
    node.mapHeaders (fun _ header => header) depth = node := by
  cases node with
  | mk header children => rw [mapHeaders, mapHeadersAll_id]

theorem mapHeadersAll_id (depth : Nat) (nodes : List Node) :
    mapHeadersAll (fun _ header => header) depth nodes = nodes := by
  cases nodes with
  | nil => rfl
  | cons node rest => rw [mapHeadersAll, mapHeaders_id, mapHeadersAll_id]

end

mutual

theorem gather_nil (depth : Nat) (node : Node) :
    node.gather (fun _ _ => ([] : List α)) depth = [] := by
  cases node with
  | mk header children => rw [gather, gatherAll_nil]; rfl

theorem gatherAll_nil (depth : Nat) (nodes : List Node) :
    gatherAll (fun _ _ => ([] : List α)) depth nodes = [] := by
  cases nodes with
  | nil => rfl
  | cons node rest => rw [gatherAll, gather_nil, gatherAll_nil]; rfl

end

section Composition

variable (first second : Nat → Header → Header)

mutual

/-- Two changes of all headers are one. -/
theorem mapHeaders_mapHeaders (depth : Nat) (node : Node) :
    (node.mapHeaders first depth).mapHeaders second depth =
      node.mapHeaders (fun depth header => second depth (first depth header)) depth := by
  cases node with
  | mk header children => rw [mapHeaders, mapHeaders, mapHeaders, mapHeadersAll_mapHeadersAll]

theorem mapHeadersAll_mapHeadersAll (depth : Nat) (nodes : List Node) :
    mapHeadersAll second depth (mapHeadersAll first depth nodes) =
      mapHeadersAll (fun depth header => second depth (first depth header)) depth nodes := by
  cases nodes with
  | nil => rfl
  | cons node rest =>
      rw [mapHeadersAll, mapHeadersAll, mapHeadersAll, mapHeaders_mapHeaders,
        mapHeadersAll_mapHeadersAll]

end

variable (note : Nat → Header → List α)

mutual

/-- What is noted at changed headers is noted at the headers in view of the
change. -/
theorem gather_mapHeaders (depth : Nat) (node : Node) :
    (node.mapHeaders first depth).gather note depth =
      node.gather (fun depth header => note depth (first depth header)) depth := by
  cases node with
  | mk header children => rw [mapHeaders, gather, gather, gatherAll_mapHeadersAll]

theorem gatherAll_mapHeadersAll (depth : Nat) (nodes : List Node) :
    gatherAll note depth (mapHeadersAll first depth nodes) =
      gatherAll (fun depth header => note depth (first depth header)) depth nodes := by
  cases nodes with
  | nil => rfl
  | cons node rest =>
      rw [mapHeadersAll, gatherAll, gatherAll, gather_mapHeaders, gatherAll_mapHeadersAll]

end

variable (choose : α → Option β)

mutual

/-- A choice from what is noted may be made at every header. -/
theorem filterMap_gather (depth : Nat) (node : Node) :
    (node.gather note depth).filterMap choose =
      node.gather (fun depth header => (note depth header).filterMap choose) depth := by
  cases node with
  | mk header children => rw [gather, gather, List.filterMap_append, filterMap_gatherAll]

theorem filterMap_gatherAll (depth : Nat) (nodes : List Node) :
    (gatherAll note depth nodes).filterMap choose =
      gatherAll (fun depth header => (note depth header).filterMap choose) depth nodes := by
  cases nodes with
  | nil => rfl
  | cons node rest =>
      rw [gatherAll, gatherAll, List.filterMap_append, filterMap_gather, filterMap_gatherAll]

end

end Composition

end Node

/-! ## Traversals with a roll -/

/-- What the visitors of a traversal leave behind.  Every diagnostic and every
dependency comes with the place of its visitor in the list. -/
structure Roll (σ : Type) where
  diagnostics : List (Diagnostic × Nat) := []
  dependencies : List (String × Nat) := []
  state : σ

namespace Roll

/-- The entries of the visitor at a place, in their order. -/
def ofPlace (place : Nat) (entries : List (α × Nat)) : List α :=
  entries.filterMap fun entry => if entry.2 = place then some entry.1 else none

/-- What the roll comes to behind a ledger. -/
def ledger (roll : Roll σ) (before : Ledger σ) : Ledger σ where
  diagnostics := before.diagnostics ++ roll.diagnostics.map Prod.fst
  dependencies := (roll.dependencies.map Prod.fst).foldl addNew before.dependencies
  state := roll.state

end Roll

namespace Visitor

/-- The turn of a visitor at a node, with what it reports and records put on the
roll. -/
def enroll (phase : Phase) (site : Site) (held : Node × Roll σ) (entry : Visitor σ × Nat) :
    Node × Roll σ :=
  if entry.1.interest.includes held.1.kind then
    let visit := entry.1.handler phase site held.1 held.2.state
    let origin := Origin.ofVisitor site.stage entry.1.name
    (visit.node.withSpan (visit.node.span.or held.1.span),
      { diagnostics := held.2.diagnostics ++
          visit.reports.map fun report => (report.withDefaultOrigin origin, entry.2)
        dependencies := held.2.dependencies ++
          visit.dependencies.map fun dependency => (dependency, entry.2)
        state := visit.state })
  else held

end Visitor

namespace Pass

/-- The turns of all visitors at a node, in list order. -/
def enrolled (pass : Pass σ) : Treatment (Roll σ) := fun phase depth node roll =>
  pass.visitors.zipIdx.foldl (Visitor.enroll phase (pass.site depth)) (node, roll)

/-- The tree and the roll of a reduction by recursion from the root. -/
def roll (pass : Pass σ) (root : Node) (state : σ) : Option (Node × Roll σ) :=
  pass.enrolled.reduceTree 0 root { state }

end Pass

namespace Visitor

variable {phase : Phase} {site : Site}

/-- A call of a visitor adds to the ledger what it puts on the roll. -/
theorem call_ledger_enroll (before : Ledger σ) (held : Node × Roll σ) (entry : Visitor σ × Nat) :
    entry.1.call phase site held.1 (held.2.ledger before) =
      (enroll phase site held entry).map id fun roll => roll.ledger before := by
  by_cases wanted : entry.1.interest.includes held.1.kind = true
  · simp [call, enroll, wanted, Roll.ledger, Node.refillSpan_eq, Function.comp_def]
    exact Array.toList_inj.mp (by simp)
  · rw [call, if_neg wanted, enroll, if_neg wanted]
    rfl

end Visitor

namespace Pass

theorem visit_ledger_enrolled (pass : Pass σ) (before : Ledger σ) (phase : Phase) (depth : Nat)
    (node : Node) (roll : Roll σ) :
    pass.visit phase depth node (roll.ledger before) =
      (pass.enrolled phase depth node roll).map id fun roll => roll.ledger before := by
  have visitors : pass.visitors.zipIdx.map Prod.fst = pass.visitors := List.zipIdx_map_fst 0 _
  have called := Visitor.callAll_of_call Prod.fst (fun roll => Roll.ledger roll before)
    (@Visitor.call_ledger_enroll _ phase (pass.site depth) before) pass.visitors.zipIdx (node, roll)
  rw [visitors] at called
  exact called

/-- The ledger of a traversal is what its roll comes to, or neither comes to an
end. -/
theorem traverse_eq_roll (pass : Pass σ) (root : Node) (before : Ledger σ) :
    pass.traverse root before =
      (pass.roll root before.state).map (Prod.map id fun roll => roll.ledger before) := by
  have started : Roll.ledger { state := before.state } before = before := by
    simp [Roll.ledger]
  conv => lhs; rw [traverse_eq_reduceTree, ← started]
  exact Treatment.reduceTree_view (pass.visit_ledger_enrolled before) 0 root _

end Pass

/-! ## Visitors that act on headers -/

/-- What is made of a header: the header to go on with, what is reported, and the
dependencies that are recorded. -/
structure Marking where
  header : Header
  reports : List Diagnostic := []
  dependencies : List String := []

namespace Visitor

/-- The visitor acts only as it enters a node, and there on its header: the children
stay, and the rest is made of the header and the site alone. -/
structure Marks (visitor : Visitor σ) (mark : Site → Header → Marking) : Prop where
  enters : ∀ site header children state, ∃ after,
    visitor.enter site (Node.mk header children) state =
      ⟨Node.mk (mark site header).header children, (mark site header).reports,
        (mark site header).dependencies, after⟩
  exits : ∀ site node state, ∃ after, visitor.exit site node state = ⟨node, [], [], after⟩

/-- The visitor acts on headers only. -/
def HeaderLocal (visitor : Visitor σ) : Prop :=
  ∃ mark, visitor.Marks mark

/-- What the turn of a visitor makes of a header: nothing if it does not want nodes of
the kind, and otherwise what its handler makes of it, with a missing span refilled and
missing origins filled in. -/
def marking (mark : Visitor σ → Site → Header → Marking) (visitor : Visitor σ) (site : Site)
    (header : Header) : Marking :=
  if visitor.interest.includes header.kind then
    let marked := mark visitor site header
    let origin := Origin.ofVisitor site.stage visitor.name
    { header := { marked.header with span := marked.header.span.or header.span }
      reports := marked.reports.map fun report => report.withDefaultOrigin origin
      dependencies := marked.dependencies }
  else { header }

variable (mark : Visitor σ → Site → Header → Marking) (select : Marking → List α)

/-- The header behind the turns of visitors. -/
def headerBehind (site : Site) : List (Visitor σ) → Header → Header
  | [], header => header
  | visitor :: rest, header =>
      headerBehind site rest (visitor.marking mark site header).header

/-- What is selected from the turns of visitors at a header, with their places counted
from the given one. -/
def notes (site : Site) : Nat → List (Visitor σ) → Header → List (α × Nat)
  | _, [], _ => []
  | place, visitor :: rest, header =>
      (select (visitor.marking mark site header)).map (fun noted => (noted, place)) ++
        notes site (place + 1) rest (visitor.marking mark site header).header

variable {mark select}

theorem enroll_enter {visitor : Visitor σ} (marks : visitor.Marks (mark visitor)) (site : Site)
    (header : Header) (children : List Node) (roll : Roll σ) (place : Nat) :
    ∃ after, enroll .enter site (Node.mk header children, roll) (visitor, place) =
      (Node.mk (visitor.marking mark site header).header children,
        { diagnostics := roll.diagnostics ++
            (visitor.marking mark site header).reports.map fun report => (report, place)
          dependencies := roll.dependencies ++
            (visitor.marking mark site header).dependencies.map fun noted => (noted, place)
          state := after }) := by
  obtain ⟨after, entered⟩ := marks.enters site header children roll.state
  by_cases wanted : visitor.interest.includes header.kind = true
  · refine ⟨after, ?_⟩
    simp [enroll, marking, Node.kind, wanted, handler, entered, Node.withSpan, Node.withHeader,
      Node.span]
  · refine ⟨roll.state, ?_⟩
    simp [enroll, marking, Node.kind, wanted]

theorem enroll_exit {visitor : Visitor σ} (marks : visitor.Marks (mark visitor)) (site : Site)
    (node : Node) (roll : Roll σ) (place : Nat) :
    ∃ after, enroll .exit site (node, roll) (visitor, place) =
      (node, { roll with state := after }) := by
  obtain ⟨after, exited⟩ := marks.exits site node roll.state
  by_cases wanted : visitor.interest.includes node.kind = true
  · refine ⟨after, ?_⟩
    simp [enroll, wanted, handler, exited, Node.withSpan_span]
  · exact ⟨roll.state, if_neg wanted⟩

section Turns

variable {visitors : List (Visitor σ)} (marks : ∀ visitor ∈ visitors, visitor.Marks (mark visitor))
include marks

/-- The turns as a node is entered change its header and note what they do. -/
theorem foldl_enroll_enter (site : Site) (place : Nat) (header : Header) (children : List Node)
    (roll : Roll σ) :
    ∃ after, (visitors.zipIdx place).foldl (enroll .enter site) (Node.mk header children, roll) =
      (Node.mk (headerBehind mark site visitors header) children,
        { diagnostics := roll.diagnostics ++ notes mark Marking.reports site place visitors header
          dependencies := roll.dependencies ++
            notes mark Marking.dependencies site place visitors header
          state := after }) := by
  induction visitors generalizing place header roll with
  | nil => exact ⟨roll.state, by simp [headerBehind, notes]⟩
  | cons visitor rest inductionHypothesis =>
      have ofRest := fun other member => marks other (List.mem_cons_of_mem visitor member)
      obtain ⟨between, entered⟩ :=
        enroll_enter (marks visitor List.mem_cons_self) site header children roll place
      rw [List.zipIdx_cons, List.foldl_cons, entered]
      obtain ⟨after, others⟩ := inductionHypothesis ofRest (place + 1)
        (visitor.marking mark site header).header _
      refine ⟨after, others.trans ?_⟩
      simp only [headerBehind, notes, List.append_assoc]

/-- The turns as a node is exited leave it alone. -/
theorem foldl_enroll_exit (site : Site) (place : Nat) (node : Node) (roll : Roll σ) :
    ∃ after, (visitors.zipIdx place).foldl (enroll .exit site) (node, roll) =
      (node, { roll with state := after }) := by
  induction visitors generalizing place roll with
  | nil => exact ⟨roll.state, rfl⟩
  | cons visitor rest inductionHypothesis =>
      have ofRest := fun other member => marks other (List.mem_cons_of_mem visitor member)
      obtain ⟨between, exited⟩ :=
        enroll_exit (marks visitor List.mem_cons_self) site node roll place
      rw [List.zipIdx_cons, List.foldl_cons, exited]
      exact inductionHypothesis ofRest (place + 1) { roll with state := between }

end Turns

end Visitor

namespace Pass

variable (mark : Visitor σ → Site → Header → Marking) (select : Marking → List α)

/-- The header that a pass leaves at a depth. -/
def headerAt (pass : Pass σ) (depth : Nat) (header : Header) : Header :=
  Visitor.headerBehind mark (pass.site depth) pass.visitors header

/-- What is selected from the turns of a pass at a header. -/
def notesAt (pass : Pass σ) (depth : Nat) (header : Header) : List (α × Nat) :=
  Visitor.notes mark select (pass.site depth) 0 pass.visitors header

section Trees

variable {mark} {pass : Pass σ}

mutual

/-- A reduction by visitors that act on headers only changes the headers of the tree
and notes what is made of them, in pre-order. -/
theorem reduceTree_enrolled (marks : ∀ visitor ∈ pass.visitors, visitor.Marks (mark visitor))
    (depth : Nat) (node : Node) (roll : Roll σ) :
    ∃ after, pass.enrolled.reduceTree depth node roll =
      some (node.mapHeaders (pass.headerAt mark) depth,
        { diagnostics := roll.diagnostics ++
            node.gather (pass.notesAt mark Marking.reports) depth
          dependencies := roll.dependencies ++
            node.gather (pass.notesAt mark Marking.dependencies) depth
          state := after }) := by
  cases node with
  | mk header children =>
      obtain ⟨between, entered⟩ :=
        Visitor.foldl_enroll_enter marks (pass.site depth) 0 header children roll
      have opened : pass.enrolled .enter depth (Node.mk header children) roll = _ := entered
      obtain ⟨closing, reduced⟩ := reduceTrees_enrolled marks (depth + 1) children
        (pass.enrolled .enter depth (Node.mk header children) roll).2
      have children_opened :
          (pass.enrolled .enter depth (Node.mk header children) roll).1.children = children := by
        rw [opened]
        rfl
      rw [Treatment.reduceTree_of_children (by rw [children_opened]; exact reduced)]
      obtain ⟨after, exited⟩ := Visitor.foldl_enroll_exit marks (pass.site depth) 0 _ _
      refine ⟨after, congrArg some (exited.trans ?_)⟩
      rw [opened]
      simp only [Node.mapHeaders, Node.gather, Node.header_mk, headerAt, notesAt,
        List.append_assoc]

theorem reduceTrees_enrolled (marks : ∀ visitor ∈ pass.visitors, visitor.Marks (mark visitor))
    (depth : Nat) (nodes : List Node) (roll : Roll σ) :
    ∃ after, pass.enrolled.reduceTrees depth nodes roll =
      some (Node.mapHeadersAll (pass.headerAt mark) depth nodes,
        { diagnostics := roll.diagnostics ++
            Node.gatherAll (pass.notesAt mark Marking.reports) depth nodes
          dependencies := roll.dependencies ++
            Node.gatherAll (pass.notesAt mark Marking.dependencies) depth nodes
          state := after }) := by
  cases nodes with
  | nil =>
      refine ⟨roll.state, ?_⟩
      simp [Treatment.reduceTrees_nil, Node.mapHeadersAll, Node.gatherAll]
  | cons node rest =>
      obtain ⟨between, first⟩ := reduceTree_enrolled marks depth node roll
      obtain ⟨after, others⟩ := reduceTrees_enrolled marks depth rest _
      refine ⟨after, (Treatment.reduceTrees_cons first others).trans ?_⟩
      simp only [Node.mapHeadersAll, Node.gatherAll, List.append_assoc]

end

/-- Visitors that act on headers only have a roll for every tree. -/
theorem roll_of_marks (marks : ∀ visitor ∈ pass.visitors, visitor.Marks (mark visitor))
    (root : Node) (state : σ) :
    ∃ after, pass.roll root state =
      some (root.mapHeaders (pass.headerAt mark) 0,
        { diagnostics := root.gather (pass.notesAt mark Marking.reports) 0
          dependencies := root.gather (pass.notesAt mark Marking.dependencies) 0
          state := after }) :=
  reduceTree_enrolled marks 0 root { state }

end Trees

theorem reduce_of_roll {pass : Pass σ} {root node : Node} {before : Ledger σ} {roll : Roll σ}
    (heard : pass.roll root before.state = some (node, roll)) :
    pass.reduce root before =
      (if node.isProgram then .ok node else .error (.invalidRoot pass.stage node.kind),
        roll.ledger before) := by
  refine reduce_of_traverse ?_
  rw [traverse_eq_roll, heard]
  rfl

/-- The pass with one visitor alone. -/
def only (pass : Pass σ) (visitor : Visitor σ) : Pass σ :=
  { pass with visitors := [visitor] }

/-- The reductions of a tree by visitors one at a time, each in a traversal of its own
with an empty ledger, and the ledgers that they leave.  Every reduction goes on with
the tree and the state that the one before left, and the tree that is left in the end
must be a program. -/
def reduceInTurn (pass : Pass σ) :
    List (Visitor σ) → Node → σ → Except Failure (Node × List (Ledger σ))
  | [], root, _ =>
      if root.isProgram then .ok (root, []) else .error (.invalidRoot pass.stage root.kind)
  | visitor :: rest, root, state =>
      match (pass.only visitor).reduce root { state } with
      | (.error failure, _) => .error failure
      | (.ok reduced, ledger) =>
          match pass.reduceInTurn rest reduced ledger.state with
          | .error failure => .error failure
          | .ok (result, ledgers) => .ok (result, ledger :: ledgers)

end Pass

/-! ## The share of each visitor -/

namespace Roll

theorem ofPlace_append (place : Nat) (first second : List (α × Nat)) :
    ofPlace place (first ++ second) = ofPlace place first ++ ofPlace place second :=
  List.filterMap_append ..

theorem ofPlace_own (place : Nat) (items : List α) :
    ofPlace place (items.map fun item => (item, place)) = items := by
  induction items with
  | nil => rfl
  | cons item rest inductionHypothesis =>
      rw [List.map_cons, ofPlace, List.filterMap_cons, if_pos rfl]
      exact congrArg (item :: ·) inductionHypothesis

theorem ofPlace_other {place other : Nat} (apart : other ≠ place) (items : List α) :
    ofPlace place (items.map fun item => (item, other)) = [] := by
  apply List.filterMap_eq_nil_iff.mpr
  intro entry member
  obtain ⟨item, _, rfl⟩ := List.mem_map.mp member
  exact if_neg apart

/-- Every entry has a place. -/
theorem mem_map_fst {item : α} {entries : List (α × Nat)} :
    item ∈ entries.map Prod.fst ↔ ∃ place, item ∈ ofPlace place entries := by
  constructor
  · intro member
    obtain ⟨⟨_, place⟩, listed, rfl⟩ := List.mem_map.mp member
    exact ⟨place, List.mem_filterMap.mpr ⟨_, listed, if_pos rfl⟩⟩
  · rintro ⟨place, member⟩
    obtain ⟨entry, listed, found⟩ := List.mem_filterMap.mp member
    obtain ⟨_, same⟩ := Option.ite_none_right_eq_some.mp found
    exact List.mem_map.mpr ⟨entry, listed, Option.some.inj same⟩

theorem ofPlace_gather (place : Nat) (note : Nat → Header → List (α × Nat)) (depth : Nat)
    (node : Node) :
    ofPlace place (node.gather note depth) =
      node.gather (fun depth header => ofPlace place (note depth header)) depth :=
  node.filterMap_gather note _ depth

end Roll

namespace Visitor

variable {mark : Visitor σ → Site → Header → Marking} {select : Marking → List α} {site : Site}

theorem ofPlace_notes_of_lt {place first : Nat} (before : place < first)
    (visitors : List (Visitor σ)) (header : Header) :
    Roll.ofPlace place (notes mark select site first visitors header) = [] := by
  induction visitors generalizing first header with
  | nil => rfl
  | cons visitor rest inductionHypothesis =>
      rw [notes, Roll.ofPlace_append, Roll.ofPlace_other (Nat.ne_of_gt before), List.nil_append]
      exact inductionHypothesis (Nat.lt_succ_of_lt before) _

/-- The first of some visitors notes what it makes of the header itself. -/
theorem ofPlace_notes_first (place : Nat) (visitor : Visitor σ) (rest : List (Visitor σ))
    (header : Header) :
    Roll.ofPlace place (notes mark select site place (visitor :: rest) header) =
      select (visitor.marking mark site header) := by
  rw [notes, Roll.ofPlace_append, Roll.ofPlace_own, ofPlace_notes_of_lt (Nat.lt_succ_self place),
    List.append_nil]

/-- The others note what they make of the header that the first one leaves. -/
theorem ofPlace_notes_later {place first : Nat} (apart : first ≠ place) (visitor : Visitor σ)
    (rest : List (Visitor σ)) (header : Header) :
    Roll.ofPlace place (notes mark select site first (visitor :: rest) header) =
      Roll.ofPlace place
        (notes mark select site (first + 1) rest (visitor.marking mark site header).header) := by
  rw [notes, Roll.ofPlace_append, Roll.ofPlace_other apart, List.nil_append]

end Visitor

namespace Node

variable {mark : Visitor σ → Site → Header → Marking} {select : Marking → List α}
  (site : Nat → Site)

theorem ofPlace_gather_first (place : Nat) (visitor : Visitor σ) (rest : List (Visitor σ))
    (root : Node) :
    Roll.ofPlace place (root.gather
        (fun depth => Visitor.notes mark select (site depth) place (visitor :: rest)) 0) =
      root.gather (fun depth header => select (visitor.marking mark (site depth) header)) 0 := by
  rw [Roll.ofPlace_gather]
  simp only [Visitor.ofPlace_notes_first]

theorem ofPlace_gather_later {place first : Nat} (apart : first ≠ place) (visitor : Visitor σ)
    (rest : List (Visitor σ)) (root : Node) :
    Roll.ofPlace place (root.gather
        (fun depth => Visitor.notes mark select (site depth) first (visitor :: rest)) 0) =
      Roll.ofPlace place
        ((root.mapHeaders
            (fun depth header => (visitor.marking mark (site depth) header).header) 0).gather
          (fun depth => Visitor.notes mark select (site depth) (first + 1) rest) 0) := by
  rw [gather_mapHeaders, Roll.ofPlace_gather, Roll.ofPlace_gather]
  simp only [Visitor.ofPlace_notes_later apart]

end Node

namespace Pass

variable {mark : Visitor σ → Site → Header → Marking} {pass : Pass σ}

theorem gather_notesAt_only (select : Marking → List α) (visitor : Visitor σ) (root : Node) :
    (root.gather ((pass.only visitor).notesAt mark select) 0).map Prod.fst =
      root.gather (fun depth header => select (visitor.marking mark (pass.site depth) header))
        0 := by
  rw [← List.filterMap_eq_map, Node.filterMap_gather]
  simp [notesAt, Visitor.notes, Function.comp_def, site, only]

/-- What a single visitor that acts on headers only leaves behind. -/
theorem of_reduce_only {visitor : Visitor σ} (marks : visitor.Marks (mark visitor))
    {root reduced : Node} {state : σ} {ledger : Ledger σ}
    (succeeded : (pass.only visitor).reduce root { state } = (.ok reduced, ledger)) :
    reduced = root.mapHeaders
        (fun depth header => (visitor.marking mark (pass.site depth) header).header) 0 ∧
      ledger.diagnostics.toList = root.gather
        (fun depth header => (visitor.marking mark (pass.site depth) header).reports) 0 ∧
      ledger.dependencies = (root.gather
        (fun depth header => (visitor.marking mark (pass.site depth) header).dependencies)
          0).foldl addNew [] := by
  have single : ∀ other ∈ (pass.only visitor).visitors, other.Marks (mark other) := by
    intro other member
    rwa [List.mem_singleton.mp member]
  obtain ⟨after, heard⟩ := roll_of_marks single root state
  rw [show (pass.only visitor).reduce root { state } = _ from reduce_of_roll heard] at succeeded
  obtain ⟨answered, rfl⟩ := Prod.mk.inj succeeded
  split at answered
  next program =>
    refine ⟨(Except.ok.inj answered).symm, ?_, ?_⟩
    · rw [← gather_notesAt_only]
      simp [Roll.ledger]
    · rw [← gather_notesAt_only]
      rfl
  next => exact nomatch answered

/-- Visitors in turn leave the tree with the headers that they make of it one after
another, and each of them what it puts on a common roll. -/
theorem reduceInTurn_marks {visitors : List (Visitor σ)}
    (marks : ∀ visitor ∈ visitors, visitor.Marks (mark visitor)) {root result : Node} {state : σ}
    {ledgers : List (Ledger σ)}
    (inTurn : pass.reduceInTurn visitors root state = .ok (result, ledgers)) (first : Nat) :
    result = root.mapHeaders
        (fun depth => Visitor.headerBehind mark (pass.site depth) visitors) 0 ∧
      result.isProgram = true ∧ ledgers.length = visitors.length ∧
      ∀ place,
        Roll.ofPlace (first + place) (root.gather
            (fun depth => Visitor.notes mark Marking.reports (pass.site depth) first visitors) 0) =
          (ledgers[place]?.map fun ledger => ledger.diagnostics.toList).getD [] ∧
        (Roll.ofPlace (first + place) (root.gather
            (fun depth => Visitor.notes mark Marking.dependencies (pass.site depth) first visitors)
            0)).foldl addNew [] =
          (ledgers[place]?.map Ledger.dependencies).getD [] := by
  induction visitors generalizing root state ledgers first with
  | nil =>
      rw [reduceInTurn] at inTurn
      split at inTurn
      next program =>
        cases inTurn
        refine ⟨?_, program, rfl, fun place => ?_⟩
        · exact (Node.mapHeaders_id 0 _).symm
        · simp only [Visitor.notes, Node.gather_nil]
          exact ⟨rfl, rfl⟩
      next => exact nomatch inTurn
  | cons visitor rest inductionHypothesis =>
      have ofRest := fun other member => marks other (List.mem_cons_of_mem visitor member)
      rw [reduceInTurn] at inTurn
      split at inTurn
      next => exact nomatch inTurn
      next reduced ledger succeeded =>
        split at inTurn
        next => exact nomatch inTurn
        next others left =>
          cases inTurn
          obtain ⟨rfl, reported, recorded⟩ :=
            of_reduce_only (marks visitor List.mem_cons_self) succeeded
          obtain ⟨rfl, program, length, shares⟩ := inductionHypothesis ofRest left (first + 1)
          refine ⟨Node.mapHeaders_mapHeaders _ _ 0 root, program, congrArg (· + 1) length, ?_⟩
          intro place
          cases place with
          | zero =>
              rw [Nat.add_zero, Node.ofPlace_gather_first, Node.ofPlace_gather_first]
              exact ⟨reported.symm, recorded.symm⟩
          | succ place =>
              have apart : first ≠ first + (place + 1) := by omega
              rw [Node.ofPlace_gather_later _ apart, Node.ofPlace_gather_later _ apart,
                show first + (place + 1) = first + 1 + place by omega]
              exact shares place

end Pass

/-! ## One traversal for all visitors -/

namespace Roll

/-- Every place on a roll has the share that the ledger in this place holds, and nothing
if there is no ledger. -/
def Shared (roll : Roll σ) (ledgers : List (Ledger σ)) : Prop :=
  ∀ place,
    ofPlace place roll.diagnostics =
      (ledgers[place]?.map fun ledger => ledger.diagnostics.toList).getD [] ∧
    (ofPlace place roll.dependencies).foldl addNew [] =
      (ledgers[place]?.map Ledger.dependencies).getD []

theorem Shared.mem_dependencies {roll : Roll σ} {ledgers : List (Ledger σ)}
    (shared : roll.Shared ledgers) (before : Ledger σ) (dependency : String) :
    dependency ∈ (roll.ledger before).dependencies ↔
      dependency ∈ before.dependencies ∨
        ∃ ledger ∈ ledgers, dependency ∈ ledger.dependencies := by
  rw [ledger, mem_foldl_addNew, mem_map_fst]
  refine or_congr_right ⟨?_, ?_⟩
  · rintro ⟨place, member⟩
    have recorded : dependency ∈ (ofPlace place roll.dependencies).foldl addNew [] :=
      mem_foldl_addNew.mpr (.inr member)
    rw [(shared place).2] at recorded
    cases listed : ledgers[place]? with
    | none =>
        rw [listed] at recorded
        exact nomatch recorded
    | some ledger =>
        rw [listed] at recorded
        exact ⟨ledger, List.mem_of_getElem? listed, recorded⟩
  · rintro ⟨ledger, member, recorded⟩
    obtain ⟨place, listed⟩ := List.mem_iff_getElem?.mp member
    have share := (shared place).2
    rw [listed] at share
    exact ⟨place, (mem_foldl_addNew.mp (share ▸ recorded)).resolve_left List.not_mem_nil⟩

end Roll

namespace Pass

/-- Visitors that act on headers only may as well take a tree through in one
traversal.  If it succeeds by one visitor after another, each in a traversal of its own,
then it succeeds by all of them in one traversal, with the same tree.  The diagnostics
that each visitor reports there are those of its own traversal, in the same order, and
the dependencies that are recorded are those of all traversals. -/
theorem reduce_fused {pass : Pass σ}
    (headerLocal : ∀ visitor ∈ pass.visitors, visitor.HeaderLocal) {root result : Node}
    {state : σ} {ledgers : List (Ledger σ)}
    (inTurn : pass.reduceInTurn pass.visitors root state = .ok (result, ledgers))
    (before : Ledger σ) :
    ∃ roll, pass.roll root before.state = some (result, roll) ∧
      pass.reduce root before = (.ok result, roll.ledger before) ∧
      ledgers.length = pass.visitors.length ∧
      (∀ place ledger, ledgers[place]? = some ledger →
        Roll.ofPlace place roll.diagnostics = ledger.diagnostics.toList ∧
        (Roll.ofPlace place roll.dependencies).foldl addNew [] = ledger.dependencies) ∧
      ∀ dependency, dependency ∈ (roll.ledger before).dependencies ↔
        dependency ∈ before.dependencies ∨
          ∃ ledger ∈ ledgers, dependency ∈ ledger.dependencies := by
  have : Nonempty (Site → Header → Marking) := ⟨fun _ header => { header }⟩
  choose! mark marks using headerLocal
  obtain ⟨changed, program, length, shares⟩ := reduceInTurn_marks marks inTurn 0
  obtain ⟨roll, heard, shared⟩ : ∃ roll, pass.roll root before.state = some (result, roll) ∧
      roll.Shared ledgers := by
    obtain ⟨after, heard⟩ := roll_of_marks marks root before.state
    rw [show root.mapHeaders (pass.headerAt mark) 0 = result from changed.symm] at heard
    refine ⟨_, heard, fun place => ?_⟩
    have share := shares place
    rwa [Nat.zero_add] at share
  refine ⟨roll, heard, ?_, length, ?_, shared.mem_dependencies before⟩
  · rw [reduce_of_roll heard, if_pos program]
  · intro place ledger listed
    have share := shared place
    rwa [listed] at share

/-- The first visitor makes a program of a block, and only then does the second one
want it. -/
def mendingPass : Pass Unit where
  stage := "normalize"
  project := {}
  options := Dict.empty
  visitors := [.recasting "mend" .block .program, .dependency (.fixed "base.toml")]

theorem headerLocal_mendingPass : ∀ visitor ∈ mendingPass.visitors, visitor.HeaderLocal := by
  intro visitor member
  rcases List.mem_cons.mp member with rfl | other
  · exact ⟨fun _ header => { header := { header with kind := .program } },
      ⟨fun _ _ _ _ => ⟨(), rfl⟩, fun _ _ _ => ⟨(), rfl⟩⟩⟩
  · rw [List.mem_singleton.mp other]
    exact ⟨fun _ header => { header, dependencies := ["base.toml"] },
      ⟨fun _ _ _ _ => ⟨(), rfl⟩, fun _ _ _ => ⟨(), rfl⟩⟩⟩

theorem mendingPass_reduceInTurn :
    mendingPass.reduceInTurn mendingPass.visitors (.ofKind .block) () =
      .ok (.program [], [{ state := () }, { dependencies := ["base.toml"], state := () }]) := by
  have first : (mendingPass.only (.recasting "mend" .block .program)).reduce (.ofKind .block)
      { state := () } = (.ok (.program []), { state := () }) :=
    reduce_of_program (traverse_of_childless rfl rfl) rfl
  have second : (mendingPass.only (.dependency (.fixed "base.toml"))).reduce (.program [])
      { state := () } = (.ok (.program []), { dependencies := ["base.toml"], state := () }) :=
    reduce_of_program (traverse_of_childless rfl rfl) rfl
  have visitors : mendingPass.visitors =
      [.recasting "mend" .block .program, .dependency (.fixed "base.toml")] := rfl
  simp only [visitors, reduceInTurn, first, second]
  rfl

/-- The two visitors of the pass that mends a block do so in one traversal as well. -/
theorem reduce_fused_mendingPass :
    (mendingPass.reduce (.ofKind .block) { state := () }).1 = .ok (.program []) ∧
      ∀ dependency,
        dependency ∈ (mendingPass.reduce (.ofKind .block) { state := () }).2.dependencies ↔
          dependency = "base.toml" := by
  obtain ⟨roll, _, reduced, _, _, recorded⟩ :=
    reduce_fused headerLocal_mendingPass mendingPass_reduceInTurn { state := () }
  rw [reduced]
  refine ⟨rfl, fun dependency => (recorded dependency).trans ?_⟩
  simp

end Pass

end Cascade
