import Cascade.Proofs.OpenNodes
import Mathlib.Data.List.ReduceOption

/-!
# Spans of nodes that are traversed

A handler may move a node or answer a fresh one without a span, but a span that was there is
not lost: after every call a missing one is refilled.  So the span of a node that is handed
back is the last one that was present, among that of the node before any handler was called
and those of the nodes that handlers answered.
-/

namespace Cascade

/-! ## The last span that is present -/

/-- The span that is kept when answers with or without a span follow one another. -/
def keptSpan (first : Option Span) (answers : List (Option Span)) : Option Span :=
  answers.foldl (fun kept answer => answer.or kept) first

theorem keptSpan_append (first : Option Span) (answers more : List (Option Span)) :
    keptSpan first (answers ++ more) = keptSpan (keptSpan first answers) more :=
  List.foldl_append

/-- What is kept is the last span that is present. -/
theorem keptSpan_eq (first : Option Span) (answers : List (Option Span)) :
    keptSpan first answers = (first :: answers).reduceOption.getLast? := by
  induction answers generalizing first with
  | nil => cases first <;> rfl
  | cons answer rest inductionHypothesis =>
      rw [keptSpan, List.foldl_cons, ← keptSpan, inductionHypothesis]
      cases answer with
      | none => cases first <;> rfl
      | some span =>
          cases first with
          | none => rfl
          | some earlier => exact List.getLast?_cons_cons.symm

theorem isSome_keptSpan {first : Option Span} (present : first.isSome = true)
    (answers : List (Option Span)) : (keptSpan first answers).isSome = true := by
  induction answers generalizing first with
  | nil => exact present
  | cons answer rest inductionHypothesis =>
      apply inductionHypothesis
      rw [Option.isSome_or, present, Bool.or_true]

/-! ## One node -/

variable {σ : Type}

namespace Visitor

variable {phase : Phase} {site : Site}

/-- What visitors leave of a node has the span that their replies keep. -/
theorem span_callAll (visitors : List (Visitor σ)) (node : Node) (ledger : Ledger σ) :
    (callAll phase site visitors node ledger).1.span =
      keptSpan node.span ((replies phase site visitors node ledger).map (·.answer.span)) := by
  induction visitors generalizing node ledger with
  | nil => rfl
  | cons visitor rest inductionHypothesis =>
      rw [callAll, inductionHypothesis, replies]
      by_cases wanted : visitor.interest.includes node.kind = true
      · rw [if_pos wanted, List.map_cons, call, if_pos wanted]
        simp only [Node.refillSpan_eq]
        rfl
      · rw [if_neg wanted, call, if_neg wanted]

/-- A node that has a span has one whenever a handler is called on it. -/
theorem isSome_asked (visitors : List (Visitor σ)) {node : Node} (ledger : Ledger σ)
    (present : node.span.isSome = true) :
    ∀ reply ∈ replies phase site visitors node ledger, reply.asked.span.isSome = true := by
  induction visitors generalizing node ledger with
  | nil => exact fun _ absent => nomatch absent
  | cons visitor rest inductionHypothesis =>
      have left : (visitor.call phase site node ledger).1.span.isSome = true := by
        have kept : (visitor.call phase site node ledger).1.span = keptSpan node.span _ :=
          span_callAll [visitor] node ledger
        rw [kept]
        exact isSome_keptSpan present _
      have behind := inductionHypothesis (visitor.call phase site node ledger).2 left
      rw [replies]
      by_cases wanted : visitor.interest.includes node.kind = true
      · rw [if_pos wanted]
        exact List.forall_mem_cons.mpr ⟨present, behind⟩
      · rw [if_neg wanted]
        exact behind

end Visitor

/-- The span is the last one that was present, among that of the node before any handler was
called on it and those of the nodes that the handlers answered, in the order of their calls.
If there was a span at first, there is one, and every handler was called on a node with a
span. -/
structure Opening.Keeps (opening : Opening) (span : Option Span) : Prop where
  last : span =
    (opening.given.span :: opening.replies.map (·.answer.span)).reduceOption.getLast?
  present : opening.given.span.isSome = true → span.isSome = true
  asked : opening.given.span.isSome = true →
    ∀ reply ∈ opening.replies, reply.asked.span.isSome = true

namespace Pass

variable {pass : Pass σ}

/-- The span is still kept when the visitors enter or exit the node. -/
theorem keeps_replied {opening : Opening} {node : Node} (kept : opening.Keeps node.span)
    (phase : Phase) (depth : Nat) (ledger : Ledger σ) :
    (opening.replied (pass.replies phase depth node ledger)).Keeps
      (pass.visit phase depth node ledger).1.span := by
  have spans : (pass.visit phase depth node ledger).1.span =
      keptSpan node.span ((pass.replies phase depth node ledger).map (·.answer.span)) :=
    Visitor.span_callAll pass.visitors node ledger
  constructor
  · rw [spans, kept.last, ← keptSpan_eq, ← keptSpan_append, ← List.map_append, keptSpan_eq]
    rfl
  · intro given
    rw [spans]
    exact isSome_keptSpan (kept.present given) _
  · intro given reply member
    rcases List.mem_append.mp member with earlier | now
    · exact kept.asked given reply earlier
    · exact Visitor.isSome_asked pass.visitors ledger (kept.present given) reply now

theorem keeps_openNode (depth number : Nat) (node : Node) (ledger : Ledger σ) :
    (pass.openNode depth number node ledger).opening.Keeps
      (pass.openNode depth number node ledger).branch.header.span := by
  have given : (Opening.mk number node []).Keeps node.span :=
    ⟨keptSpan_eq node.span [], id, fun _ _ absent => nomatch absent⟩
  exact keeps_replied given .enter depth ledger

theorem keeps_closeNode {opening : Opening} {node : Node} (entered : opening.Keeps node.span)
    (depth : Nat) (ledger : Ledger σ) :
    (pass.closeNode depth node opening ledger).opening.Keeps
      (pass.closeNode depth node opening ledger).handed.span :=
  keeps_replied entered .exit depth ledger

/-! ## The traversal -/

variable {root : Node} {before : Ledger σ} {survey : Survey σ}

theorem Surveys.keeps (reached : pass.Surveys root before survey) :
    (∀ closing ∈ survey.closings, closing.opening.Keeps closing.handed.span) ∧
      ∀ held ∈ survey.stack, held.opening.Keeps held.branch.header.span := by
  induction reached with
  | start =>
      refine ⟨fun _ absent => (nomatch absent), fun held member => ?_⟩
      rw [List.mem_singleton.mp member]
      exact keeps_openNode 0 0 root before
  | @opens _ child _ _ depth _ _ ledger _ opened _ inductionHypothesis =>
      obtain ⟨closed, around⟩ := inductionHypothesis
      obtain ⟨innermost, outer⟩ := List.forall_mem_cons.mp around
      exact ⟨closed, List.forall_mem_cons.mpr ⟨keeps_openNode (depth + 1) opened child ledger,
        List.forall_mem_cons.mpr ⟨innermost, outer⟩⟩⟩
  | @closes header reduced depth opening parent above ledger _ _ _ inductionHypothesis =>
      obtain ⟨closed, around⟩ := inductionHypothesis
      obtain ⟨innermost, outer⟩ := List.forall_mem_cons.mp around
      obtain ⟨next, others⟩ := List.forall_mem_cons.mp outer
      have entered : opening.Keeps (Node.mk header reduced.reverse).span := innermost
      exact ⟨List.forall_mem_append.mpr
          ⟨closed, List.forall_mem_singleton.mpr (keeps_closeNode entered depth ledger)⟩,
        List.forall_mem_cons.mpr ⟨next, others⟩⟩
  | @ends header reduced depth opening ledger _ _ _ inductionHypothesis =>
      obtain ⟨closed, around⟩ := inductionHypothesis
      have entered : opening.Keeps (Node.mk header reduced.reverse).span :=
        around _ (List.mem_singleton_self _)
      exact ⟨List.forall_mem_append.mpr
          ⟨closed, List.forall_mem_singleton.mpr (keeps_closeNode entered depth ledger)⟩,
        fun _ absent => nomatch absent⟩

/-- A visitor can move a node, but a span is never lost.  Whatever state a traversal passes
through or ends in, every node that it closed was handed back with the last span that was
present, among the one it had before any handler was called on it and those that handlers
answered as they entered and then as they exited it, in the order of their calls; and every
node that is still open has the last span so far.  A node that had a span at first has one
whenever a handler is called on it. -/
theorem spans_kept (pass : Pass σ) (root : Node) (before : Ledger σ) :
    (∀ walk, pass.Passes root before walk ↔
      ∃ survey, pass.Surveys root before survey ∧ survey.Shows walk) ∧
    (∀ node after, pass.traverse root before = some (node, after) ↔
      ∃ last, pass.Surveys root before last ∧ last.Concludes node after) ∧
    ∀ survey, pass.Surveys root before survey →
      (∀ closing ∈ survey.closings, closing.opening.Keeps closing.handed.span) ∧
        ∀ held ∈ survey.stack, held.opening.Keeps held.branch.header.span :=
  ⟨fun _ => passes_iff_surveyed, fun _ _ => traverse_eq_some_iff_surveyed,
    fun _ reached => reached.keeps⟩

/-- Answers a fresh node without a span at every call. -/
def renewer : Visitor Unit where
  name := "renew"
  enter := fun _ node state => { node := .ofKind node.kind node.children, state }
  exit := fun _ node state => { node := .ofKind node.kind node.children, state }

/-- A pass that renews every node. -/
def renewing : Pass Unit :=
  ⟨"renew", {}, Dict.empty, [renewer]⟩

/-- A program of two lines is renewed as it is entered and as it is exited, and is handed
back with its two lines. -/
theorem spans_kept_renewing :
    let root := (Node.program []).withSpan (some (.lines 1 2))
    ∃ last, renewing.Surveys root { state := () } last ∧ last.stack = [] ∧
      ∃ closing ∈ last.closings, closing.opening.replies.map (·.answer.span) = [none, none] ∧
        closing.handed.span = some (.lines 1 2) := by
  intro root
  have opened : renewing.Surveys root { state := () }
      ⟨[⟨⟨root.header, [], [], 0⟩, _⟩], _, [], 1, none⟩ := .start
  obtain ⟨_, _, kept⟩ := renewing.spans_kept root { state := () }
  obtain ⟨closed, _⟩ := kept _ opened.ends
  have last := (closed _ (List.mem_singleton_self _)).last
  exact ⟨_, opened.ends, rfl, _, List.mem_singleton_self _, rfl, last⟩

end Pass

end Cascade
