import Cascade.Proofs.FusedPasses
import Cascade.Proofs.Transcript

/-!
# Visitors that only look

A visitor whose handlers always answer the node that they are given may report
diagnostics and record dependencies, but it cannot come between the others: wherever it
is inserted into the list of a pass, the tree comes out the same, and the other
visitors are called with the same nodes at the same depths in the same order and report
and record the same.

The visitor may keep a state of its own and see the state of the others, so the state
of a watched pass is a pair.  What is left of the transcript of a watched pass without
the deeds of the inserted visitor is the transcript of the pass.
-/

namespace Cascade

variable {σ τ : Type}

namespace Visitor

/-- The visitor where another state lies beside its own, which it leaves alone. -/
def beside (visitor : Visitor σ) : Visitor (σ × τ) where
  name := visitor.name
  interest := visitor.interest
  enter := fun site node (own, other) =>
    let visit := visitor.enter site node own
    ⟨visit.node, visit.reports, visit.dependencies, (visit.state, other)⟩
  exit := fun site node (own, other) =>
    let visit := visitor.exit site node own
    ⟨visit.node, visit.reports, visit.dependencies, (visit.state, other)⟩

/-- The handlers of the visitor always answer the node that they are given, and leave
the state of the others as it is. -/
def ReadOnly (visitor : Visitor (σ × τ)) : Prop :=
  ∀ phase site node state,
    (visitor.handler phase site node state).node = node ∧
      (visitor.handler phase site node state).state.1 = state.1

end Visitor

namespace Pass

/-- The pass with one more visitor at a place of its list. -/
def watched (pass : Pass σ) (place : Nat) (watcher : Visitor (σ × τ)) : Pass (σ × τ) where
  stage := pass.stage
  project := pass.project
  options := pass.options
  visitors := (pass.visitors.map Visitor.beside).insertIdx place watcher

end Pass

namespace Ledger

/-- The ledger with the first part of its state. -/
def first (ledger : Ledger (σ × τ)) : Ledger σ :=
  ⟨ledger.diagnostics, ledger.dependencies, ledger.state.1⟩

end Ledger

/-! ## Leaving a visitor out -/

namespace Call

/-- The call where the visitor at the given place is not in the list. -/
def without (place : Nat) (call : Call) : Call :=
  { call with visitor := if call.visitor < place then call.visitor else call.visitor - 1 }

end Call

namespace Transcript

/-- The transcript without the deeds of the visitor at a place, and without its
state. -/
def without (place : Nat) (transcript : Transcript (σ × τ)) : Transcript σ where
  state := transcript.state.1
  deeds := (transcript.deeds.filter fun deed => deed.call.visitor ≠ place).map fun deed =>
    { deed with call := deed.call.without place }

theorem reports_without (place : Nat) (transcript : Transcript (σ × τ)) :
    (transcript.without place).deeds.flatMap Deed.reports =
      (transcript.deeds.filter fun deed => deed.call.visitor ≠ place).flatMap Deed.reports := by
  rw [without, List.flatMap_map]

theorem calls_without (place : Nat) (transcript : Transcript (σ × τ)) :
    (transcript.without place).calls =
      (transcript.calls.filter fun call => call.visitor ≠ place).map (Call.without place) := by
  simp [calls, without, List.filter_map, Function.comp_def]

/-- Without the deeds of one visitor nothing is recorded that is not recorded with
them. -/
theorem dependencies_without {place : Nat} {transcript : Transcript (σ × τ)}
    {before : Ledger (σ × τ)} {dependency : String}
    (recorded : dependency ∈ ((transcript.without place).ledger before.first).dependencies) :
    dependency ∈ (transcript.ledger before).dependencies := by
  rw [ledger, mem_foldl_addNew] at recorded ⊢
  refine recorded.imp_right fun noted => ?_
  obtain ⟨deed, listed, member⟩ := List.mem_flatMap.mp noted
  obtain ⟨own, kept, rfl⟩ := List.mem_map.mp listed
  exact List.mem_flatMap.mpr ⟨own, (List.mem_filter.mp kept).1, member⟩

end Transcript

/-! ## A visitor that only looks takes part in the turns -/

namespace Visitor

variable {phase : Phase} {site : Site}

/-- The turn of a visitor that only looks leaves no trace but its own deed. -/
theorem transcribe_watcher {watcher : Visitor (σ × τ)} (readOnly : watcher.ReadOnly)
    (place : Nat) (held : Node × Transcript (σ × τ)) :
    (transcribe phase site held (watcher, place)).map id (Transcript.without place) =
      held.map id (Transcript.without place) := by
  obtain ⟨node, transcript⟩ := held
  by_cases wanted : watcher.interest.includes node.kind = true
  · obtain ⟨sameNode, sameState⟩ := readOnly phase site node transcript.state
    have refilled : (watcher.handler phase site node transcript.state).node.withSpan
        ((watcher.handler phase site node transcript.state).node.span.or node.span) = node := by
      rw [sameNode, Option.or_self, Node.withSpan_span]
    simp [transcribe, wanted, refilled, Transcript.without, sameState]
  · rw [transcribe, if_neg wanted]

/-- The turn of another visitor is the same, under the place that it has without the
one left out. -/
theorem transcribe_beside {visitor : Visitor σ} {place own moved : Nat}
    (apart : own < place ∧ moved = own ∨ place ≤ own ∧ moved = own + 1)
    (held : Node × Transcript (σ × τ)) :
    (transcribe phase site held (visitor.beside, moved)).map id (Transcript.without place) =
      transcribe phase site (held.map id (Transcript.without place)) (visitor, own) := by
  have other : moved ≠ place := by omega
  have renamed : (if moved < place then moved else moved - 1) = own := by
    split <;> omega
  by_cases wanted : visitor.interest.includes held.1.kind = true
  · cases phase <;>
      simp [transcribe, beside, wanted, handler, Transcript.without, Call.without, other, renamed]
  · simp [transcribe, beside, wanted]

/-- Visitors behind the one that is left out take the same turns. -/
theorem foldl_transcribe_behind (visitors : List (Visitor σ)) {place first : Nat}
    (behind : place ≤ first) (held : Node × Transcript (σ × τ)) :
    (((visitors.map beside).zipIdx (first + 1)).foldl (transcribe phase site) held).map id
        (Transcript.without place) =
      (visitors.zipIdx first).foldl (transcribe phase site)
        (held.map id (Transcript.without place)) := by
  induction visitors generalizing first held with
  | nil => rfl
  | cons visitor rest inductionHypothesis =>
      rw [List.map_cons, List.zipIdx_cons, List.foldl_cons, List.zipIdx_cons, List.foldl_cons,
        ← transcribe_beside (.inr ⟨behind, rfl⟩)]
      exact inductionHypothesis (Nat.le_succ_of_le behind) _

/-- All other visitors take the same turns, wherever the one that only looks is
inserted. -/
theorem foldl_transcribe_watched {watcher : Visitor (σ × τ)} (readOnly : watcher.ReadOnly)
    (visitors : List (Visitor σ)) (place first : Nat) (held : Node × Transcript (σ × τ)) :
    ((((visitors.map beside).insertIdx place watcher).zipIdx first).foldl
        (transcribe phase site) held).map id (Transcript.without (first + place)) =
      (visitors.zipIdx first).foldl (transcribe phase site)
        (held.map id (Transcript.without (first + place))) := by
  induction visitors generalizing place first held with
  | nil =>
      cases place with
      | zero => exact transcribe_watcher readOnly first held
      | succ place => rfl
  | cons visitor rest inductionHypothesis =>
      cases place with
      | zero =>
          rw [List.insertIdx_zero, List.zipIdx_cons, List.foldl_cons, Nat.add_zero,
            foldl_transcribe_behind _ (Nat.le_refl first), transcribe_watcher readOnly]
      | succ place =>
          rw [List.map_cons, List.insertIdx_succ_cons, List.zipIdx_cons, List.foldl_cons,
            List.zipIdx_cons, List.foldl_cons, ← transcribe_beside (.inl ⟨by omega, rfl⟩),
            show first + (place + 1) = first + 1 + place by omega]
          exact inductionHypothesis place (first + 1) _

end Visitor

namespace Pass

variable (pass : Pass σ) {watcher : Visitor (σ × τ)}

/-- The transcript of a pass is that of the watched pass without the deeds of the
inserted visitor, or neither reduction comes to an end. -/
theorem transcript_watched (readOnly : watcher.ReadOnly) (place : Nat) (root : Node)
    (state : σ × τ) :
    pass.transcript root state.1 =
      ((pass.watched place watcher).transcript root state).map
        (Prod.map id (Transcript.without place)) := by
  have turns : ∀ phase depth node (kept : Transcript (σ × τ)),
      pass.transcribed phase depth node (kept.without place) =
        ((pass.watched place watcher).transcribed phase depth node kept).map id
          (Transcript.without place) := by
    intro phase depth node kept
    have watchedTurns := @Visitor.foldl_transcribe_watched _ _ phase (pass.site depth) _ readOnly
      pass.visitors place 0 (node, kept)
    rw [Nat.zero_add] at watchedTurns
    exact watchedTurns.symm
  exact Treatment.reduceTree_view turns 0 root { state }

theorem outcome_watched (readOnly : watcher.ReadOnly) (place : Nat) (root : Node)
    (before : Ledger (σ × τ)) :
    ((pass.watched place watcher).reduce root before).1 = (pass.reduce root before.first).1 := by
  have same : pass.transcript root before.first.state = _ :=
    pass.transcript_watched readOnly place root before.state
  cases told : (pass.watched place watcher).transcript root before.state with
  | none =>
      rw [told] at same
      rw [reduce_of_untold told, reduce_of_untold same]
      rfl
  | some result =>
      rw [told] at same
      rw [reduce_of_transcript told, reduce_of_transcript same]
      rfl

theorem traverse_watched_eq_none_iff (readOnly : watcher.ReadOnly) (place : Nat) (root : Node)
    (before : Ledger (σ × τ)) :
    (pass.watched place watcher).traverse root before = none ↔
      pass.traverse root before.first = none := by
  have same : pass.transcript root before.first.state = _ :=
    pass.transcript_watched readOnly place root before.state
  rw [traverse_eq_transcript, traverse_eq_transcript, same, Option.map_eq_none_iff,
    Option.map_eq_none_iff, Option.map_eq_none_iff]

/-- A visitor that only looks does not show.  Wherever it is inserted, the reduction
comes to an end if it did without it, and then answers the same tree or the same
failure.  The loop that logs its calls logs those of the other visitors as without it,
with their nodes and depths and in the same order; the diagnostics without it are those
with it once its own are taken out; and every dependency that is recorded without it
is recorded. -/
theorem reduce_watched (readOnly : watcher.ReadOnly) (place : Nat) (root : Node)
    (before : Ledger (σ × τ)) :
    ((pass.watched place watcher).reduce root before).1 = (pass.reduce root before.first).1 ∧
    ((pass.watched place watcher).traverse root before = none ↔
      pass.traverse root before.first = none) ∧
    ∀ node ledger, (pass.watched place watcher).traverse root before = some (node, ledger) →
      ∃ transcript other,
        (pass.watched place watcher).transcript root before.state = some (node, transcript) ∧
        pass.transcript root before.first.state = some (node, other) ∧
        (pass.watched place watcher).logged.traverse root before.logging =
          some (node, transcript.loggedLedger before) ∧
        pass.logged.traverse root before.first.logging =
          some (node, other.loggedLedger before.first) ∧
        other.calls =
          (transcript.calls.filter fun call => call.visitor ≠ place).map (Call.without place) ∧
        ledger = transcript.ledger before ∧
        pass.traverse root before.first = some (node, other.ledger before.first) ∧
        other.deeds.flatMap Deed.reports =
          (transcript.deeds.filter fun deed => deed.call.visitor ≠ place).flatMap Deed.reports ∧
        other.state = transcript.state.1 ∧
        ∀ dependency ∈ (other.ledger before.first).dependencies,
          dependency ∈ ledger.dependencies := by
  refine ⟨pass.outcome_watched readOnly place root before,
    pass.traverse_watched_eq_none_iff readOnly place root before, fun node ledger ended => ?_⟩
  rw [traverse_eq_transcript] at ended
  obtain ⟨⟨tree, transcript⟩, told, answered⟩ := Option.map_eq_some_iff.mp ended
  cases answered
  have retold : pass.transcript root before.first.state =
      some (tree, transcript.without place) := by
    have same : pass.transcript root before.first.state = _ :=
      pass.transcript_watched readOnly place root before.state
    rw [same, told]
    rfl
  refine ⟨transcript, transcript.without place, told, retold, ?_, ?_,
    transcript.calls_without place, rfl, ?_, transcript.reports_without place,
    rfl, fun _ => Transcript.dependencies_without⟩
  · rw [traverse_logged_eq_transcript, told]
    rfl
  · rw [traverse_logged_eq_transcript, retold]
    rfl
  · rw [traverse_eq_transcript, retold]
    rfl

/-- A watcher that reports every program. -/
def programWatcher : Visitor (Unit × Nat) where
  name := "watch"
  interest := .kinds [.program]
  enter := fun _ node (own, count) =>
    { node, reports := [{ category := "watch/program", message := "entered" }]
      dependencies := ["watch.toml"], state := (own, count + 1) }

theorem programWatcher_readOnly : programWatcher.ReadOnly := by
  intro phase site node state
  cases phase <;> exact ⟨rfl, rfl⟩

/-- The watcher sees the program that the first visitor makes of a block; the block
becomes a program, and the second visitor records its dependency, as without it. -/
theorem reduce_watched_mendingPass :
    programWatcher.ReadOnly ∧
      ((mendingPass.watched 1 programWatcher).reduce (.ofKind .block) { state := ((), 0) }).1 =
        .ok (.program []) ∧
      ∃ ledger,
        (mendingPass.watched 1 programWatcher).traverse (.ofKind .block) { state := ((), 0) } =
          some (.program [], ledger) ∧
        ledger.diagnostics.size = 1 ∧ "base.toml" ∈ ledger.dependencies := by
  have alone : mendingPass.traverse (.ofKind .block) { state := () } =
      some (.program [], { dependencies := ["base.toml"], state := () }) :=
    traverse_of_childless rfl rfl
  obtain ⟨ledger, watched, reported⟩ : ∃ ledger,
      (mendingPass.watched 1 programWatcher).traverse (.ofKind .block) { state := ((), 0) } =
        some (.program [], ledger) ∧ ledger.diagnostics.size = 1 :=
    ⟨_, traverse_of_childless rfl rfl, rfl⟩
  obtain ⟨outcome, _, kept⟩ := reduce_watched mendingPass programWatcher_readOnly 1 (.ofKind .block)
    { state := ((), 0) }
  obtain ⟨transcript, other, _, _, _, _, _, _, plain, _, _, recorded⟩ := kept _ _ watched
  refine ⟨programWatcher_readOnly, ?_, ledger, watched, reported, recorded "base.toml" ?_⟩
  · rw [outcome]
    exact congrArg Prod.fst (reduce_of_program alone rfl)
  · have without := (Prod.mk.inj (Option.some.inj (plain.symm.trans alone))).2
    rw [without]
    exact List.mem_singleton_self _

end Pass

end Cascade
