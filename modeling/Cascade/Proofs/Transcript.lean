import Cascade.Proofs.HandlerCalls

/-!
# Transcripts of reductions

A transcript lists every call of a handler in a reduction, with what the handler
reported and recorded there.  It tells everything that a reduction does: which visitor
was called with which node at which depth, and who reported which diagnostic and
recorded which dependency.

The ledger that the loop arrives at, and the calls that logging visitors note in it, are
what its transcript comes to.
-/

namespace Cascade

/-- A call of a handler with what it reported, origins filled in, and the dependencies
that it recorded. -/
structure Deed where
  call : Call
  reports : List Diagnostic
  dependencies : List String

/-- What was done in a reduction, in its order, and the state that the handlers hand
on. -/
structure Transcript (σ : Type) where
  state : σ
  deeds : List Deed := []

namespace Transcript

variable {σ : Type}

/-- The calls of handlers. -/
def calls (transcript : Transcript σ) : List Call :=
  transcript.deeds.map Deed.call

/-- What the transcript comes to behind a ledger. -/
def ledger (before : Ledger σ) (transcript : Transcript σ) : Ledger σ where
  diagnostics := before.diagnostics ++ transcript.deeds.flatMap Deed.reports
  dependencies := (transcript.deeds.flatMap Deed.dependencies).foldl addNew before.dependencies
  state := transcript.state

/-- What the transcript comes to behind a ledger, with its calls as a part of the
state. -/
def loggedLedger (before : Ledger σ) (transcript : Transcript σ) : Ledger (σ × List Call) where
  diagnostics := (transcript.ledger before).diagnostics
  dependencies := (transcript.ledger before).dependencies
  state := (transcript.state, transcript.calls)

end Transcript

namespace Visitor

variable {σ : Type}

/-- The turn of a visitor at a node, put on the transcript. -/
def transcribe (phase : Phase) (site : Site) (held : Node × Transcript σ)
    (entry : Visitor σ × Nat) : Node × Transcript σ :=
  if entry.1.interest.includes held.1.kind then
    let visit := entry.1.handler phase site held.1 held.2.state
    let origin := Origin.ofVisitor site.stage entry.1.name
    (visit.node.withSpan (visit.node.span.or held.1.span),
      { state := visit.state
        deeds := held.2.deeds ++
          [{ call := ⟨entry.2, phase, held.1, site.depth⟩
             reports := visit.reports.map fun report => report.withDefaultOrigin origin
             dependencies := visit.dependencies }] })
  else held

end Visitor

namespace Pass

variable {σ : Type}

/-- The turns of all visitors at a node, in list order. -/
def transcribed (pass : Pass σ) : Treatment (Transcript σ) := fun phase depth node transcript =>
  pass.visitors.zipIdx.foldl (Visitor.transcribe phase (pass.site depth)) (node, transcript)

/-- The tree and the transcript of a reduction by recursion from the root. -/
def transcript (pass : Pass σ) (root : Node) (state : σ) : Option (Node × Transcript σ) :=
  pass.transcribed.reduceTree 0 root { state }

end Pass

namespace Ledger

/-- The ledger with an empty list of calls as a part of its state. -/
def logging {σ : Type} (ledger : Ledger σ) : Ledger (σ × List Call) :=
  ⟨ledger.diagnostics, ledger.dependencies, (ledger.state, [])⟩

end Ledger

/-! ## Transcripts come to ledgers -/

namespace Visitor

variable {σ : Type} {phase : Phase} {site : Site}

/-- A call of a visitor adds to the ledger what its deed comes to. -/
theorem call_transcript (before : Ledger σ) (held : Node × Transcript σ)
    (entry : Visitor σ × Nat) :
    entry.1.call phase site held.1 (held.2.ledger before) =
      (transcribe phase site held entry).map id (Transcript.ledger before) := by
  by_cases wanted : entry.1.interest.includes held.1.kind = true
  · simp [call, transcribe, wanted, Transcript.ledger, Node.refillSpan_eq]
    exact Array.toList_inj.mp (by simp)
  · rw [call, if_neg wanted, transcribe, if_neg wanted]
    rfl

/-- A call of the logging visitor adds the deed and its call. -/
theorem call_logged_transcript (before : Ledger σ) (held : Node × Transcript σ)
    (entry : Visitor σ × Nat) :
    (entry.1.logged entry.2).call phase site held.1 (held.2.loggedLedger before) =
      (transcribe phase site held entry).map id (Transcript.loggedLedger before) := by
  have interest : (entry.1.logged entry.2).interest = entry.1.interest := rfl
  by_cases wanted : entry.1.interest.includes held.1.kind = true
  · cases phase <;>
      (simp [call, transcribe, logged, handler, wanted, Transcript.loggedLedger,
        Transcript.ledger, Transcript.calls, Node.refillSpan_eq]
       exact Array.toList_inj.mp (by simp))
  · rw [call, interest, if_neg wanted, transcribe, if_neg wanted]
    rfl

end Visitor

namespace Pass

variable {σ : Type}

theorem visit_transcript (pass : Pass σ) (before : Ledger σ) (phase : Phase) (depth : Nat)
    (node : Node) (transcript : Transcript σ) :
    pass.visit phase depth node (transcript.ledger before) =
      (pass.transcribed phase depth node transcript).map id (Transcript.ledger before) := by
  have visitors : pass.visitors.zipIdx.map Prod.fst = pass.visitors := List.zipIdx_map_fst 0 _
  have called := Visitor.callAll_of_call Prod.fst (Transcript.ledger before)
    (@Visitor.call_transcript _ phase (pass.site depth) before) pass.visitors.zipIdx
    (node, transcript)
  rwa [visitors] at called

theorem visit_logged_transcript (pass : Pass σ) (before : Ledger σ) (phase : Phase) (depth : Nat)
    (node : Node) (transcript : Transcript σ) :
    pass.logged.visit phase depth node (transcript.loggedLedger before) =
      (pass.transcribed phase depth node transcript).map id (Transcript.loggedLedger before) :=
  Visitor.callAll_of_call (fun entry : Visitor σ × Nat => entry.1.logged entry.2)
    (Transcript.loggedLedger before) (Visitor.call_logged_transcript before)
    pass.visitors.zipIdx (node, transcript)

/-- The loop arrives at the tree of the recursion and at what its transcript comes to,
or neither comes to an end. -/
theorem traverse_eq_transcript (pass : Pass σ) (root : Node) (before : Ledger σ) :
    pass.traverse root before =
      (pass.transcript root before.state).map (Prod.map id (Transcript.ledger before)) := by
  have started : before = Transcript.ledger before { state := before.state } := by
    simp [Transcript.ledger]
  conv => lhs; rw [traverse_eq_reduceTree, started]
  exact Treatment.reduceTree_view (pass.visit_transcript before) 0 root _

/-- The loop of the logging visitors arrives at the calls of the transcript too. -/
theorem traverse_logged_eq_transcript (pass : Pass σ) (root : Node) (before : Ledger σ) :
    pass.logged.traverse root before.logging =
      (pass.transcript root before.state).map (Prod.map id (Transcript.loggedLedger before)) := by
  have started : before.logging = Transcript.loggedLedger before { state := before.state } := by
    simp [Ledger.logging, Transcript.loggedLedger, Transcript.ledger, Transcript.calls]
  rw [traverse_eq_reduceTree, started]
  exact Treatment.reduceTree_view (pass.visit_logged_transcript before) 0 root _

/-- A transcript tells what the reduction answers. -/
theorem reduce_of_transcript {pass : Pass σ} {root node : Node} {before : Ledger σ}
    {transcript : Transcript σ}
    (told : pass.transcript root before.state = some (node, transcript)) :
    pass.reduce root before =
      (if node.isProgram then .ok node else .error (.invalidRoot pass.stage node.kind),
        transcript.ledger before) := by
  refine reduce_of_traverse ?_
  rw [traverse_eq_transcript, told]
  rfl

/-- A reduction without a transcript does not come to an end. -/
theorem reduce_of_untold {pass : Pass σ} {root : Node} {before : Ledger σ}
    (untold : pass.transcript root before.state = none) :
    pass.reduce root before = (.error (.unfinished pass.stage), before) := by
  rw [reduce, traverse_eq_transcript, untold]
  rfl

end Pass

end Cascade
