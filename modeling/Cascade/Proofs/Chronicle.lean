import Cascade.Pipeline

/-!
# Chronicles

What happens in a pipeline with caching on, event by event: computations of stages
end, resolutions up to a stage are answered, and outcomes are dropped.  Each event
finds the outcomes that the events before it left, and a chronicle leads from what
was held to what is held behind it.

What was computed is held until an event drops it, so a chronicle has no second
computation, and no other answer, before that event.
-/

namespace Cascade

/-! ## Events -/

/-- An event.  Computations and resolutions are told with the stage, the
fingerprint and the answer with which they end. -/
inductive Event where
  | computed (index : Nat) (fingerprint : Fingerprint) (answer : Except Failure Outcome)
  | answered (index : Nat) (fingerprint : Fingerprint) (answer : Except Failure Outcome)
  | forgot (dependency : String)
  | cleared

namespace Event

/-- Whether the event drops an outcome that is held. -/
def drops (outcome : Outcome) : Event → Bool
  | forgot dependency => outcome.dependsOn dependency
  | cleared => true
  | _ => false

/-- Whether the event is a computation for the stage at an index. -/
def computesAt (index : Nat) : Event → Bool
  | computed other _ _ => other == index
  | _ => false

end Event

/-- The outcomes that are held for stages and fingerprints. -/
abbrev Holdings :=
  Nat → Fingerprint → Option Outcome

namespace Holdings

/-- The outcomes with one more. -/
def put (holdings : Holdings) (index : Nat) (fingerprint : Fingerprint) (outcome : Outcome) :
    Holdings :=
  fun other given => if other = index ∧ given = fingerprint then some outcome
    else holdings other given

end Holdings

/-- The event finds the first outcomes and leaves the second ones.  Only what is
missing is computed, what is held is answered, and failures leave nothing. -/
inductive Event.Takes : Event → Holdings → Holdings → Prop where
  | computed {holdings : Holdings} {index : Nat} {fingerprint : Fingerprint} {outcome : Outcome}
      (missing : holdings index fingerprint = none) :
      Takes (.computed index fingerprint (.ok outcome)) holdings
        (holdings.put index fingerprint outcome)
  | failed {holdings : Holdings} {index : Nat} {fingerprint : Fingerprint} {failure : Failure}
      (missing : holdings index fingerprint = none) :
      Takes (.computed index fingerprint (.error failure)) holdings holdings
  | answered {holdings : Holdings} {index : Nat} {fingerprint : Fingerprint}
      {answer : Except Failure Outcome}
      (told : ∀ outcome, holdings index fingerprint = some outcome ↔ answer = .ok outcome) :
      Takes (.answered index fingerprint answer) holdings holdings
  | forgot {holdings : Holdings} (dependency : String) :
      Takes (.forgot dependency) holdings fun index fingerprint =>
        (holdings index fingerprint).filter fun outcome => !outcome.dependsOn dependency
  | cleared {holdings : Holdings} : Takes .cleared holdings fun _ _ => none

/-- The events lead from the first outcomes to the second ones. -/
inductive Chronicle : Holdings → List Event → Holdings → Prop where
  | nil {holdings : Holdings} : Chronicle holdings [] holdings
  | cons {before between after : Holdings} {event : Event} {rest : List Event}
      (takes : event.Takes before between) (others : Chronicle between rest after) :
      Chronicle before (event :: rest) after

namespace Chronicle

variable {before between after : Holdings} {index : Nat} {fingerprint : Fingerprint}

theorem single {event : Event} (takes : event.Takes before after) :
    Chronicle before [event] after :=
  .cons takes .nil

theorem append {first second : List Event} (early : Chronicle before first between)
    (late : Chronicle between second after) : Chronicle before (first ++ second) after := by
  induction early with
  | nil => exact late
  | cons takes _ inductionHypothesis => exact .cons takes (inductionHypothesis late)

theorem split {first second : List Event} (chronicle : Chronicle before (first ++ second) after) :
    ∃ between, Chronicle before first between ∧ Chronicle between second after := by
  induction first generalizing before with
  | nil => exact ⟨before, .nil, chronicle⟩
  | cons event rest inductionHypothesis =>
      cases chronicle with
      | cons takes others =>
          obtain ⟨between, early, late⟩ := inductionHypothesis others
          exact ⟨between, .cons takes early, late⟩

/-- What is held stays held until an event drops it. -/
theorem keeps {events : List Event} {outcome : Outcome} (chronicle : Chronicle before events after)
    (held : before index fingerprint = some outcome)
    (spared : ∀ event ∈ events, event.drops outcome = false) :
    after index fingerprint = some outcome := by
  induction chronicle with
  | nil => exact held
  | cons takes _ inductionHypothesis =>
      have sparedHere := spared _ List.mem_cons_self
      refine inductionHypothesis ?_ fun event member => spared event (List.mem_cons_of_mem _ member)
      cases takes with
      | computed missing =>
          rw [Holdings.put, if_neg, held]
          rintro ⟨rfl, rfl⟩
          exact nomatch missing.symm.trans held
      | failed _ => exact held
      | answered _ => exact held
      | forgot dependency =>
          have independent : outcome.dependsOn dependency = false := sparedHere
          simp [held, Option.filter, independent]
      | cleared => exact nomatch sparedHere

/-- An outcome that was computed is held until an event drops it. -/
theorem held_since {early middle late : List Event} {outcome : Outcome}
    (chronicle : Chronicle before
      (early ++ .computed index fingerprint (.ok outcome) :: (middle ++ late)) after)
    (spared : ∀ event ∈ middle, event.drops outcome = false) :
    ∃ between, between index fingerprint = some outcome ∧ Chronicle between late after := by
  obtain ⟨_, _, fromComputation⟩ := chronicle.split
  cases fromComputation with
  | cons takes others =>
      cases takes with
      | computed missing =>
          obtain ⟨between, through, rest⟩ := others.split
          exact ⟨between, through.keeps (if_pos ⟨rfl, rfl⟩) spared, rest⟩

/-- What was computed is not computed again until an event drops it. -/
theorem dropped_between {early middle late : List Event} {outcome : Outcome}
    {again : Except Failure Outcome}
    (chronicle : Chronicle before
      (early ++ .computed index fingerprint (.ok outcome) ::
        (middle ++ .computed index fingerprint again :: late)) after) :
    ∃ event ∈ middle, event.drops outcome = true := by
  by_cases dropped : ∃ event ∈ middle, event.drops outcome = true
  · exact dropped
  -- Otherwise the outcome is still held when the second computation ends.
  exfalso
  have spared : ∀ event ∈ middle, event.drops outcome = false := by
    intro event member
    exact Bool.eq_false_iff.mpr fun drops => dropped ⟨event, member, drops⟩
  obtain ⟨between, held, rest⟩ := chronicle.held_since spared
  cases rest with
  | cons takes _ =>
      cases takes with
      | computed missing => exact nomatch missing.symm.trans held
      | failed missing => exact nomatch missing.symm.trans held

/-- What was computed is answered until an event drops it. -/
theorem answered_since {early middle late : List Event} {outcome : Outcome}
    {answer : Except Failure Outcome}
    (chronicle : Chronicle before
      (early ++ .computed index fingerprint (.ok outcome) ::
        (middle ++ .answered index fingerprint answer :: late)) after)
    (spared : ∀ event ∈ middle, event.drops outcome = false) : answer = .ok outcome := by
  obtain ⟨between, held, rest⟩ := chronicle.held_since spared
  cases rest with
  | cons takes _ =>
      cases takes with
      | answered told => exact (told outcome).mp held

end Chronicle

end Cascade
