import Cascade.Proofs.PipelineEvents
import Cascade.Proofs.RootShape

/-!
# Stocked caches

Whether caching is on or off, a session of a pipeline has caches that belong to its stages,
and what they hold is good in some sense; without caching they hold nothing.  In such a
session a resolution either finds its outcome, or answers what its computation answers, and
this is all that later proofs need to know about caches.
-/

namespace Cascade.Pipeline

variable {σ : Type} {pipeline : Pipeline σ} {good : Nat → Fingerprint → Outcome → Prop}
  {request : Request} {fingerprint : Fingerprint} {session : Session σ} {index : Nat}
  {inRange : index < pipeline.registry.size}

/-- The caches belong to the stages of the pipeline and hold what is good; without caching
they hold nothing. -/
structure Stocked (pipeline : Pipeline σ) (good : Nat → Fingerprint → Outcome → Prop)
    (session : Session σ) : Prop where
  fits : pipeline.Fits session
  held : session.memory.Every good
  unused : pipeline.cacheEnabled = false →
    ∀ index fingerprint, session.memory.held? index fingerprint = none

/-! ## A missing outcome -/

/-- With or without caching, a stage whose outcome is missing answers what its computation
answers behind the miss, and leaves the state that the computation leaves. -/
theorem outcomeAt_of_missing (request : Request) (fits : pipeline.Fits session)
    (missing : session.memory.held? index fingerprint = none) :
    let computed := pipeline.computation request fingerprint index inRange
      (session.miss index fingerprint)
    (pipeline.outcomeAt request fingerprint index inRange session).1 = computed.1 ∧
      (pipeline.outcomeAt request fingerprint index inRange session).2.state =
        computed.2.state := by
  cases enabled : pipeline.cacheEnabled with
  | false =>
      rw [← outcomeAt_eq_computation enabled, outcomeAt_of_disabled enabled,
        outcomeAt_of_disabled enabled]
      exact ⟨rfl, rfl⟩
  | true =>
      have untouched := cache?_computation request fingerprint enabled
        (fits.miss index fingerprint) inRange
      rw [outcomeAt_eq_throughCache]
      cases computed : pipeline.computation request fingerprint index inRange
          (session.miss index fingerprint) with
      | mk answer after =>
          rw [computed] at untouched
          cases answer with
          | error failure =>
              rw [throughCache_of_failed enabled fits missing computed]
              exact ⟨rfl, rfl⟩
          | ok outcome =>
              rw [throughCache_of_computed enabled fits missing computed untouched]
              exact ⟨rfl, rfl⟩

/-! ## Stocked sessions -/

namespace Stocked

theorem newSession (pipeline : Pipeline σ) (good : Nat → Fingerprint → Outcome → Prop)
    (state : σ) : pipeline.Stocked good (pipeline.newSession state) where
  fits := Memory.stages_ofStages _
  held := Memory.every_of_empty (Memory.held?_ofStages _)
  unused := fun _ => Memory.held?_ofStages _

theorem miss (stocked : pipeline.Stocked good session) (index : Nat)
    (fingerprint : Fingerprint) : pipeline.Stocked good (session.miss index fingerprint) where
  fits := stocked.fits.miss index fingerprint
  held := stocked.held.miss index fingerprint
  unused := fun disabled other given =>
    (Memory.held?_miss _ _ _ _ _).trans (stocked.unused disabled other given)

theorem forget (stocked : pipeline.Stocked good session) (dependency : String) :
    pipeline.Stocked good (session.forget dependency).2 where
  fits := (Memory.stages_forget _ _).trans stocked.fits
  held := stocked.held.forget dependency
  unused := by
    intro disabled other given
    refine (Memory.held?_forget _ _ _ _).trans ?_
    rw [stocked.unused disabled]
    rfl

theorem clear (stocked : pipeline.Stocked good session) :
    pipeline.Stocked good session.clear where
  fits := (Memory.stages_clear _).trans stocked.fits
  held := Memory.every_of_empty (Memory.held?_clear _)
  unused := fun _ => Memory.held?_clear _

/-- A resolution keeps a session stocked if what it leaves in the caches is good. -/
theorem outcomeAt (stocked : pipeline.Stocked good session)
    (held : (pipeline.outcomeAt request request.fingerprint index inRange session).2.memory.Every
      good) :
    pipeline.Stocked good
      (pipeline.outcomeAt request request.fingerprint index inRange session).2 where
  fits := stocked.fits.outcomeAt request inRange
  held := held
  unused := by
    intro disabled
    rw [outcomeAt_of_disabled disabled]
    exact stocked.unused disabled

/-- A resolution finds its outcome and leaves the state, or does what its computation does. -/
theorem found_or_computed (stocked : pipeline.Stocked good session) (request : Request)
    (fingerprint : Fingerprint) (inRange : index < pipeline.registry.size) :
    let computed := pipeline.computation request fingerprint index inRange
      (session.miss index fingerprint)
    (∃ outcome, session.memory.held? index fingerprint = some outcome ∧
      pipeline.outcomeAt request fingerprint index inRange session =
        (.ok outcome, session.hit index)) ∨
    (session.memory.held? index fingerprint = none ∧
      (pipeline.outcomeAt request fingerprint index inRange session).1 = computed.1 ∧
      (pipeline.outcomeAt request fingerprint index inRange session).2.state =
        computed.2.state) := by
  cases held : session.memory.held? index fingerprint with
  | none => exact .inr ⟨rfl, outcomeAt_of_missing request stocked.fits held⟩
  | some outcome =>
      cases enabled : pipeline.cacheEnabled with
      | false => exact nomatch held.symm.trans (stocked.unused enabled _ _)
      | true => exact .inl ⟨outcome, rfl, outcomeAt_of_held enabled stocked.fits inRange held⟩

end Stocked

end Cascade.Pipeline
