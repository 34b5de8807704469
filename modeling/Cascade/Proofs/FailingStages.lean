import Cascade.Proofs.Invocations
import Cascade.Proofs.Stateless
import Mathlib.Data.List.Forall2

/-!
# How a stage fails

A stage fails before or behind its traversal.  If one of its specifications cannot be turned
into a visitor, the first such one ends it: the constructors up to there have been called,
and no other one, and no handler.  Otherwise all constructors have been called, the handlers
took the whole tree, and its root came out as something else than a program.
-/

namespace Cascade

variable {σ : Type}

/-! ## The first specification that fails -/

namespace Spec

/-- The specification stands for the visitor. -/
def Makes (catalog : Catalog σ) (stage : String) (state : σ) (spec : Spec σ)
    (visitor : Visitor σ) : Prop :=
  (spec.resolve catalog stage state).1 = .ok visitor

/-- The specification cannot be turned into a visitor: its identifier is not known, or the
constructor rejects its options. -/
inductive Fails (catalog : Catalog σ) (stage : String) (state : σ) : Spec σ → Failure → Prop where
  | unknown {id : String} {options : Options} (unbound : catalog.get? id = none) :
      Fails catalog stage state (.named id options) (.unknownTransform id stage)
  | rejected {id : String} {options : Options} {construct : Constructor σ} {reason : String}
      (bound : catalog.get? id = some construct)
      (rejects : (construct options state).1 = .error reason) :
      Fails catalog stage state (.named id options) (.rejectedTransform id reason)

/-- What becomes of a list of specifications, and the constructors that are called: each
specification gives its visitor, or the first one that fails ends it. -/
inductive Turned (catalog : Catalog σ) (stage : String) (state : σ) (specs : List (Spec σ)) :
    Except Failure (List (Visitor σ)) → List Invocation → Prop where
  | made {visitors : List (Visitor σ)}
      (all : List.Forall₂ (Makes catalog stage state) specs visitors) :
      Turned catalog stage state specs (.ok visitors)
        (specs.filterMap (construction? catalog))
  | failed {good rest : List (Spec σ)} {bad : Spec σ} {failure : Failure}
      (split : specs = good ++ bad :: rest)
      (made : ∀ spec ∈ good, ∃ visitor, Makes catalog stage state spec visitor)
      (fails : bad.Fails catalog stage state failure) :
      Turned catalog stage state specs (.error failure)
        ((good ++ [bad]).filterMap (construction? catalog))

theorem fails_of_resolve {catalog : Catalog σ} {stage : String} {state : σ} {spec : Spec σ}
    {failure : Failure} (failed : (spec.resolve catalog stage state).1 = .error failure) :
    spec.Fails catalog stage state failure := by
  cases spec with
  | ready visitor => cases failed
  | named id options =>
      cases bound : catalog.get? id with
      | none =>
          simp only [resolve, bound] at failed
          cases failed
          exact .unknown bound
      | some construct =>
          simp only [resolve, bound] at failed
          cases constructed : construct options state with
          | mk answer after =>
              rw [constructed] at failed
              cases answer with
              | ok visitor => cases failed
              | error reason =>
                  cases failed
                  exact .rejected bound (congrArg Prod.fst constructed)

theorem filterMap_construction?_cons (catalog : Catalog σ) (spec : Spec σ)
    (rest : List (Spec σ)) :
    (spec :: rest).filterMap (construction? catalog) =
      (spec.construction? catalog).toList ++ rest.filterMap (construction? catalog) := by
  rw [List.filterMap_cons]
  cases spec.construction? catalog <;> rfl

namespace Turned

variable {catalog : Catalog σ} {stage : String} {state : σ} {spec : Spec σ}
  {specs : List (Spec σ)}

theorem of_fails {failure : Failure} (fails : spec.Fails catalog stage state failure) :
    Turned catalog stage state (spec :: specs) (.error failure)
      (spec.construction? catalog).toList := by
  have turned : Turned catalog stage state (spec :: specs) (.error failure)
      (([] ++ [spec]).filterMap (construction? catalog)) :=
    .failed rfl (fun _ absent => nomatch absent) fails
  rw [List.nil_append, filterMap_construction?_cons] at turned
  rwa [List.filterMap_nil, List.append_nil] at turned

theorem cons_made {visitor : Visitor σ} {visitors : List (Visitor σ)} {called : List Invocation}
    (makes : spec.Makes catalog stage state visitor)
    (turned : Turned catalog stage state specs (.ok visitors) called) :
    Turned catalog stage state (spec :: specs) (.ok (visitor :: visitors))
      ((spec.construction? catalog).toList ++ called) := by
  cases turned with
  | made all =>
      rw [← filterMap_construction?_cons]
      exact .made (.cons makes all)

theorem cons_failed {visitor : Visitor σ} {failure : Failure} {called : List Invocation}
    (makes : spec.Makes catalog stage state visitor)
    (turned : Turned catalog stage state specs (.error failure) called) :
    Turned catalog stage state (spec :: specs) (.error failure)
      ((spec.construction? catalog).toList ++ called) := by
  cases turned with
  | @failed good rest bad _ split made fails =>
      rw [← filterMap_construction?_cons, ← List.cons_append]
      exact .failed (congrArg (spec :: ·) split)
        (List.forall_mem_cons.mpr ⟨⟨visitor, makes⟩, made⟩) fails

end Turned

/-- With stateless constructors it makes no difference in which state a list of
specifications is resolved. -/
theorem turned_resolveAll {catalog : Catalog σ} (stateless : Catalog.Stateless catalog)
    {specs : List (Spec σ)} (ready : ∀ spec ∈ specs, spec.Stateless) (stage : String)
    (state current : σ) :
    Turned catalog stage state specs (resolveAll catalog stage specs current).1
      (constructions catalog stage specs current) := by
  induction specs generalizing current with
  | nil => exact .made .nil
  | cons spec rest inductionHypothesis =>
      obtain ⟨readyFirst, readyRest⟩ := List.forall_mem_cons.mp ready
      obtain ⟨same, _⟩ := resolve_sameAnswer stateless readyFirst stage current state
      rw [resolveAll, constructions]
      cases resolved : spec.resolve catalog stage current with
      | mk answer after =>
          rw [resolved] at same
          cases answer with
          | error failure =>
              rw [List.append_nil]
              exact .of_fails (fails_of_resolve same.symm)
          | ok visitor =>
              have turned := inductionHypothesis readyRest after
              simp only
              cases others : resolveAll catalog stage rest after with
              | mk answers behind =>
                  rw [others] at turned
                  cases answers with
                  | error failure => exact turned.cons_failed same.symm
                  | ok visitors => exact turned.cons_made same.symm

theorem stage?_of_mem_constructions {catalog : Catalog σ} {stage : String}
    {specs : List (Spec σ)} {state : σ} {invocation : Invocation}
    (member : invocation ∈ constructions catalog stage specs state) :
    invocation.stage? = none := by
  induction specs generalizing state with
  | nil => cases member
  | cons spec rest inductionHypothesis =>
      rw [constructions] at member
      rcases List.mem_append.mp member with here | behind
      · cases spec with
        | ready visitor => cases here
        | named id options =>
            simp only [construction?, Option.mem_toList] at here
            split at here
            · cases here
              rfl
            · cases here
      · cases resolved : spec.resolve catalog stage state with
        | mk answer after =>
            rw [resolved] at behind
            cases answer with
            | error failure => cases behind
            | ok visitor => exact inductionHypothesis behind

end Spec

/-! ## How a stage fails -/

namespace Invocation

/-- The call is not made for a stage from the bound on. -/
def Below (registry : Registry σ) (bound : Nat) (invocation : Invocation) : Prop :=
  ∀ index : Fin registry.size, invocation.stage? = some (registry.stage index).id →
    index.1 < bound

theorem Below.mono {registry : Registry σ} {bound larger : Nat} {invocation : Invocation}
    (below : invocation.Below registry bound) (fewer : bound ≤ larger) :
    invocation.Below registry larger :=
  fun index same => Nat.lt_of_lt_of_le (below index same) fewer

end Invocation

namespace Pipeline

variable {pipeline : Pipeline σ} {request : Request}

/-- The transforms that the stage at an index asks for. -/
def specsAt (pipeline : Pipeline σ) (request : Request) (index : Fin pipeline.registry.size)
    (state : σ) : List (Spec σ) :=
  ((pipeline.registry.stage index).factory request.project request.options state).1

/-- How the stage at an index fails on its material, and what is called by then, in this
order.  The factory is called.  Then constructors are called up to the first specification
that cannot be turned into a visitor; or each specification gives its visitor, the handlers
are called, and they leave a root that is not a program, or do not come to an end. -/
inductive FailsIn (pipeline : Pipeline σ) (request : Request)
    (index : Fin pipeline.registry.size) (material : Material) (state : σ) :
    Failure → List Invocation → Prop where
  | unmade {failure : Failure} {called : List Invocation}
      (turned : Spec.Turned pipeline.catalog (pipeline.registry.stage index).id state
        (pipeline.specsAt request index state) (.error failure) called) :
      FailsIn pipeline request index material state failure
        (.factory (pipeline.registry.stage index).id :: called)
  | otherRoot {visitors : List (Visitor σ)} {called handled : List Invocation} {reduced : Node}
      {ledger : Ledger σ}
      (turned : Spec.Turned pipeline.catalog (pipeline.registry.stage index).id state
        (pipeline.specsAt request index state) (.ok visitors) called)
      (traversed : (pipeline.passAt request index visitors).traverse material.tree
        (pipeline.openingAt request index state) = some (reduced, ledger))
      (other : reduced.isProgram = false)
      (handles : ∀ invocation ∈ handled,
        invocation.HandlesIn (pipeline.registry.stage index).id) :
      FailsIn pipeline request index material state
        (.invalidRoot (pipeline.registry.stage index).id reduced.kind)
        (.factory (pipeline.registry.stage index).id :: called ++ handled)
  | endless {visitors : List (Visitor σ)} {called handled : List Invocation}
      (turned : Spec.Turned pipeline.catalog (pipeline.registry.stage index).id state
        (pipeline.specsAt request index state) (.ok visitors) called)
      (endless : (pipeline.passAt request index visitors).traverse material.tree
        (pipeline.openingAt request index state) = none)
      (handles : ∀ invocation ∈ handled,
        invocation.HandlesIn (pipeline.registry.stage index).id) :
      FailsIn pipeline request index material state
        (.unfinished (pipeline.registry.stage index).id)
        (.factory (pipeline.registry.stage index).id :: called ++ handled)

variable {index : Fin pipeline.registry.size} {material : Material}

/-- How the visitors of a stage are made does not depend on the state. -/
theorem Stateless.turned (stateless : pipeline.Stateless) (request : Request)
    (index : Fin pipeline.registry.size) (state current : σ) :
    ∃ called, pipeline.makingAt request index current =
        .factory (pipeline.registry.stage index).id :: called ∧
      Spec.Turned pipeline.catalog (pipeline.registry.stage index).id state
        (pipeline.specsAt request index state) (pipeline.visitorsAt request index current).1
        called := by
  obtain ⟨same, ready⟩ := stateless.registry.factories index request.project request.options state
  refine ⟨_, rfl, ?_⟩
  have turned := Spec.turned_resolveAll stateless.catalog ready (pipeline.registry.stage index).id
    state ((pipeline.registry.stage index).factory request.project request.options current).2
  rw [← same current] at turned
  rw [specsAt, ← same current]
  exact turned

/-- A stage that fails does so in one of these ways, whatever the state was. -/
theorem Stateless.failsIn (stateless : pipeline.Stateless) (state current : σ)
    {failure : Failure}
    (failed : (pipeline.runStage request index material current).1 = .error failure)
    {handled : List Invocation}
    (handles : ∀ invocation ∈ handled, invocation.HandlesIn (pipeline.registry.stage index).id)
    (silent : ∀ failure, (pipeline.visitorsAt request index current).1 = .error failure →
      handled = []) :
    pipeline.FailsIn request index material state failure
      (pipeline.makingAt request index current ++ handled) := by
  obtain ⟨called, making, turned⟩ := stateless.turned request index state current
  have statelessPass := @Stateless.passAt _ _ stateless request index current
  rw [making]
  cases ready : pipeline.visitorsAt request index current with
  | mk answer made =>
      rw [ready] at turned silent statelessPass
      cases answer with
      | error rejection =>
          rw [runStage_of_rejected ready] at failed
          cases failed
          rw [silent _ rfl, List.append_nil]
          exact .unmade turned
      | ok visitors =>
          have reductions := Pass.reduce_sameAnswer (statelessPass rfl) material.tree
            (openingAt_sameReports (.refl request) index made state)
          cases ends : (pipeline.passAt request index visitors).reduce material.tree
              (pipeline.openingAt request index made) with
          | mk answer ledger =>
              rw [ends] at reductions
              cases answer with
              | ok reduced =>
                  rw [runStage_of_reduced ready ends] at failed
                  exact nomatch failed
              | error reason =>
                  rw [runStage_of_failed ready ends] at failed
                  cases failed
                  rcases Pass.failed_cases reductions.1.symm with
                    ⟨endless, rfl⟩ | ⟨reduced, behind, traversed, other, rfl⟩
                  · exact .endless turned endless handles
                  · exact .otherRoot turned traversed other handles

end Pipeline

end Cascade
