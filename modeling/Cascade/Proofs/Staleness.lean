import Cascade.Proofs.Undisturbed
import Cascade.Proofs.StructuralReduction
import Cascade.Visitor.Sample

/-!
# What an invalidation leaves

An invalidation sweeps the stages one after another, and passes over slots that are being
computed.  An outcome that is computed meanwhile may have been built from what is being
dropped.

Nothing else is left: where an invalidation has swept all stages, an outcome that depends
on what it was about is built from computations that started behind its beginning, as far
as they depend on it too, unless one of these was under way when its stage was swept.
-/

namespace Cascade

namespace Invalidation

/-- The computation started behind the sweep of its stage. -/
def Precedes (invalidation : Invalidation) (computation : Computation) : Prop :=
  ∃ time, invalidation.swept[computation.stage]? = some time ∧
    invalidation.began < time ∧ time < computation.started

/-- The computation was under way when its stage was swept. -/
def Misses (invalidation : Invalidation) (computation : Computation) : Prop :=
  ∃ time, invalidation.swept[computation.stage]? = some time ∧
    computation.started ≤ time ∧ time < computation.finished

end Invalidation

section Swept

variable {σ : Type} {pipeline : Pipeline σ} {invalidation : Invalidation}
  {fingerprint : Fingerprint} {own : Computation} {sources : List Computation}

/-- Where all stages are swept, a computation whose outcome is spared started behind the
sweep of its stage, or was under way. -/
theorem Invalidation.Spares.precedes (spares : invalidation.Spares own)
    (depends : own.outcome.dependsOn invalidation.dependency = true)
    (swept : own.stage < invalidation.swept.length)
    (timed : ∀ time ∈ invalidation.swept, invalidation.began < time) :
    invalidation.Precedes own ∨ invalidation.Misses own := by
  have here := List.getElem?_eq_getElem swept
  rcases Nat.lt_or_ge invalidation.swept[own.stage] own.started with behind | before
  · exact .inl ⟨_, here, timed _ (List.getElem_mem swept), behind⟩
  · exact .inr ⟨_, here, before, spares _ here depends⟩

/-- From the computation in the slot down to the earlier stages: as long as none of the
computations was under way, each one started behind the sweep of its stage, and so its
source is spared as well. -/
theorem Pipeline.Lineage.precedes (lineage : pipeline.Lineage fingerprint (own :: sources))
    (spares : invalidation.Spares own)
    (feeds : (own :: sources).IsChain fun own source => invalidation.Feeds own.started source)
    (done : invalidation.swept.length = pipeline.registry.size)
    (timed : ∀ time ∈ invalidation.swept, invalidation.began < time) {computation : Computation}
    (listed : computation ∈ own :: sources)
    (depends : computation.outcome.dependsOn invalidation.dependency = true) :
    invalidation.Precedes computation ∨ ∃ later ∈ own :: sources,
      computation.stage ≤ later.stage ∧ invalidation.Misses later := by
  have swept : own.stage < invalidation.swept.length := done ▸ lineage.inRange
  induction sources generalizing own with
  | nil =>
      cases List.mem_singleton.mp listed
      exact (spares.precedes depends swept timed).imp_right fun missed =>
        ⟨computation, listed, Nat.le_refl _, missed⟩
  | cons source earlier inductionHypothesis =>
      have dependsOwn : own.outcome.dependsOn invalidation.dependency = true := by
        rcases List.mem_cons.mp listed with rfl | below
        · exact depends
        · exact lineage.dependsOn below depends
      rcases spares.precedes dependsOwn swept timed with precedes | missed
      · rcases List.mem_cons.mp listed with rfl | below
        · exact .inl precedes
        obtain ⟨time, sweptAt, _, behind⟩ := precedes
        have fed := List.isChain_cons_cons.mp feeds
        have above : own.stage = source.stage + 1 := by
          rw [lineage.stage_eq, lineage.tail.stage_eq, List.length_cons]
        have sparesSource : invalidation.Spares source := fed.1 time (above ▸ sweptAt) behind
        refine (inductionHypothesis lineage.tail sparesSource fed.2 below ?_).imp_right ?_
        · exact done ▸ lineage.tail.inRange
        · rintro ⟨later, member, upTo, missed⟩
          exact ⟨later, List.mem_cons_of_mem _ member, upTo, missed⟩
      · exact .inr ⟨own, List.mem_cons_self, lineage.stage_le listed, missed⟩

end Swept

/-- When an invalidation has swept all stages, what the table of a stage holds was built
like this: of the computations behind it, each one whose outcome depends on what the
invalidation was about started behind the sweep of its stage, and so behind the beginning
of the invalidation, unless it, or one of a later stage that was built on it, was under way
when its stage was swept. -/
theorem Traffic.Run.no_stale {σ : Type} {pipeline : Pipeline σ} {traffic : Traffic}
    (run : Run pipeline pipeline.newTraffic traffic) {invalidation : Invalidation}
    (begun : invalidation ∈ traffic.calendar.invalidations)
    (done : invalidation.swept.length = pipeline.registry.size) {stage : Nat}
    {fingerprint : Fingerprint} {outcome : Outcome}
    (held : (traffic.scenes stage).shared.cache.slots.held? fingerprint = some outcome) :
    ∃ own sources, traffic.lineage stage (traffic.current stage fingerprint) = own :: sources ∧
      own.stage = stage ∧ own.outcome = outcome ∧ pipeline.Lineage fingerprint (own :: sources) ∧
      ∀ computation ∈ own :: sources,
        computation.outcome.dependsOn invalidation.dependency = true →
          invalidation.Precedes computation ∨ ∃ later ∈ own :: sources,
            computation.stage ≤ later.stage ∧ invalidation.Misses later := by
  have sound := run.sound
  obtain ⟨own, sources, entry⟩ := sound.entries stage (traffic.current stage fingerprint) outcome
    ((Shared.content_current _ _).trans held)
  have same : own.outcome = outcome :=
    Option.some.inj (entry.holds.symm.trans ((Shared.content_current _ _).trans held))
  refine ⟨own, sources, entry.listed, entry.here, same, entry.lineage, ?_⟩
  intro computation listed depends
  refine entry.lineage.precedes (entry.spares rfl invalidation begun) ?_ done ?_ listed depends
  · exact entry.dates.feeds.imp fun _ _ feeds => feeds invalidation begun
  · exact fun time swept => ((sound.timed invalidation begun).2 time swept).1

namespace Pipeline

/-- A pipeline of two stages that depend on a file each. -/
def layered : Pipeline Unit where
  registry :=
    { stages := [⟨"load", .fixed [.ready (.dependency (.fixed "base.toml"))]⟩,
        ⟨"lint", .fixed [.ready (.dependency (.fixed "lint.toml"))]⟩]
      primary := ⟨1, Nat.one_lt_two⟩
      hooks := []
      knownOptions := none
      distinct := by decide }
  catalog := Dict.empty

/-- A request for an empty program. -/
def linting : Request where
  tree := Node.program []

/-- What the stages make of an empty program. -/
def loadedOutcome : Outcome :=
  linting.material.outcome (Node.program []) (⟨#[], ["base.toml"], ()⟩ : Ledger Unit)

def lintedOutcome : Outcome :=
  loadedOutcome.material.outcome (Node.program []) (⟨#[], ["lint.toml"], ()⟩ : Ledger Unit)

theorem layered_load :
    layered.runStage linting ⟨0, Nat.zero_lt_two⟩ linting.material () = (.ok loadedOutcome, ()) :=
  runStage_of_reduced rfl (Pass.reduce_of_program (Pass.traverse_of_childless rfl rfl) rfl)

theorem layered_lint :
    layered.runStage linting ⟨1, Nat.one_lt_two⟩ loadedOutcome.material () =
      (.ok lintedOutcome, ()) :=
  runStage_of_reduced rfl (Pass.reduce_of_program (Pass.traverse_of_childless rfl rfl) rfl)

section Runs

variable {request : Request} {loaded linted : Outcome}
  (load : layered.runStage request ⟨0, Nat.zero_lt_two⟩ request.material () = (.ok loaded, ()))
include load

/-- An invalidation passes while the first stage is being computed. -/
theorem layered_race :
    ∃ traffic, Traffic.Run layered layered.newTraffic traffic ∧
      traffic.calendar.invalidations = [⟨"base.toml", 4, [5, 6]⟩] ∧
      (traffic.scenes 0).shared.cache.slots.held? request.fingerprint = some loaded ∧
      traffic.lineage 0 (traffic.current 0 request.fingerprint) = [⟨0, 3, 7, loaded⟩] := by
  let slot : Slot := ⟨request.fingerprint, 0⟩
  let begun := (Scene.ofStage "load").begun 0 request.fingerprint
  let swept : Scene := { begun with
    shared := begun.shared.drop (.retain fun _ outcome => !outcome.dependsOn "base.toml") }
  let ended := { swept with shared := swept.shared.finish slot (.ok loaded) }.move 0 .free
  have vacant : begun.shared.content slot = none := by simp [begun, Scene.begun]
  have stays : swept.shared.current slot.fingerprint = slot :=
    Shared.current_retain fun outcome held =>
      absurd ((vacant.symm.trans (Shared.content_current _ _)).trans held)
        (Option.some_ne_none outcome).symm
  have vacantSwept : swept.shared.content slot = none :=
    (Shared.content_drop ..).trans vacant
  have known : swept.shared.Known slot := stays ▸ Shared.known_current _
  have finishes : Scene.Step swept (.finished 0 slot (.ok loaded)) ended :=
    @Scene.Step.finish swept 0 slot .compute _ rfl trivial
  have current : ended.shared.current slot.fingerprint = slot :=
    (Shared.current_finish slot (.ok loaded) _).trans stays
  have filled : ended.shared.content slot = some loaded :=
    (Shared.content_finish known vacantSwept (.ok loaded) slot).trans (if_pos rfl)
  have arrived := (@Traffic.Run.idle _ layered layered.newTraffic).more
    (@Traffic.Step.arrive _ layered _ 0 0 request rfl rfl Nat.zero_lt_two)
  have begun := arrived.begins (Function.update_self ..) rfl rfl rfl
  have announced := begun.more (.announce "base.toml")
  have sweptFirst := announced.more
    (@Traffic.Step.sweep _ _ _ 0 ⟨"base.toml", 4, []⟩ _ rfl Nat.zero_lt_two (.drop _))
  have sweptBoth := sweptFirst.more
    (@Traffic.Step.sweep _ _ _ 0 ⟨"base.toml", 4, [5]⟩ _ rfl Nat.one_lt_two (.drop _))
  have finished := sweptBoth.more (@Traffic.Step.finish _ _ _ 0 ⟨0, slot, 3⟩ []
    request [] _ _ _ _ rfl Nat.zero_lt_two load finishes)
  refine ⟨_, finished, rfl, Shared.held?_of_content current filled, ?_⟩
  exact (congrArg _ current).trans (Function.update_self ..)

/-- The first stage was computed before an invalidation that leaves its outcome alone. -/
theorem layered_loaded (independent : loaded.dependsOn "lint.toml" = false) :
    ∃ traffic, Traffic.Run layered layered.newTraffic traffic ∧
      traffic.calendar = ⟨8, [⟨"lint.toml", 5, [6, 7]⟩]⟩ ∧
      (∀ stage, (traffic.scenes stage).AtRest) ∧ traffic.resolvers 0 = none ∧
      (traffic.scenes 0).shared.cache.slots.held? request.fingerprint = some loaded ∧
      (traffic.scenes 1).shared.cache.slots.held? request.fingerprint = none ∧
      traffic.lineage 0 (traffic.current 0 request.fingerprint) = [⟨0, 3, 4, loaded⟩] := by
  let slot : Slot := ⟨request.fingerprint, 0⟩
  let ended := (Scene.ofStage "load").ended 0 request.fingerprint (.ok loaded)
  have held : ended.shared.cache.slots.held? request.fingerprint = some loaded :=
    Scene.held?_ended rfl
  have current : ended.shared.current request.fingerprint = slot :=
    Shared.current_finish slot (.ok loaded) _
  let swept := ended.shared.drop (.retain fun _ outcome => !outcome.dependsOn "lint.toml")
  have currentSwept : swept.current request.fingerprint = slot := by
    refine (Shared.current_retain fun outcome found => ?_).trans current
    cases held.symm.trans found
    rw [independent]
    rfl
  have heldSwept : swept.cache.slots.held? request.fingerprint = some loaded := by
    apply Shared.held?_of_content currentSwept
    refine (Shared.content_drop ..).trans ?_
    rw [← current, Shared.content_current]
    exact held
  have arrived := (@Traffic.Run.idle _ layered layered.newTraffic).more
    (@Traffic.Step.arrive _ layered _ 0 0 request rfl rfl Nat.zero_lt_two)
  have begun := arrived.begins (Function.update_self ..) rfl rfl rfl
  have finished := begun.more (@Traffic.Step.finish _ _ _ 0 ⟨0, slot, 3⟩ [] request [] _ _ _ _ rfl
    Nat.zero_lt_two load (@Scene.ended_step (Scene.ofStage "load") 0 request.fingerprint _))
  have announced := finished.more (.announce "lint.toml")
  have sweptFirst := announced.more
    (@Traffic.Step.sweep _ _ _ 0 ⟨"lint.toml", 5, []⟩ _ rfl Nat.zero_lt_two (.drop _))
  have sweptBoth := sweptFirst.more
    (@Traffic.Step.sweep _ _ _ 0 ⟨"lint.toml", 5, [6]⟩ _ rfl Nat.one_lt_two (.drop _))
  refine ⟨_, sweptBoth, rfl, ?_, rfl, heldSwept, rfl,
    (congrArg _ currentSwept).trans (Function.update_self ..)⟩
  have rest : ended.AtRest := Scene.AtRest.ended ⟨fun _ => rfl, fun _ => rfl⟩
  intro stage
  match stage with
  | 0 => exact ⟨rest.free, rest.idle⟩
  | 1 => exact ⟨fun _ => rfl, fun _ => rfl⟩
  | _ + 2 => exact ⟨fun _ => rfl, fun _ => rfl⟩

/-- The second stage is then computed from that outcome. -/
theorem layered_reuse (independent : loaded.dependsOn "lint.toml" = false)
    (lint : layered.runStage request ⟨1, Nat.one_lt_two⟩ loaded.material () = (.ok linted, ())) :
    ∃ traffic, Traffic.Run layered layered.newTraffic traffic ∧
      traffic.calendar.invalidations = [⟨"lint.toml", 5, [6, 7]⟩] ∧
      (traffic.scenes 1).shared.cache.slots.held? request.fingerprint = some linted ∧
      traffic.lineage 1 (traffic.current 1 request.fingerprint) =
        [⟨1, 11, 13, linted⟩, ⟨0, 3, 4, loaded⟩] := by
  obtain ⟨traffic, run, calendar, rest, vacant, held, missing, listed⟩ :=
    layered_loaded load independent
  have arrived := run.more (@Traffic.Step.arrive _ layered _ 0 1 request rfl vacant Nat.one_lt_two)
  have begun := arrived.begins (Function.update_self ..) ((rest 1).free 0) missing ((rest 1).idle _)
  have found := begun.hits Traffic.resolvers_alone ((rest 0).free 0) held listed
  have finished := found.more (@Traffic.Step.finish _ _ _ 0
    ⟨1, traffic.current 1 request.fingerprint, traffic.calendar.now + 3⟩ [⟨0, 3, 4, loaded⟩]
    request [] _ _ _ _ Traffic.resolvers_alone Nat.one_lt_two lint
    (@Scene.ended_step (traffic.scenes 1) 0 request.fingerprint _))
  refine ⟨_, finished, congrArg Calendar.invalidations calendar, Scene.held?_ended missing, ?_⟩
  refine (congrArg _ (Shared.current_finish _ (.ok linted) _)).trans ?_
  refine (Function.update_self ..).trans ?_
  show [(⟨1, traffic.calendar.now + 3, traffic.calendar.now + 1 + 3 + 1, linted⟩ :
    Computation), _] = _
  rw [calendar]

end Runs

theorem no_stale_layered :
    ∃ traffic own sources, Traffic.Run layered layered.newTraffic traffic ∧
      traffic.lineage 1 (traffic.current 1 linting.fingerprint) = own :: sources ∧
      own.outcome = lintedOutcome ∧ layered.Lineage linting.fingerprint (own :: sources) ∧
      ∀ computation ∈ own :: sources, computation.outcome.dependsOn "lint.toml" = true →
        (⟨"lint.toml", 5, [6, 7]⟩ : Invalidation).Precedes computation ∨
          ∃ later ∈ own :: sources, computation.stage ≤ later.stage ∧
            (⟨"lint.toml", 5, [6, 7]⟩ : Invalidation).Misses later := by
  obtain ⟨traffic, run, begun, held, _⟩ := layered_reuse layered_load rfl layered_lint
  obtain ⟨own, sources, listed, _, same, lineage, told⟩ :=
    run.no_stale (begun ▸ List.mem_singleton_self _) rfl held
  exact ⟨traffic, own, sources, run, listed, same, lineage, told⟩

/-- What is computed while an invalidation passes may have started before it, and what is
computed behind it may be built on an older outcome that it leaves alone. -/
theorem older_computations :
    (∃ traffic invalidation own, Traffic.Run layered layered.newTraffic traffic ∧
      invalidation ∈ traffic.calendar.invalidations ∧
      invalidation.swept.length = layered.registry.size ∧
      (traffic.scenes 0).shared.cache.slots.held? linting.fingerprint = some own.outcome ∧
      own.outcome.dependsOn invalidation.dependency = true ∧
      traffic.lineage 0 (traffic.current 0 linting.fingerprint) = [own] ∧
      own.started < invalidation.began) ∧
    ∃ traffic invalidation own source, Traffic.Run layered layered.newTraffic traffic ∧
      invalidation ∈ traffic.calendar.invalidations ∧
      invalidation.swept.length = layered.registry.size ∧
      (traffic.scenes 1).shared.cache.slots.held? linting.fingerprint = some own.outcome ∧
      own.outcome.dependsOn invalidation.dependency = true ∧
      traffic.lineage 1 (traffic.current 1 linting.fingerprint) = [own, source] ∧
      invalidation.began < own.started ∧ source.started < invalidation.began := by
  constructor
  · obtain ⟨traffic, run, begun, held, listed⟩ := layered_race layered_load
    exact ⟨traffic, _, _, run, begun ▸ List.mem_singleton_self _, rfl, held, rfl, listed,
      by decide⟩
  · obtain ⟨traffic, run, begun, held, listed⟩ := layered_reuse layered_load rfl layered_lint
    exact ⟨traffic, _, _, _, run, begun ▸ List.mem_singleton_self _, rfl, held, rfl, listed,
      by decide, by decide⟩

end Pipeline

end Cascade
