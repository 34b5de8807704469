import Cascade.Proofs.CacheMap
import Cascade.Proofs.Lookups
import Cascade.Proofs.SingleComputation
import Mathlib.Data.Finset.Card

/-!
# Invalidations

An invalidation drops the outcomes that depend on one dependency, in all stages, and
answers how many there were.  Empty slots, which it passes over, are not counted.
What it spares for a fingerprint are the first of the stages that were held, and a
request behind it resumes from the last of them.
-/

namespace Cascade

namespace Memory

/-! ## The places of outcomes -/

/-- The places of the outcomes in a list of caches that are wanted. -/
def placesIn (wanted : Outcome → Bool) : List Cache → List (Nat × Fingerprint)
  | [] => []
  | cache :: rest =>
      ((cache.slots.chosen fun _ => wanted).map fun slot => (0, slot.1)) ++
        (placesIn wanted rest).map fun place => (place.1 + 1, place.2)

theorem mem_placesIn (wanted : Outcome → Bool) (caches : List Cache) (index : Nat)
    (fingerprint : Fingerprint) :
    (index, fingerprint) ∈ placesIn wanted caches ↔
      (caches[index]?.bind fun cache => cache.slots.held? fingerprint).any wanted = true := by
  induction caches generalizing index with
  | nil => simp [placesIn]
  | cons cache rest inductionHypothesis =>
      rw [placesIn, List.mem_append]
      cases index with
      | zero =>
          have here := Slots.mem_keys_chosen cache.distinct (fun _ => wanted) fingerprint
          simpa using here
      | succ index => simpa using inductionHypothesis index

theorem nodup_placesIn (wanted : Outcome → Bool) (caches : List Cache) :
    (placesIn wanted caches).Nodup := by
  induction caches with
  | nil => exact List.nodup_nil
  | cons cache rest inductionHypothesis =>
      refine List.nodup_append.mpr ⟨?_, ?_, ?_⟩
      · have fingerprints := cache.distinct.chosen fun _ => wanted
        have places := fingerprints.map (Prod.mk_right_injective 0)
        rwa [List.map_map] at places
      · apply inductionHypothesis.map
        rintro ⟨first, fingerprint⟩ ⟨second, other⟩ same
        simpa using same
      · rintro _ here _ behind rfl
        obtain ⟨_, _, rfl⟩ := List.mem_map.mp here
        obtain ⟨_, _, later⟩ := List.mem_map.mp behind
        exact Nat.succ_ne_zero _ (congrArg Prod.fst later)

/-- What is dropped is counted by places, although tables of slots are compared. -/
theorem forgetIn_eq_length (dependency : String) (caches : List Cache) :
    (forgetIn dependency caches).1 =
      (placesIn (fun outcome => outcome.dependsOn dependency) caches).length := by
  induction caches with
  | nil => rfl
  | cons cache rest inductionHypothesis =>
      have here := Slots.length_sub_length_sweep cache.slots
        fun _ outcome => !outcome.dependsOn dependency
      simp only [Bool.not_not] at here
      rw [placesIn, List.length_append, List.length_map, List.length_map, ← here,
        ← inductionHypothesis]
      rfl

/-- The places at which an outcome is held that is wanted. -/
def places (memory : Memory) (wanted : Outcome → Bool) : Finset (Nat × Fingerprint) :=
  (placesIn wanted memory.caches).toFinset

theorem mem_places (memory : Memory) (wanted : Outcome → Bool) (index : Nat)
    (fingerprint : Fingerprint) :
    (index, fingerprint) ∈ memory.places wanted ↔
      (memory.held? index fingerprint).any wanted = true :=
  List.mem_toFinset.trans (mem_placesIn wanted memory.caches index fingerprint)

theorem forget_eq_card (memory : Memory) (dependency : String) :
    (memory.forget dependency).1 =
      (memory.places fun outcome => outcome.dependsOn dependency).card := by
  rw [places, List.toFinset_card_of_nodup (nodup_placesIn _ _)]
  exact forgetIn_eq_length dependency memory.caches

/-- What a second invalidation drops is what was not dropped by the first. -/
theorem places_forget (memory : Memory) (first second : String) :
    (memory.forget first).2.places (fun outcome => outcome.dependsOn second) =
      (memory.places fun outcome => outcome.dependsOn first || outcome.dependsOn second) \
        memory.places fun outcome => outcome.dependsOn first := by
  ext ⟨index, fingerprint⟩
  rw [Finset.mem_sdiff, mem_places, mem_places, mem_places, held?_forget]
  cases memory.held? index fingerprint with
  | none => simp
  | some outcome => cases depends : outcome.dependsOn first <;> simp [Option.filter, depends]

/-- Two invalidations drop what depends on either of the dependencies. -/
theorem forget_add_forget (memory : Memory) (first second : String) :
    (memory.forget first).1 + ((memory.forget first).2.forget second).1 =
      (memory.places fun outcome => outcome.dependsOn first || outcome.dependsOn second).card := by
  have included : (memory.places fun outcome => outcome.dependsOn first) ⊆
      memory.places fun outcome => outcome.dependsOn first || outcome.dependsOn second := by
    rintro ⟨index, fingerprint⟩
    rw [mem_places, mem_places]
    cases memory.held? index fingerprint with
    | none => exact id
    | some outcome => exact fun depends => Bool.or_eq_true_iff.mpr (.inl depends)
  rw [forget_eq_card, forget_eq_card, places_forget, Nat.add_comm]
  exact Finset.card_sdiff_add_card_eq_card included

theorem held?_forget_comm (memory : Memory) (first second : String) (index : Nat)
    (fingerprint : Fingerprint) :
    ((memory.forget first).2.forget second).2.held? index fingerprint =
      ((memory.forget second).2.forget first).2.held? index fingerprint := by
  rw [held?_forget, held?_forget, held?_forget, held?_forget, Option.filter_filter,
    Option.filter_filter]
  congr 1
  funext outcome
  exact Bool.and_comm _ _

theorem cache?_forget (memory : Memory) (dependency : String) (index : Nat) :
    (memory.forget dependency).2.cache? index = (memory.cache? index).map fun cache =>
      (cache.retain fun _ outcome => !outcome.dependsOn dependency).2 := by
  rw [cache?, caches_forget, List.getElem?_map]
  rfl

/-! ## What an invalidation does -/

/-- Exactly the outcomes that depend on the dependency are dropped, as many as
`count`, and no counter changes. -/
structure Drops (before after : Memory) (dependency : String) (count : Nat) : Prop where
  held : ∀ index fingerprint, after.held? index fingerprint =
    (before.held? index fingerprint).filter fun outcome => !outcome.dependsOn dependency
  counted : ∃ dropped : Finset (Nat × Fingerprint), dropped.card = count ∧
    ∀ index fingerprint, (index, fingerprint) ∈ dropped ↔ ∃ outcome,
      before.held? index fingerprint = some outcome ∧ outcome.dependsOn dependency = true
  counters : ∀ index,
    ((after.cache? index).map fun cache =>
      (cache.stage, cache.hits, cache.misses, cache.computations)) =
    (before.cache? index).map fun cache =>
      (cache.stage, cache.hits, cache.misses, cache.computations)

theorem drops_forget (memory : Memory) (dependency : String) :
    memory.Drops (memory.forget dependency).2 dependency (memory.forget dependency).1 where
  held := held?_forget memory dependency
  counted := by
    refine ⟨_, (memory.forget_eq_card dependency).symm, fun index fingerprint => ?_⟩
    rw [mem_places, Option.any_eq_true]
  counters := by
    intro index
    rw [cache?_forget, Option.map_map]
    rfl

/-- An invalidation that is repeated finds nothing more to drop. -/
theorem forget_forget (memory : Memory) (dependency : String) :
    ((memory.forget dependency).2.forget dependency).1 = 0 := by
  rw [forget_eq_card, places_forget]
  simp

end Memory

namespace Pipeline

variable {σ : Type} {pipeline : Pipeline σ} {session : Session σ}

/-! ## Requests behind an invalidation -/

/-- A pipeline without caching never holds anything. -/
theorem Reachable.vacant_of_disabled (reachable : pipeline.Reachable session)
    (disabled : pipeline.cacheEnabled = false) (index : Nat) (fingerprint : Fingerprint) :
    session.memory.held? index fingerprint = none := by
  revert index fingerprint
  apply reachable.induction
  · exact fun _ => Memory.held?_ofStages _
  · intro _ request _ index inRange session vacant
    rw [outcomeAt_of_disabled disabled]
    exact vacant
  · intro dependency session vacant index fingerprint
    refine (Memory.held?_forget _ _ _ _).trans ?_
    rw [vacant]
    rfl
  · exact fun _ _ => Memory.held?_clear _

/-- The request is resolved up to its target by reusing the given outcomes and running
the other stages on the way.  With caching on, exactly these begin a computation, once
each, and what is reused stays held. -/
structure Resumes (pipeline : Pipeline σ) (request : Request) (target : Fin pipeline.registry.size)
    (reused : Nat → Option Outcome) (before after : Session σ)
    (answer : Except Failure Outcome) : Prop where
  resumed : pipeline.resumeAt request reused target (pipeline.inRange target) before.state =
    (answer, after.state)
  computed : pipeline.cacheEnabled = true → ∀ index, ∃ count ≤ 1,
    after.memory.computations? index = (before.memory.computations? index).map (· + count) ∧
      (count = 1 ↔ index ≤ target ∧ reused index = none)
  kept : ∀ index outcome, reused index = some outcome →
    after.memory.held? index request.fingerprint = some outcome

/-- A request resumes from what is held for its fingerprint. -/
theorem Reachable.resumes (reachable : pipeline.Reachable session) {request : Request}
    {target : Fin pipeline.registry.size}
    (asked : pipeline.registry.target request.stage = .ok target) :
    pipeline.Resumes request target
      (fun index => session.memory.held? index request.fingerprint) session
      (pipeline.serve request session).2 (pipeline.serve request session).1 := by
  have inOrder := reachable.inOrder
  have vacant := reachable.vacant_of_disabled
  rw [serve_of_target asked]
  constructor
  · exact outcomeAt_eq_resumeAt inOrder.1 (fun disabled index => vacant disabled index _)
      (fun _ => rfl) target _
  · intro enabled index
    have resolves := outcomeAt_resolves request request.fingerprint enabled target.isLt inOrder.1
    refine ⟨_, Holdings.lacking_le_one _ _ _ _, resolves.computations? inOrder index, ?_⟩
    simp [Holdings.lacking]
  · intro index outcome held
    cases enabled : pipeline.cacheEnabled with
    | true =>
        exact (outcomeAt_resolves request request.fingerprint enabled target.isLt inOrder.1).keeps
          held
    | false => exact nomatch (vacant enabled index _).symm.trans held

/-- What is held for a fingerprint is held for the first stages, and what an
invalidation spares of it is held for the first of these. -/
theorem Reachable.spared_segment (reachable : pipeline.Reachable session) (dependency : String)
    (fingerprint : Fingerprint) :
    ∃ spared cached, spared ≤ cached ∧ cached ≤ pipeline.registry.size ∧ ∀ index,
      ((session.memory.held? index fingerprint).isSome ↔ index < cached) ∧
      (((session.forget dependency).2.memory.held? index fingerprint).isSome ↔
        index < spared) := by
  obtain ⟨cached, inRange, heldBefore⟩ := reachable.chain_closure.2.1 fingerprint
  have forgotten : pipeline.Reachable (session.forget dependency).2 := reachable.step (.forget _)
  obtain ⟨spared, _, heldBehind⟩ := forgotten.chain_closure.2.1 fingerprint
  refine ⟨spared, cached, ?_, inRange, fun index => ⟨heldBefore index, heldBehind index⟩⟩
  -- Otherwise a stage would be spared that was not held.
  rcases Nat.lt_or_ge cached spared with fewer | enough
  · obtain ⟨outcome, held⟩ := Option.isSome_iff_exists.mp ((heldBehind cached).mpr fewer)
    have heldHere := (Option.filter_eq_some_iff.mp
      ((Memory.held?_forget _ _ _ _).symm.trans held)).1
    exact absurd ((heldBefore cached).mp (heldHere ▸ rfl)) (Nat.lt_irrefl cached)
  · exact enough

/-- Whatever was performed before, an invalidation drops exactly the outcomes that
depend on its dependency, in all stages, and counts them.  For every fingerprint it
drops the last ones of the stages that were held, and a request behind it computes, of
the stages up to its target, exactly those that held nothing or whose outcome was
dropped.  A second one drops nothing, and two invalidations drop the same, and as many
in all, in either order. -/
theorem Reachable.forget_exact (reachable : pipeline.Reachable session) (dependency : String) :
    let dropped := session.forget dependency
    session.memory.Drops dropped.2.memory dependency dropped.1 ∧
    dropped.2.state = session.state ∧
    (∀ fingerprint, ∃ spared cached, spared ≤ cached ∧ cached ≤ pipeline.registry.size ∧
      ∀ index, ((session.memory.held? index fingerprint).isSome ↔ index < cached) ∧
        ((dropped.2.memory.held? index fingerprint).isSome ↔ index < spared)) ∧
    (∀ request target, pipeline.registry.target request.stage = .ok target →
      pipeline.Resumes request target
        (fun index => (session.memory.held? index request.fingerprint).filter fun outcome =>
          !outcome.dependsOn dependency)
        dropped.2 (pipeline.serve request dropped.2).2 (pipeline.serve request dropped.2).1) ∧
    (dropped.2.forget dependency).1 = 0 ∧
    ∀ other, dropped.1 + (dropped.2.forget other).1 =
        (session.forget other).1 + ((session.forget other).2.forget dependency).1 ∧
      ∀ index fingerprint, (dropped.2.forget other).2.memory.held? index fingerprint =
        ((session.forget other).2.forget dependency).2.memory.held? index fingerprint := by
  intro dropped
  have drops := session.memory.drops_forget dependency
  have reachableBehind : pipeline.Reachable dropped.2 := reachable.step (.forget dependency)
  refine ⟨drops, rfl, reachable.spared_segment dependency, ?_,
    session.memory.forget_forget dependency, fun other => ⟨?_, ?_⟩⟩
  · intro request target asked
    have spared : (fun index => dropped.2.memory.held? index request.fingerprint) =
        fun index => (session.memory.held? index request.fingerprint).filter fun outcome =>
          !outcome.dependsOn dependency :=
      funext fun index => drops.held index request.fingerprint
    rw [← spared]
    exact reachableBehind.resumes asked
  · have inThisOrder := session.memory.forget_add_forget dependency other
    have inTheOther := session.memory.forget_add_forget other dependency
    simp only [Bool.or_comm (Outcome.dependsOn _ other)] at inTheOther
    exact inThisOrder.trans inTheOther.symm
  · exact session.memory.held?_forget_comm dependency other

/-- An invalidation drops what the only stage of the sample pipeline has computed. -/
theorem based_forget :
    let session := (based.perform (.serve emptyProgram) (based.newSession ())).2
    let dropped := session.forget "base.toml"
    based.Reachable session ∧ 0 < dropped.1 ∧
      dropped.2.memory.held? 0 emptyProgram.fingerprint = none ∧
      (dropped.2.forget "base.toml").1 = 0 := by
  intro session dropped
  have reachable : based.Reachable session := (Reachable.start ()).step _
  have held : session.memory.held? 0 emptyProgram.fingerprint = some basedOutcome :=
    based_held (Memory.stages_ofStages _) (Memory.held?_ofStages _ 0 _)
  obtain ⟨drops, _, _, _, again, _⟩ := reachable.forget_exact "base.toml"
  obtain ⟨places, count, tells⟩ := drops.counted
  have place : (0, emptyProgram.fingerprint) ∈ places := (tells 0 _).mpr ⟨_, held, rfl⟩
  refine ⟨reachable, ?_, ?_, again⟩
  · rw [← count]
    exact Finset.card_pos.mpr ⟨_, place⟩
  · rw [drops.held, held]
    rfl

end Pipeline

end Cascade
