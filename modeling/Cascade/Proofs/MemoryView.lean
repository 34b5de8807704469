import Cascade.Memory

/-!
# What the caches of a pipeline hold

The caches are looked at through `Memory.held?`, the outcome that is held for a
fingerprint at the index of a stage.  A resolution changes the caches by hits,
misses and stores, and every change comes with a lemma that says what is held
behind it.
-/

namespace Cascade

namespace Memory

/-- The outcome that the cache of the stage at an index holds for a
fingerprint. -/
def held? (memory : Memory) (index : Nat) (fingerprint : Fingerprint) : Option Outcome :=
  (memory.cache? index).bind fun cache => cache.slots.held? fingerprint

/-- The stages of the caches in order. -/
def stages (memory : Memory) : List String :=
  memory.caches.map Cache.stage

/-- The caches with the one at an index changed. -/
def change (memory : Memory) (index : Nat) (act : Cache → Cache) : Memory :=
  match memory.cache? index with
  | none => memory
  | some cache => memory.setCache index (act cache)

/-- A lookup at the stage at an index that found an outcome. -/
def hit (memory : Memory) (index : Nat) : Memory :=
  memory.change index Cache.countHit

/-- A lookup at the stage at an index that found none, and the beginning of a
computation in a slot for the fingerprint. -/
def miss (memory : Memory) (index : Nat) (fingerprint : Fingerprint) : Memory :=
  memory.change index fun cache => (cache.countMiss.ensure fingerprint).countComputation

/-- The end of a computation for the stage at an index. -/
def store (memory : Memory) (index : Nat) (fingerprint : Fingerprint) (outcome : Outcome) :
    Memory :=
  memory.change index fun cache => (cache.fill fingerprint outcome).2

theorem lt_of_held {memory : Memory} {index : Nat} {fingerprint : Fingerprint}
    {outcome : Outcome} (held : memory.held? index fingerprint = some outcome) :
    index < memory.stages.length := by
  rcases Option.bind_eq_some_iff.mp held with ⟨cache, present, _⟩
  rw [stages, List.length_map]
  exact (List.getElem?_eq_some_iff.mp present).1

/-! ## Changes of one cache -/

theorem cache?_setCache (memory : Memory) (index other : Nat) (cache : Cache) :
    (memory.setCache index cache).cache? other =
      if other = index then (memory.cache? index).map fun _ => cache
      else memory.cache? other := by
  unfold cache? setCache
  rw [List.getElem?_set]
  by_cases here : index = other
  · subst here
    by_cases inRange : index < memory.caches.length
    · simp [inRange]
    · simp [inRange]
  · rw [if_neg here, if_neg (Ne.symm here)]

theorem change_of_cache? {memory : Memory} {index : Nat} {cache : Cache}
    (present : memory.cache? index = some cache) (act : Cache → Cache) :
    memory.change index act = memory.setCache index (act cache) := by
  rw [change, present]

theorem cache?_change (memory : Memory) (index other : Nat) (act : Cache → Cache) :
    (memory.change index act).cache? other =
      if other = index then (memory.cache? index).map act else memory.cache? other := by
  cases present : memory.cache? index with
  | none =>
      rw [change, present]
      by_cases here : other = index
      · rw [if_pos here, here, present]
        rfl
      · rw [if_neg here]
  | some cache =>
      rw [change_of_cache? present, cache?_setCache, present]
      rfl

theorem cache?_change_of_ne {memory : Memory} {index other : Nat} (elsewhere : other ≠ index)
    (act : Cache → Cache) : (memory.change index act).cache? other = memory.cache? other := by
  rw [cache?_change, if_neg elsewhere]

theorem cache?_hit_of_ne {memory : Memory} {index other : Nat} (elsewhere : other ≠ index) :
    (memory.hit index).cache? other = memory.cache? other :=
  cache?_change_of_ne elsewhere _

theorem cache?_miss_of_ne {memory : Memory} {index other : Nat} {fingerprint : Fingerprint}
    (elsewhere : other ≠ index) :
    (memory.miss index fingerprint).cache? other = memory.cache? other :=
  cache?_change_of_ne elsewhere _

theorem cache?_store_of_ne {memory : Memory} {index other : Nat} {fingerprint : Fingerprint}
    {outcome : Outcome} (elsewhere : other ≠ index) :
    (memory.store index fingerprint outcome).cache? other = memory.cache? other :=
  cache?_change_of_ne elsewhere _

/-- A change that keeps the stages of caches keeps the stages of all caches. -/
theorem stages_change (act : Cache → Cache) (keeps : ∀ cache, (act cache).stage = cache.stage)
    (memory : Memory) (index : Nat) : (memory.change index act).stages = memory.stages := by
  cases present : memory.cache? index with
  | none => rw [change, present]
  | some cache =>
      rw [change_of_cache? present]
      apply List.ext_getElem?
      intro other
      have same := cache?_setCache memory index other (act cache)
      unfold cache? at same present
      rw [stages, stages, List.getElem?_map, List.getElem?_map, same, present]
      by_cases here : other = index
      · rw [if_pos here, here, present]
        simp [keeps]
      · rw [if_neg here]

/-- A change that keeps what a cache holds keeps what is held. -/
theorem held?_change (act : Cache → Cache)
    (keeps : ∀ cache fingerprint, (act cache).slots.held? fingerprint =
      cache.slots.held? fingerprint)
    (memory : Memory) (index other : Nat) (fingerprint : Fingerprint) :
    (memory.change index act).held? other fingerprint = memory.held? other fingerprint := by
  rw [held?, held?, cache?_change]
  by_cases here : other = index
  · rw [if_pos here, here]
    cases memory.cache? index with
    | none => rfl
    | some cache => exact keeps cache fingerprint
  · rw [if_neg here]

@[simp]
theorem held?_hit (memory : Memory) (index other : Nat) (fingerprint : Fingerprint) :
    (memory.hit index).held? other fingerprint = memory.held? other fingerprint :=
  held?_change Cache.countHit (fun _ _ => rfl) memory index other fingerprint

@[simp]
theorem held?_miss (memory : Memory) (index other : Nat) (given fingerprint : Fingerprint) :
    (memory.miss index given).held? other fingerprint = memory.held? other fingerprint :=
  held?_change _ (fun cache => Slots.held?_ensure cache.slots given) memory index other fingerprint

theorem held?_store_of_ne {memory : Memory} {index other : Nat} {given fingerprint : Fingerprint}
    (outcome : Outcome) (elsewhere : other ≠ index ∨ fingerprint ≠ given) :
    (memory.store index given outcome).held? other fingerprint =
      memory.held? other fingerprint := by
  rw [held?, held?, store, cache?_change]
  by_cases here : other = index
  · have different : fingerprint ≠ given := elsewhere.resolve_left (not_not_intro here)
    rw [if_pos here, here]
    cases memory.cache? index with
    | none => rfl
    | some cache =>
        exact (Slots.held?_fill cache.slots given fingerprint outcome).trans (if_neg different)
  · rw [if_neg here]

theorem held?_store_self {memory : Memory} {index : Nat} {fingerprint : Fingerprint}
    (present : index < memory.stages.length) (vacant : memory.held? index fingerprint = none)
    (outcome : Outcome) :
    (memory.store index fingerprint outcome).held? index fingerprint = some outcome := by
  obtain ⟨cache, found⟩ : ∃ cache, memory.cache? index = some cache := by
    rw [stages, List.length_map] at present
    exact ⟨_, List.getElem?_eq_getElem present⟩
  rw [held?, found] at vacant
  rw [held?, store, cache?_change, if_pos rfl, found]
  have vacantSlot : cache.slots.held? fingerprint = none := vacant
  have filled := Slots.held?_fill_self cache.slots fingerprint outcome
  rw [vacantSlot] at filled
  exact filled

@[simp]
theorem stages_hit (memory : Memory) (index : Nat) : (memory.hit index).stages = memory.stages := by
  rw [hit, stages_change]
  exact fun _ => rfl

@[simp]
theorem stages_miss (memory : Memory) (index : Nat) (fingerprint : Fingerprint) :
    (memory.miss index fingerprint).stages = memory.stages := by
  rw [miss, stages_change]
  exact fun _ => rfl

@[simp]
theorem stages_store (memory : Memory) (index : Nat) (fingerprint : Fingerprint)
    (outcome : Outcome) : (memory.store index fingerprint outcome).stages = memory.stages := by
  rw [store, stages_change]
  exact fun _ => rfl

/-- What is held is not replaced when an outcome is stored. -/
theorem held?_store_of_held {memory : Memory} {index other : Nat} {given fingerprint : Fingerprint}
    {outcome : Outcome} (stored : Outcome) (missing : memory.held? index given = none)
    (held : memory.held? other fingerprint = some outcome) :
    (memory.store index given stored).held? other fingerprint = some outcome := by
  rw [held?_store_of_ne stored, held]
  by_cases here : other = index
  · right
    intro same
    rw [here, same, missing] at held
    exact nomatch held
  · exact .inl here

/-- What is held behind a store was held before or is the stored outcome. -/
theorem held_or_stored {memory : Memory} {index other : Nat} {given fingerprint : Fingerprint}
    {stored outcome : Outcome} (missing : memory.held? index given = none)
    (held : (memory.store index given stored).held? other fingerprint = some outcome) :
    memory.held? other fingerprint = some outcome ∨
      other = index ∧ fingerprint = given ∧ outcome = stored := by
  by_cases here : other = index ∧ fingerprint = given
  · obtain ⟨sameIndex, sameFingerprint⟩ := here
    subst sameIndex sameFingerprint
    have inCaches : other < memory.stages.length := by
      rw [← stages_store memory other fingerprint stored]
      exact lt_of_held held
    rw [held?_store_self inCaches missing] at held
    exact .inr ⟨rfl, rfl, (Option.some.inj held).symm⟩
  · rw [held?_store_of_ne stored (Decidable.not_and_iff_not_or_not.mp here)] at held
    exact .inl held

/-! ## Changes of all caches -/

theorem forgetIn_eq (dependency : String) (caches : List Cache) :
    (forgetIn dependency caches).2 =
      caches.map fun cache => (cache.retain fun _ outcome => !outcome.dependsOn dependency).2 := by
  induction caches with
  | nil => rfl
  | cons cache rest inductionHypothesis =>
      rw [List.map_cons, ← inductionHypothesis]
      rfl

theorem caches_forget (memory : Memory) (dependency : String) :
    (memory.forget dependency).2.caches = memory.caches.map fun cache =>
      (cache.retain fun _ outcome => !outcome.dependsOn dependency).2 :=
  forgetIn_eq dependency memory.caches

/-- Outcomes are forgotten exactly if they depend on the dependency. -/
theorem held?_forget (memory : Memory) (dependency : String) (index : Nat)
    (fingerprint : Fingerprint) :
    (memory.forget dependency).2.held? index fingerprint =
      (memory.held? index fingerprint).filter fun outcome => !outcome.dependsOn dependency := by
  unfold held? cache?
  rw [caches_forget, List.getElem?_map]
  cases memory.caches[index]? with
  | none => rfl
  | some cache => exact Slots.held?_sweep cache.distinct _ fingerprint

@[simp]
theorem stages_forget (memory : Memory) (dependency : String) :
    (memory.forget dependency).2.stages = memory.stages := by
  rw [stages, caches_forget, List.map_map]
  rfl

@[simp]
theorem held?_clear (memory : Memory) (index : Nat) (fingerprint : Fingerprint) :
    memory.clear.held? index fingerprint = none := by
  unfold held? cache? clear
  rw [List.getElem?_map]
  cases memory.caches[index]? <;> rfl

@[simp]
theorem stages_clear (memory : Memory) : memory.clear.stages = memory.stages := by
  rw [stages, clear, List.map_map]
  rfl

@[simp]
theorem held?_ofStages (stages : List String) (index : Nat) (fingerprint : Fingerprint) :
    (ofStages stages).held? index fingerprint = none := by
  unfold held? cache? ofStages
  rw [List.getElem?_map]
  cases stages[index]? <;> rfl

@[simp]
theorem stages_ofStages (names : List String) : (ofStages names).stages = names := by
  rw [stages, ofStages, List.map_map]
  exact List.map_id names

/-! ## Properties of everything that is held -/

/-- Everything that is held has a property. -/
def Every (memory : Memory) (good : Nat → Fingerprint → Outcome → Prop) : Prop :=
  ∀ index fingerprint outcome, memory.held? index fingerprint = some outcome →
    good index fingerprint outcome

variable {memory : Memory} {good : Nat → Fingerprint → Outcome → Prop}

theorem every_of_empty
    (empty : ∀ index fingerprint, memory.held? index fingerprint = none) : memory.Every good :=
  fun index fingerprint _ held => nomatch (empty index fingerprint).symm.trans held

namespace Every

/-- Caches that hold the same have the same properties. -/
theorem congr (every : memory.Every good) {other : Memory}
    (same : ∀ index fingerprint, other.held? index fingerprint = memory.held? index fingerprint) :
    other.Every good := by
  intro index fingerprint outcome held
  rw [same] at held
  exact every index fingerprint outcome held

theorem hit (every : memory.Every good) (index : Nat) : (memory.hit index).Every good :=
  every.congr (held?_hit memory index)

theorem miss (every : memory.Every good) (index : Nat) (fingerprint : Fingerprint) :
    (memory.miss index fingerprint).Every good :=
  every.congr fun other => held?_miss memory index other fingerprint

theorem store (every : memory.Every good) {index : Nat} {fingerprint : Fingerprint}
    {stored : Outcome} (missing : memory.held? index fingerprint = none)
    (goodStored : good index fingerprint stored) :
    (memory.store index fingerprint stored).Every good := by
  intro other given outcome held
  rcases held_or_stored missing held with before | ⟨rfl, rfl, rfl⟩
  · exact every other given outcome before
  · exact goodStored

theorem forget (every : memory.Every good) (dependency : String) :
    (memory.forget dependency).2.Every good := by
  intro index fingerprint outcome held
  rw [held?_forget] at held
  exact every index fingerprint outcome (Option.filter_eq_some_iff.mp held).1

end Every

end Memory

end Cascade
