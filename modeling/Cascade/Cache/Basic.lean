import Cascade.Cache.Slots
import Cascade.Decimal.Binary64

/-!
# The cache of one stage

A cache has slots for the keys of its own stage that were ever asked to be
computed.  A slot is empty until an outcome is put into it and is never filled
twice; a failed computation leaves its slot empty.  A key of another stage is
never found, never stored, and computed afresh.

The operations are composed of single steps on the slots, `fetch`, `fill` and
`sweep`, between which other callers may take steps of their own.
-/

namespace Cascade

/-- The cache of a stage, with counts of the lookups that found an outcome, of
those that found none, and of the computations that were begun. -/
structure Cache where
  stage : String
  slots : Slots := []
  hits : Nat := 0
  misses : Nat := 0
  computations : Nat := 0
  distinct : slots.Distinct := by exact List.nodup_nil

/-- The figures of a cache. -/
structure Figures where
  stage : String
  entries : Nat
  hits : Nat
  misses : Nat
  computations : Nat
deriving DecidableEq

namespace Figures

/-- The share of lookups that found an outcome, as a double; zero if there were
none. -/
def hitRate (figures : Figures) : Decimal.Binary64 :=
  let lookups := figures.hits + figures.misses
  if lookups = 0 then .zero false
  else (Decimal.Binary64.ofRatio? false figures.hits lookups).getD (.zero false)

/-- The hit rate with six decimal places. -/
def hitRateText (figures : Figures) : String :=
  figures.hitRate.fixedText 6

end Figures

/-- What a caller finds at a key: an outcome, an empty slot, or no slot because
the key belongs to another stage. -/
inductive Fetched where
  | filled (outcome : Outcome)
  | vacant
  | foreign

namespace Cache

/-- An empty cache. -/
def empty (stage : String) : Cache :=
  { stage }

/-- Whether the key belongs to the stage of the cache. -/
def owns (cache : Cache) (key : Key) : Bool :=
  key.stage == cache.stage

/-- The outcome that the cache holds for a key. -/
def held? (cache : Cache) (key : Key) : Option Outcome :=
  if cache.owns key then cache.slots.held? key.fingerprint else none

/-- Counts a lookup that found an outcome. -/
def countHit (cache : Cache) : Cache :=
  { cache with hits := cache.hits + 1 }

/-- Counts a lookup that found none. -/
def countMiss (cache : Cache) : Cache :=
  { cache with misses := cache.misses + 1 }

/-- Counts a computation. -/
def countComputation (cache : Cache) : Cache :=
  { cache with computations := cache.computations + 1 }

/-- Looks up the outcome of a key and counts the lookup. -/
def get (cache : Cache) (key : Key) : Option Outcome × Cache :=
  match cache.held? key with
  | some outcome => (some outcome, cache.countHit)
  | none => (none, cache.countMiss)

/-- The cache with a slot for a fingerprint. -/
def ensure (cache : Cache) (fingerprint : Fingerprint) : Cache :=
  { cache with
    slots := cache.slots.ensure fingerprint
    distinct := cache.distinct.ensure fingerprint }

/-- Fetches the slot of a key, which is made if there is none.  Unless it is
filled, the caller is going to compute, and that is counted. -/
def fetch (cache : Cache) (key : Key) : Fetched × Cache :=
  if cache.owns key then
    match cache.held? key with
    | some outcome => (.filled outcome, cache.ensure key.fingerprint)
    | none => (.vacant, (cache.ensure key.fingerprint).countComputation)
  else (.foreign, cache.countComputation)

/-- Puts an outcome into the slot for a fingerprint and answers what the slot
holds then: the first outcome stays. -/
def fill (cache : Cache) (fingerprint : Fingerprint) (outcome : Outcome) : Outcome × Cache :=
  ((cache.slots.held? fingerprint).getD outcome,
    { cache with
      slots := cache.slots.fill fingerprint outcome
      distinct := cache.distinct.fill fingerprint outcome })

/-- Stores an outcome and answers what the cache holds then.  An outcome under a
key of another stage is handed straight back. -/
def set (cache : Cache) (key : Key) (outcome : Outcome) : Outcome × Cache :=
  if cache.owns key then cache.fill key.fingerprint outcome else (outcome, cache)

/-- The outcome of a key, computed if the cache holds none, and whether it was
computed. -/
def retrieve {ε : Type} (cache : Cache) (key : Key) (compute : Unit → Except ε Outcome) :
    Except ε (Outcome × Bool) × Cache :=
  match cache.fetch key with
  | (.filled outcome, cache) => (.ok (outcome, false), cache)
  | (.vacant, cache) =>
      match compute () with
      | .error failure => (.error failure, cache)
      | .ok outcome =>
          match cache.fill key.fingerprint outcome with
          | (held, cache) => (.ok (held, true), cache)
  | (.foreign, cache) =>
      match compute () with
      | .error failure => (.error failure, cache)
      | .ok outcome => (.ok (outcome, true), cache)

/-- The cache without the slot for a fingerprint. -/
def erase (cache : Cache) (fingerprint : Fingerprint) : Cache :=
  { cache with
    slots := cache.slots.erase fingerprint
    distinct := cache.distinct.erase fingerprint }

/-- Drops the slot of a key and answers the outcome that it held. -/
def remove (cache : Cache) (key : Key) : Option Outcome × Cache :=
  (cache.held? key, if cache.owns key then cache.erase key.fingerprint else cache)

/-- Drops the filled slots that `keep` rejects. -/
def sweep (cache : Cache) (keep : Fingerprint → Outcome → Bool) : Cache :=
  { cache with
    slots := cache.slots.sweep keep
    distinct := cache.distinct.sweep keep }

/-- The number of slots, filled or empty. -/
def slotCount (cache : Cache) : Nat :=
  cache.slots.length

/-- Drops the outcomes that `keep` rejects and answers by how many slots the
table shrank. -/
def retain (cache : Cache) (keep : Key → Outcome → Bool) : Nat × Cache :=
  let swept := cache.sweep fun fingerprint => keep (fingerprint.inStage cache.stage)
  (cache.slotCount - swept.slotCount, swept)

/-- Drops all slots. -/
def clear (cache : Cache) : Cache :=
  { cache with slots := [], distinct := List.nodup_nil }

/-- The number of outcomes that the cache holds. -/
def size (cache : Cache) : Nat :=
  cache.slots.filled

/-- The figures of the cache. -/
def figures (cache : Cache) : Figures :=
  ⟨cache.stage, cache.size, cache.hits, cache.misses, cache.computations⟩

/-! ## What is held -/

@[simp]
theorem held?_empty (stage : String) (key : Key) : (empty stage).held? key = none := by
  unfold held?
  split <;> rfl

@[simp]
theorem held?_clear (cache : Cache) (key : Key) : cache.clear.held? key = none := by
  unfold held?
  split <;> rfl

@[simp]
theorem held?_countComputation (cache : Cache) (key : Key) :
    cache.countComputation.held? key = cache.held? key :=
  rfl

@[simp]
theorem held?_ensure (cache : Cache) (fingerprint : Fingerprint) (key : Key) :
    (cache.ensure fingerprint).held? key = cache.held? key := by
  simp [held?, ensure, owns]

/-- A key of another stage is never found. -/
theorem held?_eq_none_of_not_owns {cache : Cache} {key : Key} (foreign : cache.owns key = false) :
    cache.held? key = none := by
  simp [held?, foreign]

theorem owns_inStage {cache : Cache} {stage : String} (named : cache.stage = stage)
    (fingerprint : Fingerprint) : cache.owns (fingerprint.inStage stage) = true := by
  simp [owns, Fingerprint.inStage, named]

theorem held?_inStage {cache : Cache} {stage : String} (named : cache.stage = stage)
    (fingerprint : Fingerprint) :
    cache.held? (fingerprint.inStage stage) = cache.slots.held? fingerprint := by
  rw [held?, if_pos (owns_inStage named fingerprint)]
  rfl

theorem get_of_held {cache : Cache} {key : Key} {outcome : Outcome}
    (held : cache.held? key = some outcome) : cache.get key = (some outcome, cache.countHit) := by
  rw [get, held]

theorem get_of_missing {cache : Cache} {key : Key} (missing : cache.held? key = none) :
    cache.get key = (none, cache.countMiss) := by
  rw [get, missing]

theorem fetch_of_missing {cache : Cache} {key : Key} (owned : cache.owns key = true)
    (missing : cache.held? key = none) :
    cache.fetch key = (.vacant, (cache.ensure key.fingerprint).countComputation) := by
  rw [fetch, if_pos owned, missing]

/-- Filling a slot adds an outcome only where none was held. -/
theorem held?_fill (cache : Cache) (fingerprint : Fingerprint) (outcome : Outcome) (key : Key) :
    (cache.fill fingerprint outcome).2.held? key =
      if cache.owns key ∧ key.fingerprint = fingerprint then
        some ((cache.slots.held? fingerprint).getD outcome)
      else cache.held? key := by
  by_cases owned : cache.owns key = true
  · have still : (cache.fill fingerprint outcome).2.owns key = true := owned
    unfold held?
    rw [if_pos owned, if_pos still]
    simp [fill, Slots.held?_fill, owned]
  · have still : ¬(cache.fill fingerprint outcome).2.owns key = true := owned
    unfold held?
    rw [if_neg owned, if_neg still]
    simp [owned]

/-- Dropping a slot forgets what it held, and nothing else. -/
theorem held?_remove (cache : Cache) (key other : Key) :
    (cache.remove key).2.held? other = if other = key then none else cache.held? other := by
  unfold remove
  by_cases owned : cache.owns key = true
  · rw [if_pos owned]
    by_cases otherOwned : cache.owns other = true
    · have still : (cache.erase key.fingerprint).owns other = true := otherOwned
      have stages : other.stage = key.stage := by
        have first : other.stage = cache.stage := by simpa [owns] using otherOwned
        have second : key.stage = cache.stage := by simpa [owns] using owned
        rw [first, second]
      unfold held?
      rw [if_pos otherOwned, if_pos still]
      simp only [erase, Slots.held?_erase]
      by_cases same : other.fingerprint = key.fingerprint
      · have equal : other = key := by
          cases other
          cases key
          simp_all
        rw [if_pos same, if_pos equal]
      · have different : other ≠ key := fun equal => same (equal ▸ rfl)
        rw [if_neg same, if_neg different]
    · have still : ¬(cache.erase key.fingerprint).owns other = true := otherOwned
      unfold held?
      rw [if_neg otherOwned, if_neg still]
      simp
  · rw [if_neg owned]
    by_cases same : other = key
    · rw [if_pos same, same]
      exact held?_eq_none_of_not_owns (by simpa using owned)
    · rw [if_neg same]

/-- Sweeping forgets exactly the outcomes that are rejected. -/
theorem held?_sweep (cache : Cache) (keep : Fingerprint → Outcome → Bool) (key : Key) :
    (cache.sweep keep).held? key = (cache.held? key).filter (keep key.fingerprint) := by
  by_cases owned : cache.owns key = true
  · have still : (cache.sweep keep).owns key = true := owned
    unfold held?
    rw [if_pos owned, if_pos still]
    exact Slots.held?_sweep cache.distinct keep key.fingerprint
  · have still : ¬(cache.sweep keep).owns key = true := owned
    unfold held?
    rw [if_neg owned, if_neg still]
    rfl

end Cache

end Cascade
