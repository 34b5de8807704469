import Cascade.Cache.Basic
import Cascade.Error
import Mathlib.Logic.Function.Basic

/-!
# A cache in the hands of many callers

A caller that computes an outcome holds on to the slot that it fetched.  Meanwhile
others may drop the slot from the table and make another one for the same
fingerprint.  So slots are told apart by how many slots for their fingerprint were
detached from the table before them, and what a detached slot holds is kept for those
who still hold it.

The steps here are the ones that `Cache.get`, `Cache.set`, `Cache.retrieve` and the
ways to drop slots are composed of.  Between them any other caller may take a step.
-/

namespace Cascade

/-- A slot, told by its fingerprint and by how many slots for this fingerprint were
detached before it was made. -/
structure Slot where
  fingerprint : Fingerprint
  generation : Nat
deriving DecidableEq

/-- A way to drop slots from the table of a cache. -/
inductive Drop where
  | remove (fingerprint : Fingerprint)
  | retain (keep : Key → Outcome → Bool)
  | clear

namespace Cache

/-- The cache behind a drop. -/
def drop (cache : Cache) : Drop → Cache
  | .remove fingerprint => (cache.remove (fingerprint.inStage cache.stage)).2
  | .retain keep => (cache.retain keep).2
  | .clear => cache.clear

/-- Whether the table has a slot for a fingerprint, be it filled or empty. -/
def hasSlot (cache : Cache) (fingerprint : Fingerprint) : Bool :=
  (cache.slots.lookup fingerprint).isSome

/-- A drop leaves a slot as it is or takes it out of the table. -/
theorem lookup_drop (cache : Cache) (how : Drop) (fingerprint : Fingerprint) :
    (cache.drop how).slots.lookup fingerprint = cache.slots.lookup fingerprint ∨
      (cache.drop how).slots.lookup fingerprint = none := by
  cases how with
  | remove given =>
      have owned : cache.owns (given.inStage cache.stage) = true := owns_inStage rfl given
      rw [drop, remove, if_pos owned]
      exact Slots.lookup_filter cache.distinct _ fingerprint
  | retain keep => exact Slots.lookup_filter cache.distinct _ fingerprint
  | clear => exact .inr rfl

end Cache

/-- A cache that callers share: the cache with its table, what the slots hold that were
detached from the table, in the order in which they were, and the slots that are being
computed. -/
structure Shared where
  cache : Cache
  detached : Fingerprint → List (Option Outcome) := fun _ => []
  running : Slot → Bool := fun _ => false

namespace Shared

/-- The slot for a fingerprint that the table has or would make. -/
def current (shared : Shared) (fingerprint : Fingerprint) : Slot :=
  ⟨fingerprint, (shared.detached fingerprint).length⟩

/-- The outcome that a slot holds, whether the slot is in the table or was detached. -/
def content (shared : Shared) (slot : Slot) : Option Outcome :=
  if slot.generation = (shared.detached slot.fingerprint).length then
    shared.cache.slots.held? slot.fingerprint
  else (shared.detached slot.fingerprint)[slot.generation]?.join

/-- Looks up the outcome for a fingerprint. -/
def look (shared : Shared) (fingerprint : Fingerprint) : Option Outcome × Shared :=
  let looked := shared.cache.get (fingerprint.inStage shared.cache.stage)
  (looked.1, { shared with cache := looked.2 })

/-- Fetches the slot for a fingerprint, which is made if the table has none. -/
def fetch (shared : Shared) (fingerprint : Fingerprint) : Slot × Shared :=
  (shared.current fingerprint, { shared with cache := shared.cache.ensure fingerprint })

/-- Begins a computation in a slot.  It is counted, unless the outcome is at hand. -/
def start (shared : Shared) (slot : Slot) (counted : Bool) : Shared :=
  { shared with
    cache := if counted then shared.cache.countComputation else shared.cache
    running := Function.update shared.running slot true }

/-- Puts an outcome into a slot. -/
def put (shared : Shared) (slot : Slot) (outcome : Outcome) : Shared :=
  if slot.generation = (shared.detached slot.fingerprint).length then
    { shared with cache := (shared.cache.fill slot.fingerprint outcome).2 }
  else
    { shared with
      detached := Function.update shared.detached slot.fingerprint
        ((shared.detached slot.fingerprint).set slot.generation (some outcome)) }

/-- Lets go of a slot that was being computed. -/
def halt (shared : Shared) (slot : Slot) : Shared :=
  { shared with running := Function.update shared.running slot false }

/-- Ends a computation in a slot.  A failure leaves nothing behind. -/
def finish (shared : Shared) (slot : Slot) : Except Failure Outcome → Shared
  | .ok outcome => (shared.put slot outcome).halt slot
  | .error _ => shared.halt slot

/-- Drops slots from the table.  Those who hold them keep them. -/
def drop (shared : Shared) (how : Drop) : Shared :=
  let cache := shared.cache.drop how
  { shared with
    cache
    detached := fun fingerprint =>
      if shared.cache.hasSlot fingerprint && !cache.hasSlot fingerprint then
        shared.detached fingerprint ++ [shared.cache.slots.held? fingerprint]
      else shared.detached fingerprint }

/-! ## What slots hold -/

variable (shared : Shared)

/-- The slot was fetched at some time, or would be next. -/
def Known (slot : Slot) : Prop :=
  slot.generation ≤ (shared.detached slot.fingerprint).length

@[simp]
theorem content_current (fingerprint : Fingerprint) :
    shared.content (shared.current fingerprint) = shared.cache.slots.held? fingerprint :=
  if_pos rfl

theorem look_eq (fingerprint : Fingerprint) :
    (shared.look fingerprint).1 = shared.cache.slots.held? fingerprint := by
  have held := @Cache.held?_inStage shared.cache _ rfl fingerprint
  unfold look
  cases found : shared.cache.held? (fingerprint.inStage shared.cache.stage) with
  | some outcome => rw [Cache.get_of_held found, ← held, found]
  | none => rw [Cache.get_of_missing found, ← held, found]

theorem slots_look (fingerprint : Fingerprint) :
    (shared.look fingerprint).2.cache.slots = shared.cache.slots := by
  unfold look Cache.get
  cases shared.cache.held? (fingerprint.inStage shared.cache.stage) <;> rfl

@[simp]
theorem content_look (fingerprint : Fingerprint) (slot : Slot) :
    (shared.look fingerprint).2.content slot = shared.content slot := by
  unfold content
  rw [slots_look]
  rfl

@[simp]
theorem content_fetch (fingerprint : Fingerprint) (slot : Slot) :
    (shared.fetch fingerprint).2.content slot = shared.content slot := by
  simp [content, fetch, Cache.ensure]

theorem content_fetched (fingerprint : Fingerprint) :
    (shared.fetch fingerprint).2.content (shared.fetch fingerprint).1 =
      shared.cache.slots.held? fingerprint :=
  (shared.content_fetch fingerprint _).trans (shared.content_current fingerprint)

@[simp]
theorem content_start (slot other : Slot) (counted : Bool) :
    (shared.start slot counted).content other = shared.content other := by
  cases counted <;> rfl

variable {shared}

theorem held?_of_content {fingerprint : Fingerprint} {slot : Slot} {outcome : Outcome}
    (current : shared.current fingerprint = slot) (filled : shared.content slot = some outcome) :
    shared.cache.slots.held? fingerprint = some outcome := by
  rw [← content_current, current, filled]

/-- Putting an outcome into an empty slot changes that slot alone. -/
theorem content_put {slot : Slot} (known : shared.Known slot) (vacant : shared.content slot = none)
    (outcome : Outcome) (other : Slot) :
    (shared.put slot outcome).content other =
      if other = slot then some outcome else shared.content other := by
  obtain ⟨fingerprint, generation⟩ := slot
  obtain ⟨given, place⟩ := other
  unfold put
  by_cases attached : generation = (shared.detached fingerprint).length
  · rw [if_pos attached]
    have vacantHere : shared.cache.slots.held? fingerprint = none := by
      rwa [content, if_pos attached] at vacant
    unfold content
    simp only [Cache.fill, Slots.held?_fill, Slot.mk.injEq, vacantHere, Option.getD_none]
    by_cases sameFingerprint : given = fingerprint
    · subst sameFingerprint
      by_cases samePlace : place = generation <;> simp [attached, samePlace]
      simp [← attached, samePlace]
    · simp [sameFingerprint]
  · have earlier : generation < (shared.detached fingerprint).length :=
      Nat.lt_of_le_of_ne known attached
    rw [if_neg attached]
    unfold content
    by_cases sameFingerprint : given = fingerprint
    · subst sameFingerprint
      simp only [Function.update_self, List.length_set, Slot.mk.injEq, true_and]
      by_cases samePlace : place = generation
      · subst samePlace
        simp [attached, earlier]
      · simp [samePlace, Ne.symm samePlace]
    · simp [sameFingerprint]

/-- The end of a computation in an empty slot leaves its outcome there, or nothing if it
failed. -/
theorem content_finish {slot : Slot} (known : shared.Known slot)
    (vacant : shared.content slot = none) (answer : Except Failure Outcome) (other : Slot) :
    (shared.finish slot answer).content other =
      if other = slot then answer.toOption else shared.content other := by
  cases answer with
  | ok outcome => exact content_put known vacant outcome other
  | error failure =>
      split
      next here => rw [here]; exact vacant
      next => rfl

theorem current_put (slot : Slot) (outcome : Outcome) (fingerprint : Fingerprint) :
    (shared.put slot outcome).current fingerprint = shared.current fingerprint := by
  unfold put
  split
  next => rfl
  next =>
    unfold current
    by_cases same : fingerprint = slot.fingerprint
    · subst same
      simp
    · simp [same]

/-- The end of a computation detaches no slot. -/
theorem current_finish (slot : Slot) (answer : Except Failure Outcome)
    (fingerprint : Fingerprint) :
    (shared.finish slot answer).current fingerprint = shared.current fingerprint := by
  cases answer with
  | ok outcome => exact current_put slot outcome fingerprint
  | error failure => rfl

/-- A drop that takes a slot out of the table keeps what it held. -/
theorem drop_of_gone {how : Drop} {fingerprint : Fingerprint}
    (gone : (shared.cache.hasSlot fingerprint && !(shared.cache.drop how).hasSlot fingerprint) =
      true) :
    (shared.drop how).detached fingerprint =
        shared.detached fingerprint ++ [shared.cache.slots.held? fingerprint] ∧
      (shared.drop how).cache.slots.held? fingerprint = none := by
  refine ⟨if_pos gone, ?_⟩
  obtain ⟨_, absent⟩ := (Bool.and_eq_true _ _).mp gone
  have missing : (shared.cache.drop how).slots.lookup fingerprint = none := by
    simpa [Cache.hasSlot] using absent
  exact congrArg Option.join missing

/-- A drop that takes no slot for a fingerprint out of the table leaves everything held for
it. -/
theorem drop_of_left {how : Drop} {fingerprint : Fingerprint}
    (left : ¬(shared.cache.hasSlot fingerprint && !(shared.cache.drop how).hasSlot fingerprint) =
      true) :
    (shared.drop how).detached fingerprint = shared.detached fingerprint ∧
      (shared.drop how).cache.slots.held? fingerprint =
        shared.cache.slots.held? fingerprint := by
  refine ⟨if_neg left, ?_⟩
  rcases shared.cache.lookup_drop how fingerprint with same | missing
  · exact congrArg Option.join same
  · cases before : shared.cache.slots.lookup fingerprint with
    | none => exact congrArg Option.join (missing.trans before.symm)
    | some _ =>
        apply absurd _ left
        rw [Cache.hasSlot, Cache.hasSlot, before, missing]
        rfl

/-- What a slot holds it holds behind a drop as well. -/
@[simp]
theorem content_drop (how : Drop) (slot : Slot) :
    (shared.drop how).content slot = shared.content slot := by
  obtain ⟨fingerprint, generation⟩ := slot
  unfold content
  by_cases gone : (shared.cache.hasSlot fingerprint &&
      !(shared.cache.drop how).hasSlot fingerprint) = true
  · obtain ⟨detached, missing⟩ := drop_of_gone gone
    simp only [detached, missing, List.length_append, List.length_singleton]
    rcases Nat.lt_trichotomy generation (shared.detached fingerprint).length with
      earlier | rfl | later
    · have notNext : generation ≠ (shared.detached fingerprint).length + 1 := by omega
      simp [notNext, Nat.ne_of_lt earlier, List.getElem?_append_left earlier]
    · simp
    · have beyond : (shared.detached fingerprint ++
          [shared.cache.slots.held? fingerprint]).length ≤ generation := by
        rw [List.length_append]
        exact later
      rw [List.getElem?_eq_none beyond, List.getElem?_eq_none (Nat.le_of_lt later),
        if_neg (Nat.ne_of_gt later)]
      exact ite_self none
  · obtain ⟨detached, held⟩ := drop_of_left gone
    simp only [detached, held]

/-- What the table holds behind a drop sits in the slot that held it before. -/
theorem current_drop {how : Drop} {fingerprint : Fingerprint} {outcome : Outcome}
    (filled : (shared.drop how).cache.slots.held? fingerprint = some outcome) :
    (shared.drop how).current fingerprint = shared.current fingerprint := by
  by_cases gone : (shared.cache.hasSlot fingerprint &&
      !(shared.cache.drop how).hasSlot fingerprint) = true
  · exact nomatch (drop_of_gone gone).2.symm.trans filled
  · rw [current, (drop_of_left gone).1]
    rfl

/-- What the table holds behind a sweep, the sweep was to keep. -/
theorem keep_of_held {keep : Key → Outcome → Bool} {fingerprint : Fingerprint} {outcome : Outcome}
    (filled : (shared.drop (.retain keep)).cache.slots.held? fingerprint = some outcome) :
    keep (fingerprint.inStage shared.cache.stage) outcome = true := by
  have swept := Slots.held?_sweep shared.cache.distinct
    (fun given => keep (given.inStage shared.cache.stage)) fingerprint
  obtain ⟨_, kept⟩ := Option.filter_eq_some_iff.mp (swept.symm.trans filled)
  exact kept

/-- A sweep leaves the slot for a fingerprint in the table if the slot is empty, or holds what
the sweep is to keep. -/
theorem current_retain {keep : Key → Outcome → Bool} {fingerprint : Fingerprint}
    (kept : ∀ outcome, shared.cache.slots.held? fingerprint = some outcome →
      keep (fingerprint.inStage shared.cache.stage) outcome = true) :
    (shared.drop (.retain keep)).current fingerprint = shared.current fingerprint := by
  by_cases gone : (shared.cache.hasSlot fingerprint &&
      !(shared.cache.drop (.retain keep)).hasSlot fingerprint) = true
  · obtain ⟨present, absent⟩ := (Bool.and_eq_true _ _).mp gone
    obtain ⟨found, listed⟩ := Option.isSome_iff_exists.mp present
    have stays : Slots.stays (fun given => keep (given.inStage shared.cache.stage))
        (fingerprint, found) = true := by
      cases found with
      | none => rfl
      | some outcome => exact kept outcome (congrArg Option.join listed)
    have member : (fingerprint, found) ∈ shared.cache.slots := by
      obtain ⟨before, behind, split, _⟩ := List.lookup_eq_some_iff.mp listed
      rw [split]
      exact List.mem_append_right _ List.mem_cons_self
    have still : (shared.cache.drop (.retain keep)).hasSlot fingerprint = true :=
      Slots.mem_keys_of_lookup_isSome
        (List.mem_map_of_mem (List.mem_filter.mpr ⟨member, stays⟩))
    rw [still] at absent
    exact nomatch absent
  · rw [current, (drop_of_left gone).1]
    rfl

/-! ## Running computations -/

theorem running_put (shared : Shared) (slot : Slot) (outcome : Outcome) :
    (shared.put slot outcome).running = shared.running := by
  unfold put
  split <;> rfl

theorem running_finish (shared : Shared) (slot : Slot) (answer : Except Failure Outcome) :
    (shared.finish slot answer).running = Function.update shared.running slot false := by
  cases answer with
  | ok outcome => rw [finish, halt, running_put]
  | error failure => rfl

/-! ## Known slots -/

theorem known_current (fingerprint : Fingerprint) : shared.Known (shared.current fingerprint) :=
  Nat.le_refl _

theorem Known.put {other : Slot} (known : shared.Known other) (slot : Slot) (outcome : Outcome) :
    (shared.put slot outcome).Known other := by
  unfold Shared.put
  split
  · exact known
  · by_cases same : other.fingerprint = slot.fingerprint
    · simpa [Known, same] using known
    · simpa [Known, same] using known

theorem Known.finish {other : Slot} (known : shared.Known other) (slot : Slot)
    (answer : Except Failure Outcome) : (shared.finish slot answer).Known other := by
  cases answer with
  | ok outcome => exact known.put slot outcome
  | error failure => exact known

theorem Known.drop {slot : Slot} (known : shared.Known slot) (how : Drop) :
    (shared.drop how).Known slot := by
  refine Nat.le_trans known ?_
  by_cases gone : (shared.cache.hasSlot slot.fingerprint &&
      !(shared.cache.drop how).hasSlot slot.fingerprint) = true
  · rw [(drop_of_gone gone).1, List.length_append]
    exact Nat.le_add_right _ _
  · exact Nat.le_of_eq (congrArg List.length (drop_of_left gone).1.symm)

/-! ## Filled slots -/

/-- How many slots for a fingerprint hold an outcome, in the table or detached. -/
def fillings (shared : Shared) (fingerprint : Fingerprint) : Nat :=
  (shared.detached fingerprint).countP Option.isSome +
    (shared.cache.slots.held? fingerprint).isSome.toNat

/-- At most one slot is in the table, and all others were detached. -/
theorem fillings_le (shared : Shared) (fingerprint : Fingerprint) :
    shared.fillings fingerprint ≤ (shared.detached fingerprint).length + 1 :=
  Nat.add_le_add List.countP_le_length (Bool.toNat_le _)

@[simp]
theorem fillings_look (shared : Shared) (given fingerprint : Fingerprint) :
    (shared.look given).2.fillings fingerprint = shared.fillings fingerprint := by
  rw [fillings, slots_look]
  rfl

@[simp]
theorem fillings_fetch (shared : Shared) (given fingerprint : Fingerprint) :
    (shared.fetch given).2.fillings fingerprint = shared.fillings fingerprint := by
  simp [fillings, fetch, Cache.ensure]

@[simp]
theorem fillings_start (shared : Shared) (slot : Slot) (counted : Bool)
    (fingerprint : Fingerprint) :
    (shared.start slot counted).fillings fingerprint = shared.fillings fingerprint := by
  cases counted <;> rfl

theorem fillings_put {slot : Slot} (known : shared.Known slot) (vacant : shared.content slot = none)
    (outcome : Outcome) (fingerprint : Fingerprint) :
    (shared.put slot outcome).fillings fingerprint =
      shared.fillings fingerprint + if fingerprint = slot.fingerprint then 1 else 0 := by
  obtain ⟨given, generation⟩ := slot
  unfold put
  by_cases attached : generation = (shared.detached given).length
  · have vacantHere : shared.cache.slots.held? given = none := by
      rwa [content, if_pos attached] at vacant
    rw [if_pos attached]
    unfold fillings
    simp only [Cache.fill, Slots.held?_fill, vacantHere, Option.getD_none]
    by_cases same : fingerprint = given
    · simp [same, vacantHere]
    · simp [same]
  · have earlier : generation < (shared.detached given).length :=
      Nat.lt_of_le_of_ne known attached
    have vacantThere : (shared.detached given)[generation].isSome = false := by
      rw [content, if_neg attached, List.getElem?_eq_getElem earlier] at vacant
      rw [show (shared.detached given)[generation] = none from vacant]
      rfl
    rw [if_neg attached]
    unfold fillings
    by_cases same : fingerprint = given
    · subst same
      simp only [Function.update_self, List.countP_set earlier, vacantThere]
      simp [Nat.add_right_comm]
    · simp [same]

theorem fillings_finish {slot : Slot} (known : shared.Known slot)
    (vacant : shared.content slot = none) (answer : Except Failure Outcome)
    (fingerprint : Fingerprint) :
    (shared.finish slot answer).fillings fingerprint =
      shared.fillings fingerprint +
        if answer.isOk ∧ fingerprint = slot.fingerprint then 1 else 0 := by
  cases answer with
  | ok outcome =>
      refine (fillings_put known vacant outcome fingerprint).trans ?_
      simp [Except.isOk, Except.toBool]
  | error failure => rfl

@[simp]
theorem fillings_drop (how : Drop) (fingerprint : Fingerprint) :
    (shared.drop how).fillings fingerprint = shared.fillings fingerprint := by
  unfold fillings
  by_cases gone : (shared.cache.hasSlot fingerprint &&
      !(shared.cache.drop how).hasSlot fingerprint) = true
  · obtain ⟨detached, missing⟩ := drop_of_gone gone
    rw [detached, missing, List.countP_append]
    cases shared.cache.slots.held? fingerprint <;> simp
  · obtain ⟨detached, held⟩ := drop_of_left gone
    rw [detached, held]

/-! ## Steps without an interruption -/

/-- A caller that no other caller interrupts retrieves an outcome step by step. -/
theorem retrieve_eq_steps (shared : Shared) (fingerprint : Fingerprint)
    (compute : Unit → Except Failure Outcome) :
    let slot := (shared.fetch fingerprint).1
    let fetched := (shared.fetch fingerprint).2
    shared.cache.retrieve (fingerprint.inStage shared.cache.stage) compute =
      match fetched.content slot with
      | some outcome => (.ok (outcome, false), fetched.cache)
      | none =>
          (match compute () with
            | .error failure => .error failure
            | .ok outcome => .ok (outcome, true),
            ((fetched.start slot true).finish slot (compute ())).cache) := by
  intro slot fetched
  have owned : shared.cache.owns (fingerprint.inStage shared.cache.stage) = true :=
    Cache.owns_inStage rfl fingerprint
  have held := @Cache.held?_inStage shared.cache _ rfl fingerprint
  rw [show fetched.content slot = shared.cache.slots.held? fingerprint from
    shared.content_fetched fingerprint]
  cases found : shared.cache.slots.held? fingerprint with
  | some outcome =>
      rw [found] at held
      simp only [Cache.retrieve, Cache.fetch, if_pos owned, held]
      rfl
  | none =>
      rw [found] at held
      rw [Cache.retrieve, Cache.fetch_of_missing owned held]
      have vacant : (shared.cache.slots.ensure fingerprint).held? fingerprint = none := by
        rw [Slots.held?_ensure, found]
      cases compute () with
      | error failure => rfl
      | ok outcome =>
          simp [finish, halt, put, start, fetched, slot, fetch, current, Cache.fill,
            Cache.countComputation, Cache.ensure, Fingerprint.inStage, vacant]

/-- So does it store an outcome that is at hand. -/
theorem set_eq_steps (shared : Shared) (fingerprint : Fingerprint) (outcome : Outcome) :
    let slot := (shared.fetch fingerprint).1
    let fetched := (shared.fetch fingerprint).2
    shared.cache.set (fingerprint.inStage shared.cache.stage) outcome =
      match fetched.content slot with
      | some held => (held, fetched.cache)
      | none => (outcome, ((fetched.start slot false).finish slot (.ok outcome)).cache) := by
  intro slot fetched
  have owned : shared.cache.owns (fingerprint.inStage shared.cache.stage) = true :=
    Cache.owns_inStage rfl fingerprint
  rw [show fetched.content slot = shared.cache.slots.held? fingerprint from
    shared.content_fetched fingerprint, Cache.set, if_pos owned]
  cases found : shared.cache.slots.held? fingerprint with
  | some held =>
      simp [Cache.fill, fetched, fetch, Cache.ensure, Fingerprint.inStage, found,
        Slots.fill_of_held found, Slots.ensure_of_held found]
  | none =>
      simp [finish, halt, put, start, fetched, slot, fetch, current, Cache.fill, Cache.ensure,
        Fingerprint.inStage, found, Slots.fill_ensure]

end Shared

end Cascade
