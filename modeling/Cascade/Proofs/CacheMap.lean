import Cascade.Cache.Basic
import Cascade.Error
import Mathlib.Data.Finset.Card
import Mathlib.Data.Finset.Image

/-!
# A cache as a partial map

A cache keeps slots, and some of them are empty: failed computations leave them
behind, and invalidations pass over them.  None of this shows.  Along every
sequence of operations a cache answers like a finite partial map from the keys of
its stage to outcomes, to which an outcome is added only under a new key, and its
counters tell how many of the answers were hits, misses and computations.
-/

namespace Cascade

/-! ## Counting slots -/

namespace Slots

/-- The slots with an outcome that is wanted. -/
def chosen (slots : Slots) (wanted : Fingerprint → Outcome → Bool) : Slots :=
  slots.filter fun slot => slot.2.any (wanted slot.1)

theorem mem_keys_chosen {slots : Slots} (distinct : slots.Distinct)
    (wanted : Fingerprint → Outcome → Bool) (fingerprint : Fingerprint) :
    fingerprint ∈ (slots.chosen wanted).map Prod.fst ↔
      (slots.held? fingerprint).any (wanted fingerprint) = true := by
  induction slots with
  | nil => simp [chosen]
  | cons slot rest inductionHypothesis =>
      rcases List.nodup_cons.mp distinct with ⟨fresh, distinctBehind⟩
      have behind := inductionHypothesis distinctBehind
      rw [held?_cons]
      by_cases here : slot.1 = fingerprint
      · have notBehind : fingerprint ∉ (chosen rest wanted).map Prod.fst := by
          intro member
          apply fresh
          rw [here]
          exact (List.filter_sublist.map Prod.fst).subset member
        rw [if_pos here, chosen, List.filter_cons, here]
        by_cases taken : slot.2.any (wanted fingerprint) = true
        · simp [taken, here]
        · rw [if_neg taken]
          exact ⟨fun member => absurd member notBehind, fun found => absurd found taken⟩
      · rw [if_neg here, ← behind, chosen, chosen, List.filter_cons]
        split
        · simp [Ne.symm here]
        · rfl

theorem Distinct.chosen {slots : Slots} (distinct : slots.Distinct)
    (wanted : Fingerprint → Outcome → Bool) : (slots.chosen wanted).Distinct :=
  distinct.sublist (List.filter_sublist.map Prod.fst)

theorem filled_eq_length_chosen (slots : Slots) :
    slots.filled = (slots.chosen fun _ _ => true).length := by
  have same : (fun slot : Fingerprint × Option Outcome => slot.2.any fun _ => true) =
      fun slot => slot.2.isSome := by
    funext slot
    cases slot.2 <;> rfl
  rw [filled, List.countP_eq_length_filter, chosen, same]

/-- Sweeping shrinks the table by the filled slots that are rejected. -/
theorem length_sub_length_sweep (slots : Slots) (keep : Fingerprint → Outcome → Bool) :
    slots.length - (slots.sweep keep).length =
      (slots.chosen fun fingerprint outcome => !keep fingerprint outcome).length := by
  have rejected : (fun slot => !stays keep slot) =
      fun slot => slot.2.any fun outcome => !keep slot.1 outcome := by
    funext slot
    cases filling : slot.2 <;> simp [stays, filling]
  have parts := List.length_eq_length_filter_add (l := slots) (stays keep)
  rw [rejected] at parts
  rw [sweep, chosen]
  omega

end Slots

namespace Cache

/-- Keys that tell the wanted outcomes of a cache are as many as its slots with a
wanted outcome. -/
theorem card_eq_length_chosen (cache : Cache) (wanted : Key → Outcome → Bool)
    {keys : Finset Key}
    (tells : ∀ key, key ∈ keys ↔ (cache.held? key).any (wanted key) = true) :
    keys.card = (cache.slots.chosen fun fingerprint =>
      wanted (fingerprint.inStage cache.stage)).length := by
  let wantedHere : Fingerprint → Outcome → Bool := fun fingerprint =>
    wanted (fingerprint.inStage cache.stage)
  let fingerprints := (cache.slots.chosen wantedHere).map Prod.fst
  have inStage_injective : Function.Injective fun fingerprint : Fingerprint =>
      fingerprint.inStage cache.stage := fun _ _ same => congrArg Key.fingerprint same
  have nodup : (fingerprints.map fun fingerprint => fingerprint.inStage cache.stage).Nodup :=
    (cache.distinct.chosen wantedHere).map inStage_injective
  -- A key that is held belongs to this stage, and its fingerprint has one slot.
  have same : keys =
      (fingerprints.map fun fingerprint => fingerprint.inStage cache.stage).toFinset := by
    ext key
    rw [tells, List.mem_toFinset, List.mem_map]
    constructor
    · intro found
      by_cases owned : cache.owns key = true
      · have named : key.stage = cache.stage := by simpa [owns] using owned
        have sameKey : key.fingerprint.inStage cache.stage = key := by
          rw [Fingerprint.inStage, ← named]
        refine ⟨key.fingerprint, ?_, sameKey⟩
        apply (Slots.mem_keys_chosen cache.distinct wantedHere key.fingerprint).mpr
        rw [← held?_inStage rfl]
        simpa [wantedHere, sameKey] using found
      · rw [held?_eq_none_of_not_owns (by simpa using owned)] at found
        simp at found
    · rintro ⟨fingerprint, member, rfl⟩
      rw [held?_inStage rfl]
      exact (Slots.mem_keys_chosen cache.distinct wantedHere fingerprint).mp member
  rw [same, List.toFinset_card_of_nodup nodup, List.length_map, List.length_map]

end Cache

/-! ## Partial maps -/

/-- A partial map from keys to outcomes with finitely many entries. -/
structure OutcomeMap where
  keys : Finset Key
  at? : Key → Option Outcome
  mem_keys : ∀ key, key ∈ keys ↔ (at? key).isSome = true

namespace OutcomeMap

/-- The map without entries. -/
def empty : OutcomeMap :=
  ⟨∅, fun _ => none, by simp⟩

/-- The map with an outcome under a key, unless there is one already. -/
def add (map : OutcomeMap) (key : Key) (outcome : Outcome) : OutcomeMap where
  keys := insert key map.keys
  at? other := if other = key then some ((map.at? key).getD outcome) else map.at? other
  mem_keys other := by
    by_cases same : other = key
    · simp [same]
    · simp [same, map.mem_keys]

/-- The map without the entry of a key. -/
def erase (map : OutcomeMap) (key : Key) : OutcomeMap where
  keys := map.keys.erase key
  at? other := if other = key then none else map.at? other
  mem_keys other := by
    by_cases same : other = key
    · simp [same]
    · simp [same, map.mem_keys]

/-- The keys whose outcomes are wanted. -/
def keysOf (map : OutcomeMap) (wanted : Key → Outcome → Bool) : Finset Key :=
  map.keys.filter fun key => (map.at? key).any (wanted key) = true

theorem mem_keysOf (map : OutcomeMap) (wanted : Key → Outcome → Bool) (key : Key) :
    key ∈ map.keysOf wanted ↔ (map.at? key).any (wanted key) = true := by
  rw [keysOf, Finset.mem_filter, map.mem_keys]
  cases map.at? key <;> simp

/-- The map without the entries that `keep` rejects. -/
def filter (map : OutcomeMap) (keep : Key → Outcome → Bool) : OutcomeMap where
  keys := map.keysOf keep
  at? key := (map.at? key).filter (keep key)
  mem_keys key := by
    rw [mem_keysOf]
    cases map.at? key with
    | none => rfl
    | some outcome => cases keep key outcome <;> simp [Option.filter, *]

/-- The number of entries. -/
def size (map : OutcomeMap) : Nat :=
  map.keys.card

theorem at?_add (map : OutcomeMap) (key other : Key) (outcome : Outcome) :
    (map.add key outcome).at? other =
      if other = key then some ((map.at? key).getD outcome) else map.at? other :=
  rfl

theorem at?_erase (map : OutcomeMap) (key other : Key) :
    (map.erase key).at? other = if other = key then none else map.at? other :=
  rfl

theorem at?_filter (map : OutcomeMap) (keep : Key → Outcome → Bool) (key : Key) :
    (map.filter keep).at? key = (map.at? key).filter (keep key) :=
  rfl

end OutcomeMap

/-! ## Operations -/

namespace Cache

/-- An operation on a cache.  A retrieval comes with what its computation would
answer. -/
inductive Operation where
  | get (key : Key)
  | set (key : Key) (outcome : Outcome)
  | retrieve (key : Key) (computed : Except Failure Outcome)
  | remove (key : Key)
  | retain (keep : Key → Outcome → Bool)
  | clear
  | size

/-- What an operation answers.  A retrieval also tells whether it computed. -/
inductive Answer where
  | found (outcome : Option Outcome)
  | held (outcome : Outcome)
  | retrieved (answer : Except Failure (Outcome × Bool))
  | removed (outcome : Option Outcome)
  | dropped (count : Nat)
  | cleared
  | counted (count : Nat)

/-- Whether the operation is a lookup. -/
def Operation.isGet : Operation → Bool
  | get _ => true
  | _ => false

namespace Answer

/-- Whether a lookup found an outcome. -/
def isHit : Answer → Bool
  | found (some _) => true
  | _ => false

/-- Whether a lookup found none. -/
def isMiss : Answer → Bool
  | found none => true
  | _ => false

/-- Whether a retrieval ran its computation, be it that it failed. -/
def isComputation : Answer → Bool
  | retrieved (.ok (_, computed)) => computed
  | retrieved (.error _) => true
  | _ => false

end Answer

/-- Performs an operation. -/
def perform (cache : Cache) (operation : Operation) : Answer × Cache :=
  match operation with
  | .get key => (cache.get key).map .found id
  | .set key outcome => (cache.set key outcome).map .held id
  | .retrieve key computed => (cache.retrieve key fun _ => computed).map .retrieved id
  | .remove key => (cache.remove key).map .removed id
  | .retain keep => (cache.retain keep).map .dropped id
  | .clear => (.cleared, cache.clear)
  | .size => (.counted cache.size, cache)

/-- Performs operations one after another. -/
def performAll (cache : Cache) : List Operation → List Answer × Cache
  | [] => ([], cache)
  | operation :: rest =>
      let performed := cache.perform operation
      let others := performed.2.performAll rest
      (performed.1 :: others.1, others.2)

end Cache

namespace OutcomeMap

open Cache (Operation Answer)

/-- Performs an operation on the map of a stage.  Only keys of the stage are added,
and only under a new key; a failed computation changes nothing. -/
def perform (map : OutcomeMap) (stage : String) (operation : Operation) : Answer × OutcomeMap :=
  match operation with
  | .get key => (.found (map.at? key), map)
  | .set key outcome =>
      if key.stage = stage then (.held ((map.at? key).getD outcome), map.add key outcome)
      else (.held outcome, map)
  | .retrieve key computed =>
      match map.at? key with
      | some outcome => (.retrieved (.ok (outcome, false)), map)
      | none =>
          match computed with
          | .error failure => (.retrieved (.error failure), map)
          | .ok outcome =>
              (.retrieved (.ok (outcome, true)),
                if key.stage = stage then map.add key outcome else map)
  | .remove key => (.removed (map.at? key), map.erase key)
  | .retain keep =>
      (.dropped (map.keysOf fun key outcome => !keep key outcome).card, map.filter keep)
  | .clear => (.cleared, empty)
  | .size => (.counted map.size, map)

/-- Performs operations one after another. -/
def performAll (map : OutcomeMap) (stage : String) : List Operation → List Answer × OutcomeMap
  | [] => ([], map)
  | operation :: rest =>
      let performed := map.perform stage operation
      let others := performed.2.performAll stage rest
      (performed.1 :: others.1, others.2)

end OutcomeMap

/-! ## One operation -/

namespace Cache

/-- The map has the entries that the cache holds. -/
def Shows (cache : Cache) (map : OutcomeMap) : Prop :=
  ∀ key, map.at? key = cache.held? key

variable {cache : Cache} {map : OutcomeMap}

theorem stage_eq_of_owns {key : Key} (owned : cache.owns key = true) : key.stage = cache.stage := by
  simpa [owns] using owned

theorem stage_ne_of_not_owns {key : Key} (foreign : cache.owns key = false) :
    key.stage ≠ cache.stage := by
  simpa [owns] using foreign

theorem eq_iff_of_owns {key other : Key} (owned : cache.owns key = true) :
    (cache.owns other = true ∧ other.fingerprint = key.fingerprint) ↔ other = key := by
  constructor
  · rintro ⟨otherOwned, sameFingerprint⟩
    have sameStage := (stage_eq_of_owns otherOwned).trans (stage_eq_of_owns owned).symm
    cases other
    cases key
    simp_all
  · rintro rfl
    exact ⟨owned, rfl⟩

/-- The cache in which a retrieval begins to compute; a key of another stage gets
no slot. -/
def begin (cache : Cache) (key : Key) : Cache :=
  if cache.owns key then (cache.ensure key.fingerprint).countComputation
  else cache.countComputation

theorem stage_begin (cache : Cache) (key : Key) : (cache.begin key).stage = cache.stage := by
  unfold begin
  split <;> rfl

theorem retrieve_of_held {key : Key} {outcome : Outcome}
    (held : cache.held? key = some outcome) (compute : Unit → Except Failure Outcome) :
    cache.retrieve key compute = (.ok (outcome, false), cache.ensure key.fingerprint) := by
  cases owned : cache.owns key with
  | false => exact nomatch (held?_eq_none_of_not_owns owned).symm.trans held
  | true => rw [retrieve, fetch, if_pos owned, held]

theorem fetch_of_foreign {key : Key} (foreign : cache.owns key = false) :
    cache.fetch key = (.foreign, cache.countComputation) := by
  rw [fetch, foreign]
  rfl

theorem retrieve_of_failed {key : Key} {compute : Unit → Except Failure Outcome}
    {failure : Failure} (missing : cache.held? key = none) (failed : compute () = .error failure) :
    cache.retrieve key compute = (.error failure, cache.begin key) := by
  cases owned : cache.owns key with
  | false =>
      rw [retrieve, fetch_of_foreign owned, begin, owned]
      simp only [failed]
      rfl
  | true =>
      rw [retrieve, fetch_of_missing owned missing, begin, if_pos owned]
      simp only [failed]

theorem retrieve_of_computed {key : Key} {compute : Unit → Except Failure Outcome}
    {outcome : Outcome} (missing : cache.held? key = none) (computed : compute () = .ok outcome) :
    cache.retrieve key compute =
      (.ok (outcome, true), ((cache.begin key).set key outcome).2) := by
  cases owned : cache.owns key with
  | false =>
      have begun : cache.begin key = cache.countComputation := by rw [begin, owned]; rfl
      rw [retrieve, fetch_of_foreign owned, begun, set]
      simp only [computed]
      rw [show cache.countComputation.owns key = false from owned]
      rfl
  | true =>
      have begun : cache.begin key = (cache.ensure key.fingerprint).countComputation := if_pos owned
      have vacant : (cache.ensure key.fingerprint).countComputation.slots.held?
          key.fingerprint = none := by
        have inSlots : cache.held? key = cache.slots.held? key.fingerprint := if_pos owned
        exact (Slots.held?_ensure _ _ _).trans (inSlots.symm.trans missing)
      rw [retrieve, fetch_of_missing owned missing, begun, set]
      simp only [computed]
      rw [if_pos (show (cache.ensure key.fingerprint).countComputation.owns key = true from owned)]
      simp only [fill, vacant, Option.getD_none]

namespace Shows

theorem of_empty (stage : String) : (Cache.empty stage).Shows .empty :=
  fun key => (held?_empty stage key).symm

theorem card_keysOf (shown : cache.Shows map) (wanted : Key → Outcome → Bool) :
    (map.keysOf wanted).card = (cache.slots.chosen fun fingerprint =>
      wanted (fingerprint.inStage cache.stage)).length := by
  apply cache.card_eq_length_chosen
  intro key
  rw [map.mem_keysOf, shown]

theorem size_eq (shown : cache.Shows map) : map.size = cache.size := by
  have all : map.keys = map.keysOf fun _ _ => true := by
    ext key
    rw [map.mem_keysOf, map.mem_keys]
    cases map.at? key <;> rfl
  rw [OutcomeMap.size, all, shown.card_keysOf, Cache.size, Slots.filled_eq_length_chosen]

theorem begin (shown : cache.Shows map) (key : Key) : (cache.begin key).Shows map := by
  intro other
  rw [shown, Cache.begin]
  split
  · rw [held?_countComputation, held?_ensure]
  · rw [held?_countComputation]

theorem set (shown : cache.Shows map) (key : Key) (outcome : Outcome) :
    (cache.set key outcome).1 =
        (if key.stage = cache.stage then (map.at? key).getD outcome else outcome) ∧
      (cache.set key outcome).2.Shows
        (if key.stage = cache.stage then map.add key outcome else map) := by
  cases owned : cache.owns key with
  | true =>
      have here : cache.held? key = cache.slots.held? key.fingerprint := if_pos owned
      rw [Cache.set, if_pos owned, if_pos (stage_eq_of_owns owned), if_pos (stage_eq_of_owns owned)]
      constructor
      · rw [shown, here]
        rfl
      · intro other
        rw [held?_fill, ← here, ← shown key, ← shown other]
        simp only [eq_iff_of_owns owned]
        exact map.at?_add key other outcome
  | false =>
      have foreign := stage_ne_of_not_owns owned
      rw [Cache.set, owned, if_neg foreign, if_neg foreign]
      exact ⟨rfl, shown⟩

theorem remove (shown : cache.Shows map) (key : Key) :
    (cache.remove key).1 = map.at? key ∧ (cache.remove key).2.Shows (map.erase key) := by
  refine ⟨(shown key).symm, fun other => ?_⟩
  rw [held?_remove, ← shown]
  exact map.at?_erase key other

theorem retain (shown : cache.Shows map) (keep : Key → Outcome → Bool) :
    (cache.retain keep).1 = (map.keysOf fun key outcome => !keep key outcome).card ∧
      (cache.retain keep).2.Shows (map.filter keep) := by
  constructor
  · rw [shown.card_keysOf]
    exact Slots.length_sub_length_sweep cache.slots _
  · intro key
    rw [OutcomeMap.at?_filter, shown, Cache.retain, held?_sweep]
    cases owned : cache.owns key with
    | true =>
        rw [← stage_eq_of_owns owned]
        rfl
    | false =>
        rw [held?_eq_none_of_not_owns owned]
        rfl

/-- An operation answers as the map does, and leaves the cache with the entries of
the map. -/
theorem perform (shown : cache.Shows map) (operation : Operation) :
    (cache.perform operation).1 = (map.perform cache.stage operation).1 ∧
      (cache.perform operation).2.Shows (map.perform cache.stage operation).2 := by
  cases operation with
  | get key =>
      rw [OutcomeMap.perform, shown]
      cases held : cache.held? key with
      | some outcome =>
          rw [Cache.perform, get_of_held held]
          exact ⟨rfl, shown⟩
      | none =>
          rw [Cache.perform, get_of_missing held]
          exact ⟨rfl, shown⟩
  | set key outcome =>
      obtain ⟨answered, behind⟩ := shown.set key outcome
      rw [OutcomeMap.perform, Cache.perform]
      split at answered <;> split at behind <;> simp_all
  | retrieve key computed =>
      have same := shown key
      cases held : cache.held? key with
      | some outcome =>
          simp only [OutcomeMap.perform, same.trans held]
          rw [Cache.perform, retrieve_of_held held]
          refine ⟨rfl, fun other => ?_⟩
          exact (shown other).trans (held?_ensure cache key.fingerprint other).symm
      | none =>
          simp only [OutcomeMap.perform, same.trans held, Cache.perform]
          cases computed with
          | error failure =>
              rw [retrieve_of_failed held rfl]
              exact ⟨rfl, shown.begin key⟩
          | ok outcome =>
              have behind := ((shown.begin key).set key outcome).2
              rw [stage_begin] at behind
              rw [retrieve_of_computed held rfl]
              exact ⟨rfl, behind⟩
  | remove key =>
      obtain ⟨answered, behind⟩ := shown.remove key
      exact ⟨congrArg Answer.removed answered, behind⟩
  | retain keep =>
      obtain ⟨answered, behind⟩ := shown.retain keep
      exact ⟨congrArg Answer.dropped answered, behind⟩
  | clear => exact ⟨rfl, fun key => (held?_clear cache key).symm⟩
  | size => exact ⟨congrArg Answer.counted shown.size_eq.symm, shown⟩

end Shows

/-! ## Counters -/

/-- The cache is another one of the same stage, with the counts that an answer
adds. -/
structure Counted (cache behind : Cache) (answer : Answer) : Prop where
  stage : behind.stage = cache.stage
  hits : behind.hits = cache.hits + answer.isHit.toNat
  misses : behind.misses = cache.misses + answer.isMiss.toNat
  computations : behind.computations = cache.computations + answer.isComputation.toNat

/-- Operations count what they answer: hits and misses of lookups, and the
computations of retrievals. -/
theorem perform_counted (cache : Cache) (operation : Operation) :
    cache.Counted (cache.perform operation).2 (cache.perform operation).1 := by
  cases operation with
  | get key =>
      cases held : cache.held? key with
      | some outcome => rw [perform, get_of_held held]; exact ⟨rfl, rfl, rfl, rfl⟩
      | none => rw [perform, get_of_missing held]; exact ⟨rfl, rfl, rfl, rfl⟩
  | set key outcome =>
      rw [perform, set]
      split <;> exact ⟨rfl, rfl, rfl, rfl⟩
  | retrieve key computed =>
      cases held : cache.held? key with
      | some outcome => rw [perform, retrieve_of_held held]; exact ⟨rfl, rfl, rfl, rfl⟩
      | none =>
          cases computed with
          | error failure =>
              rw [perform, retrieve_of_failed held rfl, begin]
              split <;> exact ⟨rfl, rfl, rfl, rfl⟩
          | ok outcome =>
              rw [perform, retrieve_of_computed held rfl, begin, set]
              split <;> split <;> exact ⟨rfl, rfl, rfl, rfl⟩
  | remove key =>
      rw [perform, remove]
      split <;> exact ⟨rfl, rfl, rfl, rfl⟩
  | retain keep => exact ⟨rfl, rfl, rfl, rfl⟩
  | clear => exact ⟨rfl, rfl, rfl, rfl⟩
  | size => exact ⟨rfl, rfl, rfl, rfl⟩

/-- A lookup is a hit or a miss, and no other operation is. -/
theorem isHit_add_isMiss (cache : Cache) (operation : Operation) :
    (cache.perform operation).1.isHit.toNat + (cache.perform operation).1.isMiss.toNat =
      operation.isGet.toNat := by
  cases operation with
  | get key =>
      cases held : cache.held? key with
      | some outcome => rw [perform, get_of_held held]; rfl
      | none => rw [perform, get_of_missing held]; rfl
  | _ => rfl

/-! ## Sequences of operations -/

theorem countP_cons_toNat {α : Type} (holds : α → Bool) (first : α) (rest : List α) :
    (first :: rest).countP holds = (holds first).toNat + rest.countP holds := by
  rw [List.countP_cons]
  cases holds first <;> simp [Nat.add_comm]

/-- A cache that shows a map answers a sequence of operations as the map does, and
shows what becomes of the map. -/
theorem Shows.performAll (shown : cache.Shows map) (operations : List Operation) :
    (cache.performAll operations).1 = (map.performAll cache.stage operations).1 ∧
      (cache.performAll operations).2.Shows (map.performAll cache.stage operations).2 := by
  induction operations generalizing cache map with
  | nil => exact ⟨rfl, shown⟩
  | cons operation rest inductionHypothesis =>
      obtain ⟨answered, shownBehind⟩ := shown.perform operation
      have others := inductionHypothesis shownBehind
      rw [(cache.perform_counted operation).stage] at others
      rw [Cache.performAll, OutcomeMap.performAll]
      exact ⟨congrArg₂ List.cons answered others.1, others.2⟩

/-- Along a sequence of operations a cache counts the hits, the misses and the
computations among its answers. -/
theorem counts_performAll (cache : Cache) (operations : List Operation) :
    (cache.performAll operations).2.stage = cache.stage ∧
      (cache.performAll operations).2.hits =
        cache.hits + (cache.performAll operations).1.countP Answer.isHit ∧
      (cache.performAll operations).2.misses =
        cache.misses + (cache.performAll operations).1.countP Answer.isMiss ∧
      (cache.performAll operations).2.computations =
        cache.computations + (cache.performAll operations).1.countP Answer.isComputation := by
  induction operations generalizing cache with
  | nil => exact ⟨rfl, rfl, rfl, rfl⟩
  | cons operation rest inductionHypothesis =>
      have first := cache.perform_counted operation
      obtain ⟨stage, hits, misses, computations⟩ := inductionHypothesis (cache.perform operation).2
      rw [performAll]
      simp only [countP_cons_toNat]
      refine ⟨stage.trans first.stage, ?_, ?_, ?_⟩
      · rw [hits, first.hits, Nat.add_assoc]
      · rw [misses, first.misses, Nat.add_assoc]
      · rw [computations, first.computations, Nat.add_assoc]

theorem isHit_add_isMiss_performAll (cache : Cache) (operations : List Operation) :
    (cache.performAll operations).1.countP Answer.isHit +
        (cache.performAll operations).1.countP Answer.isMiss =
      operations.countP Operation.isGet := by
  induction operations generalizing cache with
  | nil => rfl
  | cons operation rest inductionHypothesis =>
      have first := cache.isHit_add_isMiss operation
      have others := inductionHypothesis (cache.perform operation).2
      rw [performAll]
      simp only [countP_cons_toNat]
      omega

/-- A map that a cache shows has no key of another stage. -/
theorem Shows.stages_subset (shown : cache.Shows map) :
    map.keys.image Key.stage ⊆ {cache.stage} := by
  intro stage member
  obtain ⟨key, present, rfl⟩ := Finset.mem_image.mp member
  rw [map.mem_keys, shown] at present
  cases owned : cache.owns key with
  | true => exact Finset.mem_singleton.mpr (stage_eq_of_owns owned)
  | false =>
      rw [held?_eq_none_of_not_owns owned] at present
      exact nomatch present

/-- From the empty cache of a stage, every sequence of operations is answered as by
a partial map over the keys of the stage in which the first outcome of a key stays,
and the figures behind it are the size of the map and the numbers of hits, misses
and computations among the answers. -/
theorem performAll_as_map (stage : String) (operations : List Operation) :
    let run := (empty stage).performAll operations
    let ideal := OutcomeMap.empty.performAll stage operations
    run.1 = ideal.1 ∧
      (∀ key, run.2.held? key = ideal.2.at? key) ∧
      ideal.2.keys.image Key.stage ⊆ {stage} ∧
      run.2.figures = ⟨stage, ideal.2.size, ideal.1.countP Answer.isHit,
        ideal.1.countP Answer.isMiss, ideal.1.countP Answer.isComputation⟩ ∧
      run.2.hits + run.2.misses = operations.countP Operation.isGet := by
  intro run ideal
  obtain ⟨answered, shown⟩ := (Shows.of_empty stage).performAll operations
  have same : run.1 = ideal.1 := answered
  obtain ⟨stageBehind, hits, misses, computations⟩ := (empty stage).counts_performAll operations
  have lookups := (empty stage).isHit_add_isMiss_performAll operations
  refine ⟨same, fun key => (shown key).symm, ?_, ?_, ?_⟩
  · have subset := shown.stages_subset
    rw [stageBehind] at subset
    exact subset
  · rw [figures, stageBehind, hits, misses, computations, ← shown.size_eq, same]
    simp [empty, ideal]
  · rw [hits, misses]
    simpa [empty] using lookups

example (fingerprint : Fingerprint) (computed outcome : Outcome) (failure : Failure) :
    let key := fingerprint.inStage "lint"
    let foreign := fingerprint.inStage "compile"
    ((empty "lint").performAll [.retrieve key (.error failure), .set key outcome,
      .retrieve key (.ok computed), .set foreign outcome, .size]).1 =
        [.retrieved (.error failure), .held outcome, .retrieved (.ok (outcome, false)),
          .held outcome, .counted 1] := by
  simp [performAll, perform, retrieve, fetch, set, fill, owns, held?, ensure, empty, size,
    Fingerprint.inStage, countComputation, Slots.held?, Slots.ensure, Slots.fill, Slots.filled]

end Cache

end Cascade
