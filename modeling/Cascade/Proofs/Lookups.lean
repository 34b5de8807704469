import Cascade.Proofs.ChainClosure
import Cascade.Proofs.PipelineEvents
import Cascade.Proofs.ResolutionEffect
import Cascade.Proofs.Resumption

/-!
# Lookups and computations

In closed caches a resolution computes exactly the stages up to its target that hold
nothing for its fingerprint.  It looks up its target, and the stage before every one
that it computes.  So the lookups of a stage are as many as the resolutions up to it
and the computations of the next stage, and the misses as many as its computations.
-/

namespace Cascade

/-- The lookups that a cache has counted, those of them that found nothing, and its
computations. -/
structure Counts where
  lookups : Nat
  misses : Nat
  computations : Nat

namespace Counts

/-- The counts with more lookups, and computations each behind a miss. -/
def add (counts : Counts) (lookups computed : Nat) : Counts :=
  ⟨counts.lookups + lookups, counts.misses + computed, counts.computations + computed⟩

theorem add_add (counts : Counts) (first firstComputed second secondComputed : Nat) :
    (counts.add first firstComputed).add second secondComputed =
      counts.add (first + second) (firstComputed + secondComputed) := by
  simp only [add, Nat.add_assoc]

end Counts

/-- What a cache has counted. -/
def Cache.counts (cache : Cache) : Counts :=
  ⟨cache.hits + cache.misses, cache.misses, cache.computations⟩

/-- What a resolution computes at the stage at an index: once, if the stage is on the
way to the target and holds nothing. -/
def Holdings.lacking (holdings : Holdings) (fingerprint : Fingerprint) (target index : Nat) : Nat :=
  if index ≤ target ∧ (holdings index fingerprint).isNone = true then 1 else 0

theorem Holdings.lacking_le_one (holdings : Holdings) (fingerprint : Fingerprint)
    (target index : Nat) : holdings.lacking fingerprint target index ≤ 1 := by
  unfold lacking
  split <;> omega

/-- What a resolution looks up at the stage at an index. -/
def Holdings.lookups (holdings : Holdings) (fingerprint : Fingerprint) (target index : Nat) : Nat :=
  (if index = target then 1 else 0) + holdings.lacking fingerprint target (index + 1)

namespace Memory

/-- What the cache of the stage at an index has counted. -/
def counts? (memory : Memory) (index : Nat) : Option Counts :=
  (memory.cache? index).map Cache.counts

variable {before after : Memory} {fingerprint : Fingerprint} {first stop target : Nat}

/-- In closed caches the stages from the first one that holds nothing hold nothing. -/
theorem MissesFrom.isNone_iff (misses : before.MissesFrom fingerprint first target)
    (closed : before.Closed) {index : Nat} (inRange : index ≤ target) :
    (before.held? index fingerprint).isNone = true ↔ first ≤ index := by
  constructor
  · intro missing
    rcases Nat.lt_or_ge index first with early | behind
    · obtain ⟨last, behind⟩ := Nat.exists_eq_succ_of_ne_zero (Nat.ne_zero_of_lt early)
      obtain ⟨outcome, held⟩ := Option.isSome_iff_exists.mp (misses.held last behind)
      obtain ⟨source, heldBefore⟩ :=
        closed.held_before (Nat.le_of_lt_succ (behind ▸ early)) held
      rw [heldBefore] at missing
      exact nomatch missing
    · exact behind
  · intro behind
    rw [misses.missing index behind inRange]
    rfl

theorem MissesFrom.lacking (misses : before.MissesFrom fingerprint first target)
    (closed : before.Closed) (index : Nat) :
    Holdings.lacking before.held? fingerprint target index =
      if first ≤ index ∧ index ≤ target then 1 else 0 := by
  unfold Holdings.lacking
  by_cases inRange : index ≤ target
  · simp [inRange, misses.isNone_iff closed inRange]
  · simp [inRange]

/-- The stage that counts a hit and those that count a miss are those that are looked
up. -/
theorem hit_add_missed (bound : first ≤ target + 1) (index : Nat) :
    ((if first = index + 1 then 1 else 0) + if first ≤ index ∧ index ≤ target then 1 else 0) =
      (if index = target then 1 else 0) +
        if first ≤ index + 1 ∧ index + 1 ≤ target then 1 else 0 := by
  split <;> split <;> split <;> split <;> omega

theorem Touches.counts (touches : before.Touches after fingerprint first stop target)
    (misses : before.MissesFrom fingerprint first target) (inOrder : first ≤ stop)
    (stopped : stop ≤ target + 1) (closed : before.Closed) (index : Nat) :
    after.counts? index = (before.counts? index).map fun counts =>
      counts.add (Holdings.lookups before.held? fingerprint target index)
        (Holdings.lacking before.held? fingerprint target index) := by
  have ofFigures : ∀ memory : Memory, memory.counts? index =
      ((memory.cache? index).map Cache.figures).map fun figures =>
        ⟨figures.hits + figures.misses, figures.misses, figures.computations⟩ := by
    intro memory
    rw [counts?, Option.map_map]
    rfl
  have looked := hit_add_missed misses.bound index
  rw [ofFigures, touches.figures misses inOrder stopped, ofFigures, Holdings.lookups,
    misses.lacking closed, misses.lacking closed, ← looked]
  simp only [Option.map_map]
  congr 1
  funext cache
  simp only [Function.comp_apply, Counts.add, Cache.figures]
  congr 1
  omega

end Memory

namespace Pipeline

variable {σ : Type} {pipeline : Pipeline σ} {request : Request} {fingerprint : Fingerprint}

/-- What a resolution touches, whether it succeeds or fails. -/
theorem Resolves.touched {target : Nat} {session after : Session σ}
    {answer : Except Failure Outcome}
    (resolves : pipeline.Resolves request fingerprint target session answer after)
    (fits : pipeline.Fits session) :
    ∃ first stop, first ≤ stop ∧ stop ≤ target + 1 ∧
      session.memory.MissesFrom fingerprint first target ∧
      session.memory.Touches after.memory fingerprint first stop target := by
  obtain ⟨first, stop, behind, misses, touches, _, ends⟩ := resolves.touches fits
  refine ⟨first, stop, behind, ?_, misses, touches⟩
  cases answer with
  | ok outcome => exact Nat.le_of_eq ends.1
  | error failure => exact Nat.le_succ_of_le ends.1

/-- What a resolution does not lead to is held as before. -/
theorem Resolves.held_elsewhere {target : Nat} {session after : Session σ}
    {answer : Except Failure Outcome}
    (resolves : pipeline.Resolves request fingerprint target session answer after)
    (fits : pipeline.Fits session) {index : Nat} {other : Fingerprint}
    (elsewhere : ¬(other = fingerprint ∧ index ≤ target)) :
    after.memory.held? index other = session.memory.held? index other := by
  obtain ⟨first, stop, _, stopped, _, touches⟩ := resolves.touched fits
  apply touches.held
  rintro ⟨same, _, early⟩
  exact elsewhere ⟨same, Nat.le_of_lt_succ (Nat.lt_of_lt_of_le early stopped)⟩

/-- What a resolution up to the target adds to what the caches have counted. -/
theorem Resolves.counts {target : Nat} {session after : Session σ}
    {answer : Except Failure Outcome}
    (resolves : pipeline.Resolves request fingerprint target session answer after)
    (inOrder : pipeline.InOrder session) (index : Nat) :
    after.memory.counts? index = (session.memory.counts? index).map fun counts =>
      counts.add (Holdings.lookups session.memory.held? fingerprint target index)
        (Holdings.lacking session.memory.held? fingerprint target index) := by
  obtain ⟨fits, closed⟩ := inOrder
  obtain ⟨_, _, behind, stopped, misses, touches⟩ := resolves.touched fits
  exact touches.counts misses behind stopped closed index

theorem Resolves.computations? {target : Nat} {session after : Session σ}
    {answer : Except Failure Outcome}
    (resolves : pipeline.Resolves request fingerprint target session answer after)
    (inOrder : pipeline.InOrder session) (index : Nat) :
    after.memory.computations? index = (session.memory.computations? index).map fun count =>
      count + Holdings.lacking session.memory.held? fingerprint target index := by
  have ofCounts : ∀ memory : Memory, memory.computations? index =
      (memory.counts? index).map Counts.computations := by
    intro memory
    rw [Memory.counts?, Option.map_map]
    rfl
  rw [ofCounts, resolves.counts inOrder, ofCounts, Option.map_map, Option.map_map]
  rfl

end Pipeline

end Cascade
