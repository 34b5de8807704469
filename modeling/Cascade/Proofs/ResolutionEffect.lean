import Cascade.Proofs.Resolution
import Cascade.Proofs.StageRun
import Cascade.Proofs.StructuralReduction

/-!
# The effect of a resolution on the caches

A resolution up to a stage looks for the last stage on the way that holds an
outcome for its fingerprint, and counts a hit there.  Every later stage counts a
miss and a computation, whether the resolution succeeds or fails; those that come
before the failing stage hold one outcome more behind it.  All other caches stay as
they are, and so does everything that is held for other fingerprints.
-/

namespace Cascade

/-! ## Counting outcomes -/

namespace Slots

theorem filled_ensure (slots : Slots) (fingerprint : Fingerprint) :
    (slots.ensure fingerprint).filled = slots.filled := by
  unfold ensure
  split
  · rfl
  · simp [filled]

theorem filled_fill {slots : Slots} {fingerprint : Fingerprint}
    (vacant : slots.held? fingerprint = none) (outcome : Outcome) :
    (slots.fill fingerprint outcome).filled = slots.filled + 1 := by
  induction slots with
  | nil => rfl
  | cons slot rest inductionHypothesis =>
      rw [held?_cons] at vacant
      unfold fill
      by_cases here : slot.1 = fingerprint
      · rw [if_pos here] at vacant ⊢
        simp [filled, vacant]
      · rw [if_neg here] at vacant ⊢
        have behind := inductionHypothesis vacant
        simp only [filled, List.countP_cons] at behind ⊢
        omega

end Slots

namespace Cache

/-- The cache behind a miss, with a computation begun in a slot for the
fingerprint. -/
def begun (cache : Cache) (fingerprint : Fingerprint) : Cache :=
  (cache.countMiss.ensure fingerprint).countComputation

/-- The cache behind a miss, with the computation ended. -/
def completed (cache : Cache) (fingerprint : Fingerprint) (outcome : Outcome) : Cache :=
  ((cache.begun fingerprint).fill fingerprint outcome).2

theorem figures_begun (cache : Cache) (fingerprint : Fingerprint) :
    (cache.begun fingerprint).figures =
      { cache.figures with
        misses := cache.figures.misses + 1
        computations := cache.figures.computations + 1 } := by
  have entries : (cache.begun fingerprint).size = cache.size :=
    Slots.filled_ensure cache.slots fingerprint
  rw [figures, entries]
  rfl

theorem figures_completed {cache : Cache} {fingerprint : Fingerprint}
    (vacant : cache.slots.held? fingerprint = none) (outcome : Outcome) :
    (cache.completed fingerprint outcome).figures =
      { cache.figures with
        entries := cache.figures.entries + 1
        misses := cache.figures.misses + 1
        computations := cache.figures.computations + 1 } := by
  have stillVacant : (cache.begun fingerprint).slots.held? fingerprint = none :=
    (Slots.held?_ensure cache.slots fingerprint fingerprint).trans vacant
  have entries : (cache.completed fingerprint outcome).size = cache.size + 1 := by
    calc (cache.completed fingerprint outcome).size
      _ = (cache.begun fingerprint).slots.filled + 1 := Slots.filled_fill stillVacant outcome
      _ = cache.size + 1 := congrArg (· + 1) (Slots.filled_ensure cache.slots fingerprint)
  rw [figures, entries]
  rfl

theorem held?_completed_of_ne (cache : Cache) {fingerprint other : Fingerprint}
    (outcome : Outcome) (different : other ≠ fingerprint) :
    (cache.completed fingerprint outcome).slots.held? other = cache.slots.held? other := by
  calc (cache.completed fingerprint outcome).slots.held? other
    _ = (cache.begun fingerprint).slots.held? other :=
      (Slots.held?_fill _ fingerprint other outcome).trans (if_neg different)
    _ = cache.slots.held? other := Slots.held?_ensure cache.slots fingerprint other

end Cache

/-! ## Caches on the way -/

namespace Memory

/-- What a resolution up to the target does to the caches.  The stage before
`first` holds an outcome, the stages from there on to the target do not, and those
before `stop` get one. -/
structure Touches (before after : Memory) (fingerprint : Fingerprint)
    (first stop target : Nat) : Prop where
  untouched : ∀ index, index + 1 < first ∨ target < index →
    after.cache? index = before.cache? index
  hit : ∀ index, first = index + 1 →
    after.cache? index = (before.cache? index).map Cache.countHit
  completed : ∀ index, first ≤ index → index < stop → ∃ outcome,
    after.cache? index = (before.cache? index).map fun cache => cache.completed fingerprint outcome
  begun : ∀ index, stop ≤ index → index ≤ target →
    after.cache? index = (before.cache? index).map fun cache => cache.begun fingerprint

/-- The stages up to the target of which none holds an outcome for the fingerprint,
as far back as possible, begin with `first`. -/
structure MissesFrom (memory : Memory) (fingerprint : Fingerprint) (first target : Nat) :
    Prop where
  bound : first ≤ target + 1
  missing : ∀ index, first ≤ index → index ≤ target → memory.held? index fingerprint = none
  held : ∀ index, first = index + 1 → (memory.held? index fingerprint).isSome = true

namespace MissesFrom

variable {memory : Memory} {fingerprint : Fingerprint} {first target : Nat}

theorem of_held {outcome : Outcome} (held : memory.held? target fingerprint = some outcome) :
    memory.MissesFrom fingerprint (target + 1) target := by
  constructor
  · exact Nat.le_refl _
  · intro index behind inRange
    omega
  · rintro index ⟨⟩
    rw [held]
    rfl

theorem of_first (missing : memory.held? 0 fingerprint = none) :
    memory.MissesFrom fingerprint 0 0 := by
  constructor
  · exact Nat.zero_le _
  · rintro index _ inRange
    rw [Nat.le_zero.mp inRange]
    exact missing
  · exact fun index first => nomatch first

/-- One more stage that holds nothing. -/
theorem of_below
    (below : (memory.miss (target + 1) fingerprint).MissesFrom fingerprint first target)
    (missing : memory.held? (target + 1) fingerprint = none) :
    memory.MissesFrom fingerprint first (target + 1) := by
  constructor
  · exact Nat.le_succ_of_le below.bound
  · intro index behind inRange
    rcases Nat.lt_or_eq_of_le inRange with earlier | rfl
    · have missingBelow := below.missing index behind (Nat.le_of_lt_succ earlier)
      simpa using missingBelow
    · exact missing
  · intro index behind
    have heldBelow := below.held index behind
    simpa using heldBelow

end MissesFrom

namespace Touches

variable {before after : Memory} {fingerprint : Fingerprint} {first stop target : Nat}

theorem of_hit (memory : Memory) (fingerprint : Fingerprint) (target : Nat) :
    memory.Touches (memory.hit target) fingerprint (target + 1) (target + 1) target := by
  constructor
  · intro index elsewhere
    exact cache?_hit_of_ne (by omega)
  · rintro index ⟨⟩
    exact (cache?_change memory target target _).trans (if_pos rfl)
  · intro index behind early
    omega
  · intro index behind inRange
    omega

theorem of_miss (memory : Memory) (fingerprint : Fingerprint) :
    memory.Touches (memory.miss 0 fingerprint) fingerprint 0 0 0 := by
  constructor
  · intro index elsewhere
    exact cache?_miss_of_ne (by omega)
  · exact fun index first => nomatch first
  · exact fun index _ early => absurd early (Nat.not_lt_zero index)
  · intro index _ inRange
    rw [Nat.le_zero.mp inRange]
    exact (cache?_change memory 0 0 _).trans (if_pos rfl)

/-- A computation that was begun around a resolution up to the stage before. -/
theorem of_below
    (below : (before.miss (target + 1) fingerprint).Touches after fingerprint first stop target)
    (bound : first ≤ target + 1) (stopped : stop ≤ target + 1) :
    before.Touches after fingerprint first stop (target + 1) := by
  have elsewhere : ∀ index, index ≠ target + 1 →
      (before.miss (target + 1) fingerprint).cache? index = before.cache? index :=
    fun index different => cache?_miss_of_ne different
  constructor
  · intro index outside
    rw [below.untouched index (by omega), elsewhere index (by omega)]
  · intro index behind
    rw [below.hit index behind, elsewhere index (by omega)]
  · intro index behind early
    obtain ⟨outcome, completed⟩ := below.completed index behind early
    exact ⟨outcome, completed.trans (by rw [elsewhere index (by omega)])⟩
  · intro index behind inRange
    rcases Nat.lt_or_eq_of_le inRange with earlier | rfl
    · rw [below.begun index behind (Nat.le_of_lt_succ earlier), elsewhere index (by omega)]
    · rw [below.untouched (target + 1) (.inr (Nat.lt_succ_self target))]
      exact (cache?_change before (target + 1) (target + 1) _).trans (if_pos rfl)

/-- The computation for the target has ended. -/
theorem store (touches : before.Touches after fingerprint first target target)
    (bound : first ≤ target) (outcome : Outcome) :
    before.Touches (after.store target fingerprint outcome) fingerprint first (target + 1)
      target := by
  have elsewhere : ∀ index, index ≠ target →
      (after.store target fingerprint outcome).cache? index = after.cache? index :=
    fun index different => cache?_store_of_ne different
  constructor
  · intro index outside
    rw [elsewhere index (by omega), touches.untouched index outside]
  · intro index behind
    rw [elsewhere index (by omega), touches.hit index behind]
  · intro index behind early
    rcases Nat.lt_or_eq_of_le (Nat.le_of_lt_succ early) with earlier | rfl
    · rw [elsewhere index (by omega)]
      exact touches.completed index behind earlier
    · have stored := (cache?_change after index index fun cache =>
        (cache.fill fingerprint outcome).2).trans (if_pos rfl)
      rw [touches.begun index (Nat.le_refl _) (Nat.le_refl _), Option.map_map] at stored
      exact ⟨outcome, stored⟩
  · intro index behind inRange
    omega

end Touches

end Memory

/-! ## Stages that ran -/

namespace Memory

/-- What the stage at an index works on: the tree of the request, or the outcome that
is held for the stage before. -/
def material? (memory : Memory) (request : Request) (fingerprint : Fingerprint) :
    Nat → Option Material
  | 0 => some request.material
  | index + 1 => (memory.held? index fingerprint).map Outcome.material

end Memory

namespace Pipeline

variable {σ : Type} {pipeline : Pipeline σ} {request : Request} {fingerprint : Fingerprint}

/-- The stage at an index ran, in some state, on what it works on, and answered. -/
def RanAt (pipeline : Pipeline σ) (request : Request) (fingerprint : Fingerprint)
    (memory : Memory) (index : Nat) (answer : Except Failure Outcome) : Prop :=
  ∃ inRange material state behind,
    memory.material? request fingerprint index = some material ∧
      pipeline.runStage request ⟨index, inRange⟩ material state = (answer, behind)

/-- What a stage works on is not changed by what is stored for it or for a later
one. -/
theorem RanAt.store {memory : Memory} {index later : Nat} {answer : Except Failure Outcome}
    (ran : pipeline.RanAt request fingerprint memory index answer) (inOrder : index ≤ later)
    (stored : Outcome) :
    pipeline.RanAt request fingerprint (memory.store later fingerprint stored) index answer := by
  obtain ⟨inRange, material, state, behind, source, ran⟩ := ran
  refine ⟨inRange, material, state, behind, ?_, ran⟩
  cases index with
  | zero => exact source
  | succ index =>
      rw [← source, Memory.material?, Memory.material?,
        Memory.held?_store_of_ne stored (.inl (Nat.ne_of_lt inOrder))]

/-- How a resolution up to the target ends: with the outcome that is held for the
target, or in the stage at `stop`, which failed. -/
def EndsAt (pipeline : Pipeline σ) (request : Request) (fingerprint : Fingerprint)
    (memory : Memory) (stop target : Nat) : Except Failure Outcome → Prop
  | .ok outcome => stop = target + 1 ∧ memory.held? target fingerprint = some outcome
  | .error failure =>
      stop ≤ target ∧ pipeline.RanAt request fingerprint memory stop (.error failure)

theorem Resolves.touches {target : Nat} {session after : Session σ}
    {answer : Except Failure Outcome}
    (resolves : pipeline.Resolves request fingerprint target session answer after)
    (fits : pipeline.Fits session) :
    ∃ first stop, first ≤ stop ∧ session.memory.MissesFrom fingerprint first target ∧
      session.memory.Touches after.memory fingerprint first stop target ∧
      (∀ index, first ≤ index → index < stop → ∃ outcome,
        after.memory.held? index fingerprint = some outcome ∧
          pipeline.RanAt request fingerprint after.memory index (.ok outcome)) ∧
      pipeline.EndsAt request fingerprint after.memory stop target answer := by
  induction resolves with
  | @found target session outcome held =>
      refine ⟨target + 1, target + 1, Nat.le_refl _, .of_held held, .of_hit _ _ _, ?_, rfl, ?_⟩
      · intro index behind early
        omega
      · simpa using held
  | @failedFirst session failure state inRange missing ran =>
      refine ⟨0, 0, Nat.le_refl _, .of_first missing, .of_miss _ _, ?_, Nat.le_refl _, ?_⟩
      · exact fun index _ early => absurd early (Nat.not_lt_zero index)
      · exact ⟨inRange, request.material, session.state, state, rfl, ran⟩
  | @computedFirst session outcome state inRange missing ran =>
      have stillMissing :=
        (Memory.held?_miss session.memory 0 0 fingerprint fingerprint).trans missing
      have inCaches := fits.inRange inRange
      have held := Memory.held?_store_self (by simpa using inCaches) stillMissing outcome
      have ranHere : pipeline.RanAt request fingerprint (session.memory.miss 0 fingerprint) 0
          (.ok outcome) := ⟨inRange, request.material, session.state, state, rfl, ran⟩
      refine ⟨0, 1, Nat.zero_le _, .of_first missing,
        (Memory.Touches.of_miss _ _).store (Nat.le_refl _) outcome, ?_, rfl, held⟩
      intro index _ early
      cases Nat.lt_one_iff.mp early
      exact ⟨outcome, held, ranHere.store (Nat.le_refl _) outcome⟩
  | @failedBelow target session after failure missing below inductionHypothesis =>
      obtain ⟨first, stop, inOrder, misses, touches, ran, stopped, failed⟩ :=
        inductionHypothesis (fits.miss _ _)
      exact ⟨first, stop, inOrder, misses.of_below missing,
        touches.of_below misses.bound (Nat.le_succ_of_le stopped), ran,
        Nat.le_succ_of_le stopped, failed⟩
  | @failed target session after previous failure state inRange missing below ran
      inductionHypothesis =>
      obtain ⟨first, stop, inOrder, misses, touches, ranBelow, rfl, held⟩ :=
        inductionHypothesis (fits.miss _ _)
      have source : after.memory.material? request fingerprint (target + 1) =
          some previous.material := congrArg (Option.map Outcome.material) held
      exact ⟨first, target + 1, inOrder, misses.of_below missing,
        touches.of_below misses.bound (Nat.le_refl _), ranBelow, Nat.le_refl _,
        inRange, previous.material, after.state, state, source, ran⟩
  | @computed target session after previous outcome state inRange missing below ran
      inductionHypothesis =>
      obtain ⟨first, stop, inOrder, misses, touches, ranBelow, rfl, held⟩ :=
        inductionHypothesis (fits.miss _ _)
      -- What was stored below stays as it is: only the cache of the target changes now.
      have inCaches := (below.fits (fits.miss _ _)).inRange inRange
      have heldHere := Memory.held?_store_self inCaches (below.missing_of_below missing) outcome
      have source : after.memory.material? request fingerprint (target + 1) =
          some previous.material := congrArg (Option.map Outcome.material) held
      have ranHere : pipeline.RanAt request fingerprint after.memory (target + 1) (.ok outcome) :=
        ⟨inRange, previous.material, after.state, state, source, ran⟩
      refine ⟨first, target + 2, Nat.le_succ_of_le inOrder, misses.of_below missing,
        (touches.of_below misses.bound (Nat.le_refl _)).store inOrder outcome, ?_, rfl, heldHere⟩
      intro index behind early
      rcases Nat.lt_or_eq_of_le (Nat.le_of_lt_succ early) with earlier | rfl
      · obtain ⟨found, heldFound, ranFound⟩ := ranBelow index behind earlier
        refine ⟨found, ?_, ranFound.store (Nat.le_of_lt earlier) outcome⟩
        exact (Memory.held?_store_of_ne outcome (.inl (Nat.ne_of_lt earlier))).trans heldFound
      · exact ⟨outcome, heldHere, ranHere.store (Nat.le_refl _) outcome⟩

end Pipeline

/-! ## What can be observed -/

namespace Memory

/-- What can be observed of the caches behind a resolution up to the target: the
stage before `first` counts a hit, the stages from there on to the target count a
miss and a computation, and those before `stop` hold one outcome more, for the
fingerprint. -/
structure Effect (before after : Memory) (fingerprint : Fingerprint)
    (first stop target : Nat) : Prop where
  figures : ∀ index, (after.cache? index).map Cache.figures =
    (before.cache? index).map fun cache =>
      { cache.figures with
        entries := cache.figures.entries + if first ≤ index ∧ index < stop then 1 else 0
        hits := cache.figures.hits + if first = index + 1 then 1 else 0
        misses := cache.figures.misses + if first ≤ index ∧ index ≤ target then 1 else 0
        computations :=
          cache.figures.computations + if first ≤ index ∧ index ≤ target then 1 else 0 }
  held : ∀ index other, ¬(other = fingerprint ∧ first ≤ index ∧ index < stop) →
    after.held? index other = before.held? index other
  untouched : ∀ index, index + 1 < first ∨ target < index →
    after.cache? index = before.cache? index

/-- A stage lies outside of the resolution, or counts a hit, or has completed a
computation, or has only begun one. -/
theorem place_cases (first stop target index : Nat) :
    (index + 1 < first ∨ target < index) ∨ first = index + 1 ∨
      (first ≤ index ∧ index < stop) ∨ stop ≤ index ∧ index ≤ target := by
  omega

namespace Touches

variable {before after : Memory} {fingerprint : Fingerprint} {first stop target : Nat}

theorem figures (touches : before.Touches after fingerprint first stop target)
    (misses : before.MissesFrom fingerprint first target) (inOrder : first ≤ stop)
    (stopped : stop ≤ target + 1) (index : Nat) :
    (after.cache? index).map Cache.figures =
      (before.cache? index).map fun cache =>
        { cache.figures with
          entries := cache.figures.entries + if first ≤ index ∧ index < stop then 1 else 0
          hits := cache.figures.hits + if first = index + 1 then 1 else 0
          misses := cache.figures.misses + if first ≤ index ∧ index ≤ target then 1 else 0
          computations :=
            cache.figures.computations + if first ≤ index ∧ index ≤ target then 1 else 0 } := by
  rcases place_cases first stop target index with outside | hit | ⟨behind, early⟩ | ⟨late, inRange⟩
  · have notHit : first ≠ index + 1 := by omega
    have notMissed : ¬(first ≤ index ∧ index ≤ target) := by omega
    have notStored : ¬(first ≤ index ∧ index < stop) := by omega
    rw [touches.untouched index outside]
    simp only [if_neg notHit, if_neg notMissed, if_neg notStored]
    rfl
  · have notMissed : ¬(first ≤ index ∧ index ≤ target) := by omega
    have notStored : ¬(first ≤ index ∧ index < stop) := by omega
    rw [touches.hit index hit, Option.map_map]
    simp only [if_pos hit, if_neg notMissed, if_neg notStored]
    rfl
  · have notHit : first ≠ index + 1 := by omega
    have inRange : index ≤ target := by omega
    obtain ⟨outcome, completed⟩ := touches.completed index behind early
    have missing := misses.missing index behind inRange
    rw [completed, Option.map_map]
    cases present : before.cache? index with
    | none => rfl
    | some cache =>
        rw [held?, present] at missing
        simp only [Option.map_some, Function.comp_apply, Cache.figures_completed missing,
          if_neg notHit, if_pos (And.intro behind inRange), if_pos (And.intro behind early)]
        rfl
  · have notHit : first ≠ index + 1 := by omega
    have missed : first ≤ index ∧ index ≤ target := by omega
    have notStored : ¬(first ≤ index ∧ index < stop) := by omega
    rw [touches.begun index late inRange, Option.map_map]
    simp only [Function.comp_def, Cache.figures_begun, if_neg notHit, if_pos missed,
      if_neg notStored]
    rfl

theorem held (touches : before.Touches after fingerprint first stop target) (index : Nat)
    (other : Fingerprint) (notStored : ¬(other = fingerprint ∧ first ≤ index ∧ index < stop)) :
    after.held? index other = before.held? index other := by
  rcases place_cases first stop target index with outside | hit | ⟨behind, early⟩ | ⟨late, inRange⟩
  · rw [held?, held?, touches.untouched index outside]
  · rw [held?, held?, touches.hit index hit, Option.bind_map]
    rfl
  · obtain ⟨outcome, completed⟩ := touches.completed index behind early
    have different : other ≠ fingerprint := fun same => notStored ⟨same, behind, early⟩
    rw [held?, held?, completed, Option.bind_map]
    exact Option.bind_congr fun cache _ => Cache.held?_completed_of_ne cache outcome different
  · rw [held?, held?, touches.begun index late inRange, Option.bind_map]
    exact Option.bind_congr fun cache _ => Slots.held?_ensure cache.slots fingerprint other

end Touches

end Memory

namespace Pipeline

variable {σ : Type}

/-- What a request does to the caches of a pipeline with caching on.  A request for a
stage that is not registered fails and changes nothing.  Any other one finds the
last stage up to its target that holds an outcome for its fingerprint; that stage
counts a hit, and each later one up to the target a miss and a computation.  The
stages before the one that fails, or all if none does, hold one outcome more, each
what its stage made from the one before, and nothing else changes. -/
theorem serve_effect (pipeline : Pipeline σ) (enabled : pipeline.cacheEnabled = true)
    (session : Session σ) (fits : pipeline.Fits session) (request : Request) :
    match pipeline.registry.target request.stage with
    | .error failure => pipeline.serve request session = (.error failure, session)
    | .ok target =>
        let fingerprint := request.fingerprint
        let after := (pipeline.serve request session).2.memory
        ∃ first stop, first ≤ stop ∧
          session.memory.MissesFrom fingerprint first target ∧
          session.memory.Effect after fingerprint first stop target ∧
          (∀ index, first ≤ index → index < stop → ∃ outcome,
            after.held? index fingerprint = some outcome ∧
              pipeline.RanAt request fingerprint after index (.ok outcome)) ∧
          pipeline.EndsAt request fingerprint after stop target
            (pipeline.serve request session).1 := by
  rw [serve]
  cases asked : pipeline.registry.target request.stage with
  | error failure => rfl
  | ok target =>
      obtain ⟨answer, after, resolved, resolves⟩ :=
        @resolves_outcomeAt _ pipeline request request.fingerprint session enabled target.1
          target.isLt fits
      obtain ⟨first, stop, inOrder, misses, touches, ran, ends⟩ := resolves.touches fits
      have stopped : stop ≤ target + 1 := by
        cases answer with
        | ok outcome => exact Nat.le_of_eq ends.1
        | error failure => exact Nat.le_succ_of_le ends.1
      simp only [resolved]
      exact ⟨first, stop, inOrder, misses,
        ⟨touches.figures misses inOrder stopped, touches.held, touches.untouched⟩, ran, ends⟩

/-! ## A resolution that fails halfway -/

/-- A pipeline of two stages: the first one runs nothing, the second one a transform
that the catalog does not know. -/
def faulty : Pipeline Unit where
  registry :=
    { stages := [⟨"normalize", .fixed []⟩, ⟨"compile", .fixed [.named "minify" Dict.empty]⟩]
      primary := ⟨1, Nat.one_lt_two⟩
      hooks := []
      knownOptions := none
      distinct := by decide }
  catalog := Dict.empty

theorem faulty_first {memory : Memory} {fingerprint : Fingerprint} {failure : Failure} :
    ¬faulty.RanAt { tree := Node.program [] } fingerprint memory 0 (.error failure) := by
  rintro ⟨inRange, material, state, behind, source, ran⟩
  cases source
  obtain ⟨outcome, after, succeeds, _⟩ :=
    @runStage_of_traverse _ faulty { tree := Node.program [] } ⟨0, inRange⟩
      ⟨Node.program [], [], []⟩ state [] state _ _ rfl (Pass.traverse_of_childless rfl rfl) rfl
  exact nomatch ran.symm.trans succeeds

theorem faulty_second {memory : Memory} {request : Request} {fingerprint : Fingerprint}
    {outcome : Outcome} : ¬faulty.RanAt request fingerprint memory 1 (.ok outcome) := by
  rintro ⟨inRange, material, state, behind, _, ran⟩
  exact nomatch ran.symm.trans (runStage_of_rejected rfl)

/-- The first stage of the faulty pipeline gets an outcome, the second one only
counts. -/
theorem serve_effect_faulty :
    let session := faulty.newSession ()
    let request : Request := { tree := Node.program [] }
    faulty.cacheEnabled = true ∧ faulty.Fits session ∧
      session.memory.Effect (faulty.serve request session).2.memory request.fingerprint 0 1 1 ∧
      ∃ failure, (faulty.serve request session).1 = .error failure := by
  intro session request
  have fits : faulty.Fits session := Memory.stages_ofStages _
  obtain ⟨first, stop, inOrder, misses, effect, ran, ends⟩ :=
    serve_effect faulty rfl session fits request
  have atStart : first = 0 := by
    cases first with
    | zero => rfl
    | succ index =>
        have missing : session.memory.held? index request.fingerprint = none :=
          Memory.held?_ofStages _ index _
        exact nomatch (congrArg Option.isSome missing).symm.trans (misses.held index rfl)
  have second : ∀ outcome, ¬faulty.RanAt request request.fingerprint
      (faulty.serve request session).2.memory 1 (.ok outcome) := fun _ => faulty_second
  have failed : stop = 1 ∧ ∃ failure, (faulty.serve request session).1 = .error failure := by
    cases answer : (faulty.serve request session).1 with
    | ok outcome =>
        rw [answer] at ends
        obtain ⟨found, _, ranSecond⟩ := ran 1 (by omega) (by rw [ends.1]; decide)
        exact absurd ranSecond (second found)
    | error failure =>
        rw [answer] at ends
        have positive : stop ≠ 0 := by
          rintro rfl
          exact faulty_first ends.2
        have bound : stop ≤ 1 := ends.1
        exact ⟨by omega, failure, rfl⟩
  rw [atStart, failed.1] at effect
  exact ⟨rfl, fits, effect, failed.2⟩

end Pipeline

end Cascade
