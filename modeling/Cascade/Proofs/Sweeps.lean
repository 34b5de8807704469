import Cascade.Proofs.Traffic
import Mathlib.Data.List.Chain

/-!
# Sweeps and computations

An invalidation sweeps the stages one after another.  It spares a computation if where it
has swept, the outcome does not depend on what the invalidation is about, or was not there
yet.  A computation is fed by one of the stage before, and what a sweep of its own stage
finds started, the sweep came too late for.
-/

namespace Cascade

/-! ## One invalidation -/

namespace Invalidation

/-- The outcome of the computation is none of those that the invalidation drops where it
has swept: either it does not depend on the dependency, or it was there only later. -/
def Spares (invalidation : Invalidation) (computation : Computation) : Prop :=
  ∀ time, invalidation.swept[computation.stage]? = some time →
    computation.outcome.dependsOn invalidation.dependency = true → time < computation.finished

/-- If a computation of the next stage started behind the sweep of its stage, then its
source is none of the dropped ones. -/
def Feeds (invalidation : Invalidation) (started : Nat) (source : Computation) : Prop :=
  ∀ time, invalidation.swept[source.stage + 1]? = some time → time < started →
    invalidation.Spares source

variable {invalidation : Invalidation} {now : Nat}

theorem swept_sweep {stage time : Nat}
    (swept : (invalidation.sweep now).swept[stage]? = some time) :
    invalidation.swept[stage]? = some time ∨
      stage = invalidation.swept.length ∧ time = now := by
  have swept : (invalidation.swept ++ [now])[stage]? = some time := swept
  rw [List.getElem?_append] at swept
  split at swept
  next => exact .inl swept
  next beyond =>
    obtain ⟨first, same⟩ := List.getElem?_eq_some_iff.mp swept
    have here : stage = invalidation.swept.length := by
      rw [List.length_singleton] at first
      omega
    subst here
    simp only [Nat.sub_self] at same
    exact .inr ⟨rfl, same.symm⟩

theorem Spares.sweep {computation : Computation} (spares : invalidation.Spares computation)
    (independent : computation.stage = invalidation.swept.length →
      computation.outcome.dependsOn invalidation.dependency = false) :
    (invalidation.sweep now).Spares computation := by
  intro time swept depends
  rcases swept_sweep swept with before | ⟨here, _⟩
  · exact spares time before depends
  · exact nomatch (independent here).symm.trans depends

/-- A sweep comes too late for a computation that has started. -/
theorem Feeds.sweep {started : Nat} {source : Computation}
    (feeds : invalidation.Feeds started source) (early : started < now) :
    (invalidation.sweep now).Feeds started source := by
  intro time swept behind
  rcases swept_sweep swept with before | ⟨_, rfl⟩
  · obtain ⟨inRange, _⟩ := List.getElem?_eq_some_iff.mp before
    exact (feeds time before behind).sweep fun here => by omega
  · exact absurd behind (Nat.lt_asymm early)

end Invalidation

/-! ## All invalidations -/

namespace Calendar

/-- No invalidation drops the outcome of the computation where it has swept. -/
def Spares (calendar : Calendar) (computation : Computation) : Prop :=
  ∀ invalidation ∈ calendar.invalidations, invalidation.Spares computation

/-- The computation may be the source of one that started at the given step. -/
def Feeds (calendar : Calendar) (started : Nat) (source : Computation) : Prop :=
  ∀ invalidation ∈ calendar.invalidations, invalidation.Feeds started source

/-- The steps of invalidations come one after another, and before the next step. -/
def Timed (calendar : Calendar) : Prop :=
  ∀ invalidation ∈ calendar.invalidations, invalidation.began < calendar.now ∧
    ∀ time ∈ invalidation.swept, invalidation.began < time ∧ time < calendar.now

/-- The computations started before the next step, and each of them may be the source of
the one that it is listed behind. -/
structure Dates (calendar : Calendar) (lineage : List Computation) : Prop where
  started : ∀ computation ∈ lineage, computation.started < calendar.now
  feeds : lineage.IsChain fun own source => calendar.Feeds own.started source

/-- A later calendar, in which sources are still sources. -/
structure Grows (calendar later : Calendar) : Prop where
  now : calendar.now ≤ later.now
  feeds : ∀ {started source}, started < calendar.now → calendar.Feeds started source →
    later.Feeds started source

variable {calendar later : Calendar}

theorem Spares.feeds {source : Computation} (spares : calendar.Spares source) (started : Nat) :
    calendar.Feeds started source :=
  fun invalidation member _ _ _ => spares invalidation member

theorem Dates.mono {lineage : List Computation} (dated : calendar.Dates lineage)
    (grows : calendar.Grows later) : later.Dates lineage where
  started := fun computation member =>
    Nat.lt_of_lt_of_le (dated.started computation member) grows.now
  feeds := by
    refine dated.feeds.imp_of_mem_imp fun own source member _ feeds => ?_
    exact grows.feeds (dated.started own member) feeds

theorem grows_tick : calendar.Grows calendar.tick where
  now := Nat.le_succ _
  feeds := fun _ feeds => feeds

theorem Timed.tick (timed : calendar.Timed) : calendar.tick.Timed := by
  intro invalidation member
  obtain ⟨began, swept⟩ := timed invalidation member
  exact ⟨Nat.lt_succ_of_lt began, fun time listed =>
    ⟨(swept time listed).1, Nat.lt_succ_of_lt (swept time listed).2⟩⟩

theorem Spares.announce {computation : Computation} (spares : calendar.Spares computation)
    (dependency : String) : (calendar.announce dependency).Spares computation := by
  intro invalidation member
  rcases List.mem_append.mp member with before | new
  · exact spares invalidation before
  · rw [List.mem_singleton.mp new]
    intro time swept
    exact nomatch swept

theorem grows_announce (dependency : String) :
    calendar.Grows (calendar.announce dependency) where
  now := Nat.le_succ _
  feeds := by
    intro started source _ feeds invalidation member
    rcases List.mem_append.mp member with before | new
    · exact feeds invalidation before
    · rw [List.mem_singleton.mp new]
      intro time swept
      exact nomatch swept

theorem Timed.announce (timed : calendar.Timed) (dependency : String) :
    (calendar.announce dependency).Timed := by
  intro invalidation member
  rcases List.mem_append.mp member with before | new
  · exact timed.tick invalidation before
  · rw [List.mem_singleton.mp new]
    exact ⟨Nat.lt_succ_self _, fun _ absent => nomatch absent⟩

section Sweep

variable {place : Nat} {invalidation : Invalidation}

theorem mem_sweep {other : Invalidation}
    (member : other ∈ (calendar.sweep place invalidation).invalidations) :
    other ∈ calendar.invalidations ∨ other = invalidation.sweep calendar.now :=
  List.mem_or_eq_of_mem_set member

variable (listed : calendar.invalidations[place]? = some invalidation)
include listed

theorem Spares.sweep {computation : Computation} (spares : calendar.Spares computation)
    (independent : computation.stage = invalidation.swept.length →
      computation.outcome.dependsOn invalidation.dependency = false) :
    (calendar.sweep place invalidation).Spares computation := by
  intro other member
  rcases mem_sweep member with before | rfl
  · exact spares other before
  · exact (spares invalidation (List.mem_of_getElem? listed)).sweep independent

theorem grows_sweep : calendar.Grows (calendar.sweep place invalidation) where
  now := Nat.le_succ _
  feeds := by
    intro started source early feeds other member
    rcases mem_sweep member with before | rfl
    · exact feeds other before
    · exact (feeds invalidation (List.mem_of_getElem? listed)).sweep early

theorem Timed.sweep (timed : calendar.Timed) :
    (calendar.sweep place invalidation).Timed := by
  intro other member
  rcases mem_sweep member with before | rfl
  · exact timed.tick other before
  · obtain ⟨began, swept⟩ := timed invalidation (List.mem_of_getElem? listed)
    refine ⟨Nat.lt_succ_of_lt began, fun time listedTime => ?_⟩
    rcases List.mem_append.mp listedTime with before | last
    · exact ⟨(swept time before).1, Nat.lt_succ_of_lt (swept time before).2⟩
    · rw [List.mem_singleton.mp last]
      exact ⟨began, Nat.lt_succ_self _⟩

end Sweep

end Calendar

end Cascade
