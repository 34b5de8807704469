import Cascade.Cache.Shared

/-!
# Computations in flight

Any number of callers use one cache at the same time.  A caller looks a fingerprint up,
or fetches a slot in order to compute its outcome or to store one.  A fetched slot that
is empty and idle may be computed in, one that is filled gives its outcome away, and one
that another caller computes in makes its holder wait.  Slots may be dropped from the
table at any moment.

`Scene.Step` tells the single steps, and `Scene.Run` what they lead to in any order.
What a run keeps is told by `Scene.Sound`: it ties what slots hold to the computations
that came to an end.
-/

namespace Cascade

/-- What a caller fetches a slot for. -/
inductive Errand where
  | compute
  | store (outcome : Outcome)

namespace Errand

/-- Whether the computation is counted. -/
def counted : Errand → Bool
  | compute => true
  | store _ => false

/-- Whether the computation may end in an answer. -/
def Allows : Errand → Except Failure Outcome → Prop
  | compute, _ => True
  | store outcome, answer => answer = .ok outcome

end Errand

/-- What a caller is about. -/
inductive Stance where
  | free
  | holding (slot : Slot) (errand : Errand)
  | computing (slot : Slot) (errand : Errand)

namespace Stance

/-- The slot that the caller has in hand. -/
def slot? : Stance → Option Slot
  | free => none
  | holding slot _ => some slot
  | computing slot _ => some slot

/-- The slot that the caller computes in. -/
def computes? : Stance → Option Slot
  | computing slot _ => some slot
  | _ => none

end Stance

/-- A cache with its callers. -/
structure Scene where
  shared : Shared
  callers : Nat → Stance := fun _ => .free

/-- What a step consists in. -/
inductive Act where
  | looked (caller : Nat) (fingerprint : Fingerprint) (found : Option Outcome)
  | fetched (caller : Nat) (slot : Slot) (errand : Errand)
  | began (caller : Nat) (slot : Slot)
  | finished (caller : Nat) (slot : Slot) (answer : Except Failure Outcome)
  | took (caller : Nat) (slot : Slot) (outcome : Outcome)
  | dropped (how : Drop)

namespace Act

/-- The outcome that a caller is given from its slot. -/
def given? : Act → Option (Slot × Outcome)
  | finished _ slot (.ok outcome) => some (slot, outcome)
  | took _ slot outcome => some (slot, outcome)
  | _ => none

/-- Whether slots hold the same behind the step, and none is detached. -/
def quiet : Act → Bool
  | finished _ _ (.ok _) => false
  | dropped _ => false
  | _ => true

/-- The outcome that a caller finds without computing it, and its fingerprint. -/
def found? : Act → Option (Fingerprint × Outcome)
  | looked _ fingerprint (some outcome) => some (fingerprint, outcome)
  | took _ slot outcome => some (slot.fingerprint, outcome)
  | _ => none

/-- Whether a computation for the fingerprint succeeds. -/
def succeeds (fingerprint : Fingerprint) : Act → Bool
  | finished _ slot (.ok _) => fingerprint = slot.fingerprint
  | _ => false

end Act

namespace Scene

/-- The empty cache of a stage with callers that have not begun. -/
def ofStage (stage : String) : Scene where
  shared := { cache := .empty stage }

@[simp]
theorem content_ofStage (stage : String) (slot : Slot) :
    (ofStage stage).shared.content slot = none := by
  obtain ⟨fingerprint, generation⟩ := slot
  cases generation <;> rfl

/-- The scene with a caller in another stance. -/
def move (scene : Scene) (caller : Nat) (stance : Stance) : Scene :=
  { scene with callers := Function.update scene.callers caller stance }

@[simp]
theorem shared_move (scene : Scene) (caller : Nat) (stance : Stance) :
    (scene.move caller stance).shared = scene.shared :=
  rfl

theorem callers_move (scene : Scene) (caller : Nat) (stance : Stance) (other : Nat) :
    (scene.move caller stance).callers other =
      if other = caller then stance else scene.callers other :=
  Function.update_apply ..

/-- The steps of callers, and of those who drop slots. -/
inductive Step : Scene → Act → Scene → Prop where
  | look {scene : Scene} {caller : Nat} (free : scene.callers caller = .free)
      (fingerprint : Fingerprint) :
      Step scene (.looked caller fingerprint (scene.shared.look fingerprint).1)
        { scene with shared := (scene.shared.look fingerprint).2 }
  | fetch {scene : Scene} {caller : Nat} (free : scene.callers caller = .free)
      (fingerprint : Fingerprint) (errand : Errand) :
      Step scene (.fetched caller (scene.shared.fetch fingerprint).1 errand)
        ({ scene with shared := (scene.shared.fetch fingerprint).2 }.move caller
          (.holding (scene.shared.fetch fingerprint).1 errand))
  | start {scene : Scene} {caller : Nat} {slot : Slot} {errand : Errand}
      (holds : scene.callers caller = .holding slot errand)
      (empty : scene.shared.content slot = none) (idle : scene.shared.running slot = false) :
      Step scene (.began caller slot)
        ({ scene with shared := scene.shared.start slot errand.counted }.move caller
          (.computing slot errand))
  | finish {scene : Scene} {caller : Nat} {slot : Slot} {errand : Errand}
      {answer : Except Failure Outcome}
      (computes : scene.callers caller = .computing slot errand) (allowed : errand.Allows answer) :
      Step scene (.finished caller slot answer)
        ({ scene with shared := scene.shared.finish slot answer }.move caller .free)
  | take {scene : Scene} {caller : Nat} {slot : Slot} {errand : Errand} {outcome : Outcome}
      (holds : scene.callers caller = .holding slot errand)
      (filled : scene.shared.content slot = some outcome) :
      Step scene (.took caller slot outcome) (scene.move caller .free)
  | drop {scene : Scene} (how : Drop) :
      Step scene (.dropped how) { scene with shared := scene.shared.drop how }

/-- What steps lead to, with their acts in order. -/
inductive Run (first : Scene) : List Act → Scene → Prop where
  | idle : Run first [] first
  | more {acts : List Act} {scene next : Scene} {act : Act}
      (run : Run first acts scene) (step : Step scene act next) :
      Run first (acts ++ [act]) next

namespace Step

variable {scene next : Scene} {act : Act} {caller : Nat}

theorem of_content (free : scene.callers caller = .free) {fingerprint : Fingerprint}
    {found : Option Outcome}
    (holds : scene.shared.content (scene.shared.current fingerprint) = found) :
    Step scene (.looked caller fingerprint found)
      { scene with shared := (scene.shared.look fingerprint).2 } := by
  rw [← holds, Shared.content_current, ← Shared.look_eq]
  exact .look free fingerprint

/-- A lookup finds what the slot in the table holds. -/
theorem looked (step : Step scene act next) {fingerprint : Fingerprint} {found : Option Outcome}
    (told : act = .looked caller fingerprint found) :
    scene.shared.content (scene.shared.current fingerprint) = found := by
  cases step with
  | look free wanted =>
      cases told
      rw [Shared.content_current, Shared.look_eq]
  | fetch free fingerprint errand => exact nomatch told
  | start holds empty idle => exact nomatch told
  | finish computes allowed => exact nomatch told
  | take holds filled => exact nomatch told
  | drop how => exact nomatch told

theorem fetched {slot : Slot} {errand : Errand}
    (step : Step scene (.fetched caller slot errand) next) :
    slot = scene.shared.current slot.fingerprint := by
  cases step with
  | fetch free fingerprint errand => rfl

theorem took {slot : Slot} {outcome : Outcome}
    (step : Step scene (.took caller slot outcome) next) :
    scene.shared.content slot = some outcome := by
  cases step with
  | take holds filled => exact filled

theorem dropped {how : Drop} (step : Step scene (.dropped how) next) :
    next.shared = scene.shared.drop how := by
  cases step with
  | drop how => rfl

end Step

/-! ## What steps keep -/

/-- What slots hold is what computations in them came to, and a slot in which a
computation runs is empty and has one caller who computes in it. -/
structure Sound (acts : List Act) (scene : Scene) : Prop where
  known : ∀ caller slot, (scene.callers caller).slot? = some slot → scene.shared.Known slot
  running : ∀ slot, scene.shared.running slot = true ↔
    ∃ caller, (scene.callers caller).computes? = some slot
  alone : ∀ caller other slot, (scene.callers caller).computes? = some slot →
    (scene.callers other).computes? = some slot → caller = other
  vacant : ∀ slot, scene.shared.running slot = true → scene.shared.content slot = none
  given : ∀ act ∈ acts, ∀ slot outcome, act.given? = some (slot, outcome) →
    scene.shared.content slot = some outcome
  completed : ∀ slot outcome, scene.shared.content slot = some outcome →
    ∃ caller, .finished caller slot (.ok outcome) ∈ acts
  counted : ∀ fingerprint,
    acts.countP (Act.succeeds fingerprint) = scene.shared.fillings fingerprint

namespace Sound

theorem ofStage (stage : String) : Sound [] (Scene.ofStage stage) where
  known := fun _ _ held => nomatch held
  running := fun _ => ⟨fun runs => (nomatch runs), fun ⟨_, computes⟩ => nomatch computes⟩
  alone := fun _ _ _ computes => nomatch computes
  vacant := fun _ runs => nomatch runs
  given := fun _ absent => nomatch absent
  completed := fun slot _ filled => nomatch (content_ofStage stage slot).symm.trans filled
  counted := fun _ => rfl

variable {acts : List Act} {scene next : Scene} {act : Act}

/-- Steps that touch neither what slots hold nor what is being computed. -/
theorem quiet (sound : Sound acts scene)
    (content : ∀ slot, next.shared.content slot = scene.shared.content slot)
    (running : next.shared.running = scene.shared.running)
    (fillings : ∀ fingerprint,
      next.shared.fillings fingerprint = scene.shared.fillings fingerprint)
    (known : ∀ caller slot, (next.callers caller).slot? = some slot → next.shared.Known slot)
    (computes : ∀ caller,
      (next.callers caller).computes? = (scene.callers caller).computes?)
    (given : ∀ slot outcome, act.given? = some (slot, outcome) →
      scene.shared.content slot = some outcome)
    (fails : ∀ fingerprint, act.succeeds fingerprint = false) :
    Sound (acts ++ [act]) next where
  known := known
  running := by simpa only [running, computes] using sound.running
  alone := by simpa only [computes] using sound.alone
  vacant := by simpa only [running, content] using sound.vacant
  given := by
    intro other member slot outcome gives
    rw [content]
    rcases List.mem_append.mp member with before | last
    · exact sound.given other before slot outcome gives
    · rw [List.mem_singleton.mp last] at gives
      exact given slot outcome gives
  completed := by
    intro slot outcome filled
    rw [content] at filled
    obtain ⟨caller, member⟩ := sound.completed slot outcome filled
    exact ⟨caller, List.mem_append_left _ member⟩
  counted := by
    intro fingerprint
    rw [fillings, List.countP_append, sound.counted]
    simp [fails]

/-- A caller that computes neither before nor behind a step changes nothing about who
does. -/
theorem computes_move {caller : Nat} {stance : Stance}
    (before : (scene.callers caller).computes? = none) (behind : stance.computes? = none)
    (other : Nat) :
    ((scene.move caller stance).callers other).computes? = (scene.callers other).computes? := by
  rw [callers_move]
  split
  next here => rw [behind, here, before]
  next => rfl

theorem known_move (sound : Sound acts scene) {shared : Shared}
    (kept : ∀ slot, scene.shared.Known slot → shared.Known slot) {caller : Nat} {stance : Stance}
    (known : ∀ slot, stance.slot? = some slot → shared.Known slot) (other : Nat) (slot : Slot)
    (held : ((scene.move caller stance).callers other).slot? = some slot) :
    shared.Known slot := by
  rw [callers_move] at held
  split at held
  next => exact known slot held
  next => exact kept slot (sound.known other slot held)

theorem computes_move_iff {caller other : Nat} {stance : Stance} {slot : Slot} :
    ((scene.move caller stance).callers other).computes? = some slot ↔
      other = caller ∧ stance.computes? = some slot ∨
        other ≠ caller ∧ (scene.callers other).computes? = some slot := by
  rw [callers_move]
  by_cases here : other = caller <;> simp [here]

/-- A computation begins in a slot that is empty, and that nobody computes in. -/
theorem start (sound : Sound acts scene) {caller : Nat} {slot : Slot} {errand : Errand}
    (holds : scene.callers caller = .holding slot errand)
    (empty : scene.shared.content slot = none) (idle : scene.shared.running slot = false) :
    Sound (acts ++ [.began caller slot])
      ({ scene with shared := scene.shared.start slot errand.counted }.move caller
        (.computing slot errand)) := by
  have unclaimed : ∀ other, (scene.callers other).computes? ≠ some slot := by
    intro other computes
    rw [(sound.running slot).mpr ⟨other, computes⟩] at idle
    exact nomatch idle
  have before : (scene.callers caller).computes? = none := by rw [holds]; rfl
  constructor
  case known =>
    refine sound.known_move (fun _ known => known) ?_
    rintro _ ⟨⟩
    exact sound.known caller slot (by rw [holds]; rfl)
  case running =>
    intro other
    simp only [computes_move_iff]
    by_cases here : other = slot
    · subst here
      have now : (scene.shared.start other errand.counted).running other = true :=
        Function.update_self ..
      exact ⟨fun _ => ⟨caller, .inl ⟨rfl, rfl⟩⟩, fun _ => now⟩
    · have same : (scene.shared.start slot errand.counted).running other =
          scene.shared.running other := Function.update_of_ne here ..
      rw [shared_move, same, sound.running]
      constructor
      · rintro ⟨holder, computes⟩
        have elsewhere : holder ≠ caller := by
          rintro rfl
          exact nomatch before.symm.trans computes
        exact ⟨holder, .inr ⟨elsewhere, computes⟩⟩
      · rintro ⟨holder, ⟨_, computes⟩ | ⟨_, computes⟩⟩
        · exact absurd (Option.some.inj computes).symm here
        · exact ⟨holder, computes⟩
  case alone =>
    intro first second other
    rw [computes_move_iff, computes_move_iff]
    rintro (⟨rfl, computes⟩ | ⟨_, computes⟩) (⟨rfl, also⟩ | ⟨_, also⟩)
    · rfl
    · cases computes
      exact absurd also (unclaimed second)
    · cases also
      exact absurd computes (unclaimed first)
    · exact sound.alone first second other computes also
  case vacant =>
    intro other runs
    rw [shared_move, Shared.content_start]
    by_cases here : other = slot
    · rw [here, empty]
    · exact sound.vacant other ((Function.update_of_ne here ..).symm.trans runs)
  case given =>
    intro act member other outcome gives
    rw [shared_move, Shared.content_start]
    rcases List.mem_append.mp member with before | last
    · exact sound.given act before other outcome gives
    · rw [List.mem_singleton.mp last] at gives
      exact nomatch gives
  case completed =>
    intro other outcome filled
    rw [shared_move, Shared.content_start] at filled
    obtain ⟨holder, member⟩ := sound.completed other outcome filled
    exact ⟨holder, List.mem_append_left _ member⟩
  case counted =>
    intro fingerprint
    rw [List.countP_append, sound.counted, shared_move, Shared.fillings_start]
    rfl

theorem vacant_of_computes (sound : Sound acts scene) {caller : Nat} {slot : Slot}
    (computes : (scene.callers caller).computes? = some slot) :
    scene.shared.content slot = none :=
  sound.vacant slot ((sound.running slot).mpr ⟨caller, computes⟩)

/-- A computation ends in a slot that was empty: it is filled, or stays empty. -/
theorem finish (sound : Sound acts scene) {caller : Nat} {slot : Slot} {errand : Errand}
    (computes : scene.callers caller = .computing slot errand) (answer : Except Failure Outcome) :
    Sound (acts ++ [.finished caller slot answer])
      ({ scene with shared := scene.shared.finish slot answer }.move caller .free) := by
  have own : (scene.callers caller).computes? = some slot := by rw [computes]; rfl
  have known : scene.shared.Known slot := sound.known caller slot (by rw [computes]; rfl)
  have vacant : scene.shared.content slot = none := sound.vacant_of_computes own
  have running : ∀ other, (scene.shared.finish slot answer).running other = true ↔
      other ≠ slot ∧ scene.shared.running other = true := by
    intro other
    rw [Shared.running_finish, Function.update_apply]
    by_cases here : other = slot <;> simp [here]
  constructor
  case known =>
    exact sound.known_move (fun _ known => known.finish slot answer) fun _ held => nomatch held
  case running =>
    intro other
    rw [shared_move, running, sound.running]
    simp only [computes_move_iff]
    constructor
    · rintro ⟨elsewhere, holder, computesOther⟩
      refine ⟨holder, .inr ⟨?_, computesOther⟩⟩
      rintro rfl
      exact elsewhere (Option.some.inj (computesOther.symm.trans own))
    · rintro ⟨holder, ⟨_, computesOther⟩ | ⟨apart, computesOther⟩⟩
      · exact nomatch computesOther
      · refine ⟨?_, holder, computesOther⟩
        rintro rfl
        exact apart (sound.alone holder caller other computesOther own)
  case alone =>
    intro first second other
    rw [computes_move_iff, computes_move_iff]
    rintro (⟨_, computesFirst⟩ | ⟨_, computesFirst⟩) (⟨_, computesSecond⟩ | ⟨_, computesSecond⟩)
    · exact nomatch computesFirst
    · exact nomatch computesFirst
    · exact nomatch computesSecond
    · exact sound.alone first second other computesFirst computesSecond
  case vacant =>
    intro other runs
    obtain ⟨elsewhere, ranBefore⟩ := (running other).mp runs
    rw [shared_move, Shared.content_finish known vacant, if_neg elsewhere]
    exact sound.vacant other ranBefore
  case given =>
    intro act member other outcome gives
    rw [shared_move, Shared.content_finish known vacant]
    rcases List.mem_append.mp member with before | last
    · have filled := sound.given act before other outcome gives
      rw [if_neg, filled]
      rintro rfl
      exact nomatch vacant.symm.trans filled
    · rw [List.mem_singleton.mp last] at gives
      cases answer with
      | ok result =>
          cases gives
          exact if_pos rfl
      | error failure => exact nomatch gives
  case completed =>
    intro other outcome filled
    rw [shared_move, Shared.content_finish known vacant] at filled
    split at filled
    next here =>
      cases answer with
      | ok result =>
          cases filled
          rw [here]
          exact ⟨caller, List.mem_append_right _ List.mem_cons_self⟩
      | error failure => exact nomatch filled
    next =>
      obtain ⟨holder, member⟩ := sound.completed other outcome filled
      exact ⟨holder, List.mem_append_left _ member⟩
  case counted =>
    intro fingerprint
    rw [List.countP_append, sound.counted, shared_move, Shared.fillings_finish known vacant]
    cases answer with
    | ok outcome => simp [Act.succeeds, List.countP_cons, Except.isOk, Except.toBool]
    | error failure => rfl

theorem step (sound : Sound acts scene) (step : Step scene act next) :
    Sound (acts ++ [act]) next := by
  cases step with
  | @look caller free fingerprint =>
      exact sound.quiet (scene.shared.content_look fingerprint) rfl
        (scene.shared.fillings_look fingerprint) sound.known (fun _ => rfl)
        (fun _ _ gives => nomatch gives) fun _ => rfl
  | @fetch caller free fingerprint errand =>
      refine sound.quiet (scene.shared.content_fetch fingerprint) rfl
        (scene.shared.fillings_fetch fingerprint) (sound.known_move (fun _ known => known) ?_)
        (computes_move (by rw [free]; rfl) rfl) (fun _ _ gives => nomatch gives) fun _ => rfl
      rintro _ ⟨⟩
      exact scene.shared.known_current fingerprint
  | start holds empty idle => exact sound.start holds empty idle
  | finish computes allowed => exact sound.finish computes _
  | @take caller slot errand outcome holds filled =>
      refine sound.quiet (fun _ => rfl) rfl (fun _ => rfl)
        (sound.known_move (fun _ known => known) fun _ held => nomatch held)
        (computes_move (by rw [holds]; rfl) rfl) ?_ fun _ => rfl
      rintro _ _ ⟨⟩
      exact filled
  | drop how =>
      exact sound.quiet (scene.shared.content_drop how) rfl (scene.shared.fillings_drop how)
        (fun caller slot held => (sound.known caller slot held).drop how) (fun _ => rfl)
        (fun _ _ gives => nomatch gives) fun _ => rfl

end Sound

variable {stage : String} {first scene : Scene} {acts : List Act}

theorem Run.trans {more : List Act} {later : Scene} (run : Run first acts scene)
    (others : Run scene more later) : Run first (acts ++ more) later := by
  induction others with
  | idle => rwa [List.append_nil]
  | more _ step inductionHypothesis =>
      rw [← List.append_assoc]
      exact inductionHypothesis.more step

theorem Run.sound (run : Run (ofStage stage) acts scene) : Sound acts scene := by
  induction run with
  | idle => exact .ofStage stage
  | more _ step inductionHypothesis => exact inductionHypothesis.step step

namespace Sound

variable {next : Scene} {act : Act}

/-- A computation ends in a slot that was empty. -/
theorem finish_step (sound : Sound acts scene) {caller : Nat} {slot : Slot}
    {answer : Except Failure Outcome} (step : Step scene (.finished caller slot answer) next) :
    (∀ other, next.shared.content other =
      if other = slot then answer.toOption else scene.shared.content other) ∧
    scene.shared.content slot = none ∧
    ∀ fingerprint, next.shared.current fingerprint = scene.shared.current fingerprint := by
  cases step with
  | finish computes allowed =>
      have own : (scene.callers caller).computes? = some slot := by rw [computes]; rfl
      have known := sound.known caller slot (by rw [computes]; rfl)
      have vacant := sound.vacant_of_computes own
      exact ⟨Shared.content_finish known vacant answer, vacant,
        Shared.current_finish slot answer⟩

theorem quiet_step (sound : Sound acts scene) (step : Step scene act next)
    (quiet : act.quiet = true) :
    (∀ slot, next.shared.content slot = scene.shared.content slot) ∧
      ∀ fingerprint, next.shared.current fingerprint = scene.shared.current fingerprint := by
  cases step with
  | look free fingerprint => exact ⟨scene.shared.content_look fingerprint, fun _ => rfl⟩
  | fetch free fingerprint errand => exact ⟨scene.shared.content_fetch fingerprint, fun _ => rfl⟩
  | @start caller slot errand holds empty idle =>
      exact ⟨fun other => scene.shared.content_start slot other errand.counted, fun _ => rfl⟩
  | @finish caller slot errand answer computes allowed =>
      cases answer with
      | ok outcome => exact nomatch quiet
      | error failure =>
          obtain ⟨content, vacant, current⟩ := sound.finish_step (.finish computes allowed)
          refine ⟨fun other => (content other).trans ?_, current⟩
          split
          next here => rw [here, vacant]; rfl
          next => rfl
  | take holds filled => exact ⟨fun _ => rfl, fun _ => rfl⟩
  | drop how => exact nomatch quiet

/-- A step does not change what a filled slot holds. -/
theorem content_step (sound : Sound acts scene) (step : Step scene act next) {slot : Slot}
    {outcome : Outcome} (filled : scene.shared.content slot = some outcome) :
    next.shared.content slot = some outcome := by
  cases step with
  | look free fingerprint => rwa [Shared.content_look]
  | fetch free fingerprint errand => rwa [shared_move, Shared.content_fetch]
  | start holds empty idle => rwa [shared_move, Shared.content_start]
  | finish computes allowed =>
      obtain ⟨content, vacant, _⟩ := sound.finish_step (.finish computes allowed)
      rw [content, if_neg, filled]
      rintro rfl
      exact nomatch vacant.symm.trans filled
  | take holds _ => exact filled
  | drop how => rwa [Shared.content_drop]

/-- What a caller finds without computing it, a computation came to before. -/
theorem found_step (sound : Sound acts scene) (step : Step scene act next)
    {fingerprint : Fingerprint} {outcome : Outcome}
    (found : act.found? = some (fingerprint, outcome)) :
    ∃ caller slot, slot.fingerprint = fingerprint ∧
      .finished caller slot (.ok outcome) ∈ acts := by
  cases step with
  | look free wanted =>
      rw [Shared.look_eq] at found
      cases held : scene.shared.cache.slots.held? wanted with
      | none =>
          rw [held] at found
          exact nomatch found
      | some outcome =>
          rw [held] at found
          cases found
          obtain ⟨caller, finished⟩ := sound.completed (scene.shared.current _) _
            ((scene.shared.content_current _).trans held)
          exact ⟨caller, _, rfl, finished⟩
  | fetch free fingerprint errand => exact nomatch found
  | start holds empty idle => exact nomatch found
  | finish computes allowed => exact nomatch found
  | @take caller slot errand outcome holds filled =>
      cases found
      obtain ⟨caller, finished⟩ := sound.completed slot outcome filled
      exact ⟨caller, slot, rfl, finished⟩
  | drop how => exact nomatch found

end Sound

theorem Run.content {more : List Act} {later : Scene} (run : Run (ofStage stage) acts scene)
    (others : Run scene more later) {slot : Slot} {outcome : Outcome}
    (filled : scene.shared.content slot = some outcome) :
    later.shared.content slot = some outcome := by
  induction others with
  | idle => exact filled
  | more before step inductionHypothesis =>
      exact (run.trans before).sound.content_step step inductionHypothesis

/-- However the steps of any number of callers are interleaved with each other and with
drops: at most one caller computes in a slot; a filled slot never changes; all callers that
are given an outcome from one slot are given the same one; what a caller finds without
computing it, a computation came to before; a computation that fails leaves its slot idle
and empty, changes nothing else, and concerns its caller alone; and the computations for a
fingerprint that succeed are at most one more than the slots for it that were detached. -/
theorem Run.in_flight (run : Run (ofStage stage) acts scene) :
    (∀ caller other slot, (scene.callers caller).computes? = some slot →
      (scene.callers other).computes? = some slot → caller = other) ∧
    (∀ slot outcome, scene.shared.content slot = some outcome →
      ∀ more later, Run scene more later → later.shared.content slot = some outcome) ∧
    (∀ act ∈ acts, ∀ another ∈ acts, ∀ slot outcome other,
      act.given? = some (slot, outcome) → another.given? = some (slot, other) →
        outcome = other) ∧
    (∀ act next, Step scene act next → ∀ fingerprint outcome,
      act.found? = some (fingerprint, outcome) → ∃ caller slot,
        slot.fingerprint = fingerprint ∧ .finished caller slot (.ok outcome) ∈ acts) ∧
    (∀ caller slot failure next, Step scene (.finished caller slot (.error failure)) next →
      next.shared.content slot = none ∧ next.shared.running slot = false ∧
      next.shared.cache = scene.shared.cache ∧
      (∀ other, next.shared.content other = scene.shared.content other) ∧
      ∀ other, other ≠ caller → next.callers other = scene.callers other) ∧
    ∀ fingerprint, acts.countP (Act.succeeds fingerprint) ≤
      (scene.shared.detached fingerprint).length + 1 := by
  have sound := run.sound
  refine ⟨sound.alone, fun slot outcome filled more later others => run.content others filled,
    ?_, fun act next step fingerprint outcome => sound.found_step step, ?_, ?_⟩
  · intro act member another also slot outcome other gives givesOther
    have filled := sound.given act member slot outcome gives
    exact Option.some.inj (filled.symm.trans (sound.given another also slot other givesOther))
  · intro caller slot failure next step
    cases step with
    | finish computes allowed =>
        have own : (scene.callers caller).computes? = some slot := by rw [computes]; rfl
        refine ⟨sound.vacant_of_computes own, Function.update_self .., rfl, fun _ => rfl, ?_⟩
        intro other elsewhere
        rw [callers_move, if_neg elsewhere]
  · intro fingerprint
    rw [sound.counted]
    exact scene.shared.fillings_le fingerprint

/-- One caller computes and another one waits while the slot is dropped from the table. -/
theorem waiting_run (fingerprint : Fingerprint) (outcome : Outcome) :
    ∃ scene, Run (ofStage "lint")
      [.fetched 0 ⟨fingerprint, 0⟩ .compute, .fetched 1 ⟨fingerprint, 0⟩ .compute,
        .began 0 ⟨fingerprint, 0⟩, .dropped .clear,
        .finished 0 ⟨fingerprint, 0⟩ (.ok outcome), .took 1 ⟨fingerprint, 0⟩ outcome] scene := by
  have fetched : Run (ofStage "lint") _ _ :=
    (Run.idle.more (@Step.fetch _ 0 rfl fingerprint .compute)).more
      (@Step.fetch _ 1 rfl fingerprint .compute)
  have begun := fetched.more (@Step.start _ 0 ⟨fingerprint, 0⟩ _ rfl (by simp) rfl)
  have finished := (begun.more (.drop .clear)).more
    (@Step.finish _ 0 _ _ (.ok outcome) rfl trivial)
  have filled := finished.sound.given _ (List.mem_append_right _ List.mem_cons_self) _ _ rfl
  exact ⟨_, finished.more (@Step.take _ 1 _ _ _ rfl filled)⟩

/-- The one who waited is given what the other one computed. -/
theorem in_flight_waiting :
    ∃ scene acts, Run (ofStage "lint") acts scene ∧
      .took 1 ⟨Request.fingerprint { tree := .program [] }, 0⟩ { tree := .program [] } ∈ acts ∧
      ∀ more later, Run scene more later →
        later.shared.content ⟨Request.fingerprint { tree := .program [] }, 0⟩ =
          some { tree := .program [] } := by
  obtain ⟨scene, run⟩ := waiting_run (Request.fingerprint { tree := .program [] })
    { tree := .program [] }
  obtain ⟨_, stays, _⟩ := run.in_flight
  refine ⟨scene, _, run, by simp, fun more later others => ?_⟩
  refine stays _ _ ?_ more later others
  exact run.sound.given (.took 1 _ _) (by simp) _ _ rfl

end Scene

end Cascade
