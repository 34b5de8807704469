import Cascade.Proofs.InFlight
import Mathlib.Algebra.Ring.Nat

/-!
# The count of a sweep

A sweep answers by how many slots the table shrank.  It reads the size of the table, drops
the filled slots that it is not to keep, and reads the size again; other callers may act
between these steps.  A slot that one of them makes in the meantime makes the answer too
small, and a slot that one of them drops makes it too large.  The account of a run tells how
many there were of both, and from it what the answer is and when it is right.
-/

namespace Cascade

namespace Slots

/-- The number of filled slots that `keep` rejects. -/
def rejected (slots : Slots) (keep : Fingerprint → Outcome → Bool) : Nat :=
  slots.countP fun slot => slot.2.any fun outcome => !keep slot.1 outcome

/-- A sweep drops the rejected slots, and no others. -/
theorem length_sweep (slots : Slots) (keep : Fingerprint → Outcome → Bool) :
    (slots.sweep keep).length + slots.rejected keep = slots.length := by
  have complement : ∀ slot ∈ slots,
      (slot.2.any fun outcome => !keep slot.1 outcome) = true ↔
        decide (¬stays keep slot = true) = true := by
    rintro ⟨fingerprint, filling⟩ _
    cases filling <;> simp [stays]
  rw [rejected, List.countP_congr complement, sweep, ← List.countP_eq_length_filter]
  exact List.length_eq_countP_add_countP (stays keep) |>.symm

theorem length_ensure (slots : Slots) (fingerprint : Fingerprint) :
    (slots.ensure fingerprint).length =
      slots.length + (!(slots.lookup fingerprint).isSome).toNat := by
  unfold ensure
  split
  next present => simp [present]
  next absent => simp [absent]

/-- An outcome that is put into a slot of the table makes no further slot. -/
theorem length_fill {slots : Slots} {fingerprint : Fingerprint}
    (present : (slots.lookup fingerprint).isSome = true) (outcome : Outcome) :
    (slots.fill fingerprint outcome).length = slots.length := by
  induction slots with
  | nil => exact nomatch present
  | cons slot rest inductionHypothesis =>
      unfold fill
      by_cases here : slot.1 = fingerprint
      · rw [if_pos here]
        rfl
      · have different : (fingerprint == slot.1) = false := by simpa using Ne.symm here
        rw [List.lookup_cons, different] at present
        rw [if_neg here, List.length_cons, List.length_cons, inductionHypothesis present]

end Slots

namespace Cache

theorem slotCount_drop_le (cache : Cache) (how : Drop) :
    (cache.drop how).slotCount ≤ cache.slotCount := by
  cases how with
  | remove fingerprint =>
      rw [drop, remove, if_pos (owns_inStage rfl fingerprint)]
      exact List.length_filter_le ..
  | retain keep => exact List.length_filter_le ..
  | clear => exact Nat.zero_le _

theorem hasSlot_iff (cache : Cache) (fingerprint : Fingerprint) :
    cache.hasSlot fingerprint = true ↔ fingerprint ∈ cache.slots.map Prod.fst := by
  constructor
  · intro present
    obtain ⟨found, listed⟩ := Option.isSome_iff_exists.mp present
    obtain ⟨before, behind, split, _⟩ := List.lookup_eq_some_iff.mp listed
    rw [split]
    simp
  · exact Slots.mem_keys_of_lookup_isSome

theorem hasSlot_ensure_self (cache : Cache) (fingerprint : Fingerprint) :
    (cache.ensure fingerprint).hasSlot fingerprint = true := by
  apply (hasSlot_iff ..).mpr
  unfold ensure Slots.ensure
  split
  next present => exact (cache.hasSlot_iff fingerprint).mp present
  next => simp

/-- Making a slot takes no other one away. -/
theorem hasSlot_ensure {cache : Cache} {fingerprint : Fingerprint}
    (present : cache.hasSlot fingerprint = true) (given : Fingerprint) :
    (cache.ensure given).hasSlot fingerprint = true := by
  apply (hasSlot_iff ..).mpr
  unfold ensure Slots.ensure
  have member := (cache.hasSlot_iff fingerprint).mp present
  split
  · exact member
  · rw [List.map_append]
    exact List.mem_append_left _ member

theorem hasSlot_fill {cache : Cache} {fingerprint : Fingerprint}
    (present : cache.hasSlot fingerprint = true) (given : Fingerprint) (outcome : Outcome) :
    (cache.fill given outcome).2.hasSlot fingerprint = true := by
  apply (hasSlot_iff ..).mpr
  have member := (cache.hasSlot_iff fingerprint).mp present
  unfold fill
  rw [Slots.keys_fill]
  split
  · exact member
  · exact List.mem_append_left _ member

end Cache

namespace Scene

/-- The number of slots in the table, filled or empty. -/
def size (scene : Scene) : Nat :=
  scene.shared.cache.slotCount

/-- How many slots an act makes. -/
def made (scene : Scene) : Act → Nat
  | .fetched _ slot _ => (!scene.shared.cache.hasSlot slot.fingerprint).toNat
  | _ => 0

/-- How many slots an act takes out of the table. -/
def removed (scene : Scene) : Act → Nat
  | .dropped how => scene.size - (scene.shared.cache.drop how).slotCount
  | _ => 0

/-- The scene behind a sweep. -/
def sweep (scene : Scene) (keep : Key → Outcome → Bool) : Scene :=
  { scene with shared := scene.shared.drop (.retain keep) }

/-- The number of outcomes that a sweep of the table would drop. -/
def rejected (scene : Scene) (keep : Key → Outcome → Bool) : Nat :=
  scene.shared.cache.slots.rejected fun fingerprint =>
    keep (fingerprint.inStage scene.shared.cache.stage)

theorem size_sweep (scene : Scene) (keep : Key → Outcome → Bool) :
    (scene.sweep keep).size + scene.rejected keep = scene.size :=
  Slots.length_sweep ..

/-! ## Slots in hand -/

/-- A slot in the hand of a caller that was not detached is in the table. -/
def Attached (scene : Scene) : Prop :=
  ∀ caller slot, (scene.callers caller).slot? = some slot →
    slot = scene.shared.current slot.fingerprint →
      scene.shared.cache.hasSlot slot.fingerprint = true

namespace Attached

variable {acts : List Act} {scene next : Scene} {act : Act}

/-- Steps that detach no slot and take none out of the table, and whose caller comes to hold
a slot of the table, if any. -/
theorem of_kept (attached : Attached scene)
    (current : ∀ fingerprint, next.shared.current fingerprint = scene.shared.current fingerprint)
    (kept : ∀ fingerprint, scene.shared.cache.hasSlot fingerprint = true →
      next.shared.cache.hasSlot fingerprint = true)
    (held : ∀ caller slot, (next.callers caller).slot? = some slot →
      (scene.callers caller).slot? = some slot ∨
        next.shared.cache.hasSlot slot.fingerprint = true) :
    Attached next := by
  intro caller slot holds listed
  rcases held caller slot holds with before | now
  · rw [current] at listed
    exact kept _ (attached caller slot before listed)
  · exact now

theorem held_move {caller : Nat} {stance : Stance} {shared : Shared}
    (held : ∀ slot, stance.slot? = some slot →
      (scene.callers caller).slot? = some slot ∨ shared.cache.hasSlot slot.fingerprint = true)
    (other : Nat) (slot : Slot)
    (holds : ((scene.move caller stance).callers other).slot? = some slot) :
    (scene.callers other).slot? = some slot ∨ shared.cache.hasSlot slot.fingerprint = true := by
  rw [callers_move] at holds
  split at holds
  next here => exact here ▸ held slot holds
  next => exact .inl holds

theorem hasSlot_put {shared : Shared} {fingerprint : Fingerprint}
    (present : shared.cache.hasSlot fingerprint = true) (slot : Slot) (outcome : Outcome) :
    (shared.put slot outcome).cache.hasSlot fingerprint = true := by
  unfold Shared.put
  split
  · exact Cache.hasSlot_fill present slot.fingerprint outcome
  · exact present

theorem step (attached : Attached scene) (sound : Sound acts scene) (step : Step scene act next) :
    Attached next := by
  cases step with
  | @look caller free fingerprint =>
      refine attached.of_kept (fun _ => rfl) ?_ fun _ _ holds => .inl holds
      intro other present
      rw [Cache.hasSlot, Shared.slots_look]
      exact present
  | @fetch caller free fingerprint errand =>
      refine attached.of_kept (fun _ => rfl)
        (fun _ present => Cache.hasSlot_ensure present fingerprint) (held_move ?_)
      rintro _ ⟨⟩
      exact .inr (scene.shared.cache.hasSlot_ensure_self fingerprint)
  | @start caller slot errand holds empty idle =>
      refine attached.of_kept (fun _ => rfl) ?_ (held_move ?_)
      · intro other present
        cases errand <;> exact present
      · rintro _ ⟨⟩
        rw [holds]
        exact .inl rfl
  | @finish caller slot errand answer computes allowed =>
      refine attached.of_kept (Shared.current_finish slot answer) ?_ (held_move ?_)
      · intro other present
        cases answer with
        | ok outcome => exact hasSlot_put present slot outcome
        | error failure => exact present
      · intro _ absent
        cases absent
  | @take caller slot errand outcome holds filled =>
      refine attached.of_kept (fun _ => rfl) (fun _ present => present) (held_move ?_)
      intro _ absent
      cases absent
  | drop how =>
      intro caller slot holds listed
      by_contra missing
      have known := sound.known caller slot holds
      by_cases before : scene.shared.cache.hasSlot slot.fingerprint = true
      · have gone : (scene.shared.cache.hasSlot slot.fingerprint &&
            !(scene.shared.cache.drop how).hasSlot slot.fingerprint) = true := by
          have missing : ¬(scene.shared.cache.drop how).hasSlot slot.fingerprint = true := missing
          simp [before, missing]
        have later : slot.generation =
            ((scene.shared.drop how).detached slot.fingerprint).length :=
          congrArg Slot.generation listed
        rw [(Shared.drop_of_gone gone).1, List.length_append, List.length_singleton] at later
        have known : slot.generation ≤ (scene.shared.detached slot.fingerprint).length := known
        omega
      · have left : ¬(scene.shared.cache.hasSlot slot.fingerprint &&
            !(scene.shared.cache.drop how).hasSlot slot.fingerprint) = true := by
          simp [before]
        apply before
        apply attached caller slot holds
        rw [Shared.current, ← (Shared.drop_of_left left).1]
        exact listed

end Attached

theorem Run.attached {stage : String} {acts : List Act} {scene : Scene}
    (run : Run (ofStage stage) acts scene) : Attached scene := by
  induction run with
  | idle => exact fun _ _ absent => nomatch absent
  | more before step inductionHypothesis => exact inductionHypothesis.step before.sound step

/-! ## The account of a run -/

/-- What steps lead to, with how many slots they made and how many they took out of the
table. -/
inductive Account (first : Scene) : Nat → Nat → Scene → Prop where
  | idle : Account first 0 0 first
  | more {made removed : Nat} {scene next : Scene} {act : Act}
      (account : Account first made removed scene) (step : Step scene act next) :
      Account first (made + scene.made act) (removed + scene.removed act) next

/-- Every run has its account. -/
theorem Run.exists_account {first scene : Scene} {acts : List Act} (run : Run first acts scene) :
    ∃ made removed, Account first made removed scene := by
  induction run with
  | idle => exact ⟨0, 0, .idle⟩
  | more _ step inductionHypothesis =>
      obtain ⟨made, removed, account⟩ := inductionHypothesis
      exact ⟨_, _, account.more step⟩

theorem Account.exists_run {first scene : Scene} {made removed : Nat}
    (account : Account first made removed scene) : ∃ acts, Run first acts scene := by
  induction account with
  | idle => exact ⟨[], .idle⟩
  | more _ step inductionHypothesis =>
      obtain ⟨acts, run⟩ := inductionHypothesis
      exact ⟨_, run.more step⟩

/-- The table grows by the slots that a step makes and shrinks by those that it takes out. -/
theorem Step.size {scene next : Scene} {act : Act} (step : Step scene act next)
    (attached : Attached scene) : next.size + scene.removed act = scene.size + scene.made act := by
  cases step with
  | @look caller free fingerprint =>
      exact congrArg List.length (scene.shared.slots_look fingerprint)
  | fetch free fingerprint errand => exact Slots.length_ensure ..
  | @start caller slot errand holds empty idle => cases errand <;> rfl
  | @finish caller slot errand answer computes allowed =>
      cases answer with
      | error failure => rfl
      | ok outcome =>
          simp only [Scene.size, shared_move, Shared.finish, Shared.halt, Shared.put]
          split
          next here =>
            have present := attached caller slot (by rw [computes]; rfl)
              (by cases slot; exact congrArg (Slot.mk _) here)
            exact Slots.length_fill present outcome
          next => rfl
  | take holds filled => rfl
  | drop how => exact Nat.add_sub_cancel' (scene.shared.cache.slotCount_drop_le how)

/-- So the size of the table follows from the account of the run. -/
theorem Account.size {stage : String} {past : List Act} {first scene : Scene}
    {made removed : Nat} (account : Account first made removed scene)
    (reached : Run (ofStage stage) past first) :
    scene.size + removed = first.size + made := by
  induction account with
  | idle => rfl
  | @more made removed scene next act before step inductionHypothesis =>
      obtain ⟨acts, run⟩ := before.exists_run
      have grown := step.size (reached.trans run).attached
      omega

/-! ## Two readings -/

/-- A sweep that one caller makes while others act: what the scene is at its first reading,
where it sweeps, and at its second reading, with the account of what the others do. -/
structure Sweep where
  keep : Key → Outcome → Bool
  stage : String
  past : List Act
  first : Scene
  swept : Scene
  last : Scene
  madeBefore : Nat
  removedBefore : Nat
  madeBehind : Nat
  removedBehind : Nat
  reached : Run (ofStage stage) past first
  before : Account first madeBefore removedBefore swept
  behind : Account (swept.sweep keep) madeBehind removedBehind last

namespace Sweep

/-- The number of outcomes that the sweep drops. -/
def dropped (sweep : Sweep) : Nat :=
  sweep.swept.rejected sweep.keep

/-- The number of slots that others make between the readings. -/
def made (sweep : Sweep) : Nat :=
  sweep.madeBefore + sweep.madeBehind

/-- The number of slots that others take out of the table between the readings. -/
def removed (sweep : Sweep) : Nat :=
  sweep.removedBefore + sweep.removedBehind

/-- The difference of the two readings, if there is one. -/
def answer (sweep : Sweep) : Option Nat :=
  if sweep.last.size ≤ sweep.first.size then some (sweep.first.size - sweep.last.size) else none

/-- What an invalidation answers that sweeps one stage after another, if each of its sweeps
has an answer. -/
def total : List Sweep → Option Nat
  | [] => some 0
  | sweep :: rest => sweep.answer.bind fun count => (total rest).map (count + ·)

/-- Every slot that was in the table at one of the readings is accounted for. -/
theorem balance (sweep : Sweep) :
    sweep.last.size + sweep.dropped + sweep.removed = sweep.first.size + sweep.made := by
  obtain ⟨acts, run⟩ := sweep.before.exists_run
  have sweptHere : Run (ofStage sweep.stage) _ (sweep.swept.sweep sweep.keep) :=
    (sweep.reached.trans run).more (.drop (.retain sweep.keep))
  have early := sweep.before.size sweep.reached
  have late := sweep.behind.size sweptHere
  have shrunk := sweep.swept.size_sweep sweep.keep
  unfold dropped removed made
  omega

/-- If nobody acts between the readings, the answer is the one of the whole operation. -/
theorem answer_of_alone {sweep : Sweep} (early : sweep.swept = sweep.first)
    (late : sweep.last = sweep.swept.sweep sweep.keep) :
    sweep.answer = some (sweep.first.shared.cache.retain sweep.keep).1 := by
  have shrunk : sweep.last.size ≤ sweep.first.size := by
    rw [late, early]
    exact Cache.slotCount_drop_le _ (.retain sweep.keep)
  rw [answer, if_pos shrunk, late, early]
  rfl

theorem answer_eq_none_iff (sweep : Sweep) :
    sweep.answer = none ↔ sweep.dropped + sweep.removed < sweep.made := by
  have balance := sweep.balance
  unfold answer
  split
  next shrunk => simp; omega
  next grown => simp; omega

theorem answer_eq_some_iff (sweep : Sweep) (count : Nat) :
    sweep.answer = some count ↔ count + sweep.made = sweep.dropped + sweep.removed := by
  have balance := sweep.balance
  unfold answer
  split
  next shrunk => simp; omega
  next grown => simp; omega

theorem total_eq_none_iff (sweeps : List Sweep) :
    total sweeps = none ↔ ∃ sweep ∈ sweeps, sweep.answer = none := by
  induction sweeps with
  | nil => simp [total]
  | cons sweep rest inductionHypothesis =>
      cases answered : sweep.answer with
      | none => simp [total, answered]
      | some count => simp [total, answered, inductionHypothesis]

theorem total_balance {sweeps : List Sweep} {count : Nat} (answered : total sweeps = some count) :
    count + (sweeps.map made).sum = (sweeps.map dropped).sum + (sweeps.map removed).sum := by
  induction sweeps generalizing count with
  | nil =>
      cases answered
      rfl
  | cons sweep rest inductionHypothesis =>
      obtain ⟨here, answeredHere, behind⟩ := Option.bind_eq_some_iff.mp answered
      obtain ⟨others, answeredOthers, rfl⟩ := Option.map_eq_some_iff.mp behind
      have own := (sweep.answer_eq_some_iff here).mp answeredHere
      have later := inductionHypothesis answeredOthers
      simp only [List.map_cons, List.sum_cons]
      omega

/-- However others act between the readings, the answer of a sweep falls short of the number
of outcomes that it dropped by the slots that they made, and exceeds it by those that they
took out.  So it is right if and only if these are equally many, whatever they looked up,
computed and stored; and there is none if the others made more slots than they and the sweep
dropped.  The same holds of the sum over the sweeps of an invalidation. -/
theorem total_exact (sweeps : List Sweep) :
    (∀ sweep ∈ sweeps,
      (sweep.answer = none ↔ sweep.dropped + sweep.removed < sweep.made) ∧
      (sweep.answer = some sweep.dropped ↔ sweep.made = sweep.removed)) ∧
    (total sweeps = none ↔ ∃ sweep ∈ sweeps, sweep.dropped + sweep.removed < sweep.made) ∧
    (∀ count, total sweeps = some count →
      (count = (sweeps.map dropped).sum ↔
        (sweeps.map made).sum = (sweeps.map removed).sum)) ∧
    ((∀ sweep ∈ sweeps, sweep.made = sweep.removed) →
      total sweeps = some (sweeps.map dropped).sum) := by
  have exact : ∀ sweep : Sweep,
      sweep.answer = some sweep.dropped ↔ sweep.made = sweep.removed := by
    intro sweep
    rw [answer_eq_some_iff]
    omega
  refine ⟨fun sweep _ => ⟨sweep.answer_eq_none_iff, exact sweep⟩, ?_, ?_, ?_⟩
  · simp only [total_eq_none_iff, answer_eq_none_iff]
  · intro count answered
    have balance := total_balance answered
    omega
  · intro balanced
    cases answered : total sweeps with
    | none =>
        obtain ⟨sweep, member, unanswered⟩ := (total_eq_none_iff sweeps).mp answered
        rw [(exact sweep).mpr (balanced sweep member)] at unanswered
        exact nomatch unanswered
    | some count =>
        have balance := total_balance answered
        rw [List.map_congr_left balanced] at balance
        exact congrArg some (Nat.add_right_cancel balance)

/-! ## Sweeps of one slot -/

section

variable (fingerprint : Fingerprint)

/-- A caller has fetched the first slot of a cache. -/
def fetched : Scene :=
  let shared := (ofStage "lint").shared.fetch fingerprint
  { ofStage "lint" with shared := shared.2 }.move 0 (.holding shared.1 .compute)

theorem fetched_run :
    Run (ofStage "lint") [.fetched 0 ⟨fingerprint, 0⟩ .compute] (fetched fingerprint) :=
  Run.idle.more (.fetch rfl fingerprint .compute)

/-- The caller has computed the outcome of an empty program in its slot. -/
def filled : Scene :=
  let shared := (fetched fingerprint).shared.start ⟨fingerprint, 0⟩ true
  { (fetched fingerprint).move 0 (.computing ⟨fingerprint, 0⟩ .compute) with
    shared := shared.finish ⟨fingerprint, 0⟩ (.ok { tree := .program [] }) }.move 0 .free

/-- Everything is swept, while another caller fetches a slot behind the first reading. -/
def crowded : Sweep where
  keep _ _ := false
  stage := "lint"
  past := []
  first := ofStage "lint"
  swept := fetched fingerprint
  last := (fetched fingerprint).sweep fun _ _ => false
  madeBefore := 1
  removedBefore := 0
  madeBehind := 0
  removedBehind := 0
  reached := .idle
  before := Account.idle.more (.fetch rfl fingerprint .compute)
  behind := .idle

/-- Everything is swept, while another caller clears the cache behind the first reading. -/
def cleared : Sweep where
  keep _ _ := false
  stage := "lint"
  past := [.fetched 0 ⟨fingerprint, 0⟩ .compute]
  first := fetched fingerprint
  swept := { fetched fingerprint with shared := (fetched fingerprint).shared.drop .clear }
  last := { fetched fingerprint with shared := (fetched fingerprint).shared.drop .clear }.sweep
    fun _ _ => false
  madeBefore := 0
  removedBefore := 1
  madeBehind := 0
  removedBehind := 0
  reached := fetched_run fingerprint
  before := Account.idle.more (.drop .clear)
  behind := .idle

/-- Everything is swept, while another caller computes behind the first reading. -/
def completed : Sweep where
  keep _ _ := false
  stage := "lint"
  past := [.fetched 0 ⟨fingerprint, 0⟩ .compute]
  first := fetched fingerprint
  swept := filled fingerprint
  last := (filled fingerprint).sweep fun _ _ => false
  madeBefore := 0
  removedBefore := 0
  madeBehind := 0
  removedBehind := 0
  reached := fetched_run fingerprint
  before :=
    have vacant : (fetched fingerprint).shared.content ⟨fingerprint, 0⟩ = none := by
      simp [fetched]
    have begun := Account.idle.more (@Step.start _ 0 _ .compute rfl vacant rfl)
    begun.more (@Step.finish _ 0 _ .compute (.ok { tree := .program [] }) rfl trivial)
  behind := .idle

end

theorem dropped_completed (fingerprint : Fingerprint) : (completed fingerprint).dropped = 1 := by
  have slots : (filled fingerprint).shared.cache.slots =
      [(fingerprint, some { tree := .program [] })] := if_pos rfl
  have dropped : (completed fingerprint).dropped =
      (filled fingerprint).shared.cache.slots.rejected fun _ _ => false := rfl
  rw [dropped, slots]
  rfl

/-- An outcome that another caller computes behind the first reading is counted. -/
theorem total_completed :
    total [completed (Request.fingerprint { tree := .program [] })] = some 1 := by
  obtain ⟨_, _, _, exact⟩ :=
    total_exact [completed (Request.fingerprint { tree := .program [] })]
  rw [exact, List.map_singleton, dropped_completed]
  · rfl
  · intro sweep member
    rw [List.mem_singleton.mp member]
    rfl

/-- Where another caller makes a slot there is no answer, and where another one drops a slot
the sweep counts it as its own. -/
theorem crowded_and_cleared :
    let fingerprint := Request.fingerprint { tree := .program [] }
    (crowded fingerprint).dropped = 0 ∧ (crowded fingerprint).answer = none ∧
      (cleared fingerprint).dropped = 0 ∧ (cleared fingerprint).answer = some 1 :=
  ⟨rfl, rfl, rfl, rfl⟩

end Sweep

end Scene

end Cascade
