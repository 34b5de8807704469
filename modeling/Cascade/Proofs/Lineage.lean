import Cascade.Proofs.Sweeps
import Cascade.Proofs.Derivation

/-!
# What outcomes are built from

Behind every filled slot stand the computations that its outcome was built from.  They
were made one from another, each by its stage.  As long as the slot is in its table, no
invalidation drops what it holds; and of two computations one built on the other, the
source was in its table when the other one had started, so that a sweep of the earlier
stage before that has spared it.

`Traffic.Sound` tells this of slots and of resolvers on their way, and every step keeps it.
-/

namespace Cascade

/-! ## What slots and resolvers rest on -/

variable {σ : Type}

/-- Computations of the first stages, the latest one first, each built on the next. -/
structure Pipeline.Lineage (pipeline : Pipeline σ) (fingerprint : Fingerprint)
    (lineage : List Computation) : Prop where
  derives : ∃ first, pipeline.Derives (fun request => request.fingerprint = fingerprint) first
    (lineage.map Computation.outcome)
  stages : lineage.map Computation.stage = (List.range lineage.length).reverse

namespace Pipeline.Lineage

variable {pipeline : Pipeline σ} {fingerprint : Fingerprint} {own source : Computation}
  {sources : List Computation}

theorem stages_cons {lineage : List Computation} :
    (own :: lineage).map Computation.stage = (List.range (own :: lineage).length).reverse ↔
      own.stage = lineage.length ∧
        lineage.map Computation.stage = (List.range lineage.length).reverse := by
  simp [List.range_succ]

theorem stage_eq (lineage : pipeline.Lineage fingerprint (own :: sources)) :
    own.stage = sources.length :=
  (stages_cons.mp lineage.stages).1

theorem tail (lineage : pipeline.Lineage fingerprint (own :: source :: sources)) :
    pipeline.Lineage fingerprint (source :: sources) where
  derives := by
    obtain ⟨first, derives⟩ := lineage.derives
    cases derives with
    | next _ below _ _ => exact ⟨first, below⟩
  stages := (stages_cons.mp lineage.stages).2

theorem of_first {request : Request} (asked : request.fingerprint = fingerprint)
    (bottom : own.stage = 0) {stage : Fin pipeline.registry.size} (here : stage.1 = own.stage)
    {state after : σ} (ran : pipeline.runStage request stage request.material state =
      (.ok own.outcome, after)) : pipeline.Lineage fingerprint [own] where
  derives := ⟨request, .first (here.trans bottom) asked ran⟩
  stages := stages_cons.mpr ⟨bottom, rfl⟩

theorem next (below : pipeline.Lineage fingerprint (source :: sources)) {request : Request}
    (asked : request.fingerprint = fingerprint) (above : own.stage = source.stage + 1)
    {stage : Fin pipeline.registry.size} (here : stage.1 = own.stage) {state after : σ}
    (ran : pipeline.runStage request stage source.outcome.material state =
      (.ok own.outcome, after)) : pipeline.Lineage fingerprint (own :: source :: sources) where
  derives := by
    obtain ⟨first, derives⟩ := below.derives
    have place : stage.1 = (sources.map Computation.outcome).length + 1 := by
      rw [here, above, below.stage_eq, List.length_map]
    exact ⟨first, .next place derives asked ran⟩
  stages := stages_cons.mpr ⟨by rw [above, below.stage_eq, List.length_cons], below.stages⟩

theorem stage_le (lineage : pipeline.Lineage fingerprint (own :: sources))
    (listed : source ∈ own :: sources) : source.stage ≤ own.stage := by
  have member : source.stage ∈ (own :: sources).map Computation.stage := List.mem_map_of_mem listed
  rw [lineage.stages, List.mem_reverse, List.mem_range] at member
  rw [lineage.stage_eq]
  exact Nat.le_of_lt_succ member

theorem inRange (lineage : pipeline.Lineage fingerprint (own :: sources)) :
    own.stage < pipeline.registry.size := by
  obtain ⟨first, derives⟩ := lineage.derives
  rw [lineage.stage_eq]
  cases sources with
  | nil =>
      cases derives with
      | @first stage _ _ _ _ _ _ => exact Nat.lt_of_le_of_lt (Nat.zero_le _) stage.2
  | cons source earlier =>
      cases derives with
      | @next stage _ _ _ _ _ _ above _ _ _ =>
          rw [List.length_map] at above
          exact Nat.lt_of_le_of_lt (Nat.le_of_eq above.symm) stage.2

/-- What the outcome of a source depends on, the outcome built on it depends on as well. -/
theorem dependsOn (lineage : pipeline.Lineage fingerprint (own :: sources)) {dependency : String}
    (listed : source ∈ sources) (depends : source.outcome.dependsOn dependency = true) :
    own.outcome.dependsOn dependency = true := by
  obtain ⟨first, derives⟩ := lineage.derives
  exact derives.dependsOn (List.mem_map_of_mem listed) depends

end Pipeline.Lineage

namespace Request

variable (request : Request) (calendar : Calendar)

/-- The computations that wait for a stage are those of the stages behind it, in slots for
the request. -/
def Waits : Nat → List Effort → Prop
  | _, [] => True
  | stage, effort :: rest =>
      effort.stage = stage + 1 ∧ effort.slot.fingerprint = request.fingerprint ∧
        effort.started < calendar.now ∧ Waits effort.stage rest

/-- The computation that is ready to run is one of the first stage, or has sources to run
on. -/
def Rests (pipeline : Pipeline σ) (effort : Effort) : List Computation → Prop
  | [] => effort.stage = 0
  | source :: earlier =>
      effort.stage = source.stage + 1 ∧
        pipeline.Lineage request.fingerprint (source :: earlier) ∧
        calendar.Dates (source :: earlier) ∧ calendar.Feeds effort.started source

variable {request calendar} {later : Calendar}

theorem Waits.mono {stage : Nat} {outer : List Effort} (waits : request.Waits calendar stage outer)
    (grows : calendar.Grows later) : request.Waits later stage outer := by
  induction outer generalizing stage with
  | nil => trivial
  | cons effort rest inductionHypothesis =>
      obtain ⟨above, asked, started, others⟩ := waits
      exact ⟨above, asked, Nat.lt_of_lt_of_le started grows.now, inductionHypothesis others⟩

theorem Waits.started {stage : Nat} {outer : List Effort}
    (waits : request.Waits calendar stage outer) {effort : Effort}
    (first : effort ∈ outer.head?) : effort.started < calendar.now := by
  cases outer with
  | nil => exact nomatch first
  | cons other rest =>
      cases first
      exact waits.2.2.1

theorem Rests.mono {pipeline : Pipeline σ} {effort : Effort} {sources : List Computation}
    (rests : request.Rests calendar pipeline effort sources)
    (started : effort.started < calendar.now) (grows : calendar.Grows later) :
    request.Rests later pipeline effort sources := by
  cases sources with
  | nil => exact rests
  | cons source earlier =>
      obtain ⟨above, lineage, dates, feeds⟩ := rests
      exact ⟨above, lineage, dates.mono grows, grows.feeds started feeds⟩

end Request

namespace Traffic

/-- The outcome that a slot holds may be the source of a computation that started at the
given step. -/
def Ready (traffic : Traffic) (stage : Nat) (slot : Slot) (started : Nat) : Prop :=
  (traffic.scenes stage).shared.content slot ≠ none → ∀ own sources,
    traffic.lineage stage slot = own :: sources → traffic.calendar.Feeds started own

/-- What a slot holds was made by the computations behind it, and as long as the slot is in
its table, no invalidation drops it where it has swept. -/
structure Entry (pipeline : Pipeline σ) (traffic : Traffic) (stage : Nat) (slot : Slot)
    (own : Computation) (sources : List Computation) : Prop where
  listed : traffic.lineage stage slot = own :: sources
  holds : (traffic.scenes stage).shared.content slot = some own.outcome
  here : own.stage = stage
  lineage : pipeline.Lineage slot.fingerprint (own :: sources)
  dates : traffic.calendar.Dates (own :: sources)
  spares : slot = traffic.current stage slot.fingerprint → traffic.calendar.Spares own

end Traffic

/-- What a resolver in its place may rely on. -/
def Resolver.Sound (pipeline : Pipeline σ) (traffic : Traffic) (resolver : Resolver) : Prop :=
  match resolver.place with
  | .looking stage => resolver.request.Waits traffic.calendar stage resolver.outer
  | .fetching stage => resolver.request.Waits traffic.calendar stage resolver.outer
  | .holding stage slot =>
      resolver.request.Waits traffic.calendar stage resolver.outer ∧
        slot.fingerprint = resolver.request.fingerprint ∧
        ∀ effort ∈ resolver.outer.head?, traffic.Ready stage slot effort.started
  | .running effort sources =>
      resolver.request.Waits traffic.calendar effort.stage resolver.outer ∧
        effort.slot.fingerprint = resolver.request.fingerprint ∧
        effort.started < traffic.calendar.now ∧
        resolver.request.Rests traffic.calendar pipeline effort sources
  | .failing _ => True

namespace Traffic

/-- The scenes of the stages are sound, the invalidations are in order, and so are filled
slots and resolvers. -/
structure Sound (pipeline : Pipeline σ) (traffic : Traffic) : Prop where
  scenes : ∀ stage, ∃ acts, Scene.Sound acts (traffic.scenes stage)
  timed : traffic.calendar.Timed
  entries : ∀ stage slot outcome, (traffic.scenes stage).shared.content slot = some outcome →
    ∃ own sources, Entry pipeline traffic stage slot own sources
  resolvers : ∀ caller resolver, traffic.resolvers caller = some resolver →
    resolver.Sound pipeline traffic

end Traffic

/-! ## Resolvers go on -/

section Resolvers

variable {pipeline : Pipeline σ} {traffic later : Traffic} {request : Request} {stage : Nat}
  {outer : List Effort}

theorem Request.sound_deliver {own : Computation} {sources : List Computation}
    (waits : request.Waits traffic.calendar stage outer)
    (lineage : pipeline.Lineage request.fingerprint (own :: sources)) (here : own.stage = stage)
    (dates : traffic.calendar.Dates (own :: sources))
    (feeds : ∀ effort ∈ outer.head?, traffic.calendar.Feeds effort.started own)
    {resolver : Resolver} (goes : request.deliver outer (own :: sources) = some resolver) :
    resolver.Sound pipeline traffic := by
  cases outer with
  | nil => exact nomatch goes
  | cons effort rest =>
      cases goes
      obtain ⟨above, asked, started, others⟩ := waits
      exact ⟨others, asked, started, by rw [here, above], lineage, dates, feeds effort rfl⟩

theorem Request.sound_begin (waits : request.Waits traffic.calendar stage outer) {slot : Slot}
    (asked : slot.fingerprint = request.fingerprint) {started : Nat}
    (early : started < traffic.calendar.now) :
    (request.begin ⟨stage, slot, started⟩ outer).Sound pipeline traffic := by
  cases stage with
  | zero => exact ⟨waits, asked, early, rfl⟩
  | succ stage => exact ⟨rfl, asked, early, waits⟩

theorem Resolver.Sound.mono {resolver : Resolver} (sound : resolver.Sound pipeline traffic)
    (grows : traffic.calendar.Grows later.calendar)
    (ready : ∀ stage slot started, started < traffic.calendar.now →
      traffic.Ready stage slot started → later.Ready stage slot started) :
    resolver.Sound pipeline later := by
  obtain ⟨request, place, outer⟩ := resolver
  cases place with
  | looking stage => exact Request.Waits.mono sound grows
  | fetching stage => exact Request.Waits.mono sound grows
  | holding stage slot =>
      obtain ⟨waits, asked, rests⟩ := sound
      exact ⟨waits.mono grows, asked, fun effort first =>
        ready stage slot effort.started (waits.started first) (rests effort first)⟩
  | running effort sources =>
      obtain ⟨waits, asked, started, rests⟩ := sound
      exact ⟨waits.mono grows, asked, Nat.lt_of_lt_of_le started grows.now,
        rests.mono started grows⟩
  | failing failure => trivial

end Resolvers

/-! ## Steps keep what slots and resolvers rest on -/

namespace Traffic

variable {pipeline : Pipeline σ} {traffic later : Traffic}

section Carry

variable {stage : Nat} {slot : Slot} (grows : traffic.calendar.Grows later.calendar)
  (lineage : later.lineage stage slot = traffic.lineage stage slot)
  (content :
    (later.scenes stage).shared.content slot = (traffic.scenes stage).shared.content slot)
include grows lineage content

theorem Ready.carry {started : Nat} (ready : traffic.Ready stage slot started)
    (early : started < traffic.calendar.now) : later.Ready stage slot started := by
  intro filled own sources listed
  rw [content] at filled
  rw [lineage] at listed
  exact grows.feeds early (ready filled own sources listed)

theorem Entry.carry {own : Computation} {sources : List Computation}
    (entry : Entry pipeline traffic stage slot own sources)
    (spares : slot = later.current stage slot.fingerprint → later.calendar.Spares own) :
    Entry pipeline later stage slot own sources where
  listed := lineage.trans entry.listed
  holds := content.trans entry.holds
  here := entry.here
  lineage := entry.lineage
  dates := entry.dates.mono grows
  spares := spares

end Carry

namespace Sound

/-- Where slots hold the same behind a step. -/
theorem carry (sound : Sound pipeline traffic)
    (scenes : ∀ stage, ∃ acts, Scene.Sound acts (later.scenes stage))
    (timed : later.calendar.Timed) (grows : traffic.calendar.Grows later.calendar)
    (content : ∀ stage slot,
      (later.scenes stage).shared.content slot = (traffic.scenes stage).shared.content slot)
    (lineage : later.lineage = traffic.lineage)
    (spares : ∀ stage slot own sources, Entry pipeline traffic stage slot own sources →
      slot = later.current stage slot.fingerprint → later.calendar.Spares own)
    (resolvers : ∀ caller resolver, later.resolvers caller = some resolver →
      traffic.resolvers caller = some resolver ∨ resolver.Sound pipeline later) :
    Sound pipeline later where
  scenes := scenes
  timed := timed
  entries := by
    intro stage slot outcome filled
    rw [content] at filled
    obtain ⟨own, sources, entry⟩ := sound.entries stage slot outcome filled
    exact ⟨own, sources, entry.carry grows (by rw [lineage]) (content stage slot)
      (spares stage slot own sources entry)⟩
  resolvers := by
    intro caller resolver goes
    rcases resolvers caller resolver goes with before | new
    · refine (sound.resolvers caller resolver before).mono grows ?_
      intro stage slot started early ready
      exact ready.carry grows (by rw [lineage]) (content stage slot) early
    · exact new

/-- A caller comes or goes. -/
theorem turn (sound : Sound pipeline traffic) {caller : Nat} {resolver : Option Resolver}
    (goes : ∀ going, resolver = some going →
      going.Sound pipeline (traffic.advance caller resolver)) :
    Sound pipeline (traffic.advance caller resolver) := by
  refine sound.carry sound.scenes sound.timed.tick Calendar.grows_tick (fun _ _ => rfl) rfl
    (fun _ _ _ _ entry here => entry.spares here) ?_
  intro holder going listed
  rw [resolvers_advance] at listed
  split at listed
  next => exact .inr (goes going listed)
  next => exact .inl listed

theorem scene_step (sound : Sound pipeline traffic) {stage : Nat} {act : Act} {next : Scene}
    (step : Scene.Step (traffic.scenes stage) act next) (other : Nat) :
    ∃ acts, Scene.Sound acts ((traffic.setScene stage next).scenes other) := by
  rw [scenes_setScene]
  split
  next =>
    obtain ⟨acts, soundScene⟩ := sound.scenes stage
    exact ⟨_, soundScene.step step⟩
  next => exact sound.scenes other

section Quiet

variable {stage : Nat} {act : Act} {next : Scene}
  (sound : Sound pipeline traffic) (step : Scene.Step (traffic.scenes stage) act next)
  (still : act.quiet = true)
include sound step still

theorem content_quiet (other : Nat) (slot : Slot) :
    ((traffic.setScene stage next).scenes other).shared.content slot =
      (traffic.scenes other).shared.content slot := by
  rw [scenes_setScene]
  split
  next here =>
    obtain ⟨acts, soundScene⟩ := sound.scenes stage
    rw [(soundScene.quiet_step step still).1, here]
  next => rfl

theorem current_quiet (other : Nat) (fingerprint : Fingerprint) :
    (traffic.setScene stage next).current other fingerprint =
      traffic.current other fingerprint := by
  unfold Traffic.current
  rw [scenes_setScene]
  split
  next here =>
    obtain ⟨acts, soundScene⟩ := sound.scenes stage
    rw [(soundScene.quiet_step step still).2, here]
  next => rfl

/-- Steps of resolvers that fill no slot. -/
theorem quiet {caller : Nat} {resolver : Option Resolver}
    (goes : ∀ going, resolver = some going →
      going.Sound pipeline ((traffic.setScene stage next).advance caller resolver)) :
    Sound pipeline ((traffic.setScene stage next).advance caller resolver) := by
  refine sound.carry (sound.scene_step step) sound.timed.tick Calendar.grows_tick
    (sound.content_quiet step still) rfl ?_ ?_
  · intro other slot own sources entry here
    exact entry.spares (here.trans (sound.current_quiet step still other slot.fingerprint))
  · intro holder going listed
    rw [resolvers_advance] at listed
    split at listed
    next => exact .inr (goes going listed)
    next => exact .inl listed

/-- A resolver goes on with what it found in a slot. -/
theorem deliver {caller : Nat} {request : Request} {outer : List Effort} {slot : Slot}
    {own : Computation} {sources : List Computation}
    (entry : Entry pipeline traffic stage slot own sources)
    (asked : slot.fingerprint = request.fingerprint)
    (waits : request.Waits traffic.calendar stage outer)
    (feeds : ∀ effort ∈ outer.head?, traffic.calendar.Feeds effort.started own) :
    Sound pipeline ((traffic.setScene stage next).advance caller
      (request.deliver outer (traffic.lineage stage slot))) := by
  refine sound.quiet step still fun going goes => ?_
  rw [entry.listed] at goes ⊢
  refine Request.sound_deliver ?waits (asked ▸ entry.lineage) entry.here ?dates ?feeds goes
  case waits => exact waits.mono Calendar.grows_tick
  case dates => exact entry.dates.mono Calendar.grows_tick
  case feeds => exact feeds

end Quiet

/-- What the table holds may be the source of any computation. -/
theorem ready_current (sound : Sound pipeline traffic) (stage : Nat) (fingerprint : Fingerprint)
    (started : Nat) : traffic.Ready stage (traffic.current stage fingerprint) started := by
  intro filled own sources listed
  obtain ⟨outcome, holds⟩ := Option.ne_none_iff_exists'.mp filled
  obtain ⟨made, others, entry⟩ := sound.entries _ _ _ holds
  cases entry.listed.symm.trans listed
  exact (entry.spares rfl).feeds started

section Finish

variable {effort : Effort} {sources : List Computation} {request : Request} {outcome : Outcome}
  {next : Scene}

/-- The computation that just finished, with those that it was built on. -/
theorem lineage_finish
    (rests : request.Rests traffic.calendar pipeline effort sources)
    (asked : effort.slot.fingerprint = request.fingerprint)
    {stage : Fin pipeline.registry.size} (here : stage.1 = effort.stage) {state after : σ}
    (ran : pipeline.runStage request stage (request.materialBehind sources) state =
      (.ok outcome, after)) (finished : Nat) :
    pipeline.Lineage effort.slot.fingerprint (effort.ended finished outcome :: sources) := by
  cases sources with
  | nil => exact .of_first asked.symm rests here ran
  | cons source earlier =>
      obtain ⟨above, lineage, _, _⟩ := rests
      rw [asked]
      exact lineage.next rfl above here ran

theorem dates_finish (rests : request.Rests traffic.calendar pipeline effort sources)
    (started : effort.started < traffic.calendar.now) :
    traffic.calendar.Dates (effort.ended traffic.calendar.now outcome :: sources) := by
  cases sources with
  | nil => exact ⟨List.forall_mem_singleton.mpr started, .singleton _⟩
  | cons source earlier =>
      obtain ⟨_, _, dates, feeds⟩ := rests
      exact ⟨List.forall_mem_cons.mpr ⟨started, dates.started⟩, .cons_cons feeds dates.feeds⟩

/-- All sweeps lie before the end of a computation that finishes next. -/
theorem spares_finish (timed : traffic.calendar.Timed) :
    traffic.calendar.Spares (effort.ended traffic.calendar.now outcome) := by
  intro invalidation member time swept _
  exact ((timed invalidation member).2 time (List.mem_of_getElem? swept)).2

section Filled

variable (sound : Sound pipeline traffic) {caller : Nat}
  (finishes : Scene.Step (traffic.scenes effort.stage)
    (.finished caller effort.slot (.ok outcome)) next)
include sound finishes

theorem content_finish (stage : Nat) (slot : Slot) :
    ((traffic.setScene effort.stage next).scenes stage).shared.content slot =
      if stage = effort.stage ∧ slot = effort.slot then some outcome
      else (traffic.scenes stage).shared.content slot := by
  obtain ⟨acts, soundScene⟩ := sound.scenes effort.stage
  rw [scenes_setScene]
  by_cases here : stage = effort.stage
  · rw [if_pos here, (soundScene.finish_step finishes).1]
    simp [here, Except.toOption]
  · simp [here]

theorem current_finish (stage : Nat) (fingerprint : Fingerprint) :
    (traffic.setScene effort.stage next).current stage fingerprint =
      traffic.current stage fingerprint := by
  obtain ⟨acts, soundScene⟩ := sound.scenes effort.stage
  unfold Traffic.current
  rw [scenes_setScene]
  split
  next here => rw [(soundScene.finish_step finishes).2.2, here]
  next => rfl

end Filled

/-- A computation fills its slot. -/
theorem finish (sound : Sound pipeline traffic) {caller : Nat} {outer : List Effort}
    (here : traffic.resolvers caller = some ⟨request, .running effort sources, outer⟩)
    {stage : Fin pipeline.registry.size} (same : stage.1 = effort.stage) {state after : σ}
    (ran : pipeline.runStage request stage (request.materialBehind sources) state =
      (.ok outcome, after))
    (finishes : Scene.Step (traffic.scenes effort.stage)
      (.finished caller effort.slot (.ok outcome)) next) :
    Sound pipeline
      (((traffic.setScene effort.stage next).setLineage effort.stage effort.slot
        (effort.ended traffic.calendar.now outcome :: sources)).advance caller
          (request.deliver outer (effort.ended traffic.calendar.now outcome :: sources))) := by
  obtain ⟨waits, asked, started, rests⟩ := sound.resolvers caller _ here
  have dates : traffic.calendar.Dates (effort.ended traffic.calendar.now outcome :: sources) :=
    dates_finish rests started
  have spares : traffic.calendar.Spares (effort.ended traffic.calendar.now outcome) :=
    spares_finish sound.timed
  have made := lineage_finish rests asked same ran traffic.calendar.now
  have content := sound.content_finish finishes
  have lineage := fun stage slot =>
    (traffic.setScene effort.stage next).lineage_setLineage effort.stage stage effort.slot slot
      (effort.ended traffic.calendar.now outcome :: sources)
  constructor
  case scenes => exact sound.scene_step finishes
  case timed => exact sound.timed.tick
  case entries =>
    intro stage slot held filled
    by_cases own : stage = effort.stage ∧ slot = effort.slot
    · obtain ⟨rfl, rfl⟩ := own
      exact ⟨_, sources,
        { listed := (lineage _ _).trans (if_pos ⟨rfl, rfl⟩)
          holds := (content _ _).trans (if_pos ⟨rfl, rfl⟩)
          here := rfl
          lineage := made
          dates := dates.mono Calendar.grows_tick
          spares := fun _ => spares }⟩
    · have kept := (content stage slot).trans (if_neg own)
      obtain ⟨made, others, entry⟩ := sound.entries stage slot held (kept.symm.trans filled)
      refine ⟨made, others, entry.carry ?grows ?lineage ?content fun current => ?spares⟩
      case grows => exact Calendar.grows_tick
      case lineage => exact (lineage stage slot).trans (if_neg own)
      case content => exact kept
      case spares =>
        exact entry.spares (current.trans (sound.current_finish finishes stage slot.fingerprint))
  case resolvers =>
    intro holder resolver goes
    rw [resolvers_advance] at goes
    split at goes
    next =>
      refine Request.sound_deliver ?waits (asked ▸ made) rfl ?dates ?feeds goes
      case waits => exact waits.mono Calendar.grows_tick
      case dates => exact dates.mono Calendar.grows_tick
      case feeds => exact fun effort _ => spares.feeds effort.started
    next =>
      refine (sound.resolvers holder resolver goes).mono Calendar.grows_tick ?_
      intro stage slot start early ready
      by_cases own : stage = effort.stage ∧ slot = effort.slot
      · intro _ made others listed
        cases ((lineage stage slot).trans (if_pos own)).symm.trans listed
        exact spares.feeds start
      · refine ready.carry ?grows ?lineage ?content early
        case grows => exact Calendar.grows_tick
        case lineage => exact (lineage stage slot).trans (if_neg own)
        case content => exact (content stage slot).trans (if_neg own)

end Finish

/-- Slots are dropped from the table of a stage. -/
theorem drop (sound : Sound pipeline traffic) {stage : Nat} {how : Drop} {next : Scene}
    (drops : Scene.Step (traffic.scenes stage) (.dropped how) next) {calendar : Calendar}
    (timed : calendar.Timed) (grows : traffic.calendar.Grows calendar)
    (spares : ∀ own, traffic.calendar.Spares own →
      (own.stage = stage → ∃ fingerprint,
        ((traffic.scenes stage).shared.drop how).cache.slots.held? fingerprint = some own.outcome) →
      calendar.Spares own) :
    Sound pipeline { traffic.setScene stage next with calendar } := by
  have content : ∀ other slot,
      ((traffic.setScene stage next).scenes other).shared.content slot =
        (traffic.scenes other).shared.content slot := by
    intro other slot
    rw [scenes_setScene]
    split
    next here => rw [drops.dropped, Shared.content_drop, here]
    next => rfl
  refine sound.carry (sound.scene_step drops) timed grows content rfl ?_ fun _ _ goes => .inl goes
  intro other slot own sources entry here
  have here : slot =
      ((traffic.setScene stage next).scenes other).shared.current slot.fingerprint := here
  by_cases atStage : other = stage
  · rw [scenes_setScene, if_pos atStage, drops.dropped] at here
    have held := (content other slot).trans entry.holds
    rw [scenes_setScene, if_pos atStage, drops.dropped, here, Shared.content_current] at held
    rw [Shared.current_drop held, ← atStage] at here
    exact spares own (entry.spares here) fun _ => ⟨_, held⟩
  · rw [scenes_setScene, if_neg atStage] at here
    exact spares own (entry.spares here) fun same =>
      absurd (entry.here.symm.trans same) atStage

theorem sweep (sound : Sound pipeline traffic) {place : Nat} {invalidation : Invalidation}
    {next : Scene} (listed : traffic.calendar.invalidations[place]? = some invalidation)
    (drops : Scene.Step (traffic.scenes invalidation.swept.length)
      (.dropped (.retain fun _ outcome => !outcome.dependsOn invalidation.dependency)) next) :
    Sound pipeline
      { traffic.setScene invalidation.swept.length next with
        calendar := traffic.calendar.sweep place invalidation } := by
  refine sound.drop drops (sound.timed.sweep listed) (Calendar.grows_sweep listed) ?_
  intro own spares kept
  refine spares.sweep listed fun here => ?_
  obtain ⟨fingerprint, held⟩ := kept here
  simpa using Shared.keep_of_held held

theorem step (sound : Sound pipeline traffic) (step : Step pipeline traffic later) :
    Sound pipeline later := by
  cases step with
  | arrive request enabled free inRange =>
      refine sound.turn fun going new => ?_
      cases new
      trivial
  | miss here looks =>
      refine sound.quiet looks rfl fun going new => ?_
      cases new
      have waits : Request.Waits .. := sound.resolvers _ _ here
      exact waits.mono Calendar.grows_tick
  | hit here looks =>
      obtain ⟨own, sources, entry⟩ := sound.entries _ _ _ (looks.looked rfl)
      exact sound.deliver looks rfl entry rfl (sound.resolvers _ _ here) fun effort _ =>
        (entry.spares rfl).feeds effort.started
  | @fetch caller stage slot request outer next here asked fetches =>
      have waits : Request.Waits .. := sound.resolvers _ _ here
      refine sound.quiet fetches rfl fun going new => ?_
      cases new
      refine ⟨waits.mono Calendar.grows_tick, asked, fun effort first => ?_⟩
      have ready : traffic.Ready stage slot effort.started := by
        rw [fetches.fetched]
        exact sound.ready_current stage slot.fingerprint effort.started
      refine ready.carry ?grows ?lineage ?content (waits.started first)
      case grows => exact Calendar.grows_tick
      case lineage => rfl
      case content => exact sound.content_quiet fetches rfl stage _
  | @take caller stage slot request outer outcome next here takes =>
      obtain ⟨waits, asked, ready⟩ := sound.resolvers _ _ here
      obtain ⟨own, sources, entry⟩ := sound.entries _ _ _ takes.took
      have filled : (traffic.scenes stage).shared.content slot ≠ none := by
        rw [takes.took]
        exact Option.some_ne_none outcome
      exact sound.deliver takes rfl entry asked waits fun effort first =>
        ready effort first filled own sources entry.listed
  | start here starts =>
      obtain ⟨waits, asked, _⟩ := sound.resolvers _ _ here
      refine sound.quiet starts rfl fun going new => ?_
      cases new
      refine Request.sound_begin ?waits asked ?early
      case waits => exact waits.mono Calendar.grows_tick
      case early => exact Nat.lt_succ_self _
  | finish here inRange ran finishes => exact sound.finish here rfl ran finishes
  | fail here inRange ran finishes =>
      refine sound.quiet finishes rfl fun going new => ?_
      cases new
      trivial
  | unwind here finishes =>
      refine sound.quiet finishes rfl fun going new => ?_
      cases new
      trivial
  | leave here => exact sound.turn fun going new => nomatch new
  | announce dependency =>
      exact sound.carry sound.scenes (sound.timed.announce dependency)
        (Calendar.grows_announce dependency) (fun _ _ => rfl) rfl
        (fun _ _ _ _ entry here => (entry.spares here).announce dependency)
        fun _ _ goes => .inl goes
  | sweep listed left drops => exact sound.sweep listed drops
  | clear drops =>
      exact sound.drop drops sound.timed.tick Calendar.grows_tick fun _ spares _ => spares

end Sound

end Traffic

theorem Pipeline.sound_newTraffic (pipeline : Pipeline σ) :
    Traffic.Sound pipeline pipeline.newTraffic where
  scenes := fun _ => ⟨[], .ofStage _⟩
  timed := fun _ absent => nomatch absent
  entries := fun _ slot _ filled => nomatch (Scene.content_ofStage _ slot).symm.trans filled
  resolvers := fun _ _ absent => nomatch absent

theorem Traffic.Run.sound {pipeline : Pipeline σ} {traffic : Traffic}
    (run : Run pipeline pipeline.newTraffic traffic) : Sound pipeline traffic := by
  induction run with
  | idle => exact pipeline.sound_newTraffic
  | more _ step inductionHypothesis => exact inductionHypothesis.step step

end Cascade
