import Cascade.Proofs.InFlight
import Cascade.Pipeline

/-!
# Resolutions beside invalidations

Any number of resolutions run at the same time, and invalidations beside them.  Every
stage has a `Scene` of its own, in which a resolver takes part as a caller.  It looks its
stage up, fetches a slot, and begins to compute; a computation of a later stage first
resolves the stage before in the same way, and only then is the stage run.  An
invalidation sweeps the tables of the stages one after another, and they may be cleared.

Steps are numbered.  Beside every filled slot stand the computations that its outcome was
made by: the one in the slot, and those of the earlier stages whose outcomes it was built
from.
-/

namespace Cascade

/-- A computation of a stage that came to an outcome, with the steps in which it started
and finished. -/
structure Computation where
  stage : Nat
  started : Nat
  finished : Nat
  outcome : Outcome

/-- A computation of a stage that is under way in a slot, with the step in which it
started. -/
structure Effort where
  stage : Nat
  slot : Slot
  started : Nat

/-- The computation that came to an outcome. -/
def Effort.ended (effort : Effort) (finished : Nat) (outcome : Outcome) : Computation :=
  ⟨effort.stage, effort.started, finished, outcome⟩

/-- What a resolver is about: a stage to look up, to fetch a slot of, or with its slot in
hand; a computation ready to be run on what other computations led to; or the failure of
one. -/
inductive Place where
  | looking (stage : Nat)
  | fetching (stage : Nat)
  | holding (stage : Nat) (slot : Slot)
  | running (effort : Effort) (sources : List Computation)
  | failing (failure : Failure)

/-- A resolution under way, with the computations that wait for it, the innermost one
first. -/
structure Resolver where
  request : Request
  place : Place
  outer : List Effort := []

/-- An invalidation, with the step in which it began and those in which it swept the
stages so far, in their order. -/
structure Invalidation where
  dependency : String
  began : Nat
  swept : List Nat := []

/-- The invalidation with one more stage swept. -/
def Invalidation.sweep (invalidation : Invalidation) (now : Nat) : Invalidation :=
  { invalidation with swept := invalidation.swept ++ [now] }

/-- The number of the next step, and the invalidations that have begun. -/
structure Calendar where
  now : Nat := 0
  invalidations : List Invalidation := []

namespace Calendar

/-- The calendar behind a step. -/
def tick (calendar : Calendar) : Calendar :=
  { calendar with now := calendar.now + 1 }

/-- The calendar behind the step in which an invalidation begins. -/
def announce (calendar : Calendar) (dependency : String) : Calendar where
  now := calendar.now + 1
  invalidations := calendar.invalidations ++ [⟨dependency, calendar.now, []⟩]

/-- The calendar behind the step in which the invalidation in a place sweeps its next
stage. -/
def sweep (calendar : Calendar) (place : Nat) (invalidation : Invalidation) : Calendar where
  now := calendar.now + 1
  invalidations := calendar.invalidations.set place (invalidation.sweep calendar.now)

end Calendar

/-- The caches of the stages in use, with the computations behind what their slots
hold. -/
structure Traffic where
  calendar : Calendar := {}
  scenes : Nat → Scene
  lineage : Nat → Slot → List Computation := fun _ _ => []
  resolvers : Nat → Option Resolver := fun _ => none

namespace Request

/-- What a stage works on behind the given computations. -/
def materialBehind (request : Request) : List Computation → Material
  | [] => request.material
  | source :: _ => source.outcome.material

/-- The resolver that goes on with what computations led to: the innermost one that
waits is ready to run, or the resolution is at its end. -/
def deliver (request : Request) (outer : List Effort) (lineage : List Computation) :
    Option Resolver :=
  match outer with
  | [] => none
  | effort :: rest => some ⟨request, .running effort lineage, rest⟩

/-- The resolver that has begun to compute a stage: the first one is ready to run, and a
later one waits for the stage before. -/
def begin (request : Request) (effort : Effort) (outer : List Effort) : Resolver :=
  match effort.stage with
  | 0 => ⟨request, .running effort [], outer⟩
  | stage + 1 => ⟨request, .looking stage, effort :: outer⟩

end Request

namespace Traffic

/-- The traffic with another scene at a stage. -/
def setScene (traffic : Traffic) (stage : Nat) (scene : Scene) : Traffic :=
  { traffic with scenes := Function.update traffic.scenes stage scene }

/-- The traffic with other computations behind a slot. -/
def setLineage (traffic : Traffic) (stage : Nat) (slot : Slot) (lineage : List Computation) :
    Traffic :=
  { traffic with
    lineage := Function.update traffic.lineage stage
      (Function.update (traffic.lineage stage) slot lineage) }

/-- The traffic behind a step of a resolver. -/
def advance (traffic : Traffic) (caller : Nat) (resolver : Option Resolver) : Traffic :=
  { traffic with
    calendar := traffic.calendar.tick
    resolvers := Function.update traffic.resolvers caller resolver }

/-- The slot for a fingerprint that the table of a stage has or would make. -/
def current (traffic : Traffic) (stage : Nat) (fingerprint : Fingerprint) : Slot :=
  (traffic.scenes stage).shared.current fingerprint

section Updates

variable (traffic : Traffic) (stage other : Nat) (scene : Scene)

theorem scenes_setScene :
    (traffic.setScene stage scene).scenes other =
      if other = stage then scene else traffic.scenes other :=
  Function.update_apply ..

variable (slot given : Slot) (lineage : List Computation)

theorem lineage_setLineage :
    (traffic.setLineage stage slot lineage).lineage other given =
      if other = stage ∧ given = slot then lineage else traffic.lineage other given := by
  unfold setLineage
  by_cases sameStage : other = stage
  · subst sameStage
    by_cases sameSlot : given = slot <;> simp [sameSlot]
  · simp [sameStage]

variable (caller holder : Nat) (resolver : Option Resolver)

theorem resolvers_advance :
    (traffic.advance caller resolver).resolvers holder =
      if holder = caller then resolver else traffic.resolvers holder :=
  Function.update_apply ..

end Updates

variable {σ : Type}

/-- The steps of resolvers and of those who drop outcomes. -/
inductive Step (pipeline : Pipeline σ) : Traffic → Traffic → Prop where
  | arrive {traffic : Traffic} {caller stage : Nat} (request : Request)
      (enabled : pipeline.cacheEnabled = true) (free : traffic.resolvers caller = none)
      (inRange : stage < pipeline.registry.size) :
      Step pipeline traffic (traffic.advance caller (some ⟨request, .looking stage, []⟩))
  | miss {traffic : Traffic} {caller stage : Nat} {request : Request} {outer : List Effort}
      {next : Scene} (here : traffic.resolvers caller = some ⟨request, .looking stage, outer⟩)
      (looks : Scene.Step (traffic.scenes stage) (.looked caller request.fingerprint none) next) :
      Step pipeline traffic ((traffic.setScene stage next).advance caller
        (some ⟨request, .fetching stage, outer⟩))
  | hit {traffic : Traffic} {caller stage : Nat} {request : Request} {outer : List Effort}
      {outcome : Outcome} {next : Scene}
      (here : traffic.resolvers caller = some ⟨request, .looking stage, outer⟩)
      (looks : Scene.Step (traffic.scenes stage)
        (.looked caller request.fingerprint (some outcome)) next) :
      Step pipeline traffic ((traffic.setScene stage next).advance caller
        (request.deliver outer
          (traffic.lineage stage (traffic.current stage request.fingerprint))))
  | fetch {traffic : Traffic} {caller stage : Nat} {slot : Slot} {request : Request}
      {outer : List Effort} {next : Scene}
      (here : traffic.resolvers caller = some ⟨request, .fetching stage, outer⟩)
      (asked : slot.fingerprint = request.fingerprint)
      (fetches : Scene.Step (traffic.scenes stage) (.fetched caller slot .compute) next) :
      Step pipeline traffic ((traffic.setScene stage next).advance caller
        (some ⟨request, .holding stage slot, outer⟩))
  | take {traffic : Traffic} {caller stage : Nat} {slot : Slot} {request : Request}
      {outer : List Effort} {outcome : Outcome} {next : Scene}
      (here : traffic.resolvers caller = some ⟨request, .holding stage slot, outer⟩)
      (takes : Scene.Step (traffic.scenes stage) (.took caller slot outcome) next) :
      Step pipeline traffic ((traffic.setScene stage next).advance caller
        (request.deliver outer (traffic.lineage stage slot)))
  | start {traffic : Traffic} {caller stage : Nat} {slot : Slot} {request : Request}
      {outer : List Effort} {next : Scene}
      (here : traffic.resolvers caller = some ⟨request, .holding stage slot, outer⟩)
      (starts : Scene.Step (traffic.scenes stage) (.began caller slot) next) :
      Step pipeline traffic ((traffic.setScene stage next).advance caller
        (some (request.begin ⟨stage, slot, traffic.calendar.now⟩ outer)))
  | finish {traffic : Traffic} {caller : Nat} {effort : Effort} {sources : List Computation}
      {request : Request} {outer : List Effort} {outcome : Outcome} {state after : σ}
      {next : Scene}
      (here : traffic.resolvers caller = some ⟨request, .running effort sources, outer⟩)
      (inRange : effort.stage < pipeline.registry.size)
      (ran : pipeline.runStage request ⟨effort.stage, inRange⟩ (request.materialBehind sources)
        state = (.ok outcome, after))
      (finishes : Scene.Step (traffic.scenes effort.stage)
        (.finished caller effort.slot (.ok outcome)) next) :
      Step pipeline traffic
        (((traffic.setScene effort.stage next).setLineage effort.stage effort.slot
          (effort.ended traffic.calendar.now outcome :: sources)).advance caller
            (request.deliver outer (effort.ended traffic.calendar.now outcome :: sources)))
  | fail {traffic : Traffic} {caller : Nat} {effort : Effort} {sources : List Computation}
      {request : Request} {outer : List Effort} {failure : Failure} {state after : σ}
      {next : Scene}
      (here : traffic.resolvers caller = some ⟨request, .running effort sources, outer⟩)
      (inRange : effort.stage < pipeline.registry.size)
      (ran : pipeline.runStage request ⟨effort.stage, inRange⟩ (request.materialBehind sources)
        state = (.error failure, after))
      (finishes : Scene.Step (traffic.scenes effort.stage)
        (.finished caller effort.slot (.error failure)) next) :
      Step pipeline traffic ((traffic.setScene effort.stage next).advance caller
        (some ⟨request, .failing failure, outer⟩))
  | unwind {traffic : Traffic} {caller : Nat} {effort : Effort} {request : Request}
      {outer : List Effort} {failure : Failure} {next : Scene}
      (here : traffic.resolvers caller = some ⟨request, .failing failure, effort :: outer⟩)
      (finishes : Scene.Step (traffic.scenes effort.stage)
        (.finished caller effort.slot (.error failure)) next) :
      Step pipeline traffic ((traffic.setScene effort.stage next).advance caller
        (some ⟨request, .failing failure, outer⟩))
  | leave {traffic : Traffic} {caller : Nat} {request : Request} {failure : Failure}
      (here : traffic.resolvers caller = some ⟨request, .failing failure, []⟩) :
      Step pipeline traffic (traffic.advance caller none)
  | announce {traffic : Traffic} (dependency : String) :
      Step pipeline traffic { traffic with calendar := traffic.calendar.announce dependency }
  | sweep {traffic : Traffic} {place : Nat} {invalidation : Invalidation} {next : Scene}
      (listed : traffic.calendar.invalidations[place]? = some invalidation)
      (left : invalidation.swept.length < pipeline.registry.size)
      (drops : Scene.Step (traffic.scenes invalidation.swept.length)
        (.dropped (.retain fun _ outcome => !outcome.dependsOn invalidation.dependency)) next) :
      Step pipeline traffic
        { traffic.setScene invalidation.swept.length next with
          calendar := traffic.calendar.sweep place invalidation }
  | clear {traffic : Traffic} {stage : Nat} {next : Scene}
      (drops : Scene.Step (traffic.scenes stage) (.dropped .clear) next) :
      Step pipeline traffic { traffic.setScene stage next with calendar := traffic.calendar.tick }

/-- What steps lead to. -/
inductive Run (pipeline : Pipeline σ) (first : Traffic) : Traffic → Prop where
  | idle : Run pipeline first first
  | more {traffic next : Traffic} (run : Run pipeline first traffic)
      (step : Step pipeline traffic next) : Run pipeline first next

end Traffic

/-- The empty caches of a pipeline before the first step. -/
def Pipeline.newTraffic {σ : Type} (pipeline : Pipeline σ) : Traffic where
  scenes := fun stage => .ofStage (pipeline.registry.stageIds[stage]?.getD "")

end Cascade
