import Cascade.Visitor.Catalog

/-!
# Stages and their registry

A registry fixes the order of the stages, what each of them runs, the hooks that
run first in every stage, and the primary stage, which serves requests that name
none.  A blueprint collects these choices; it can be built if it has a stage, no
stage twice, and a primary stage among them.
-/

namespace Cascade

/-- Gives the transforms of a stage for a project and the options of a
request. -/
abbrev Factory (σ : Type) :=
  Project → Options → σ → List (Spec σ) × σ

namespace Factory

variable {σ : Type}

/-- The factory of a fixed list of transforms. -/
def fixed (specs : List (Spec σ)) : Factory σ := fun _ _ state =>
  (specs, state)

/-- The factory of the transforms that the project lists for a stage. -/
def configured (stage : String) : Factory σ := fun project _ state =>
  ((project.transformsOf stage).map fun transform => .named transform.id transform.options, state)

end Factory

/-- A stage: its name and what it runs. -/
structure Stage (σ : Type) where
  id : String
  factory : Factory σ

/-- The stages of a pipeline in order. -/
structure Registry (σ : Type) where
  stages : List (Stage σ)
  primary : Fin stages.length
  hooks : List (Visitor σ)
  knownOptions : Option (Dict Unit)
  distinct : (stages.map Stage.id).Nodup

namespace Registry

variable {σ : Type}

/-- The number of stages. -/
def size (registry : Registry σ) : Nat :=
  registry.stages.length

/-- The names of the stages in order. -/
def stageIds (registry : Registry σ) : List String :=
  registry.stages.map Stage.id

/-- The stage at an index. -/
def stage (registry : Registry σ) (index : Fin registry.size) : Stage σ :=
  registry.stages.get index

/-- The stage at an index that may be out of range. -/
def stage? (registry : Registry σ) (index : Nat) : Option (Stage σ) :=
  registry.stages[index]?

/-- The primary stage. -/
def primaryStage (registry : Registry σ) : Stage σ :=
  registry.stage registry.primary

/-- The index of the stage with the given name. -/
def indexOf (registry : Registry σ) (stage : String) : Except Failure (Fin registry.size) :=
  match registry.stages.findFinIdx? fun candidate => candidate.id == stage with
  | some index => .ok index
  | none => .error (.unknownStage stage registry.stageIds)

/-- The index of the stage that a request asks for. -/
def target (registry : Registry σ) (stage : Option String) :
    Except Failure (Fin registry.size) :=
  match stage with
  | none => .ok registry.primary
  | some stage => registry.indexOf stage

/-- Category of the warning about an option that no stage knows. -/
def unknownOption : String :=
  "transform/unknown-option"

/-- The warning of a stage about an option that no stage knows. -/
def unknownOptionWarning (stage key : String) : Diagnostic where
  category := unknownOption
  message := "Unrecognized option `" ++ key ++ "` was ignored"
  severity := .warning
  origin := some { category := "transform", stage := some stage }

/-- The warnings about the options of a request, in key order; none if the
registry does not say what options there are. -/
def optionWarnings (registry : Registry σ) (stage : String) (options : Options) :
    List Diagnostic :=
  match registry.knownOptions with
  | none => []
  | some known =>
      (options.keys.filter fun key => !known.contains key).map (unknownOptionWarning stage)

/-- The description of a stage name. -/
def describeId (stage : String) : String :=
  "StageId(" ++ Text.quote stage ++ ")"

/-- The description of a registry. -/
def description (registry : Registry σ) : String :=
  let stages := registry.stageIds.map fun stage =>
    "StageDefinition \x7b id: " ++ describeId stage ++ ", .. \x7d"
  "StageRegistry \x7b stages: [" ++ ", ".intercalate stages ++ "], primary: " ++
    describeId registry.primaryStage.id ++ ", hook_visitors: " ++
      Json.natText registry.hooks.length ++ " \x7d"

end Registry

/-- The choices that make up a registry. -/
structure Blueprint (σ : Type) where
  stages : List (Stage σ) := []
  primary : Option String := none
  hooks : List (Visitor σ) := []
  knownOptions : Option (Dict Unit) := none

namespace Blueprint

variable {σ : Type}

/-- Adds a stage behind all others. -/
def addStage (blueprint : Blueprint σ) (id : String) (factory : Factory σ) : Blueprint σ :=
  { blueprint with stages := blueprint.stages ++ [⟨id, factory⟩] }

/-- Adds a stage that runs what the project lists for it. -/
def addConfiguredStage (blueprint : Blueprint σ) (id : String) : Blueprint σ :=
  blueprint.addStage id (Factory.configured id)

/-- Sets the primary stage. -/
def setPrimary (blueprint : Blueprint σ) (id : String) : Blueprint σ :=
  { blueprint with primary := some id }

/-- Adds a visitor that runs behind the other hooks and before the transforms of
every stage. -/
def addHook (blueprint : Blueprint σ) (visitor : Visitor σ) : Blueprint σ :=
  { blueprint with hooks := blueprint.hooks ++ [visitor] }

/-- Declares options that the stages know, in addition to those declared
before. -/
def declareOptions (blueprint : Blueprint σ) (names : List String) : Blueprint σ :=
  let declared := blueprint.knownOptions.getD Dict.empty
  { blueprint with
    knownOptions := some (names.foldl (fun known name => known.insert name ()) declared) }

/-- The first stage name that occurs again behind its first occurrence, given
the names seen before. -/
def repeated? (seen : List String) : List String → Option String
  | [] => none
  | id :: rest => if seen.contains id then some id else repeated? (id :: seen) rest

theorem nodup_of_repeated?_eq_none {ids seen : List String} (absent : repeated? seen ids = none) :
    ids.Nodup ∧ ∀ id ∈ ids, id ∉ seen := by
  induction ids generalizing seen with
  | nil => simp
  | cons id rest inductionHypothesis =>
      unfold repeated? at absent
      split at absent
      · exact nomatch absent
      · next unseen =>
          rcases inductionHypothesis absent with ⟨restNodup, restUnseen⟩
          have idUnseen : id ∉ seen := by simpa using unseen
          refine ⟨List.nodup_cons.mpr ⟨fun member => ?_, restNodup⟩, fun other member => ?_⟩
          · exact restUnseen id member List.mem_cons_self
          · rcases List.mem_cons.mp member with here | there
            · exact here ▸ idUnseen
            · exact fun seenOther =>
                restUnseen other there (List.mem_cons_of_mem _ seenOther)

/-- The index of the primary stage: the one that was set, or the first. -/
def primaryIndex (blueprint : Blueprint σ) (nonempty : 0 < blueprint.stages.length) :
    Except ConfigurationFault (Fin blueprint.stages.length) :=
  match blueprint.primary with
  | none => .ok ⟨0, nonempty⟩
  | some id =>
      match blueprint.stages.findFinIdx? fun stage => stage.id == id with
      | some index => .ok index
      | none => .error (.unregisteredPrimary id)

/-- The registry of a blueprint. -/
def build (blueprint : Blueprint σ) : Except ConfigurationFault (Registry σ) :=
  if nonempty : 0 < blueprint.stages.length then
    match absent : repeated? [] (blueprint.stages.map Stage.id) with
    | some id => .error (.repeatedStage id)
    | none =>
        match blueprint.primaryIndex nonempty with
        | .error fault => .error fault
        | .ok primary =>
            .ok ⟨blueprint.stages, primary, blueprint.hooks, blueprint.knownOptions,
              (nodup_of_repeated?_eq_none absent).1⟩
  else .error .noStages

/-- A blueprint of two stages, `normalize` and `lint`, of which the second is the
primary one. -/
def twoStages (normalize lint : Factory σ) : Blueprint σ :=
  (((({} : Blueprint σ).addStage "normalize" normalize).addStage "lint" lint).setPrimary "lint")

end Blueprint

end Cascade
