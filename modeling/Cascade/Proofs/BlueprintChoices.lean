import Cascade.Proofs.WholeChain

/-!
# Registries built from choices

A blueprint is the work of choices made one after another.  It can be built exactly if a
stage was added, no stage was added twice, and the primary that was set last, if one was
set at all, is among the stages.  The registry then has the stages in the order in which
they were added, finds each of them by its name, and knows no other name.
-/

namespace Cascade

/-- One choice in the making of a registry. -/
inductive Choice (σ : Type) where
  | stage (id : String) (factory : Factory σ)
  | configuredStage (id : String)
  | primary (id : String)
  | hook (visitor : Visitor σ)
  | options (names : List String)

namespace Choice

variable {σ : Type}

/-- The stage that a choice adds. -/
def added? : Choice σ → Option (Stage σ)
  | stage id factory => some ⟨id, factory⟩
  | configuredStage id => some ⟨id, Factory.configured id⟩
  | _ => none

/-- The primary that a choice sets. -/
def primary? : Choice σ → Option String
  | primary id => some id
  | _ => none

/-- The stages that choices add, in order. -/
def stages (choices : List (Choice σ)) : List (Stage σ) :=
  choices.filterMap added?

/-- The primary that was set last. -/
def lastPrimary? (choices : List (Choice σ)) : Option String :=
  (choices.filterMap primary?).getLast?

/-- A setting is overridden by the settings behind it. -/
theorem lastPrimary?_cons (choice : Choice σ) (rest : List (Choice σ)) :
    lastPrimary? (choice :: rest) = (lastPrimary? rest).or choice.primary? := by
  unfold lastPrimary?
  cases set : choice.primary? with
  | none => rw [List.filterMap_cons_none set, Option.or_none]
  | some id =>
      rw [List.filterMap_cons_some set, List.getLast?_cons]
      cases (rest.filterMap primary?).getLast? <;> rfl

end Choice

namespace Blueprint

variable {σ : Type} {blueprint : Blueprint σ}

/-- The blueprint with one more choice. -/
def choose (blueprint : Blueprint σ) : Choice σ → Blueprint σ
  | .stage id factory => blueprint.addStage id factory
  | .configuredStage id => blueprint.addConfiguredStage id
  | .primary id => blueprint.setPrimary id
  | .hook visitor => blueprint.addHook visitor
  | .options names => blueprint.declareOptions names

/-- The blueprint of choices made one after another. -/
def ofChoices (choices : List (Choice σ)) : Blueprint σ :=
  choices.foldl choose {}

/-- The names of the stages in order. -/
def stageIds (blueprint : Blueprint σ) : List String :=
  blueprint.stages.map Stage.id

/-! ## What choices come to -/

theorem stages_choose (blueprint : Blueprint σ) (choice : Choice σ) :
    (blueprint.choose choice).stages = blueprint.stages ++ choice.added?.toList := by
  cases choice with
  | stage id factory => rfl
  | configuredStage id => rfl
  | primary id => exact (List.append_nil _).symm
  | hook visitor => exact (List.append_nil _).symm
  | options names => exact (List.append_nil _).symm

theorem primary_choose (blueprint : Blueprint σ) (choice : Choice σ) :
    (blueprint.choose choice).primary = choice.primary?.or blueprint.primary := by
  cases choice <;> rfl

theorem stages_foldl_choose (choices : List (Choice σ)) (blueprint : Blueprint σ) :
    (choices.foldl choose blueprint).stages = blueprint.stages ++ Choice.stages choices := by
  induction choices generalizing blueprint with
  | nil => exact (List.append_nil _).symm
  | cons choice rest inductionHypothesis =>
      rw [List.foldl_cons, inductionHypothesis, stages_choose, List.append_assoc]
      congr 1
      cases added : choice.added? with
      | none => exact (List.filterMap_cons_none added).symm
      | some stage => exact (List.filterMap_cons_some added).symm

theorem primary_foldl_choose (choices : List (Choice σ)) (blueprint : Blueprint σ) :
    (choices.foldl choose blueprint).primary =
      (Choice.lastPrimary? choices).or blueprint.primary := by
  induction choices generalizing blueprint with
  | nil => rfl
  | cons choice rest inductionHypothesis =>
      rw [List.foldl_cons, inductionHypothesis, primary_choose, Choice.lastPrimary?_cons,
        Option.or_assoc]

@[simp]
theorem stages_ofChoices (choices : List (Choice σ)) :
    (ofChoices choices).stages = Choice.stages choices :=
  stages_foldl_choose choices {}

@[simp]
theorem primary_ofChoices (choices : List (Choice σ)) :
    (ofChoices choices).primary = Choice.lastPrimary? choices :=
  (primary_foldl_choose choices {}).trans (Option.or_none)

/-! ## What can be built -/

theorem findFinIdx?_id_eq_none_iff (stages : List (Stage σ)) (id : String) :
    (stages.findFinIdx? fun stage => stage.id == id) = none ↔ id ∉ stages.map Stage.id := by
  simp [List.findFinIdx?_eq_none_iff]

theorem id_of_findFinIdx? {stages : List (Stage σ)} {id : String} {index : Fin stages.length}
    (found : (stages.findFinIdx? fun stage => stage.id == id) = some index) :
    (stages.get index).id = id :=
  eq_of_beq (List.findFinIdx?_eq_some_iff.mp found).1

/-- A name is reported exactly if it occurs again, or was seen before. -/
theorem repeated?_eq_none_iff (seen ids : List String) :
    repeated? seen ids = none ↔ ids.Nodup ∧ ∀ id ∈ ids, id ∉ seen := by
  constructor
  · exact nodup_of_repeated?_eq_none
  · induction ids generalizing seen with
    | nil => exact fun _ => rfl
    | cons id rest inductionHypothesis =>
        rintro ⟨distinct, unseen⟩
        rw [List.nodup_cons] at distinct
        rw [repeated?, if_neg (by simpa using unseen id List.mem_cons_self)]
        apply inductionHypothesis
        constructor
        · exact distinct.2
        · intro other member
          rw [List.mem_cons]
          rintro (rfl | before)
          · exact distinct.1 member
          · exact unseen other (List.mem_cons_of_mem id member) before

/-- What a registry has of its blueprint. -/
structure Built (blueprint : Blueprint σ) (registry : Registry σ) : Prop where
  stages : registry.stages = blueprint.stages
  unset : blueprint.primary = none → registry.primary.1 = 0
  set : ∀ id, blueprint.primary = some id → registry.primaryStage.id = id
  hooks : registry.hooks = blueprint.hooks
  knownOptions : registry.knownOptions = blueprint.knownOptions

/-- A blueprint has a primary index exactly if the primary that was set is a stage. -/
theorem primaryIndex_ok_iff (nonempty : 0 < blueprint.stages.length) :
    (∃ index, blueprint.primaryIndex nonempty = .ok index) ↔
      ∀ id, blueprint.primary = some id → id ∈ blueprint.stageIds := by
  unfold primaryIndex
  cases blueprint.primary with
  | none => simp
  | some wanted =>
      simp only [Option.some.injEq, forall_eq']
      cases found : blueprint.stages.findFinIdx? fun stage => stage.id == wanted with
      | none =>
          have absent : wanted ∉ blueprint.stageIds := (findFinIdx?_id_eq_none_iff _ _).mp found
          simp [absent]
      | some index =>
          have member : wanted ∈ blueprint.stageIds :=
            id_of_findFinIdx? found ▸ List.mem_map_of_mem (List.get_mem _ index)
          simp [member]

theorem primaryIndex_ok {nonempty : 0 < blueprint.stages.length}
    {index : Fin blueprint.stages.length} (found : blueprint.primaryIndex nonempty = .ok index) :
    (blueprint.primary = none → index.1 = 0) ∧
      ∀ id, blueprint.primary = some id → (blueprint.stages.get index).id = id := by
  unfold primaryIndex at found
  cases set : blueprint.primary with
  | none =>
      rw [set] at found
      cases found
      exact ⟨fun _ => rfl, fun _ absent => nomatch absent⟩
  | some wanted =>
      rw [set] at found
      simp only at found
      split at found
      next place listed =>
        cases found
        constructor
        · exact fun absent => nomatch absent
        · rintro _ ⟨⟩
          exact id_of_findFinIdx? listed
      next => exact nomatch found

/-- A registry is built exactly from a blueprint with a stage, no stage twice, and its
primary among the stages. -/
theorem build_ok_iff (blueprint : Blueprint σ) :
    (∃ registry, blueprint.build = .ok registry) ↔
      blueprint.stages ≠ [] ∧ blueprint.stageIds.Nodup ∧
        ∀ id, blueprint.primary = some id → id ∈ blueprint.stageIds := by
  unfold build
  by_cases nonempty : 0 < blueprint.stages.length
  · have added : blueprint.stages ≠ [] := List.length_pos_iff.mp nonempty
    rw [dif_pos nonempty, ← primaryIndex_ok_iff nonempty]
    split
    next id again =>
      have twice : ¬blueprint.stageIds.Nodup := by
        intro distinct
        have unrepeated := (repeated?_eq_none_iff [] _).mpr ⟨distinct, by simp⟩
        exact nomatch again.symm.trans unrepeated
      simp [twice]
    next absent =>
      have distinct : blueprint.stageIds.Nodup := (nodup_of_repeated?_eq_none absent).1
      cases blueprint.primaryIndex nonempty <;> simp [added, distinct]
  · rw [dif_neg nonempty]
    have unadded : blueprint.stages = [] := by simpa using nonempty
    simp [unadded]

/-- A registry is what its blueprint says. -/
theorem built_of_build {registry : Registry σ} (ok : blueprint.build = .ok registry) :
    blueprint.Built registry := by
  unfold build at ok
  split at ok
  next nonempty =>
    split at ok
    next => exact nomatch ok
    next =>
      split at ok
      next => exact nomatch ok
      next primary found =>
        cases ok
        have primaries := primaryIndex_ok found
        exact ⟨rfl, primaries.1, primaries.2, rfl, rfl⟩
  next => exact nomatch ok

end Blueprint

/-! ## What a registry answers -/

namespace Registry

variable {σ : Type}

/-- A name that no stage has is unknown. -/
theorem indexOf_of_not_mem (registry : Registry σ) {id : String}
    (absent : id ∉ registry.stageIds) :
    registry.indexOf id = .error (.unknownStage id registry.stageIds) := by
  rw [indexOf, (Blueprint.findFinIdx?_id_eq_none_iff _ _).mpr absent]

theorem exists_of_mem_stageIds {registry : Registry σ} {id : String}
    (member : id ∈ registry.stageIds) :
    ∃ index : Fin registry.size, (registry.stage index).id = id := by
  obtain ⟨stage, listed, named⟩ := List.mem_map.mp member
  obtain ⟨index, rfl⟩ := List.get_of_mem listed
  exact ⟨index, named⟩

/-- A registry has the stages in order, and answers the index of each of them to its
name, that of the primary to no name, and to any other name that it is unknown.  Without
a primary the first stage is the primary one. -/
structure Answers (registry : Registry σ) (stages : List (Stage σ)) (primary : Option String) :
    Prop where
  stages : registry.stages = stages
  located : ∀ index, registry.indexOf (registry.stage index).id = .ok index
  named : ∀ id ∈ registry.stageIds,
    ∃ index, registry.target (some id) = .ok index ∧ (registry.stage index).id = id
  unknown : ∀ id, id ∉ registry.stageIds →
    registry.target (some id) = .error (.unknownStage id registry.stageIds)
  unnamed : registry.target none = .ok registry.primary
  first : primary = none → registry.primary.1 = 0
  chosen : ∀ id, primary = some id → registry.primaryStage.id = id

end Registry

theorem Blueprint.Built.answers {σ : Type} {blueprint : Blueprint σ} {registry : Registry σ}
    (built : blueprint.Built registry) :
    registry.Answers blueprint.stages blueprint.primary where
  stages := built.stages
  located := registry.target_stage
  named := by
    intro id member
    obtain ⟨index, rfl⟩ := Registry.exists_of_mem_stageIds member
    exact ⟨index, registry.target_stage index, rfl⟩
  unknown := fun _ => registry.indexOf_of_not_mem
  unnamed := rfl
  first := built.unset
  chosen := built.set

end Cascade
