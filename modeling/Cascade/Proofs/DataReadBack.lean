import Cascade.Proofs.ReadBack
import Cascade.Project.Basic
import Cascade.Suppression.Basic

/-!
# Exchanged data read back

Trees, diagnostics, suppressions, options and projects are read back from the values
that they are written as.
-/

namespace Cascade

open Json Json.Reader

/-! ## Places and texts -/

/-- The free-form values of a dictionary are in key order. -/
def Dict.Ordered (dict : Dict Value) : Prop :=
  ∀ entry ∈ dict.entries, entry.2.Ordered

theorem natBelow_uInt64 (number : UInt64) :
    natBelow UInt64.size (Document.ofValue (.ofNat number.toNat)) = some number.toNat :=
  natBelow_ofNat number.toNat_lt

theorem natBelow_uInt32 (number : UInt32) :
    natBelow UInt32.size (Document.ofValue (.ofNat number.toNat)) = some number.toNat :=
  natBelow_ofNat number.toNat_lt

theorem Position.recovers (position : Position) :
    Recovers Position.read position.toValue position := by
  refine @recovers_record _ [("line", _), ("column", _)] (by simp) _ _ fun budget _ => ?_
  simp [required_some, natBelow_uInt64]

theorem Span.recovers (span : Span) : Recovers Span.read span.toValue span := by
  refine @recovers_record _ [("start", _), ("end", _)] (by simp) _ _ fun budget enough => ?_
  simp only [List.forall_mem_cons] at enough
  obtain ⟨enoughStart, enoughStop, _⟩ := enough
  simp [required_some, span.start.recovers _ enoughStart, span.stop.recovers _ enoughStop]

/-- A span that may be absent is read back. -/
theorem Span.readField_optionToValue {span : Option Span} {budget : Nat}
    (enough : (Document.ofValue (Span.optionToValue span)).nesting ≤ budget) :
    Span.readField budget (some (Document.ofValue (Span.optionToValue span))) = some span := by
  apply optionalField_orNull
  · intro data absent
    exact nomatch absent
  · rintro data rfl
    exact data.recovers budget enough

/-- A text that may be absent is read back. -/
theorem optionalField_text (text : Option String) :
    optionalField Reader.string (some (Document.ofValue (.orNull (text.map .string)))) =
      some text := by
  apply optionalField_orNull
  · intro data absent
    exact nomatch absent
  · exact fun data _ => string_ofValue data

/-- A dictionary of free-form values is read back if they are in key order. -/
theorem Dict.Ordered.recovers {dict : Dict Value} (ordered : dict.Ordered) :
    Recovers (Reader.dict Reader.value) (.ofDict dict) dict := by
  have listed : Recovers (Reader.dict Reader.value)
      (.object (dict.entries.map fun entry => (entry.1, id entry.2))) dict :=
    recovers_dict fun entry member => recovers_value entry.2 (ordered entry member)
  exact (List.map_id' dict.entries ▸ listed :)

/-- The free-form values of a dictionary that was read are in key order. -/
theorem Dict.ordered_of_read {budget : Nat} {document : Document} {dict : Dict Value}
    (reads : Reader.dict Reader.value budget document = some dict) : dict.Ordered :=
  forall_of_dict (fun _ _ _ _ => Document.ordered_of_value?) reads

/-- The free-form values of a field that may be left out are in key order. -/
theorem Dict.ordered_of_withDefault {budget : Nat} {field : Option Document} {dict : Dict Value}
    (reads : withDefault Dict.empty (Reader.dict Reader.value budget) field = some dict) :
    dict.Ordered := by
  cases field with
  | none =>
      obtain rfl := Option.some.inj reads
      exact fun _ member => nomatch member
  | some document => exact Dict.ordered_of_read reads

/-! ## Trees -/

theorem Comment.recovers (comment : Comment) : Recovers Comment.read comment.toValue comment := by
  refine @recovers_record _ [("id", _), ("text", _), ("span", _)] (by simp) _ _ ?_
  intro budget enough
  simp only [List.forall_mem_cons] at enough
  obtain ⟨_, _, enoughSpan, _⟩ := enough
  simp [required_some, natBelow_uInt32, string_ofValue, Span.readField_optionToValue enoughSpan]

theorem Kind.recovers (kind : Kind) : Recovers Kind.read kind.toValue kind := by
  intro budget enough
  cases kind with
  | custom name =>
      cases budget with
      | zero => exact absurd enough (Nat.not_succ_le_zero _)
      | succ budget =>
          exact congrArg (Option.map custom) (string_ofValue name)
  | _ => rfl

namespace Node

/-- The free-form values in the properties of all nodes are in key order. -/
def Ordered (node : Node) : Prop :=
  ∀ below ∈ node.listing, below.header.properties.Ordered

theorem toValues_eq (nodes : List Node) : toValues nodes = nodes.map toValue := by
  induction nodes with
  | nil => rfl
  | cons node rest inductionHypothesis => rw [toValues, inductionHypothesis, List.map_cons]

theorem mem_listingAll {below : Node} {nodes : List Node} :
    below ∈ listingAll nodes ↔ ∃ node ∈ nodes, below ∈ node.listing := by
  induction nodes with
  | nil => simp [listingAll]
  | cons node rest inductionHypothesis => simp [listingAll, inductionHypothesis]

theorem ordered_mk {header : Header} {children : List Node} :
    (mk header children).Ordered ↔
      header.properties.Ordered ∧ ∀ child ∈ children, child.Ordered := by
  simp only [Ordered, listing, List.forall_mem_cons, header_mk, mem_listingAll]
  refine and_congr_right fun _ => ⟨?_, ?_⟩
  · exact fun all child member below listed => all below ⟨child, member, listed⟩
  · rintro each below ⟨child, member, listed⟩
    exact each child member below listed

/-- Children are read if each of them is. -/
theorem readChildren_toValues {children : List Node} {budget : Nat}
    (recovers : ∀ child ∈ children, Recovers Node.read child.toValue child)
    (enough : (Document.ofValue (.array (toValues children))).nesting ≤ budget) :
    read.readChildren budget (some (Document.ofValue (.array (toValues children)))) =
      some children := by
  cases budget with
  | zero => exact absurd enough (Nat.not_succ_le_zero _)
  | succ budget =>
      have listed : Recovers (list Node.read) (.array (children.map toValue)) children :=
        recovers_list recovers
      rw [← toValues_eq] at listed
      exact listed (budget + 1) enough

mutual

/-- A tree is read back if its free-form values are in key order. -/
theorem recovers (node : Node) (ordered : node.Ordered) :
    Recovers Node.read node.toValue node := by
  intro budget enough
  cases node with
  | mk header children =>
      obtain ⟨orderedHeader, orderedChildren⟩ := ordered_mk.mp ordered
      have distinct : ([("kind", header.kind.toValue), ("span", Span.optionToValue header.span),
          ("properties", .ofDict header.properties), ("children", .array (toValues children)),
          ("comments", .array (header.comments.map Comment.toValue))].map Prod.fst).Nodup := by
        simp
      cases budget with
      | zero => exact absurd enough (Nat.not_succ_le_zero _)
      | succ budget =>
          have fields := nesting_le_of_field distinct enough
          simp only [List.forall_mem_cons] at fields
          obtain ⟨enoughKind, enoughSpan, enoughProperties, enoughChildren, enoughComments, _⟩ :=
            fields
          have readProperties := orderedHeader.recovers budget enoughProperties
          have readChildren := readChildren_toValues (recoversAll children orderedChildren)
            enoughChildren
          have readComments := recovers_list (fun (comment : Comment) _ => comment.recovers)
            budget enoughComments
          rw [read, toValue]
          refine (congrArg (Option.bind · _) (fields?_ofMembers distinct)).trans ?_
          simp [required_some, withDefault, header.kind.recovers _ enoughKind,
            Span.readField_optionToValue enoughSpan, readProperties, readChildren, readComments]

theorem recoversAll (nodes : List Node) (ordered : ∀ node ∈ nodes, node.Ordered) :
    ∀ node ∈ nodes, Recovers Node.read node.toValue node := by
  cases nodes with
  | nil => exact fun _ member => nomatch member
  | cons node rest =>
      obtain ⟨orderedNode, orderedRest⟩ := List.forall_mem_cons.mp ordered
      exact List.forall_mem_cons.mpr ⟨recovers node orderedNode, recoversAll rest orderedRest⟩

end

/-- Children are in key order if all trees read from what they are read from are. -/
theorem ordered_of_readChildren {budget : Nat} {field : Option Document} {children : List Node}
    (ordered : ∀ smaller < budget, ∀ document node, Node.read smaller document = some node →
      node.Ordered)
    (reads : read.readChildren budget field = some children) :
    ∀ child ∈ children, child.Ordered := by
  intro child member
  unfold read.readChildren at reads
  split at reads
  next =>
    obtain rfl := Option.some.inj reads
    exact nomatch member
  next budget items =>
    obtain ⟨document, _, readChild⟩ := exists_of_mem_mapM reads member
    exact ordered budget (Nat.lt_succ_self budget) document child readChild
  next => exact nomatch reads

/-- The free-form values of a tree that was read are in key order. -/
theorem ordered_of_read {budget : Nat} {document : Document} {node : Node}
    (reads : Node.read budget document = some node) : node.Ordered := by
  induction budget using Nat.strongRecOn generalizing document node with
  | ind budget inductionHypothesis =>
      cases budget with
      | zero => exact nomatch reads
      | succ budget =>
          rw [read] at reads
          obtain ⟨fields, _, reads⟩ := Option.bind_eq_some_iff.mp reads
          split at reads
          next =>
            obtain ⟨kind, _, reads⟩ := Option.bind_eq_some_iff.mp reads
            obtain ⟨span, _, reads⟩ := Option.bind_eq_some_iff.mp reads
            obtain ⟨properties, readProperties, reads⟩ := Option.bind_eq_some_iff.mp reads
            obtain ⟨children, readChildren, reads⟩ := Option.bind_eq_some_iff.mp reads
            obtain ⟨comments, _, reads⟩ := Option.bind_eq_some_iff.mp reads
            obtain rfl := Option.some.inj reads
            refine ordered_mk.mpr ⟨Dict.ordered_of_withDefault readProperties, ?_⟩
            refine ordered_of_readChildren (fun smaller below _ _ => ?_) readChildren
            exact inductionHypothesis smaller (Nat.lt_succ_of_lt below)
          next => exact nomatch reads

end Node

/-! ## Diagnostics and suppressions -/

theorem Severity.recovers (severity : Severity) :
    Recovers Severity.read (.string severity.name) severity := by
  intro budget _
  cases severity <;> rfl

theorem Origin.recovers (origin : Origin) : Recovers Origin.read origin.toValue origin := by
  refine @recovers_record _ [("category", _), ("stage", _), ("visitor", _)] (by simp) _ _
    fun budget _ => ?_
  simp [required_some, string_ofValue, optionalField_text]

theorem Origin.readField_orNull {origin : Option Origin} {budget : Nat}
    (enough : (Document.ofValue (.orNull (origin.map Origin.toValue))).nesting ≤ budget) :
    optionalField (Origin.read budget)
      (some (Document.ofValue (.orNull (origin.map Origin.toValue)))) = some origin := by
  apply optionalField_orNull
  · intro data absent
    exact nomatch absent
  · rintro data rfl
    exact data.recovers budget enough

theorem Diagnostic.recovers (diagnostic : Diagnostic) :
    Recovers Diagnostic.read diagnostic.toValue diagnostic := by
  refine @recovers_record _ [("category", _), ("message", _), ("location", _), ("severity", _),
    ("origin", _), ("suppressed", _)] (by simp) _ _ fun budget enough => ?_
  simp only [List.forall_mem_cons] at enough
  obtain ⟨_, _, enoughLocation, enoughSeverity, enoughOrigin, _⟩ := enough
  have flag : Reader.bool (Document.ofValue (.bool diagnostic.suppressed)) =
      some diagnostic.suppressed := by
    rw [Document.ofValue, Reader.bool]
  simp [required_some, string_ofValue, withDefault, flag,
    Span.readField_optionToValue enoughLocation,
    diagnostic.severity.recovers _ enoughSeverity, Origin.readField_orNull enoughOrigin]

theorem Target.recovers (target : Target) : Recovers Target.read target.toValue target := by
  intro budget enough
  cases target with
  | wildcard => rfl
  | category name =>
      cases budget with
      | zero => exact absurd enough (Nat.not_succ_le_zero _)
      | succ budget => exact congrArg (Option.map category) (string_ofValue name)

theorem Suppression.recovers (suppression : Suppression) :
    Recovers Suppression.read suppression.toValue suppression := by
  refine @recovers_record _ [("target", _), ("span", _), ("reason", _), ("comment_id", _)]
    (by simp) _ _ fun budget enough => ?_
  simp only [List.forall_mem_cons] at enough
  obtain ⟨enoughTarget, enoughSpan, _⟩ := enough
  simp [required_some, natBelow_uInt32, optionalField_text,
    suppression.target.recovers _ enoughTarget, Span.readField_optionToValue enoughSpan]

/-! ## Projects -/

theorem TransformEntry.recovers {entry : TransformEntry} (ordered : entry.options.Ordered) :
    Recovers TransformEntry.read entry.toValue entry := by
  intro budget enough
  cases entry with
  | bare id => rfl
  | detailed id options =>
      have distinct : ([("id", .string id), ("options", .ofDict options)].map
          (Prod.fst : String × Value → String)).Nodup := by
        simp
      cases budget with
      | zero => exact absurd enough (Nat.not_succ_le_zero _)
      | succ budget =>
          have fields := nesting_le_of_field distinct enough
          simp only [List.forall_mem_cons] at fields
          obtain ⟨_, enoughOptions, _⟩ := fields
          have readOptions : Options.read budget (Document.ofValue (.ofDict options)) =
              some options := Dict.Ordered.recovers ordered budget enoughOptions
          refine (congrArg (Option.bind · _) (fields?_ofMembers distinct)).trans ?_
          simp [required_some, withDefault, string_ofValue, readOptions]

/-- The options of a configured transform that was read are in key order. -/
theorem TransformEntry.ordered_of_read {budget : Nat} {document : Document}
    {entry : TransformEntry} (reads : TransformEntry.read budget document = some entry) :
    entry.options.Ordered := by
  unfold TransformEntry.read at reads
  split at reads
  next id =>
    obtain rfl := Option.some.inj reads
    exact fun _ member => nomatch member
  next budget members =>
    obtain ⟨fields, _, reads⟩ := Option.bind_eq_some_iff.mp reads
    split at reads
    next =>
      obtain ⟨id, _, reads⟩ := Option.bind_eq_some_iff.mp reads
      obtain ⟨options, readOptions, reads⟩ := Option.bind_eq_some_iff.mp reads
      obtain rfl := Option.some.inj reads
      exact Dict.ordered_of_withDefault readOptions
    next => exact nomatch reads
  next => exact nomatch reads

namespace Project

/-- The settings and the options of all transforms are in key order. -/
def Ordered (project : Project) : Prop :=
  project.settings.Ordered ∧
    ∀ stage ∈ project.transforms.entries, ∀ entry ∈ stage.2, entry.options.Ordered

/-- The table of transforms as a value is in key order as it stands. -/
theorem ofMembers_transforms (project : Project) :
    Value.ofMembers (project.transforms.entries.map fun entry =>
        (entry.1, .array (entry.2.map TransformEntry.toValue))) =
      .object (project.transforms.entries.map fun entry =>
        (entry.1, .array (entry.2.map TransformEntry.toValue))) := by
  have sorted : Entries.Sorted (project.transforms.entries.map fun entry =>
      (entry.1, Value.array (entry.2.map TransformEntry.toValue))) :=
    List.pairwise_map.mpr project.transforms.sorted
  rw [Value.ofMembers]
  exact congrArg Value.object (@Entries.insertAll_of_sorted _ [] _ sorted)

theorem recovers {project : Project} (ordered : project.Ordered) :
    Recovers Project.read project.toValue project := by
  obtain ⟨orderedSettings, orderedTransforms⟩ := ordered
  have recoversTable : Recovers (Reader.dict (list TransformEntry.read))
      (.ofMembers (project.transforms.entries.map fun entry =>
        (entry.1, .array (entry.2.map TransformEntry.toValue)))) project.transforms := by
    rw [ofMembers_transforms]
    exact @recovers_dict _ _ (fun entries => .array (entries.map TransformEntry.toValue)) _
      fun stage listed => recovers_list fun entry member =>
        TransformEntry.recovers (orderedTransforms stage listed entry member)
  refine @recovers_record _ [("name", _), ("transforms", _), ("settings", _)] (by simp) _ _
    fun budget enough => ?_
  simp only [List.forall_mem_cons] at enough
  obtain ⟨_, enoughTransforms, enoughSettings, _⟩ := enough
  simp [withDefault, optionalField_text, recoversTable budget enoughTransforms,
    orderedSettings.recovers budget enoughSettings]

/-- The free-form values of a project that was read are in key order. -/
theorem ordered_of_read {budget : Nat} {document : Document} {project : Project}
    (reads : Project.read budget document = some project) : project.Ordered := by
  cases budget with
  | zero => exact nomatch reads
  | succ budget =>
      obtain ⟨fields, _, reads⟩ := Option.bind_eq_some_iff.mp reads
      dsimp only at reads
      split at reads
      next nameField tableField settingsField _ =>
        obtain ⟨name, _, reads⟩ := Option.bind_eq_some_iff.mp reads
        obtain ⟨table, readTable, reads⟩ := Option.bind_eq_some_iff.mp reads
        obtain ⟨settings, readSettings, reads⟩ := Option.bind_eq_some_iff.mp reads
        obtain rfl := Option.some.inj reads
        refine ⟨Dict.ordered_of_withDefault readSettings, ?_⟩
        cases tableField with
        | none =>
            obtain rfl := Option.some.inj readTable
            exact fun _ member => nomatch member
        | some document =>
            have ofEntries : ∀ smaller < budget, ∀ document entries,
                list TransformEntry.read smaller document = some entries →
                  ∀ entry ∈ entries, entry.options.Ordered :=
              fun _ _ _ _ => forall_of_list fun _ _ _ _ => TransformEntry.ordered_of_read
            exact forall_of_dict ofEntries readTable
      next => exact nomatch reads

end Project

/-! ## All exchanged data -/

/-- A bare transform and a detailed one are never written alike. -/
theorem TransformEntry.toValue_bare_ne_detailed (id other : String) (options : Options) :
    (bare id).toValue ≠ (detailed other options).toValue :=
  nofun

/-- A custom kind is never written like a built-in one, whatever its name. -/
theorem Kind.toValue_custom_ne_builtin (name : String) {kind : Kind} (isBuiltin : kind ∈ builtin) :
    (custom name).toValue ≠ kind.toValue := by
  intro same
  have readCustom := ((custom name).recovers).ofValue?
  rw [same, kind.recovers.ofValue?] at readCustom
  obtain rfl := Option.some.inj readCustom
  simp [builtin] at isBuiltin

/-- All exchanged data are read back as they were from the values that they are written
as, and free-form values from themselves; the forms of a configured transform, and custom
and built-in kinds, stay apart.  Data with free-form values in them have these in key
order, in which everything that is read is kept. -/
theorem read_toValue :
    (∀ node : Node, node.Ordered → ofValue? Node.read node.toValue = some node) ∧
      (∀ diagnostic : Diagnostic,
        ofValue? Diagnostic.read diagnostic.toValue = some diagnostic) ∧
      (∀ suppression : Suppression,
        ofValue? Suppression.read suppression.toValue = some suppression) ∧
      (∀ options : Options, options.Ordered →
        ofValue? Options.read (.ofDict options) = some options) ∧
      (∀ project : Project, project.Ordered →
        ofValue? Project.read project.toValue = some project) ∧
      (∀ value : Value, value.Ordered → ofValue? Reader.value value = some value) ∧
      (∀ id other options,
        (TransformEntry.bare id).toValue ≠ (TransformEntry.detailed other options).toValue) ∧
      ∀ name, ∀ kind ∈ Kind.builtin, (Kind.custom name).toValue ≠ kind.toValue := by
  refine ⟨?_, ?_, ?_, ?_, ?_, ?_, TransformEntry.toValue_bare_ne_detailed, ?_⟩
  · exact fun node ordered => (node.recovers ordered).ofValue?
  · exact fun diagnostic => diagnostic.recovers.ofValue?
  · exact fun suppression => suppression.recovers.ofValue?
  · exact fun options ordered => (Dict.Ordered.recovers ordered).ofValue?
  · exact fun project ordered => (Project.recovers ordered).ofValue?
  · exact fun value ordered => (recovers_value value ordered).ofValue?
  · exact fun name kind => Kind.toValue_custom_ne_builtin name

/-- A free-form value with another object in it. -/
def nestedValue : Value :=
  .object [("tags", .array [.null, .ofNat 3, .object [("a", .bool true)]])]

/-- A tree with a custom kind named like a built-in one, a free-form property, and a
comment at a child without a span. -/
def annotatedTree : Node :=
  .mk ⟨.custom "program", some ⟨⟨1, 1⟩, ⟨2, 7⟩⟩, Dict.ofList [("shape", nestedValue)], []⟩
    [.mk ⟨.call, none, Dict.empty, [⟨4, "stagewise-ignore[*]", some ⟨⟨1, 3⟩, ⟨1, 9⟩⟩⟩]⟩ []]

/-- A project with one transform in both of its forms, and a free-form setting. -/
def twofoldProject : Project where
  name := some "demo"
  transforms := Dict.ofList [("parse", [.bare "trim", .detailed "trim" Dict.empty])]
  settings := Dict.ofList [("strict", nestedValue)]

theorem read_toValue_annotatedTree :
    (annotatedTree.Ordered ∧ ofValue? Node.read annotatedTree.toValue = some annotatedTree) ∧
      (twofoldProject.Ordered ∧
        ofValue? Project.read twofoldProject.toValue = some twofoldProject) ∧
      ofValue? Options.read (.ofDict twofoldProject.settings) = some twofoldProject.settings ∧
      nestedValue.Ordered ∧ ofValue? Reader.value nestedValue = some nestedValue := by
  have orderedValue : nestedValue.Ordered := by
    simp [nestedValue, Value.Ordered, Value.OrderedMembers, Value.OrderedItems, Value.ofNat,
      Entries.Sorted]
  have orderedTree : annotatedTree.Ordered := by
    simp [annotatedTree, Node.ordered_mk, Dict.Ordered, Dict.ofList, Dict.empty,
      Entries.insertAll, Entries.insert, orderedValue]
  have orderedProject : twofoldProject.Ordered := by
    simp [twofoldProject, Project.Ordered, TransformEntry.options, Dict.Ordered, Dict.ofList,
      Dict.empty, Entries.insertAll, Entries.insert, orderedValue]
  obtain ⟨ofNodes, _, _, ofOptions, ofProjects, ofValues, _⟩ := read_toValue
  exact ⟨⟨orderedTree, ofNodes annotatedTree orderedTree⟩,
    ⟨orderedProject, ofProjects twofoldProject orderedProject⟩,
    ofOptions twofoldProject.settings orderedProject.1, orderedValue,
    ofValues nestedValue orderedValue⟩

/-- Data that were read are read back as they are. -/
theorem read_toValue_of_read :
    (∀ budget document node, Node.read budget document = some node →
        ofValue? Node.read node.toValue = some node) ∧
      (∀ budget document options, Options.read budget document = some options →
        ofValue? Options.read (.ofDict options) = some options) ∧
      (∀ budget document project, Project.read budget document = some project →
        ofValue? Project.read project.toValue = some project) ∧
      ∀ budget document value, Reader.value budget document = some value →
        ofValue? Reader.value value = some value := by
  refine ⟨fun _ _ node reads => ?_, fun _ _ options reads => ?_, fun _ _ project reads => ?_,
    fun _ _ value reads => ?_⟩
  · exact (node.recovers (Node.ordered_of_read reads)).ofValue?
  · exact (Dict.Ordered.recovers (Dict.ordered_of_read reads)).ofValue?
  · exact (Project.recovers (Project.ordered_of_read reads)).ofValue?
  · exact (recovers_value value (Document.ordered_of_value? reads)).ofValue?

end Cascade
