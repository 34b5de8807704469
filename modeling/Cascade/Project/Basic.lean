import Cascade.Options
import Cascade.Text.Basic

/-!
# Project configuration

A project may have a name; it lists the transforms of each stage and holds
free-form settings that transforms can look up.  A configured transform is a
bare identifier or an identifier with options, and the two are told apart even
where the options are empty.
-/

namespace Cascade

open Json

/-- One entry of a stage's list of transforms. -/
inductive TransformEntry where
  | bare (id : String)
  | detailed (id : String) (options : Options)

namespace TransformEntry

/-- The identifier of the transform. -/
def id : TransformEntry → String
  | bare id => id
  | detailed id _ => id

/-- The options of the transform; a bare one has none. -/
def options : TransformEntry → Options
  | bare _ => Dict.empty
  | detailed _ options => options

/-- Equality of configured transforms. -/
def same : TransformEntry → TransformEntry → Bool
  | bare first, bare second => first == second
  | detailed first options, detailed second others => first == second && options.same others
  | _, _ => false

/-- A configured transform as a value. -/
def toValue : TransformEntry → Value
  | bare id => .string id
  | detailed id options => .ofMembers [("id", .string id), ("options", .ofDict options)]

/-- A configured transform as compact JSON. -/
def compact : TransformEntry → String
  | bare id => stringText id
  | detailed id options => objectText [("id", stringText id), ("options", options.compact)]

/-- Reads a configured transform: a string, or an object with an identifier and
perhaps options.  It cannot be given by position. -/
def read : Reader TransformEntry
  | _, .string (some id) => some (bare id)
  | budget + 1, .object members => do
      match ← Reader.fields? ["id", "options"] (.object members) with
      | [id, options] =>
          let id ← Reader.required Reader.string id
          let options ← Reader.withDefault Dict.empty (Options.read budget) options
          return detailed id options
      | _ => none
  | _, _ => none

/-- The description of a configured transform in messages. -/
def description : TransformEntry → String
  | bare id => "Id(" ++ Text.quote id ++ ")"
  | detailed id options =>
      "Detailed \x7b id: " ++ Text.quote id ++ ", options: " ++ options.description ++ " \x7d"

end TransformEntry

/-- The configuration of a project. -/
structure Project where
  name : Option String := none
  transforms : Dict (List TransformEntry) := Dict.empty
  settings : Dict Value := Dict.empty

/-- What can be wrong with a configuration. -/
inductive ConfigurationFault where
  | noStages
  | repeatedStage (stage : String)
  | unregisteredPrimary (stage : String)
  | blankStage
  | blankTransform (stage : String) (transform : TransformEntry)
  | stated (text : String)

namespace ConfigurationFault

/-- The wording of a fault. -/
def message : ConfigurationFault → String
  | noStages => "stage registry needs at least one stage"
  | repeatedStage stage => "stage `" ++ stage ++ "` is registered twice"
  | unregisteredPrimary stage => "primary stage `" ++ stage ++ "` is not registered"
  | blankStage => "transform table has an empty stage name"
  | blankTransform stage transform =>
      "stage `" ++ stage ++ "` configures a transform with an empty id (" ++
        transform.description ++ ")"
  | stated text => text

end ConfigurationFault

namespace Project

/-- The transforms configured for a stage. -/
def transformsOf (project : Project) (stage : String) : List TransformEntry :=
  (project.transforms.get? stage).getD []

/-- The setting under a key. -/
def setting? (project : Project) (key : String) : Option Value :=
  project.settings.get? key

/-- The project with the transforms of a stage set. -/
def withTransforms (project : Project) (stage : String) (list : List TransformEntry) :
    Project :=
  { project with transforms := project.transforms.insert stage list }

/-- The project with a setting set. -/
def withSetting (project : Project) (key : String) (value : Value) : Project :=
  { project with settings := project.settings.insert key value }

/-- Equality of lists of configured transforms. -/
def sameLists : List TransformEntry → List TransformEntry → Bool
  | [], [] => true
  | first :: firsts, second :: seconds => first.same second && sameLists firsts seconds
  | _, _ => false

/-- Equality of tables of transforms. -/
def sameTables : Entries (List TransformEntry) → Entries (List TransformEntry) → Bool
  | [], [] => true
  | first :: firsts, second :: seconds =>
      first.1 == second.1 && sameLists first.2 second.2 && sameTables firsts seconds
  | _, _ => false

/-- Equality of projects. -/
def same (first second : Project) : Bool :=
  first.name == second.name && sameTables first.transforms.entries second.transforms.entries &&
    Value.sameDict first.settings second.settings

/-- The fault of one entry of the table of transforms: a blank stage name, or
the first blank identifier in its list. -/
def entryFault? (entry : String × List TransformEntry) : Option ConfigurationFault :=
  if Text.isBlankString entry.1 then some .blankStage
  else
    (entry.2.find? fun transform => Text.isBlankString transform.id).map
      (.blankTransform entry.1)

/-- The first fault of a project, the stages being taken in order. -/
def fault? (project : Project) : Option ConfigurationFault :=
  project.transforms.entries.findSome? entryFault?

/-- The project itself, unless it has a fault. -/
def validate (project : Project) : Except ConfigurationFault Project :=
  match project.fault? with
  | none => .ok project
  | some fault => .error fault

/-- A project as a value. -/
def toValue (project : Project) : Value :=
  .ofMembers [("name", .orNull (project.name.map .string)),
    ("transforms", .ofMembers (project.transforms.entries.map fun entry =>
      (entry.1, .array (entry.2.map TransformEntry.toValue)))),
    ("settings", .ofDict project.settings)]

/-- A project as compact JSON. -/
def compact (project : Project) : String :=
  let name :=
    match project.name with
    | none => "null"
    | some name => stringText name
  let transforms := objectText (project.transforms.entries.map fun entry =>
    (entry.1, arrayText (entry.2.map TransformEntry.compact)))
  objectText [("name", name), ("transforms", transforms),
    ("settings", (Value.ofDict project.settings).compact)]

/-- The digest of the compact text. -/
def digest (project : Project) : Digest :=
  Digest.ofBytes project.compact.toUTF8

/-- Reads a project. -/
def read : Reader Project :=
  Reader.record ["name", "transforms", "settings"] fun budget fields =>
    match fields with
    | [name, transforms, settings] => do
        let name ← Reader.optionalField Reader.string name
        let transforms ← Reader.withDefault Dict.empty
          (Reader.dict (Reader.list TransformEntry.read) budget) transforms
        let settings ← Reader.withDefault Dict.empty (Reader.dict Reader.value budget) settings
        return ⟨name, transforms, settings⟩
    | _ => none

end Project

end Cascade
