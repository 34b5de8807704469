import Cascade.Error
import Cascade.Toml.Parser

/-!
# Projects from TOML

A project is read from a document with a name, a table of transforms and a table
of settings, all of which may be missing; other keys are passed over.  What was
read is then checked for faults.
-/

namespace Cascade.Project

open Cascade.Json

/-- The project that the entries of a document spell. -/
def ofEntries? (entries : List (String × Toml.Value)) : Option Project := do
  let name ←
    match entries.lookup "name" with
    | none => some none
    | some (.string name) => some (some name)
    | some _ => none
  let tables ← Toml.Value.entriesToJson? (entries.filter fun entry =>
    entry.1 == "transforms" || entry.1 == "settings")
  let project ← Reader.ofValue? Project.read (Value.ofMembers tables)
  return { project with name }

/-- The project that a text spells. -/
def ofToml (text : String) : Except Failure Project :=
  match (Toml.parse? text).bind ofEntries? with
  | none => .error .malformedToml
  | some project => project.validate.mapError .configuration

end Cascade.Project
