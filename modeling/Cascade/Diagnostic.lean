import Cascade.Tree.Codec

/-!
# Diagnostics

What visitors report about the input, and what directives in it have wrong.  A
diagnostic is plain data; one that is suppressed stays in its list with a flag.
Categories are separated by slashes: a category lies in every group that is a
leading part of it.
-/

namespace Cascade

open Json

/-- How serious a diagnostic is. -/
inductive Severity where
  | info
  | warning
  | error
deriving DecidableEq

namespace Severity

/-- The name of a severity. -/
def name : Severity → String
  | info => "info"
  | warning => "warning"
  | error => "error"

/-- The severities from the least to the most serious. -/
def ordered : List Severity :=
  [info, warning, error]

/-- The order of severities. -/
def le (first second : Severity) : Bool :=
  ordered.idxOf first ≤ ordered.idxOf second

/-- The severity with the given name. -/
def ofName? (name : String) : Option Severity :=
  ordered.find? fun severity => severity.name == name

/-- Reads a severity. -/
def read : Reader Severity := fun budget document =>
  (Reader.alternative budget document).bind fun (name, carried) =>
    if Reader.carriesNothing carried then ofName? name else none

end Severity

/-- Where a diagnostic comes from. -/
structure Origin where
  category : String
  stage : Option String := none
  visitor : Option String := none
deriving DecidableEq

namespace Origin

/-- An origin as a value. -/
def toValue (origin : Origin) : Value :=
  .ofMembers [("category", .string origin.category),
    ("stage", .orNull (origin.stage.map .string)),
    ("visitor", .orNull (origin.visitor.map .string))]

/-- Reads an origin. -/
def read : Reader Origin :=
  Reader.record ["category", "stage", "visitor"] fun _ fields =>
    match fields with
    | [category, stage, visitor] => do
        let category ← Reader.required Reader.string category
        let stage ← Reader.optionalField Reader.string stage
        let visitor ← Reader.optionalField Reader.string visitor
        return ⟨category, stage, visitor⟩
    | _ => none

end Origin

/-- A message about the input. -/
structure Diagnostic where
  category : String
  message : String
  location : Option Span := none
  severity : Severity := .error
  origin : Option Origin := none
  suppressed : Bool := false
deriving DecidableEq

namespace Diagnostic

/-- Whether the category is `group` or lies below it. -/
def liesIn (diagnostic : Diagnostic) (group : String) : Bool :=
  diagnostic.category == group ||
    (group.toList ++ ['/']).isPrefixOf diagnostic.category.toList

/-- The line in which a diagnostic is shown. -/
def text (diagnostic : Diagnostic) : String :=
  let located :=
    match diagnostic.location with
    | some location => location.text ++ " "
    | none => ""
  located ++ "[" ++ diagnostic.severity.name ++ "] " ++ diagnostic.category ++ ": " ++
    diagnostic.message

/-- A diagnostic as a value. -/
def toValue (diagnostic : Diagnostic) : Value :=
  .ofMembers [("category", .string diagnostic.category), ("message", .string diagnostic.message),
    ("location", Span.optionToValue diagnostic.location),
    ("severity", .string diagnostic.severity.name),
    ("origin", .orNull (diagnostic.origin.map Origin.toValue)),
    ("suppressed", .bool diagnostic.suppressed)]

/-- Reads a diagnostic. -/
def read : Reader Diagnostic :=
  Reader.record ["category", "message", "location", "severity", "origin", "suppressed"]
    fun budget fields =>
      match fields with
      | [category, message, location, severity, origin, suppressed] => do
          let category ← Reader.required Reader.string category
          let message ← Reader.required Reader.string message
          let location ← Span.readField budget location
          let severity ← Reader.required (Severity.read budget) severity
          let origin ← Reader.optionalField (Origin.read budget) origin
          let suppressed ← Reader.withDefault false Reader.bool suppressed
          return ⟨category, message, location, severity, origin, suppressed⟩
      | _ => none

end Diagnostic

end Cascade
