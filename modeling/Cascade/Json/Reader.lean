import Cascade.Json.Document.Parser

/-!
# Reading typed data from documents

A reader takes the number of containers that may still be entered and a
document.  Records are read by field name or by position, enumerations by name
or as an object with one member.  Fields that a record does not know are passed
over unread; a known field must not occur twice.
-/

namespace Cascade.Json

/-- A reader of typed data: the depth of nesting that is left, and the document
to read. -/
abbrev Reader (α : Type) :=
  Nat → Document → Option α

namespace Reader

variable {α : Type}

/-- A boolean. -/
def bool : Document → Option Bool
  | .bool value => some value
  | _ => none

/-- A string. -/
def string : Document → Option String
  | .string value => value
  | _ => none

/-- A natural number below a bound, written as an integer. -/
def natBelow (bound : Nat) : Document → Option Nat
  | .number (some (.integer value)) =>
      if 0 ≤ value ∧ value < bound then some value.toNat else none
  | _ => none

/-- Data that may be null. -/
def optional (read : Document → Option α) : Document → Option (Option α)
  | .null => some none
  | document => (read document).map some

/-- A list of data. -/
def list (read : Reader α) : Reader (List α)
  | budget + 1, .array items => items.mapM (read budget)
  | _, _ => none

/-- A dictionary of data.  Of the entries with one key the last counts. -/
def dict (read : Reader α) : Reader (Dict α)
  | budget + 1, .object members =>
      let entries := members.mapM fun (key, member) =>
        key.bind fun key => (read budget member).map fun value => (key, value)
      entries.map Dict.ofList
  | _, _ => none

/-- Free-form data. -/
def value : Reader Value :=
  Document.value?

/-- The one member with the given name; absent if there is none, and an error if
there are several. -/
def member? (members : List (Option String × Document)) (name : String) :
    Option (Option Document) :=
  match members.filter fun member => member.1 == some name with
  | [] => some none
  | [member] => some (some member.2)
  | _ => none

/-- The fields of a record in the order of `names`, read by position or by
name. -/
def fields? (names : List String) : Document → Option (List (Option Document))
  | .array items =>
      if items.length ≤ names.length then
        some (items.map some ++ List.replicate (names.length - items.length) none)
      else none
  | .object members =>
      if members.all fun member => member.1.isSome then names.mapM (member? members) else none
  | _ => none

/-- A record with the given fields. -/
def record (names : List String) (read : Nat → List (Option Document) → Option α) : Reader α
  | 0, _ => none
  | budget + 1, document => (fields? names document).bind (read budget)

/-- A field that must be present. -/
def required (read : Document → Option α) (field : Option Document) : Option α :=
  field.bind read

/-- A field with a default for its absence. -/
def withDefault (default : α) (read : Document → Option α) : Option Document → Option α
  | none => some default
  | some document => read document

/-- A field that may be absent or null. -/
def optionalField (read : Document → Option α) : Option Document → Option (Option α) :=
  withDefault none (optional read)

/-- The name of an alternative and what it carries: a string is a name alone, an
object with one member carries the member's value. -/
def alternative : Reader (String × Option Document)
  | _, .string (some name) => some (name, none)
  | _ + 1, .object [(some name, carried)] => some (name, some carried)
  | _, _ => none

/-- Whether nothing is carried; null counts as nothing. -/
def carriesNothing : Option Document → Bool
  | none => true
  | some .null => true
  | some _ => false

/-- Reads a value, however deeply it nests. -/
def ofValue? (read : Reader α) (value : Value) : Option α :=
  let document := Document.ofValue value
  read document.nesting document

/-- Reads a text, which may nest up to the limit. -/
def ofText? (read : Reader α) (text : String) : Option α :=
  (Document.parse? text).bind (read Value.nestingLimit)

end Reader

end Cascade.Json
