import Cascade.Dict
import Cascade.Json.Number

/-!
# JSON values

Free-form data: properties of nodes, options and settings.  The members of an
object are kept in key order.  Two values are compared by content, where the
two zeros of the doubles count as equal.
-/

namespace Cascade.Json

/-- A JSON value. -/
inductive Value where
  | null
  | bool (value : Bool)
  | number (value : Number)
  | string (value : String)
  | array (items : List Value)
  | object (members : List (String × Value))

namespace Value

instance : Inhabited Value :=
  ⟨null⟩

mutual

/-- Equality of values. -/
def same : Value → Value → Bool
  | null, null => true
  | bool first, bool second => first == second
  | number first, number second => first.same second
  | string first, string second => first == second
  | array first, array second => sameItems first second
  | object first, object second => sameMembers first second
  | _, _ => false

/-- Equality of lists of values. -/
def sameItems : List Value → List Value → Bool
  | [], [] => true
  | first :: firsts, second :: seconds => same first second && sameItems firsts seconds
  | _, _ => false

/-- Equality of lists of members. -/
def sameMembers : List (String × Value) → List (String × Value) → Bool
  | [], [] => true
  | (key, first) :: firsts, (name, second) :: seconds =>
      key == name && same first second && sameMembers firsts seconds
  | _, _ => false

end

/-- Equality of dictionaries of values. -/
def sameDict (first second : Dict Value) : Bool :=
  sameMembers first.entries second.entries

/-- The object with the given members, of which the last one of a key counts. -/
def ofMembers (members : List (String × Value)) : Value :=
  object (Entries.insertAll [] members)

/-- The object with the entries of a dictionary. -/
def ofDict (dict : Dict Value) : Value :=
  object dict.entries

/-- A natural number as a value. -/
def ofNat (value : Nat) : Value :=
  number (.integer value)

/-- The text of a string value. -/
def text? : Value → Option String
  | string text => some text
  | _ => none

/-- The value, or null for an absent one. -/
def orNull : Option Value → Value
  | none => null
  | some value => value

end Value

end Cascade.Json
