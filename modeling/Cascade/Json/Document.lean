import Cascade.Json.Value

/-!
# JSON documents

A document is JSON data as it is written: members stay in written order with
their repetitions, and a number or a string that has no value is kept as such.
What is wrong with a document therefore matters only to a reader that looks at
the faulty part.  `Document.ofValue` writes a value as a document and
`Document.value?` reads one back.
-/

namespace Cascade.Json

/-- JSON data in written order.  A number is `none` if it is too large for a
double; a string or a key is `none` if it holds half a surrogate pair. -/
inductive Document where
  | null
  | bool (value : Bool)
  | number (value : Option Number)
  | string (value : Option String)
  | array (items : List Document)
  | object (members : List (Option String × Document))

namespace Document

instance : Inhabited Document :=
  ⟨null⟩

mutual

/-- A value as a document. -/
def ofValue : Value → Document
  | .null => null
  | .bool value => bool value
  | .number value => number (some value)
  | .string value => string (some value)
  | .array items => array (ofItems items)
  | .object members => object (ofMembers members)

/-- The items of an array as documents. -/
def ofItems : List Value → List Document
  | [] => []
  | item :: rest => ofValue item :: ofItems rest

/-- The members of an object as written members. -/
def ofMembers : List (String × Value) → List (Option String × Document)
  | [] => []
  | (key, value) :: rest => (some key, ofValue value) :: ofMembers rest

end

mutual

/-- How many arrays and objects lie within each other at the deepest place. -/
def nesting : Document → Nat
  | array items => nestingItems items + 1
  | object members => nestingMembers members + 1
  | _ => 0

/-- The deepest nesting among the items of an array. -/
def nestingItems : List Document → Nat
  | [] => 0
  | item :: rest => max (nesting item) (nestingItems rest)

/-- The deepest nesting among the members of an object. -/
def nestingMembers : List (Option String × Document) → Nat
  | [] => 0
  | (_, value) :: rest => max (nesting value) (nestingMembers rest)

end

/-- The value that a document spells, if it nests at most `budget` deep.  Of the
members with one key the last counts. -/
def value? : Nat → Document → Option Value
  | _, null => some .null
  | _, bool value => some (.bool value)
  | _, number value => value.map .number
  | _, string value => value.map .string
  | 0, array _ => none
  | 0, object _ => none
  | budget + 1, array items => (items.mapM (value? budget)).map .array
  | budget + 1, object members =>
      let read := members.mapM fun (key, member) =>
        key.bind fun key => (value? budget member).map fun value => (key, value)
      read.map .ofMembers

end Document

end Cascade.Json
