import Cascade.Json.Value

/-!
# TOML values

Data of a TOML document.  A date or time is kept as its normal text.  As JSON,
the floats that are not finite become null, and a date or time becomes an object
whose one member names it.
-/

namespace Cascade.Toml

open Cascade.Decimal

/-- A TOML value.  A float is `none` if it is not a number or infinite. -/
inductive Value where
  | string (value : String)
  | integer (value : Int)
  | float (value : Option Binary64)
  | boolean (value : Bool)
  | datetime (text : String)
  | array (items : List Value)
  | table (entries : List (String × Value))

namespace Value

instance : Inhabited Value :=
  ⟨table []⟩

/-- The key of the member that holds a date or time. -/
def datetimeKey : String :=
  "$__toml_private_datetime"

mutual

/-- A value as JSON, unless it holds an integer beyond 64 bits. -/
def toJson? : Value → Option Json.Value
  | string value => some (.string value)
  | integer value =>
      if -(UInt64.size : Int) ≤ 2 * value ∧ value < UInt64.size then
        some (.number (.integer value))
      else none
  | float none => some .null
  | float (some value) => some (.number (.float value))
  | boolean value => some (.bool value)
  | datetime text => some (.ofMembers [(datetimeKey, .string text)])
  | array items => (itemsToJson? items).map .array
  | table entries => (entriesToJson? entries).map .ofMembers

/-- The items of an array as JSON. -/
def itemsToJson? : List Value → Option (List Json.Value)
  | [] => some []
  | item :: rest =>
      (toJson? item).bind fun item => (itemsToJson? rest).map fun rest => item :: rest

/-- The entries of a table as JSON. -/
def entriesToJson? : List (String × Value) → Option (List (String × Json.Value))
  | [] => some []
  | (key, value) :: rest =>
      (toJson? value).bind fun value =>
        (entriesToJson? rest).map fun rest => (key, value) :: rest

end

end Value

end Cascade.Toml
