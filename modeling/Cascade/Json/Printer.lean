import Cascade.Json.Value
import Cascade.Text.Quoted

/-!
# Written forms of JSON values

`Value.compact` is the JSON text of a value without any white space; it is the
canonical form that digests are taken of.  `Value.description` is the form in
which messages and listings describe a value.
-/

namespace Cascade.Json

/-- The escape of one character in a JSON string: the quote, the backslash and
the controls below the space are escaped, and nothing else. -/
def escapeChar (c : Char) : List Char :=
  if c = '"' then ['\\', '"']
  else if c = '\\' then ['\\', '\\']
  else if c = '\x08' then ['\\', 'b']
  else if c = '\t' then ['\\', 't']
  else if c = '\n' then ['\\', 'n']
  else if c = '\x0c' then ['\\', 'f']
  else if c = '\r' then ['\\', 'r']
  else if c.toNat < 0x20 then
    ['\\', 'u', '0', '0', Nat.digitChar (c.toNat / 16), Nat.digitChar (c.toNat % 16)]
  else [c]

/-- The JSON text of a string. -/
def stringText (text : String) : String :=
  String.ofList ('"' :: text.toList.flatMap escapeChar ++ ['"'])

/-- Texts joined by commas between two brackets. -/
def bracketed (opening closing : String) (parts : List String) : String :=
  opening ++ ",".intercalate parts ++ closing

/-- The JSON text of an object whose member values are already written. -/
def objectText (members : List (String × String)) : String :=
  bracketed "\x7b" "\x7d" (members.map fun member => stringText member.1 ++ ":" ++ member.2)

/-- The JSON text of an array whose items are already written. -/
def arrayText (items : List String) : String :=
  bracketed "[" "]" items

/-- The JSON text of a natural number. -/
def natText (value : Nat) : String :=
  String.ofList (Nat.toDigits 10 value)

namespace Value

mutual

/-- The JSON text of a value, without white space. -/
def compact : Value → String
  | null => "null"
  | bool true => "true"
  | bool false => "false"
  | number value => String.ofList value.text
  | string text => stringText text
  | array items => arrayText (compactItems items)
  | object members => objectText (compactMembers members)

/-- The JSON texts of the items of an array. -/
def compactItems : List Value → List String
  | [] => []
  | item :: rest => compact item :: compactItems rest

/-- The keys of an object with the JSON texts of their values. -/
def compactMembers : List (String × Value) → List (String × String)
  | [] => []
  | (key, value) :: rest => (key, compact value) :: compactMembers rest

end

mutual

/-- The description of a value, which names its kind. -/
def description : Value → String
  | null => "Null"
  | bool true => "Bool(true)"
  | bool false => "Bool(false)"
  | number value => "Number(" ++ String.ofList value.text ++ ")"
  | string text => "String(" ++ Text.quote text ++ ")"
  | array items => "Array [" ++ ", ".intercalate (describeItems items) ++ "]"
  | object members =>
      "Object \x7b" ++ ", ".intercalate (describeMembers members) ++ "\x7d"

/-- The descriptions of the items of an array. -/
def describeItems : List Value → List String
  | [] => []
  | item :: rest => description item :: describeItems rest

/-- The descriptions of the members of an object. -/
def describeMembers : List (String × Value) → List String
  | [] => []
  | (key, value) :: rest =>
      (Text.quote key ++ ": " ++ description value) :: describeMembers rest

end

/-- The description of a dictionary of values. -/
def describeDict (dict : Dict Value) : String :=
  "\x7b" ++ ", ".intercalate (describeMembers dict.entries) ++ "\x7d"

end Value

end Cascade.Json
