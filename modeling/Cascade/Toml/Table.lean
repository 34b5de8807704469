import Cascade.Toml.Value

/-!
# Tables under construction

The tables of a document while its lines are read.  A table is defined by its
header, comes into being on the way to another one, or is made by a dotted key.
A header may define a table once, unless a dotted key made it; a dotted key may
extend only tables that dotted keys made.  Inline tables and the items of plain
arrays are complete as they stand.
-/

namespace Cascade.Toml

/-- How a table came into being. -/
inductive TableOrigin where
  | header
  | passing
  | dotted
deriving DecidableEq

/-- What a key of a table under construction is bound to.  The elements of an
array of tables stand newest first. -/
inductive Item where
  | plain (value : Value)
  | table (origin : TableOrigin) (entries : List (String × Item))
  | tables (newest : List (String × Item)) (earlier : List (List (String × Item)))

namespace Item

mutual

/-- The finished value of an item. -/
def toValue : Item → Value
  | plain value => value
  | table _ entries => .table (entriesToValues entries)
  | tables newest earlier =>
      .array ((tablesToValues earlier).reverse ++ [.table (entriesToValues newest)])

/-- The finished entries of a table. -/
def entriesToValues : List (String × Item) → List (String × Value)
  | [] => []
  | (key, item) :: rest => (key, toValue item) :: entriesToValues rest

/-- The finished elements of an array of tables. -/
def tablesToValues : List (List (String × Item)) → List Value
  | [] => []
  | entries :: rest => .table (entriesToValues entries) :: tablesToValues rest

end

end Item

/-- A table under construction. -/
structure Table where
  origin : TableOrigin
  entries : List (String × Item)

namespace Table

/-- An empty table with a header. -/
def empty : Table :=
  ⟨.header, []⟩

/-- The item that a key is bound to. -/
def find? (table : Table) (key : String) : Option Item :=
  table.entries.lookup key

/-- The table with a key bound to an item, in place of an earlier binding. -/
def bind (table : Table) (key : String) (item : Item) : Table :=
  ⟨table.origin, (key, item) :: table.entries.filter fun entry => entry.1 != key⟩

/-- The finished value of a table. -/
def toValue (table : Table) : Value :=
  .table (Item.entriesToValues table.entries)

/-- Changes the table at the end of a path.  Tables that are missing on the way
are made.  The path of a dotted key does not lead through tables that have a
header of their own. -/
def modifyAt (dotted : Bool) (change : Table → Option Table) : List String → Table → Option Table
  | [], table => change table
  | key :: path, table =>
      match table.find? key with
      | none =>
          (modifyAt dotted change path ⟨if dotted then .dotted else .passing, []⟩).map
            fun inner => table.bind key (.table inner.origin inner.entries)
      | some (.plain _) => none
      | some (.table origin entries) =>
          if dotted && origin == .header then none
          else
            (modifyAt dotted change path ⟨origin, entries⟩).map
              fun inner => table.bind key (.table inner.origin inner.entries)
      | some (.tables newest earlier) =>
          (modifyAt dotted change path ⟨.header, newest⟩).map
            fun inner => table.bind key (.tables inner.entries earlier)

/-- Binds a key that is not bound yet.  Dotted keys bind in tables that dotted
keys made, other keys in all other tables. -/
def bindNew (dotted : Bool) (key : String) (value : Value) (table : Table) : Option Table :=
  if (table.origin == .dotted) != dotted || (table.find? key).isSome then none
  else some (table.bind key (.plain value))

/-- Binds the value of a key that may be dotted. -/
def assign (path : List String) (key : String) (value : Value) (table : Table) : Option Table :=
  let dotted := !path.isEmpty
  table.modifyAt dotted (bindNew dotted key value) path

/-- Defines a table by its header. -/
def define (path : List String) (key : String) (table : Table) : Option Table :=
  table.modifyAt false (fun parent =>
    match parent.find? key with
    | none => some (parent.bind key (.table .header []))
    | some (.table .passing entries) => some (parent.bind key (.table .header entries))
    | some _ => none) path

/-- Adds an element to an array of tables by its header. -/
def defineElement (path : List String) (key : String) (table : Table) : Option Table :=
  table.modifyAt false (fun parent =>
    match parent.find? key with
    | none => some (parent.bind key (.tables [] []))
    | some (.tables newest earlier) => some (parent.bind key (.tables [] (newest :: earlier)))
    | some _ => none) path

end Table

end Cascade.Toml
