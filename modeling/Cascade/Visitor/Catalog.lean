import Cascade.Error
import Cascade.Visitor.Basic

/-!
# Naming visitors

A catalog maps identifiers to constructors of visitors.  A specification is a
ready visitor or an identifier with options; turning a list of specifications
into visitors stops at the first one that cannot be turned into one.
-/

namespace Cascade

/-- Makes a visitor from options, or says why the options will not do. -/
abbrev Constructor (σ : Type) :=
  Options → σ → Except String (Visitor σ) × σ

/-- Constructors by identifier. -/
abbrev Catalog (σ : Type) :=
  Dict (Constructor σ)

namespace Catalog

variable {σ : Type}

/-- The identifiers in order. -/
def ids (catalog : Catalog σ) : List String :=
  catalog.keys

/-- The description of a catalog. -/
def description (catalog : Catalog σ) : String :=
  "TransformCatalog \x7b ids: [" ++ ", ".intercalate (catalog.ids.map Text.quote) ++ "] \x7d"

end Catalog

/-- A transform that a stage asks for. -/
inductive Spec (σ : Type) where
  | ready (visitor : Visitor σ)
  | named (id : String) (options : Options)

namespace Spec

variable {σ : Type}

/-- The name by which a specification is listed. -/
def label : Spec σ → String
  | ready visitor => visitor.name
  | named id _ => id

/-- The description of a specification. -/
def description : Spec σ → String
  | ready visitor => "Visitor(" ++ Text.quote visitor.name ++ ")"
  | named id options =>
      "Named \x7b id: " ++ Text.quote id ++ ", options: " ++ Options.description options ++ " \x7d"

/-- The visitor that a specification of a stage stands for. -/
def resolve (catalog : Catalog σ) (stage : String) (spec : Spec σ) (state : σ) :
    Except Failure (Visitor σ) × σ :=
  match spec with
  | ready visitor => (.ok visitor, state)
  | named id options =>
      match catalog.get? id with
      | none => (.error (.unknownTransform id stage), state)
      | some construct =>
          match construct options state with
          | (.ok visitor, state) => (.ok visitor, state)
          | (.error reason, state) => (.error (.rejectedTransform id reason), state)

/-- The visitors of a list of specifications, in order. -/
def resolveAll (catalog : Catalog σ) (stage : String) :
    List (Spec σ) → σ → Except Failure (List (Visitor σ)) × σ
  | [], state => (.ok [], state)
  | spec :: rest, state =>
      match spec.resolve catalog stage state with
      | (.error failure, state) => (.error failure, state)
      | (.ok visitor, state) =>
          match resolveAll catalog stage rest state with
          | (.error failure, state) => (.error failure, state)
          | (.ok visitors, state) => (.ok (visitor :: visitors), state)

end Spec

end Cascade
