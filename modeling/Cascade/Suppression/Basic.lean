import Cascade.Diagnostic

/-!
# Suppressions

A suppression silences the diagnostics of a category, or of all categories,
within a span.  Applying suppressions only flags diagnostics: none is removed or
moved, and the diagnostics about directives themselves are never flagged.
-/

namespace Cascade

open Json

/-- What a suppression silences. -/
inductive Target where
  | category (name : String)
  | wildcard
deriving DecidableEq

namespace Target

/-- A target as a value. -/
def toValue : Target → Value
  | category name => .object [("category", .string name)]
  | wildcard => .string "wildcard"

/-- Reads a target. -/
def read : Reader Target := fun budget document =>
  match Reader.alternative budget document with
  | some ("category", some carried) => (Reader.string carried).map category
  | some ("wildcard", carried) => if Reader.carriesNothing carried then some wildcard else none
  | _ => none

/-- Whether the target covers the category of a diagnostic. -/
def covers (target : Target) (diagnostic : Diagnostic) : Bool :=
  match target with
  | wildcard => true
  | category name => diagnostic.liesIn name

end Target

/-- One suppressed target of a directive.  Without a span it holds for the whole
unit. -/
structure Suppression where
  target : Target
  span : Option Span := none
  reason : Option String := none
  commentId : UInt32
deriving DecidableEq

namespace Suppression

/-- A suppression as a value. -/
def toValue (suppression : Suppression) : Value :=
  .ofMembers [("target", suppression.target.toValue),
    ("span", Span.optionToValue suppression.span),
    ("reason", .orNull (suppression.reason.map .string)),
    ("comment_id", .ofNat suppression.commentId.toNat)]

/-- Reads a suppression. -/
def read : Reader Suppression :=
  Reader.record ["target", "span", "reason", "comment_id"] fun budget fields =>
    match fields with
    | [target, span, reason, commentId] => do
        let target ← Reader.required (Target.read budget) target
        let span ← Span.readField budget span
        let reason ← Reader.optionalField Reader.string reason
        let commentId ← Reader.required (Reader.natBelow UInt32.size) commentId
        return ⟨target, span, reason, UInt32.ofNat commentId⟩
    | _ => none

/-- Whether a place that may be unknown lies within the suppression's span. -/
def reaches (suppression : Suppression) (location : Option Span) : Bool :=
  match suppression.span, location with
  | none, _ => true
  | some span, some location => span.contains location
  | some _, none => false

/-- Whether the suppression silences a diagnostic. -/
def silences (suppression : Suppression) (diagnostic : Diagnostic) : Bool :=
  suppression.target.covers diagnostic && suppression.reaches diagnostic.location

end Suppression

/-- The group of the diagnostics about directives. -/
def directiveGroup : String :=
  "suppressions"

namespace Diagnostic

/-- Whether some suppression flags the diagnostic. -/
def isSilencedBy (diagnostic : Diagnostic) (suppressions : List Suppression) : Bool :=
  !diagnostic.liesIn directiveGroup &&
    suppressions.any fun suppression => suppression.silences diagnostic

/-- The diagnostic, flagged if some suppression silences it. -/
def flagSuppressed (suppressions : List Suppression) (diagnostic : Diagnostic) : Diagnostic :=
  if diagnostic.isSilencedBy suppressions then { diagnostic with suppressed := true }
  else diagnostic

end Diagnostic

/-- Flags every diagnostic that a suppression silences. -/
def flagSuppressed (diagnostics : List Diagnostic) (suppressions : List Suppression) :
    List Diagnostic :=
  diagnostics.map (Diagnostic.flagSuppressed suppressions)

end Cascade
