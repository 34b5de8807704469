import Cascade.Project.Basic
import Cascade.Tree.Kind

/-!
# Errors of a resolution

What makes a resolution fail, as opposed to what diagnostics report about the
input.  Each cause carries what its message needs.
-/

namespace Cascade

/-- Why a request could not be served.  `unfinished` stands for a reduction that
its visitors never let come to an end. -/
inductive Failure where
  | unknownStage (stage : String) (registered : List String)
  | unknownTransform (id stage : String)
  | rejectedTransform (id reason : String)
  | invalidRoot (stage : String) (found : Kind)
  | configuration (fault : ConfigurationFault)
  | malformedToml
  | malformedJson
  | unfinished (stage : String)

namespace Failure

/-- The message of a failure.  Malformed texts have none of their own. -/
def message? : Failure → Option String
  | unknownStage stage registered =>
      some ("Configuration error: unknown stage `" ++ stage ++ "` (registered: " ++
        ", ".intercalate registered ++ ")")
  | unknownTransform id stage =>
      some ("Unknown transform `" ++ id ++ "` configured for stage `" ++ stage ++ "`")
  | rejectedTransform id reason =>
      some ("Transform `" ++ id ++ "` could not be constructed: " ++ reason)
  | invalidRoot stage found =>
      some ("Stage `" ++ stage ++ "` produced a `" ++ found.name ++
        "` root node, expected `program`")
  | configuration fault => some ("Configuration error: " ++ fault.message)
  | malformedToml => none
  | malformedJson => none
  | unfinished stage => some ("Stage `" ++ stage ++ "` did not come to an end")

/-- Whether the user can mend the failure, as opposed to the author of a
visitor. -/
def isMendable : Failure → Bool
  | invalidRoot _ _ => false
  | unfinished _ => false
  | _ => true

end Failure

end Cascade
