import Cascade.Digest.Sha256
import Cascade.Json.Printer
import Cascade.Json.Reader

/-!
# Options

Named values that tune the stages of a request or the transforms of a project.
They are kept in key order, so that options with the same entries have the same
canonical text however they were collected.
-/

namespace Cascade

/-- Options of a request or of a configured transform. -/
abbrev Options :=
  Dict Json.Value

namespace Options

open Json

/-- Equality of options; the values are compared by content. -/
def same (first second : Options) : Bool :=
  Value.sameDict first second

/-- Options as compact JSON. -/
def compact (options : Options) : String :=
  (Value.ofDict options).compact

/-- The digest of the compact text. -/
def digest (options : Options) : Digest :=
  Digest.ofBytes options.compact.toUTF8

/-- Reads options. -/
def read : Reader Options :=
  Reader.dict Reader.value

/-- The description of options in messages. -/
def description (options : Options) : String :=
  "TransformOptions(" ++ Value.describeDict options ++ ")"

end Options

end Cascade
