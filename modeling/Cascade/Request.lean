import Cascade.Diagnostic
import Cascade.Project.Basic
import Cascade.Suppression.Basic
import Cascade.Tree.Canonical

/-!
# Requests, outcomes and cache keys

A request asks for a tree to be taken up to a stage, for a project and with
options.  The outcome of a stage holds the tree as the stage leaves it, and
everything that this stage and the ones before it reported.

The fingerprint of a request consists of the digests of its tree, its options
and its project.  A key is a fingerprint in the key space of one stage; requests
with equal content share their keys, wherever they come from.
-/

namespace Cascade

/-- A request.  If it names no stage, it is served up to the primary one. -/
structure Request where
  tree : Node
  project : Project := {}
  options : Options := Dict.empty
  stage : Option String := none

/-- What a stage answers.  The suppressions are those of the tree as it entered
the stage. -/
structure Outcome where
  tree : Node
  suppressions : List Suppression := []
  diagnostics : List Diagnostic := []
  dependencies : List String := []

namespace Outcome

/-- Whether the outcome has to be dropped when a dependency changes. -/
def dependsOn (outcome : Outcome) (dependency : String) : Bool :=
  outcome.dependencies.contains dependency

end Outcome

namespace Digest

/-- The short form of a digest in listings. -/
def description (digest : Digest) : String :=
  "Fingerprint(" ++ String.ofList (digest.hex.toList.take 12) ++ ")"

end Digest

/-- The part of a key that does not depend on the stage. -/
structure Fingerprint where
  tree : Digest
  options : Digest
  project : Digest
deriving DecidableEq

/-- A key of a stage's cache. -/
structure Key where
  stage : String
  fingerprint : Fingerprint
deriving DecidableEq

namespace Fingerprint

/-- The key of the fingerprint for a stage. -/
def inStage (fingerprint : Fingerprint) (stage : String) : Key :=
  ⟨stage, fingerprint⟩

end Fingerprint

namespace Request

/-- The fingerprint of a request. -/
def fingerprint (request : Request) : Fingerprint :=
  ⟨request.tree.digest, request.options.digest, request.project.digest⟩

/-- The key of a request for a stage. -/
def key (request : Request) (stage : String) : Key :=
  request.fingerprint.inStage stage

end Request

namespace Key

/-- The written form of a key. -/
def text (key : Key) : String :=
  key.stage ++ ":" ++ key.fingerprint.tree.description ++ ":" ++
    key.fingerprint.options.description ++ ":" ++ key.fingerprint.project.description

end Key

end Cascade
