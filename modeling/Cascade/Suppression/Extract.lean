import Cascade.Suppression.Basic
import Cascade.Suppression.Directive
import Cascade.Tree.Walk

/-!
# Extracting suppressions from a tree

The comments of a tree are taken in pre-order of their nodes, each comment
number once.  A directive yields one suppression for every target it lists, and
a diagnostic for every repeated mention of one; a faulty directive yields a
diagnostic.  Extraction never fails and never changes the tree.
-/

namespace Cascade

/-- Suppressions, and diagnostics about faulty directives. -/
structure Extraction where
  suppressions : List Suppression := []
  diagnostics : List Diagnostic := []
deriving DecidableEq

namespace Extraction

/-- Two extractions one after the other. -/
def append (first second : Extraction) : Extraction :=
  ⟨first.suppressions ++ second.suppressions, first.diagnostics ++ second.diagnostics⟩

instance : Append Extraction :=
  ⟨append⟩

end Extraction

namespace Directive

/-- Category of a directive that lists no target. -/
def missingTarget : String :=
  "suppressions/missing-target"

/-- Category of a target that a directive lists again. -/
def duplicateTarget : String :=
  "suppressions/duplicate"

/-- Category of a directive with an unknown word. -/
def incorrectWord : String :=
  "suppressions/incorrect-prefix"

/-- A warning about a directive. -/
def warning (category message : String) (location : Option Span) : Diagnostic where
  category
  message
  location
  severity := .warning
  origin := some { category := directiveGroup }

/-- The target that a listed text names. -/
def targetOf (text : String) : Target :=
  if text = "*" then .wildcard else .category text

/-- What the targets of one directive yield, given those that it listed
before. -/
def contributions (scope location : Option Span) (commentId : UInt32) (reason : Option String)
    (listed : List String) : List String → Extraction
  | [] => {}
  | target :: rest =>
      if listed.contains target then
        let message := "Category `" ++ target ++ "` is listed more than once"
        { diagnostics := [warning duplicateTarget message location] } ++
          contributions scope location commentId reason listed rest
      else
        { suppressions := [{ target := targetOf target, span := scope, reason, commentId }] } ++
          contributions scope location commentId reason (target :: listed) rest

end Directive

/-- What a comment yields on its own at a node with the given span.  A
suppression holds for the node, or for the comment if the node has no span; a
diagnostic points at the comment, or at the node if the comment has no span. -/
def Comment.extraction (nodeSpan : Option Span) (comment : Comment) : Extraction :=
  let scope := nodeSpan.or comment.span
  let location := comment.span.or nodeSpan
  match Directive.ofText comment.text with
  | .ordinary => {}
  | .misspelt found =>
      let message := "Unknown directive `" ++ found ++ "`; did you mean stagewise-ignore?"
      { diagnostics := [Directive.warning Directive.incorrectWord message location] }
  | .untargeted =>
      let message := "Suppression directive has no category list; " ++
        "use stagewise-ignore[category] or stagewise-ignore[*]"
      { diagnostics := [Directive.warning Directive.missingTarget message location] }
  | .targeted targets reason =>
      Directive.contributions scope location comment.id reason [] targets

/-- An extraction under way: what it yielded so far, newest first, and the
comment numbers that are taken. -/
structure Extractor where
  seen : List UInt32 := []
  found : List Extraction := []

namespace Extractor

/-- Takes up a comment at a node with the given span, unless its number was
taken before. -/
def visitComment (nodeSpan : Option Span) (extractor : Extractor) (comment : Comment) :
    Extractor :=
  if extractor.seen.contains comment.id then extractor
  else ⟨comment.id :: extractor.seen, comment.extraction nodeSpan :: extractor.found⟩

/-- Takes up the comments of a node in order. -/
def visitNode (extractor : Extractor) (node : Node) : Extractor :=
  node.comments.foldl (visitComment node.span) extractor

/-- Everything that was found, in the order in which it was found. -/
def result (extractor : Extractor) : Extraction :=
  extractor.found.foldl (fun later earlier => earlier ++ later) {}

end Extractor

namespace Node

/-- The suppressions that the comments of a tree ask for. -/
def extraction (node : Node) : Extraction :=
  (node.preorder.foldl Extractor.visitNode {}).result

end Node

end Cascade
