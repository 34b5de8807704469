import Cascade.Text.Basic
import Cascade.Text.Word

/-!
# Directives in comments

A directive is a comment such as `stagewise-ignore[lint, style] -- legacy code`:
a prefix, a word, the list of targets in brackets, and an optional reason that
two hyphens may introduce.  The word decides what a comment is: the longest run
of word characters and hyphens behind the prefix.  Any word but `ignore` is a
misspelt directive, and `ignore` without a readable list lacks its targets.
-/

namespace Cascade

/-- What a comment text says. -/
inductive Directive where
  | ordinary
  | misspelt (found : String)
  | untargeted
  | targeted (targets : List String) (reason : Option String)
deriving DecidableEq

namespace Directive

/-- The beginning of every directive. -/
def leader : String :=
  "stagewise-"

/-- The word of a directive that suppresses diagnostics. -/
def suppressingWord : String :=
  "ignore"

/-- The listed targets: the trimmed parts that are not blank. -/
def targetsOf (list : List Char) : List String :=
  ((Text.split ',' list).map Text.trim).filter (fun part => !part.isEmpty) |>.map String.ofList

/-- The text behind the list without leading white space, two optional hyphens
and the white space behind them. -/
def reasonText (text : List Char) : List Char :=
  let unspaced := text.dropWhile Text.isBlank
  match unspaced with
  | '-' :: '-' :: rest => rest.dropWhile Text.isBlank
  | _ => unspaced

/-- The reason given behind the list.  A reason must not contain a line break
once its introduction is removed; a blank one is absent. -/
def reason? (text : List Char) : Option (Option String) :=
  let body := reasonText text
  if body.contains '\n' then none
  else
    let trimmed := Text.trim body
    some (if trimmed.isEmpty then none else some (String.ofList trimmed))

/-- The directive whose suppressing word is followed by the given text. -/
def ofRemainder (text : List Char) : Directive :=
  match text with
  | '[' :: rest =>
      let list := rest.takeWhile (· != ']')
      match rest.dropWhile (· != ']') with
      | _ :: behindList =>
          match reason? behindList, targetsOf list with
          | none, _ => untargeted
          | some _, [] => untargeted
          | some reason, targets => targeted targets reason
      | [] => untargeted
  | _ => untargeted

/-- What a comment text says. -/
def ofText (text : String) : Directive :=
  match Text.behind? leader.toList (Text.trim text.toList) with
  | none => ordinary
  | some rest =>
      let word := rest.takeWhile Text.isWordOrHyphen
      if word.isEmpty then ordinary
      else if word = suppressingWord.toList then ofRemainder (rest.drop word.length)
      else misspelt (leader ++ String.ofList word)

end Directive

end Cascade
