import Cascade.Proofs.DirectiveForms

/-!
# Classes of comments

Every comment text belongs to exactly one class: it has no word behind the leader, or the
suppressing word, or another one.  The first class yields nothing, the second yields
suppressions or the complaint that targets are lacking, and the third the complaint that
the word is unknown.  The expressions that are tried one after another tell the classes
apart: no text with the leader falls between them.
-/

namespace Cascade

namespace Comment

variable {comment : Comment} {nodeSpan : Option Span} {word rest : List Char}

theorem extraction_of_not_led
    (notLed : ¬ Directive.leader.toList <+: Text.trim comment.text.toList) :
    comment.extraction nodeSpan = {} :=
  extraction_of_ordinary (Directive.ofText_of_not_led notLed)

theorem extraction_of_no_word
    (begins : Directive.Begins (Text.trim comment.text.toList) [] rest) :
    comment.extraction nodeSpan = {} := by
  refine extraction_of_ordinary ?_
  rw [begins.ofText, if_pos rfl]

/-- Behind the suppressing word there are targets, whose repetitions are complained
about, or the complaint is that there are none. -/
theorem extraction_of_suppressing
    (begins : Directive.Begins (Text.trim comment.text.toList)
      Directive.suppressingWord.toList rest) :
    ((comment.extraction nodeSpan).suppressions ≠ [] ∧
        ∀ diagnostic ∈ (comment.extraction nodeSpan).diagnostics,
          diagnostic.category = Directive.duplicateTarget) ∨
      comment.extraction nodeSpan =
        { diagnostics := [Directive.lacksTargets (comment.span.or nodeSpan)] } := by
  have remainder : Directive.ofText comment.text = Directive.ofRemainder rest := by
    rw [begins.ofText, if_neg (by decide), if_pos rfl]
  rcases Directive.ofRemainder_cases rest with lacking | ⟨list, _, reason, _, _, named, listed⟩
  · exact .inr (extraction_of_untargeted (remainder.trans lacking))
  · rw [extraction_of_targeted (remainder.trans listed)]
    exact .inl ⟨Directive.contributions_suppressions named,
      Directive.contributions_diagnostics [] (Directive.targetsOf list)⟩

theorem extraction_of_other_word
    (begins : Directive.Begins (Text.trim comment.text.toList) word rest) (given : word ≠ [])
    (other : word ≠ Directive.suppressingWord.toList) :
    comment.extraction nodeSpan =
      { diagnostics := [Directive.unknownWord (Directive.leader ++ String.ofList word)
          (comment.span.or nodeSpan)] } := by
  refine extraction_of_misspelt ?_
  rw [begins.ofText, if_neg given, if_neg other]

/-- Suppressions come from a list in brackets with an entry that is not blank. -/
theorem exists_list_of_suppressions (suppressed : (comment.extraction nodeSpan).suppressions ≠ []) :
    ∃ list behind,
      Text.trim comment.text.toList = "stagewise-ignore[".toList ++ (list ++ ']' :: behind) ∧
        ']' ∉ list ∧ ∃ entry ∈ Text.split ',' list, ∃ c ∈ entry, Text.isBlank c = false := by
  cases reads : Directive.ofText comment.text with
  | ordinary =>
      rw [extraction_of_ordinary reads] at suppressed
      exact absurd rfl suppressed
  | misspelt found =>
      rw [extraction_of_misspelt reads] at suppressed
      exact absurd rfl suppressed
  | untargeted =>
      rw [extraction_of_untargeted reads] at suppressed
      exact absurd rfl suppressed
  | targeted targets reason =>
      obtain ⟨list, behind, parts, without, rfl⟩ := Directive.exists_list_of_targeted reads
      refine ⟨list, behind, parts, without, Directive.exists_entry_of_targetsOf fun none => ?_⟩
      rw [extraction_of_targeted reads, none] at suppressed
      exact suppressed rfl

end Comment

/-- What a tree with a single comment yields is settled by the word of the comment, as the
three expressions read it: no directive is dropped, and none is taken for another.
Suppressions are only asked for by a list in brackets with an entry that is not blank. -/
theorem Node.CarriesOnly.classified {node : Node} {comment : Comment}
    (only : node.CarriesOnly comment) :
    let text := Text.trim comment.text.toList
    let location := comment.span.or node.span
    Directive.ofText comment.text = Directive.ofForms comment.text ∧
      (¬ Directive.leader.toList <+: text → node.extraction = {}) ∧
      (Directive.leader.toList <+: text → ∃ word rest, Directive.Begins text word rest) ∧
      (∀ rest, Directive.Begins text [] rest → node.extraction = {}) ∧
      (∀ rest, Directive.Begins text Directive.suppressingWord.toList rest →
        ((node.extraction.suppressions ≠ [] ∧
            ∀ diagnostic ∈ node.extraction.diagnostics,
              diagnostic.category = Directive.duplicateTarget) ∨
          node.extraction = { diagnostics := [Directive.lacksTargets location] }) ∧
        ∀ diagnostic ∈ node.extraction.diagnostics,
          diagnostic.category ≠ Directive.incorrectWord) ∧
      (∀ word rest, Directive.Begins text word rest → word ≠ [] →
        word ≠ Directive.suppressingWord.toList →
          node.extraction = { diagnostics :=
            [Directive.unknownWord (Directive.leader ++ String.ofList word) location] }) ∧
      (node.extraction.suppressions ≠ [] →
        ∃ list behind, text = "stagewise-ignore[".toList ++ (list ++ ']' :: behind) ∧
          ']' ∉ list ∧ ∃ entry ∈ Text.split ',' list, ∃ c ∈ entry, Text.isBlank c = false) := by
  intro text location
  rw [only.extraction]
  refine ⟨(Directive.ofForms_eq comment.text).symm, Comment.extraction_of_not_led,
    Directive.exists_begins, fun _ => Comment.extraction_of_no_word, fun rest begins => ?_,
    fun _ _ => Comment.extraction_of_other_word, Comment.exists_list_of_suppressions⟩
  have settled := @Comment.extraction_of_suppressing comment node.span rest begins
  refine ⟨settled, fun diagnostic member => ?_⟩
  rcases settled with ⟨_, repeated⟩ | lacking
  · rw [repeated diagnostic member]
    decide
  · rw [lacking] at member
    obtain rfl := List.mem_singleton.mp member
    simp [Directive.lacksTargets, Directive.warning, Directive.missingTarget,
      Directive.incorrectWord]

/-- A function with the given comment. -/
def remarked (text : String) : Node :=
  .mk { kind := .function, comments := [{ id := 1, text }] } []

theorem carriesOnly_remarked (text : String) :
    (remarked text).CarriesOnly { id := 1, text } :=
  ⟨rfl, fun _ member => nomatch member⟩

theorem classified_ignore_line :
    (remarked " stagewise-ignore-line[lint]").extraction =
      { diagnostics := [Directive.unknownWord "stagewise-ignore-line" none] } := by
  have begins : Directive.Begins (Text.trim " stagewise-ignore-line[lint]".toList)
      "ignore-line".toList "[lint]".toList :=
    ⟨by decide, Text.isWordOrHyphen_of_ascii (by decide) (by decide),
      by simp [Directive.isWordOrHyphen_bracket]⟩
  have named : "stagewise-ignore-line" =
      Directive.leader ++ String.ofList "ignore-line".toList := by
    decide
  obtain ⟨_, _, _, _, _, otherWord, _⟩ :=
    (carriesOnly_remarked " stagewise-ignore-line[lint]").classified
  rw [named]
  exact otherWord "ignore-line".toList "[lint]".toList begins (by decide) (by decide)

end Cascade
