import Cascade.Proofs.DirectiveYields
import Cascade.Proofs.Patterns

/-!
# Directives as expressions

The texts of directives are given by three expressions that are tried one after another:
a directive with its list of targets, the suppressing word on its own, and any other
word.  What a comment says is what the first of them that matches makes of it.
-/

namespace Cascade.Directive

open Text (Pattern Way)

/-- The introduction of a reason: white space and two hyphens, all of which may be left
out. -/
def introduction : Pattern :=
  .seq (.many Text.isBlank) (.seq (.optional (.literal ['-', '-'])) (.many Text.isBlank))

/-- The end of a directive: perhaps a reason, on one line. -/
def ending : Pattern :=
  .seq (.optional (.seq introduction (.group 2 (.many (· != '\n'))))) .stop

/-- A directive with a list of targets,
`^stagewise-ignore\[([^\]]*)\](?:\s*(?:--)?\s*(.*))?$`. -/
def listForm : Pattern :=
  .seq (.literal "stagewise-ignore[".toList)
    (.seq (.group 1 (.many (· != ']'))) (.seq (.one (· == ']')) ending))

/-- The suppressing word on its own, `^stagewise-ignore(?:[^\w-]|$)`. -/
def bareForm : Pattern :=
  .seq (.literal "stagewise-ignore".toList)
    (.either (.one fun c => !Text.isWordOrHyphen c) .stop)

/-- The leader with any word, `^stagewise-([\w-]+)`. -/
def wordForm : Pattern :=
  .seq (.literal "stagewise-".toList) (.group 1 (.atLeastOne Text.isWordOrHyphen))

/-- Reads a directive with a list of targets. -/
def readList? (text : List Char) : Option Directive :=
  (listForm.match? text).map fun way =>
    let targets := targetsOf ((way.get? 1).getD [])
    let reason := ((way.get? 2).map Text.trim).filter fun reason => !reason.isEmpty
    if targets.isEmpty then untargeted else targeted targets (reason.map String.ofList)

/-- Reads the suppressing word on its own. -/
def readBare? (text : List Char) : Option Directive :=
  (bareForm.match? text).map fun _ => untargeted

/-- Reads a word other than the suppressing one. -/
def readWord? (text : List Char) : Option Directive :=
  ((wordForm.match? text).filter fun way => way.get? 1 != some suppressingWord.toList).map
    fun way => misspelt (String.ofList (Text.consumed text way.rest))

/-- What a comment text says by the three expressions. -/
def ofForms (text : String) : Directive :=
  let trimmed := Text.trim text.toList
  if leader.toList.isPrefixOf trimmed then
    ((readList? trimmed).or ((readBare? trimmed).or (readWord? trimmed))).getD ordinary
  else ordinary

/-! ## Introductions and endings -/

/-- Behind two hyphens white space is left out once more. -/
theorem reasonText_of_hyphens {text rest : List Char}
    (hyphens : text.dropWhile Text.isBlank = '-' :: '-' :: rest) :
    reasonText text = rest.dropWhile Text.isBlank := by
  simp only [reasonText, hyphens]

theorem reasonText_of_not_hyphens {text : List Char}
    (notHyphens : ¬ ['-', '-'] <+: text.dropWhile Text.isBlank) :
    reasonText text = text.dropWhile Text.isBlank := by
  simp only [reasonText]
  split
  next rest hyphens => exact absurd ⟨rest, hyphens.symm⟩ notHyphens
  next => rfl

/-- The preferred introduction is the longest one. -/
theorem match?_introduction (text : List Char) :
    introduction.match? text = some ⟨[], reasonText text⟩ := by
  have spaced := Pattern.match?_many Text.isBlank text
  by_cases hyphens : ['-', '-'] <+: text.dropWhile Text.isBlank
  · obtain ⟨rest, led⟩ := hyphens
    have taken : (Pattern.literal ['-', '-']).match? (text.dropWhile Text.isBlank) =
        some ⟨[], rest⟩ := by
      rw [Pattern.match?, Pattern.ways_literal, ← led, if_pos (by simp)]
      rfl
    rw [reasonText_of_hyphens led.symm]
    exact Pattern.match?_seq spaced
      (Pattern.match?_seq (Pattern.match?_optional taken) (Pattern.match?_many _ rest))
  · have skipped : (Pattern.optional (.literal ['-', '-'])).match? (text.dropWhile Text.isBlank) =
        some ⟨[], text.dropWhile Text.isBlank⟩ := by
      rw [Pattern.match?, Pattern.ways_optional, Pattern.ways_literal,
        if_neg (by simpa using hyphens)]
      rfl
    have again := Pattern.match?_many Text.isBlank (text.dropWhile Text.isBlank)
    rw [List.dropWhile_idempotent] at again
    rw [reasonText_of_not_hyphens hyphens]
    exact Pattern.match?_seq spaced (Pattern.match?_seq skipped again)

/-- Behind every introduction the text still ends with what is behind the longest one. -/
theorem reasonText_suffix {text : List Char} {way : Way} (member : way ∈ introduction.ways text) :
    reasonText text <:+ way.rest := by
  obtain ⟨spaced, spacedListed, later, member, sameRest⟩ := Pattern.mem_ways_seq member
  obtain ⟨dashed, dashedListed, last, lastListed, sameLast⟩ := Pattern.mem_ways_seq member
  have unspaced := Text.dropWhile_of_mem (Pattern.mem_ways_many spacedListed)
  have trailing := Text.dropWhile_of_mem (Pattern.mem_ways_many lastListed)
  have kept : dashed.rest.dropWhile Text.isBlank <:+ way.rest := by
    rw [sameRest, sameLast, trailing]
    exact List.dropWhile_suffix _
  refine List.IsSuffix.trans ?_ kept
  rw [Pattern.ways_optional, Pattern.ways_literal] at dashedListed
  rcases List.mem_append.mp dashedListed with taken | skipped
  · split at taken
    next hyphens =>
      obtain rfl := List.mem_singleton.mp taken
      obtain ⟨rest, led⟩ := List.isPrefixOf_iff_prefix.mp hyphens
      have stops : spaced.rest.dropWhile Text.isBlank = spaced.rest := by
        rw [← led]
        exact List.dropWhile_cons_of_neg (Bool.eq_false_iff.mp isBlank_hyphen)
      rw [stops, ← led] at unspaced
      rw [← led]
      exact ⟨[], reasonText_of_hyphens unspaced⟩
    next => exact nomatch taken
  · obtain rfl := List.mem_singleton.mp skipped
    rw [← unspaced]
    by_cases hyphens : ['-', '-'] <+: text.dropWhile Text.isBlank
    · obtain ⟨rest, led⟩ := hyphens
      rw [reasonText_of_hyphens led.symm, ← led]
      exact (List.dropWhile_suffix _).trans (List.suffix_append _ _)
    · exact ⟨[], reasonText_of_not_hyphens hyphens⟩

theorem match?_ending_of_line {text : List Char} (line : '\n' ∉ reasonText text) :
    ending.match? text = some ⟨[(2, reasonText text)], []⟩ := by
  have all : (Pattern.many (· != '\n')).match? (reasonText text) = some ⟨[], []⟩ := by
    rw [Pattern.match?_many, List.dropWhile_eq_nil_iff.mpr (Text.bne_of_notMem line)]
  have grouped := Pattern.match?_group 2 all
  rw [Text.consumed, List.length_nil, Nat.sub_zero, List.take_length] at grouped
  have reason := Pattern.match?_optional (Pattern.match?_seq (match?_introduction text) grouped)
  have stopped : Pattern.stop.match? [] = some ⟨[], []⟩ := rfl
  exact Pattern.match?_seq reason stopped

/-- A line break behind the introduction cannot be taken up. -/
theorem ways_ending_of_break {text : List Char} (broken : '\n' ∈ reasonText text) :
    ending.ways text = [] := by
  -- A shorter introduction leaves more behind, so that the break is left by every one.
  refine Pattern.ways_seq_eq_nil fun way member => ?_
  have remains : way.rest ≠ [] := by
    intro empty
    rw [Pattern.ways_optional] at member
    rcases List.mem_append.mp member with given | absent
    · obtain ⟨introduced, listed, line, lineListed, same⟩ := Pattern.mem_ways_seq given
      rw [Pattern.ways_group] at lineListed
      obtain ⟨run, runListed, rfl⟩ := List.mem_map.mp lineListed
      obtain ⟨front, parts, inside⟩ := Text.exists_run_of_mem (Pattern.mem_ways_many runListed)
      have ended : run.rest = [] := same.symm.trans empty
      rw [ended, List.append_nil] at parts
      have breaks := (reasonText_suffix listed).subset broken
      rw [parts] at breaks
      exact absurd (inside _ breaks) (by simp)
    · obtain rfl := List.mem_singleton.mp absent
      obtain rfl : text = [] := empty
      exact nomatch broken
  rw [Pattern.ways_stop, if_neg (by simpa using remains)]

/-! ## The three forms -/

variable {text word rest : List Char}

/-- A list ends at its first closing bracket, and behind it comes the ending. -/
theorem ways_listForm (inside : List Char) :
    listForm.ways ("stagewise-ignore[".toList ++ inside) =
      ((Pattern.seq (.one (· == ']')) ending).ways (inside.dropWhile (· != ']'))).map
        (Way.behind [(1, inside.takeWhile (· != ']'))]) := by
  have refused : ∀ c rest, (c != ']') = true →
      (Pattern.seq (.one (· == ']')) ending).ways (c :: rest) = [] := by
    intro c rest different
    simp [Pattern.ways_seq, bne_iff_ne.mp different]
  rw [listForm, Pattern.ways_literal_seq, Pattern.ways_group_many_seq refused]

/-- Without a list in brackets the first form does not match. -/
theorem readList?_of_not_list (begins : Begins text word rest)
    (notList : ¬ (word = suppressingWord.toList ∧
      ∃ list behind, rest = '[' :: (list ++ ']' :: behind) ∧ ']' ∉ list)) :
    readList? text = none := by
  have none : listForm.ways text = [] := by
    by_cases led : "stagewise-ignore[".toList <+: text
    · obtain ⟨inside, rfl⟩ := led
      obtain ⟨isIgnore, rfl⟩ := begins.unique (begins_list inside)
      rw [ways_listForm]
      cases closed : inside.dropWhile (· != ']') with
      | nil => rfl
      | cons closing behind =>
          obtain ⟨list, rfl, without⟩ := Text.exists_until closed
          exact absurd ⟨isIgnore, list, behind, rfl, without⟩ notList
    · exact Pattern.ways_literal_seq_of_not_prefix led _
  rw [readList?, Pattern.match?, none]
  rfl

/-- A list in brackets is read together with the reason behind it, unless the reason
breaks the line. -/
theorem readList?_of_list {list behind : List Char} (without : ']' ∉ list) :
    (readList? ("stagewise-ignore[".toList ++ (list ++ ']' :: behind))).getD untargeted =
      ofRemainder ('[' :: (list ++ ']' :: behind)) := by
  have closed : (Pattern.one (· == ']')).ways (']' :: behind) = [⟨[], behind⟩] := rfl
  have form := ways_listForm (list ++ ']' :: behind)
  rw [Text.takeWhile_until without, Text.dropWhile_until without, Pattern.ways_seq, closed,
    List.flatMap_singleton, Way.behind_nil, List.map_id] at form
  rw [ofRemainder_list without]
  by_cases broken : '\n' ∈ reasonText behind
  · rw [ways_ending_of_break broken] at form
    have unread : reason? behind = none := by simp [reason?, broken]
    rw [readList?, Pattern.match?, form, unread]
    rfl
  · have ended := match?_ending_of_line broken
    have found : listForm.match? ("stagewise-ignore[".toList ++ (list ++ ']' :: behind)) =
        some ⟨[(1, list), (2, reasonText behind)], []⟩ := by
      rw [Pattern.match?, form, List.head?_map, ← Pattern.match?, ended]
      rfl
    have read : reason? behind = some (((some (Text.trim (reasonText behind))).filter
        fun reason => !reason.isEmpty).map String.ofList) := by
      rw [reason?, if_neg (by simpa using broken)]
      cases Text.trim (reasonText behind) <;> rfl
    have answered : readList? ("stagewise-ignore[".toList ++ (list ++ ']' :: behind)) =
        some (if (targetsOf list).isEmpty then untargeted
          else targeted (targetsOf list) (((some (Text.trim (reasonText behind))).filter
            fun reason => !reason.isEmpty).map String.ofList)) := by
      rw [readList?, found]
      rfl
    rw [answered, read]
    rfl

/-- The second form matches just the suppressing word. -/
theorem readBare?_eq (begins : Begins text word rest) :
    readBare? text = if word = suppressingWord.toList then some untargeted else none := by
  by_cases led : "stagewise-ignore".toList <+: text
  · obtain ⟨behind, rfl⟩ := led
    rw [readBare?, Pattern.match?, bareForm, Pattern.ways_literal_seq]
    by_cases ends : ∀ c ∈ behind.head?, Text.isWordOrHyphen c = false
    · have bare : Begins ("stagewise-ignore".toList ++ behind) suppressingWord.toList behind :=
        ⟨rfl, isWordOrHyphen_suppressingWord, ends⟩
      rw [if_pos (begins.unique bare).1]
      cases behind with
      | nil => rfl
      | cons c behind => simp [Pattern.ways_either, ends c rfl]
    · have different : word ≠ suppressingWord.toList := by
        rintro rfl
        have same : behind = rest := List.append_cancel_left begins.parts
        exact ends (same ▸ begins.ends)
      rw [if_neg different]
      cases behind with
      | nil => exact absurd (by simp) ends
      | cons c behind =>
          have goesOn : Text.isWordOrHyphen c = true := by simpa using ends
          simp [Pattern.ways_either, goesOn]
  · have different : word ≠ suppressingWord.toList := by
      rintro rfl
      exact led ⟨rest, begins.parts.symm⟩
    rw [readBare?, Pattern.match?, bareForm, Pattern.ways_literal_seq_of_not_prefix led,
      if_neg different]
    rfl

/-- The third form matches any word that is not empty. -/
theorem match?_wordForm (begins : Begins text word rest) :
    wordForm.match? text = if word = [] then none else some ⟨[(1, word)], rest⟩ := by
  have behindLeader : wordForm.ways text =
      (Pattern.group 1 (.atLeastOne Text.isWordOrHyphen)).ways (word ++ rest) := by
    rw [begins.parts, List.append_assoc]
    exact Pattern.ways_literal_seq "stagewise-".toList (word ++ rest) _
  rw [Pattern.match?, behindLeader, ← Pattern.match?]
  cases word with
  | nil =>
      cases rest with
      | nil => rfl
      | cons c rest =>
          simp [Pattern.match?, Pattern.ways_group, Pattern.atLeastOne, Pattern.ways_seq,
            begins.ends c rfl]
  | cons c word =>
      obtain ⟨accepted, run⟩ := List.forall_mem_cons.mp begins.run
      have first : (Pattern.one Text.isWordOrHyphen).match? (c :: word ++ rest) =
          some ⟨[], word ++ rest⟩ := by
        simp [Pattern.match?, accepted]
      have others := Pattern.match?_many Text.isWordOrHyphen (word ++ rest)
      rw [Text.dropWhile_run run begins.ends] at others
      have grouped := Pattern.match?_group 1 (Pattern.match?_seq first others)
      have taken := Text.consumed_append (c :: word) rest
      rw [if_neg (List.cons_ne_nil c word), Pattern.atLeastOne, grouped, Way.behind, Way.behind,
        taken]
      rfl

/-- The third form tells of any other word. -/
theorem readWord?_eq (begins : Begins text word rest) :
    readWord? text =
      if word = [] ∨ word = suppressingWord.toList then none
      else some (misspelt (leader ++ String.ofList word)) := by
  rw [readWord?, match?_wordForm begins]
  by_cases isEmpty : word = []
  · rw [if_pos isEmpty, if_pos (.inl isEmpty)]
    rfl
  · have captured : (⟨[(1, word)], rest⟩ : Way).get? 1 = some word := rfl
    have whole : String.ofList (Text.consumed text rest) = leader ++ String.ofList word := by
      rw [begins.parts, Text.consumed_append, String.ofList_append, String.ofList_toList]
    rw [if_neg isEmpty]
    by_cases isIgnore : word = suppressingWord.toList
    · rw [if_pos (.inr isIgnore), Option.filter_some, captured, if_neg (by simp [isIgnore])]
      rfl
    · rw [if_neg (not_or.mpr ⟨isEmpty, isIgnore⟩), Option.filter_some, captured,
        if_pos (by simp [isIgnore]), Option.map_some, whole]

/-- The three expressions say of a comment text what it says. -/
theorem ofForms_eq (text : String) : ofForms text = ofText text := by
  -- Behind the leader there is just one word; it tells which of the forms can match.
  by_cases led : leader.toList <+: Text.trim text.toList
  · obtain ⟨word, rest, begins⟩ := exists_begins led
    rw [ofForms, if_pos (List.isPrefixOf_iff_prefix.mpr led), readBare?_eq begins,
      readWord?_eq begins, begins.ofText]
    by_cases isIgnore : word = suppressingWord.toList
    · subst isIgnore
      have notEmpty : suppressingWord.toList ≠ [] := by decide
      by_cases bracketed : ∃ list behind, rest = '[' :: (list ++ ']' :: behind) ∧ ']' ∉ list
      · obtain ⟨list, behind, rfl, without⟩ := bracketed
        have read := @readList?_of_list list behind without
        have parts : Text.trim text.toList =
            "stagewise-ignore[".toList ++ (list ++ ']' :: behind) := begins.parts
        rw [← parts] at read
        rw [if_pos rfl, if_neg notEmpty, if_pos rfl, ← read]
        cases readList? (Text.trim text.toList) <;> rfl
      · rw [readList?_of_not_list begins fun listed => bracketed listed.2,
          ofRemainder_of_not_list bracketed]
        rfl
    · rw [readList?_of_not_list begins fun listed => isIgnore listed.1]
      rw [if_neg isIgnore]
      by_cases isEmpty : word = []
      · rw [if_pos (.inl isEmpty), if_pos isEmpty]
        rfl
      · rw [if_neg (not_or.mpr ⟨isEmpty, isIgnore⟩), if_neg isEmpty, if_neg isIgnore]
        rfl
  · rw [ofForms, if_neg fun isPrefix => led (List.isPrefixOf_iff_prefix.mp isPrefix),
      ofText_of_not_led led]

end Cascade.Directive
