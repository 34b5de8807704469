import Cascade.Text.Basic
import Mathlib.Data.List.DropRight
import Mathlib.Data.List.TakeWhile

/-!
# Trimmed texts and split texts

A trimmed text neither begins nor ends with a blank character, and blanks around a text
do not matter to it.  A text that was joined by a separator is split into the texts that
it was joined from.
-/

namespace Cascade.Text

variable {accepts : Char → Bool}

/-! ## Runs of characters -/

/-- A run ends where the first other character stands. -/
theorem takeWhile_run {run rest : List Char} (all : ∀ c ∈ run, accepts c = true)
    (ends : ∀ c ∈ rest.head?, accepts c = false) : (run ++ rest).takeWhile accepts = run := by
  rw [List.takeWhile_append_of_pos all]
  cases rest with
  | nil => rw [List.takeWhile_nil, List.append_nil]
  | cons c rest => rw [List.takeWhile_cons_of_neg (by simp [ends c rfl]), List.append_nil]

theorem dropWhile_run {run rest : List Char} (all : ∀ c ∈ run, accepts c = true)
    (ends : ∀ c ∈ rest.head?, accepts c = false) : (run ++ rest).dropWhile accepts = rest := by
  rw [List.dropWhile_append_of_pos all]
  cases rest with
  | nil => rw [List.dropWhile_nil]
  | cons c rest => rw [List.dropWhile_cons_of_neg (by simp [ends c rfl])]

/-- Behind a run no more of its characters follow. -/
theorem head?_dropWhile_not (text : List Char) :
    ∀ c ∈ (text.dropWhile accepts).head?, accepts c = false := by
  intro c atHead
  have stopped := List.head?_dropWhile_not accepts text
  rw [Option.mem_def.mp atHead] at stopped
  simpa using stopped

theorem bne_of_notMem {stop : Char} {run : List Char} (without : stop ∉ run) :
    ∀ c ∈ run, (c != stop) = true := by
  intro c member
  simpa using fun same : c = stop => without (same ▸ member)

theorem takeWhile_until {stop : Char} {run behind : List Char} (without : stop ∉ run) :
    (run ++ stop :: behind).takeWhile (· != stop) = run :=
  takeWhile_run (bne_of_notMem without) (by simp)

theorem dropWhile_until {stop : Char} {run behind : List Char} (without : stop ∉ run) :
    (run ++ stop :: behind).dropWhile (· != stop) = stop :: behind :=
  dropWhile_run (bne_of_notMem without) (by simp)

/-- Where something is left behind a run up to a character, that character is reached. -/
theorem exists_until {stop c : Char} {text behind : List Char}
    (left : text.dropWhile (· != stop) = c :: behind) :
    ∃ run, text = run ++ stop :: behind ∧ stop ∉ run := by
  have stops : (c != stop) = false := head?_dropWhile_not text c (by rw [left]; rfl)
  obtain rfl : c = stop := by simpa [bne] using stops
  refine ⟨text.takeWhile (· != c), ?_, fun member => ?_⟩
  · rw [← left, List.takeWhile_append_dropWhile]
  · exact absurd (List.mem_takeWhile_imp member) (by simp)

/-- Dropping a run at the end does not reach over another character. -/
theorem rdropWhile_append_of_last {front back : List Char} {last : Char}
    (stops : accepts last = false) :
    (front ++ last :: back).rdropWhile accepts = front ++ last :: back.rdropWhile accepts := by
  induction back using List.reverseRecOn with
  | nil =>
      rw [List.rdropWhile_concat_neg _ _ _ (by simp [stops])]
      rfl
  | append_singleton back c inductionHypothesis =>
      have shifted : front ++ last :: (back ++ [c]) = front ++ last :: back ++ [c] := by simp
      rw [shifted]
      by_cases accepted : accepts c = true
      · rw [List.rdropWhile_concat_pos _ _ _ accepted, inductionHypothesis,
          List.rdropWhile_concat_pos _ _ _ accepted]
      · rw [List.rdropWhile_concat_neg _ _ _ accepted, List.rdropWhile_concat_neg _ _ _ accepted,
          shifted]

/-! ## Trimming -/

theorem trim_eq (text : List Char) : trim text = (text.dropWhile isBlank).rdropWhile isBlank :=
  rfl

theorem trim_of_blank {text : List Char} (blank : ∀ c ∈ text, isBlank c = true) :
    trim text = [] := by
  rw [trim_eq, List.dropWhile_eq_nil_iff.mpr blank, List.rdropWhile_nil]

/-- Where a text has a character that is not blank, it is blanks in front and a rest that
begins with the first such character. -/
theorem exists_first_of_not_blank {text : List Char} (first : ¬ ∀ c ∈ text, isBlank c = true) :
    ∃ front c rest, text = front ++ c :: rest ∧ (∀ other ∈ front, isBlank other = true) ∧
      isBlank c = false := by
  cases stopped : text.dropWhile isBlank with
  | nil => exact absurd (List.dropWhile_eq_nil_iff.mp stopped) first
  | cons c rest =>
      have parts : text.takeWhile isBlank ++ text.dropWhile isBlank = text :=
        List.takeWhile_append_dropWhile
      refine ⟨text.takeWhile isBlank, c, rest, stopped ▸ parts.symm,
        fun _ member => List.mem_takeWhile_imp member, ?_⟩
      exact head?_dropWhile_not text c (by rw [stopped]; rfl)

/-- Blanks in front of a text do not matter, and what its first other character begins is
trimmed at its end. -/
theorem trim_front {front rest : List Char} {c : Char}
    (blank : ∀ other ∈ front, isBlank other = true) (first : isBlank c = false) :
    trim (front ++ c :: rest) = c :: rest.rdropWhile isBlank := by
  have ends : ∀ other ∈ (c :: rest).head?, isBlank other = false := by simpa using first
  rw [trim_eq, dropWhile_run blank ends]
  exact @rdropWhile_append_of_last isBlank [] rest c first

/-- The two ends may be trimmed in either order. -/
theorem dropWhile_rdropWhile (text : List Char) :
    (text.rdropWhile isBlank).dropWhile isBlank = trim text := by
  by_cases blank : ∀ c ∈ text, isBlank c = true
  · rw [List.rdropWhile_eq_nil_iff.mpr blank, trim_of_blank blank, List.dropWhile_nil]
  · obtain ⟨front, c, rest, rfl, blankFront, first⟩ := exists_first_of_not_blank blank
    have ends : ∀ other ∈ (c :: rest.rdropWhile isBlank).head?, isBlank other = false := by
      simpa using first
    rw [rdropWhile_append_of_last first, dropWhile_run blankFront ends,
      trim_front blankFront first]

/-- Blanks around a text do not matter. -/
theorem trim_padded {before text after : List Char} (blankBefore : ∀ c ∈ before, isBlank c = true)
    (blankAfter : ∀ c ∈ after, isBlank c = true) : trim (before ++ text ++ after) = trim text := by
  have trailing : (text ++ after).rdropWhile isBlank = text.rdropWhile isBlank := by
    induction after using List.reverseRecOn with
    | nil => rw [List.append_nil]
    | append_singleton back c inductionHypothesis =>
        obtain ⟨blankBack, blankLast⟩ := List.forall_mem_append.mp blankAfter
        rw [← List.append_assoc, List.rdropWhile_concat_pos _ _ _ (blankLast c (by simp))]
        exact inductionHypothesis blankBack
  rw [trim_eq, List.append_assoc, List.dropWhile_append_of_pos blankBefore, ← trim_eq,
    ← dropWhile_rdropWhile, trailing, dropWhile_rdropWhile]

theorem trim_trim (text : List Char) : trim (trim text) = trim text := by
  rw [← dropWhile_rdropWhile (trim text), trim_eq, List.rdropWhile_idempotent, ← trim_eq,
    ← dropWhile_rdropWhile, List.dropWhile_idempotent]

/-! ## Splitting -/

theorem split_of_notMem {separator : Char} {text : List Char} (without : separator ∉ text) :
    split separator text = [text] := by
  induction text with
  | nil => rfl
  | cons c rest inductionHypothesis =>
      obtain ⟨different, withoutRest⟩ := not_or.mp (mt List.mem_cons.mpr without)
      simp [split, inductionHypothesis withoutRest, Ne.symm different]

/-- A part ends at the first separator. -/
theorem split_append {separator : Char} {part rest : List Char} (without : separator ∉ part) :
    split separator (part ++ separator :: rest) = part :: split separator rest := by
  induction part with
  | nil =>
      rw [List.nil_append, split]
      split
      next empty => exact absurd empty (split_ne_nil separator rest)
      next first others parts => rw [if_pos rfl, parts]
  | cons c part inductionHypothesis =>
      obtain ⟨different, withoutPart⟩ := not_or.mp (mt List.mem_cons.mpr without)
      simp [split, inductionHypothesis withoutPart, Ne.symm different]

/-- Joined texts are split into themselves. -/
theorem split_intercalate {separator : Char} {parts : List (List Char)} (nonempty : parts ≠ [])
    (without : ∀ part ∈ parts, separator ∉ part) :
    split separator (List.intercalate [separator] parts) = parts := by
  induction parts with
  | nil => exact absurd rfl nonempty
  | cons part rest inductionHypothesis =>
      obtain ⟨withoutPart, withoutRest⟩ := List.forall_mem_cons.mp without
      cases rest with
      | nil => simpa [List.intercalate] using split_of_notMem withoutPart
      | cons next others =>
          have joined : List.intercalate [separator] (part :: next :: others) =
              part ++ separator :: List.intercalate [separator] (next :: others) := by
            simp [List.intercalate]
          rw [joined, split_append withoutPart,
            inductionHypothesis (List.cons_ne_nil next others) withoutRest]

end Cascade.Text
