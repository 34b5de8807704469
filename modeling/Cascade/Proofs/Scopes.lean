import Cascade.Proofs.FirstMentions
import Cascade.Proofs.Flagging
import Mathlib.Data.Prod.Lex

/-!
# Scopes of suppressions

A category lies in a group if the segments of the group, between slashes, lead those of the
category, and a span contains another one if it reaches from no later to no earlier a
position.  Both are transitive, so a suppression whose target and whose span take in those
of another one silences whatever that one silences.  A directive therefore covers at least
as much on an enclosing node as on an enclosed one.
-/

namespace Cascade

/-! ## Groups of categories -/

namespace Text

variable {separator c : Char} {text : List Char}

theorem split_separator (separator : Char) (text : List Char) :
    split separator (separator :: text) = [] :: split separator text :=
  @split_append separator [] text List.not_mem_nil

/-- A character that is no separator belongs to the first part. -/
theorem exists_split_of_ne (different : c ≠ separator) (text : List Char) :
    ∃ part parts, split separator text = part :: parts ∧
      split separator (c :: text) = (c :: part) :: parts := by
  cases behind : split separator text with
  | nil => exact absurd behind (split_ne_nil separator text)
  | cons part parts =>
      refine ⟨part, parts, rfl, ?_⟩
      simp only [split, behind, if_neg different]

/-- The parts of two texts with first characters agree in front as far as those
characters and the parts behind them do. -/
theorem split_cons_prefix_cons {d : Char} {other : List Char} :
    split separator (c :: text) <+: split separator (d :: other) ↔
      c = d ∧ split separator text <+: split separator other := by
  by_cases first : c = separator <;> by_cases second : d = separator
  · rw [first, second, split_separator, split_separator, List.cons_prefix_cons]
    exact and_congr_left' (iff_of_true rfl rfl)
  · obtain ⟨part, parts, _, others⟩ := exists_split_of_ne second other
    rw [first, split_separator, others, List.cons_prefix_cons]
    exact iff_of_false (fun both => nomatch both.1) fun both => second both.1.symm
  · obtain ⟨part, parts, _, own⟩ := exists_split_of_ne first text
    rw [second, split_separator, own, List.cons_prefix_cons]
    exact iff_of_false (fun both => nomatch both.1) fun both => first both.1
  · obtain ⟨part, parts, behind, own⟩ := exists_split_of_ne first text
    obtain ⟨otherPart, otherParts, otherBehind, others⟩ := exists_split_of_ne second other
    rw [own, others, behind, otherBehind, List.cons_prefix_cons, List.cons_prefix_cons,
      List.cons.injEq, and_assoc]

/-- The parts of a text lead those of another one exactly if it is that text, or leads it
up to a separator. -/
theorem split_prefix_iff (separator : Char) (group category : List Char) :
    split separator group <+: split separator category ↔
      category = group ∨ group ++ [separator] <+: category := by
  induction group generalizing category with
  | nil =>
      cases category with
      | nil => simp
      | cons d rest =>
          by_cases here : d = separator
          · rw [here, split_separator]
            simp [split]
          · obtain ⟨part, parts, _, others⟩ := exists_split_of_ne here rest
            rw [others]
            simp [split, Ne.symm here]
  | cons c group inductionHypothesis =>
      cases category with
      | nil =>
          by_cases here : c = separator
          · rw [here, split_separator]
            simp [split, split_ne_nil]
          · obtain ⟨part, parts, _, own⟩ := exists_split_of_ne here group
            rw [own]
            simp [split]
      | cons d rest =>
          rw [split_cons_prefix_cons, inductionHypothesis, List.cons.injEq, List.cons_append,
            List.cons_prefix_cons, and_or_left, eq_comm (a := c)]

end Text

/-- The segments of a category between slashes. -/
def segments (category : String) : List (List Char) :=
  Text.split '/' category.toList

theorem inGroup_iff {category group : String} :
    InGroup category group ↔ segments group <+: segments category := by
  rw [segments, segments, Text.split_prefix_iff, String.toList_inj, InGroup]

theorem InGroup.trans {category group above : String} (within : InGroup category group)
    (below : InGroup group above) : InGroup category above := by
  rw [inGroup_iff] at within below ⊢
  exact below.trans within

/-! ## Spans -/

namespace Position

/-- The position as a pair of numbers, of which the line counts first. -/
def order (position : Position) : Nat ×ₗ Nat :=
  toLex (position.line.toNat, position.column.toNat)

theorem le_iff {first second : Position} :
    first.le second = true ↔ first.order ≤ second.order := by
  rw [order, order, Prod.Lex.toLex_le_toLex]
  simp [le, UInt64.lt_iff_toNat_lt, UInt64.le_iff_toNat_le, UInt64.toNat_inj]

end Position

theorem Span.contains_iff {span inner : Span} :
    span.contains inner = true ↔
      span.start.order ≤ inner.start.order ∧ inner.stop.order ≤ span.stop.order := by
  rw [contains, Bool.and_eq_true, Position.le_iff, Position.le_iff]

theorem Span.contains_trans {span inner innermost : Span} (outer : span.contains inner = true)
    (within : inner.contains innermost = true) : span.contains innermost = true := by
  rw [contains_iff] at outer within ⊢
  exact ⟨outer.1.trans within.1, within.2.trans outer.2⟩

/-! ## Wider suppressions -/

/-- The first suppression has a target and a span that take in those of the second: it is
for all categories, or both are for a category, that of the second within that of the
first; and it has no span, or both have one, and that of the first contains that of the
second. -/
structure Suppression.Covers (wide narrow : Suppression) : Prop where
  target : wide.target = .wildcard ∨
    ∃ group subgroup, wide.target = .category group ∧ narrow.target = .category subgroup ∧
      segments group <+: segments subgroup
  span : wide.span = none ∨
    ∃ outer inner, wide.span = some outer ∧ narrow.span = some inner ∧
      outer.contains inner = true

namespace Suppression

variable {wide narrow : Suppression} {diagnostic : Diagnostic}

theorem Covers.matches (covers : wide.Covers narrow) (silenced : narrow.Matches diagnostic) :
    wide.Matches diagnostic where
  category := by
    rcases covers.target with all | ⟨group, subgroup, ofWide, ofNarrow, leads⟩
    · exact .inl all
    rcases silenced.category with all | ⟨name, named, within⟩
    · exact nomatch ofNarrow.symm.trans all
    · obtain rfl := Target.category.inj (ofNarrow.symm.trans named)
      exact .inr ⟨group, ofWide, within.trans (inGroup_iff.mpr leads)⟩
  place := by
    rcases covers.span with everywhere | ⟨outer, inner, ofWide, ofNarrow, contains⟩
    · exact .inl everywhere
    rcases silenced.place with everywhere | ⟨span, location, spanned, located, reached⟩
    · exact nomatch ofNarrow.symm.trans everywhere
    · obtain rfl := Option.some.inj (ofNarrow.symm.trans spanned)
      exact .inr ⟨outer, location, ofWide, located, Span.contains_trans contains reached⟩

end Suppression

/-- Where every suppression has a wider one among others, those flag at least as much. -/
theorem flagsGrow_of_covered {suppressions others : List Suppression}
    (covered : ∀ narrow ∈ suppressions,
      narrow ∈ others ∨ ∃ wide ∈ others, wide.Covers narrow) (diagnostics : List Diagnostic) :
    List.Forall₂ Diagnostic.FlagsGrow (flagSuppressed diagnostics suppressions)
      (flagSuppressed diagnostics others) := by
  refine flagsGrow_of_silenced fun diagnostic silenced => ?_
  rw [Diagnostic.isSilencedBy_iff] at silenced ⊢
  obtain ⟨outside, narrow, member, silencing⟩ := silenced
  rcases covered narrow member with listed | ⟨wide, listed, covers⟩
  · exact ⟨outside, narrow, listed, silencing⟩
  · exact ⟨outside, wide, listed, covers.matches silencing⟩

/-- The second list has the wide suppression at some places where the first one has the
narrow one, and is the first one everywhere else. -/
def Suppression.Replaces (wide narrow : Suppression) : List Suppression → List Suppression → Prop :=
  List.Forall₂ fun old new => new = old ∨ old = narrow ∧ new = wide

theorem Suppression.Replaces.mem {wide narrow : Suppression}
    {suppressions others : List Suppression} (replaces : wide.Replaces narrow suppressions others) :
    ∀ old ∈ suppressions, old ∈ others ∨ old = narrow ∧ wide ∈ others := by
  induction replaces with
  | nil => exact fun _ absent => nomatch absent
  | cons pair _ inductionHypothesis =>
      refine List.forall_mem_cons.mpr ⟨?_, fun old member => ?_⟩
      · rcases pair with unchanged | ⟨isNarrow, isWide⟩
        · exact .inl (unchanged ▸ List.mem_cons_self)
        · exact .inr ⟨isNarrow, isWide ▸ List.mem_cons_self⟩
      · exact (inductionHypothesis old member).imp (List.mem_cons_of_mem _)
          (And.imp_right (List.mem_cons_of_mem _))

/-! ## Directives -/

/-- A directive asks at a node with a larger span for wider suppressions. -/
theorem Comment.covers_of_contains {comment other : Comment} {outer inner : Span}
    (sameText : other.text = comment.text) (contains : outer.contains inner = true) :
    ∀ narrow ∈ (comment.extraction (some inner)).suppressions,
      ∃ wide ∈ (other.extraction (some outer)).suppressions, wide.Covers narrow := by
  rw [extraction_eq_contribution, extraction_eq_contribution]
  unfold contribution
  rw [sameText]
  cases Directive.ofText comment.text with
  | ordinary => exact fun _ absent => nomatch absent
  | misspelt found => exact fun _ absent => nomatch absent
  | untargeted => exact fun _ absent => nomatch absent
  | targeted targets reason =>
      intro narrow member
      obtain ⟨target, mentioned, rfl⟩ := List.mem_map.mp member
      refine ⟨_, List.mem_map_of_mem mentioned, ?_, .inr ⟨outer, inner, rfl, rfl, contains⟩⟩
      cases named : Directive.targetOf target with
      | wildcard => exact .inl rfl
      | category group => exact .inr ⟨group, group, rfl, rfl, List.prefix_rfl⟩

/-- A category lies in a group exactly if the segments of the group lead its own.  A
suppression whose target and span take in those of another one matches whatever that one
matches, so putting it in the place of that one, wherever it is listed, takes the flag from
no diagnostic.  On a node whose span contains that of a node below it, a directive
silences whatever the same directive silences there, among any other suppressions. -/
theorem scopes_monotone :
    (∀ (diagnostic : Diagnostic) (group : String),
      diagnostic.liesIn group = true ↔ segments group <+: segments diagnostic.category) ∧
    (∀ wide narrow : Suppression, wide.Covers narrow →
      (∀ diagnostic, narrow.silences diagnostic = true → wide.silences diagnostic = true) ∧
      ∀ suppressions others, wide.Replaces narrow suppressions others →
        ∀ diagnostics, List.Forall₂ Diagnostic.FlagsGrow
          (flagSuppressed diagnostics suppressions) (flagSuppressed diagnostics others)) ∧
    ∀ (enclosing enclosed : Node) (outer inner : Span) (comment other : Comment),
      enclosed ∈ enclosing.listing → enclosing.span = some outer → enclosed.span = some inner →
      outer.contains inner = true → other.text = comment.text →
      (∀ narrow ∈ (comment.extraction enclosed.span).suppressions, ∀ diagnostic,
        narrow.silences diagnostic = true →
          ∃ wide ∈ (other.extraction enclosing.span).suppressions,
            wide.silences diagnostic = true) ∧
      ∀ diagnostics around, List.Forall₂ Diagnostic.FlagsGrow
        (flagSuppressed diagnostics (around ++ (comment.extraction enclosed.span).suppressions))
        (flagSuppressed diagnostics
          (around ++ (other.extraction enclosing.span).suppressions)) := by
  refine ⟨fun diagnostic group => ?_, fun wide narrow covers => ⟨?_, ?_⟩, ?_⟩
  · rw [Diagnostic.liesIn_iff, inGroup_iff]
  · intro diagnostic silenced
    rw [Suppression.silences_iff] at silenced ⊢
    exact covers.matches silenced
  · intro suppressions others replaces diagnostics
    refine flagsGrow_of_covered (fun old member => ?_) diagnostics
    rcases replaces.mem old member with kept | ⟨rfl, listed⟩
    · exact .inl kept
    · exact .inr ⟨wide, listed, covers⟩
  · rintro enclosing enclosed outer inner comment other - spanned within contains sameText
    rw [spanned, within]
    have covered := Comment.covers_of_contains sameText contains
    constructor
    · intro narrow member diagnostic silenced
      obtain ⟨wide, listed, covers⟩ := covered narrow member
      rw [Suppression.silences_iff] at silenced
      exact ⟨wide, listed, Suppression.silences_iff.mpr (covers.matches silenced)⟩
    · intro diagnostics around
      refine flagsGrow_of_covered (fun narrow member => ?_) diagnostics
      rcases List.mem_append.mp member with beside | asked
      · exact .inl (List.mem_append_left _ beside)
      · obtain ⟨wide, listed, covers⟩ := covered narrow asked
        exact .inr ⟨wide, List.mem_append_right _ listed, covers⟩

/-- A suppression of all that is linted is wider than one of a single rule in two lines, and
a directive on a program of nine lines is wider than on a function in two of them. -/
theorem scopes_monotone_lint :
    let wide : Suppression := { target := .category "lint", commentId := 1 }
    let narrow : Suppression :=
      { target := .category "lint/max-depth", span := some (.lines 3 4), commentId := 2 }
    let enclosed := (Node.ofKind .function).withSpan (some (.lines 3 4))
    let enclosing := (Node.program [enclosed]).withSpan (some (.lines 1 9))
    let comment : Comment := { id := 3, text := "stagewise-ignore[lint]" }
    wide.Covers narrow ∧
      (∀ diagnostics, List.Forall₂ Diagnostic.FlagsGrow (flagSuppressed diagnostics [narrow])
        (flagSuppressed diagnostics [wide])) ∧
      enclosed ∈ enclosing.listing ∧
      (comment.extraction enclosed.span).suppressions =
        [{ target := .category "lint", span := some (.lines 3 4), commentId := 3 }] ∧
      ∀ diagnostics, List.Forall₂ Diagnostic.FlagsGrow
        (flagSuppressed diagnostics (comment.extraction enclosed.span).suppressions)
        (flagSuppressed diagnostics (comment.extraction enclosing.span).suppressions) := by
  intro wide narrow enclosed enclosing comment
  have covers : wide.Covers narrow :=
    ⟨.inr ⟨"lint", "lint/max-depth", rfl, rfl, by decide⟩, .inl rfl⟩
  have below : enclosed ∈ enclosing.listing := .tail _ (.head _)
  have contains : (Span.lines 1 9).contains (.lines 3 4) = true := by decide
  have asked : (comment.extraction enclosed.span).suppressions =
      [{ target := .category "lint", span := some (.lines 3 4), commentId := 3 }] := by
    decide +kernel
  obtain ⟨_, replacing, directives⟩ := scopes_monotone
  have onNodes := directives enclosing enclosed (.lines 1 9) (.lines 3 4) comment comment below
    rfl rfl contains rfl
  exact ⟨covers,
    (replacing wide narrow covers).2 [narrow] [wide] (.cons (.inr ⟨rfl, rfl⟩) .nil), below,
    asked, fun diagnostics => onNodes.2 diagnostics []⟩

end Cascade
