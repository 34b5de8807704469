import Cascade.Suppression.Basic
import Mathlib.Data.List.Forall2

/-!
# Flagging diagnostics

Applying suppressions looks at every diagnostic on its own, and sets its flag if it was set
or if a suppression matches.  Neither a match nor the exemption of the diagnostics about
directives depends on the flag, so suppressions can be applied one list after another, in
any order and any number of times.
-/

namespace Cascade

/-! ## Matches -/

/-- The category is the group or lies below it. -/
def InGroup (category group : String) : Prop :=
  category = group ∨ group.toList ++ ['/'] <+: category.toList

theorem Diagnostic.liesIn_iff {diagnostic : Diagnostic} {group : String} :
    diagnostic.liesIn group = true ↔ InGroup diagnostic.category group := by
  rw [liesIn, Bool.or_eq_true, beq_iff_eq, List.isPrefixOf_iff_prefix, InGroup]

/-- The suppression is for a category like that of the diagnostic, or for all of them, and
the diagnostic lies within its span, if it has one. -/
structure Suppression.Matches (suppression : Suppression) (diagnostic : Diagnostic) : Prop where
  category : suppression.target = .wildcard ∨
    ∃ group, suppression.target = .category group ∧ InGroup diagnostic.category group
  place : suppression.span = none ∨
    ∃ span location, suppression.span = some span ∧ diagnostic.location = some location ∧
      span.contains location = true

theorem Target.covers_iff {target : Target} {diagnostic : Diagnostic} :
    target.covers diagnostic = true ↔
      target = .wildcard ∨
        ∃ group, target = .category group ∧ InGroup diagnostic.category group := by
  cases target with
  | wildcard => simp [covers]
  | category name => simp [covers, Diagnostic.liesIn_iff]

theorem Suppression.reaches_iff {suppression : Suppression} {place : Option Span} :
    suppression.reaches place = true ↔
      suppression.span = none ∨
        ∃ span location, suppression.span = some span ∧ place = some location ∧
          span.contains location = true := by
  unfold reaches
  cases suppression.span with
  | none => simp
  | some span => cases place <;> simp

theorem Suppression.silences_iff {suppression : Suppression} {diagnostic : Diagnostic} :
    suppression.silences diagnostic = true ↔ suppression.Matches diagnostic := by
  rw [silences, Bool.and_eq_true, Target.covers_iff, reaches_iff]
  exact ⟨fun both => ⟨both.1, both.2⟩, fun silenced => ⟨silenced.category, silenced.place⟩⟩

/-! ## One diagnostic -/

namespace Diagnostic

variable {diagnostic : Diagnostic} {suppressions more : List Suppression}

theorem isSilencedBy_iff :
    diagnostic.isSilencedBy suppressions = true ↔
      ¬InGroup diagnostic.category directiveGroup ∧
        ∃ suppression ∈ suppressions, suppression.Matches diagnostic := by
  rw [isSilencedBy, Bool.and_eq_true, Bool.not_eq_true', ← Bool.not_eq_true, liesIn_iff,
    List.any_eq_true]
  simp only [Suppression.silences_iff]

theorem isSilencedBy_append :
    diagnostic.isSilencedBy (suppressions ++ more) =
      (diagnostic.isSilencedBy suppressions || diagnostic.isSilencedBy more) := by
  rw [isSilencedBy, List.any_append, Bool.and_or_distrib_left]
  rfl

theorem isSilencedBy_mono (listed : suppressions ⊆ more)
    (silenced : diagnostic.isSilencedBy suppressions = true) :
    diagnostic.isSilencedBy more = true := by
  rw [isSilencedBy_iff] at silenced ⊢
  obtain ⟨other, suppression, member, silencing⟩ := silenced
  exact ⟨other, suppression, listed member, silencing⟩

/-- The flag is set if it was, or if some suppression silences the diagnostic. -/
theorem flagSuppressed_eq (suppressions : List Suppression) (diagnostic : Diagnostic) :
    diagnostic.flagSuppressed suppressions =
      { diagnostic with
        suppressed := diagnostic.suppressed || diagnostic.isSilencedBy suppressions } := by
  unfold flagSuppressed
  cases diagnostic.isSilencedBy suppressions with
  | true => simp
  | false => simp

/-- The flag plays no part in what silences a diagnostic. -/
theorem isSilencedBy_flagSuppressed :
    (diagnostic.flagSuppressed suppressions).isSilencedBy more = diagnostic.isSilencedBy more := by
  rw [flagSuppressed_eq]
  rfl

theorem flagSuppressed_flagSuppressed :
    (diagnostic.flagSuppressed suppressions).flagSuppressed more =
      diagnostic.flagSuppressed (suppressions ++ more) := by
  rw [flagSuppressed_eq more, isSilencedBy_flagSuppressed, flagSuppressed_eq suppressions,
    flagSuppressed_eq (suppressions ++ more), isSilencedBy_append, Bool.or_assoc]

theorem flagSuppressed_congr
    (same : ∀ suppression, suppression ∈ more ↔ suppression ∈ suppressions) :
    diagnostic.flagSuppressed more = diagnostic.flagSuppressed suppressions := by
  have silenced : diagnostic.isSilencedBy more = diagnostic.isSilencedBy suppressions :=
    Bool.eq_iff_iff.mpr ⟨isSilencedBy_mono fun _ member => (same _).mp member,
      isSilencedBy_mono fun _ member => (same _).mpr member⟩
  rw [flagSuppressed_eq, flagSuppressed_eq, silenced]

/-- The second diagnostic is the first one, or has its flag set where the first one has
not. -/
structure FlagsGrow (first second : Diagnostic) : Prop where
  same : second = { first with suppressed := second.suppressed }
  kept : first.suppressed = true → second.suppressed = true

/-- The second diagnostic is the first one, with the flag set if it was set or if some
suppression matches; diagnostics about directives are exempt. -/
structure FlaggedBy (suppressions : List Suppression) (before after : Diagnostic) : Prop
    extends FlagsGrow before after where
  flagged : after.suppressed = true ↔
    before.suppressed = true ∨
      ¬InGroup before.category "suppressions" ∧
        ∃ suppression ∈ suppressions, suppression.Matches before

theorem flaggedBy_flagSuppressed (suppressions : List Suppression) (diagnostic : Diagnostic) :
    FlaggedBy suppressions diagnostic (diagnostic.flagSuppressed suppressions) := by
  have flagged : (diagnostic.flagSuppressed suppressions).suppressed = true ↔
      diagnostic.suppressed = true ∨ diagnostic.isSilencedBy suppressions = true := by
    rw [flagSuppressed_eq, Bool.or_eq_true]
  refine ⟨⟨?_, fun before => flagged.mpr (.inl before)⟩, ?_⟩
  · rw [flagSuppressed_eq]
  · rw [flagged, isSilencedBy_iff]
    rfl

/-- What silences more diagnostics flags more of them. -/
theorem flagsGrow_of_silenced
    (silenced : diagnostic.isSilencedBy suppressions = true → diagnostic.isSilencedBy more = true) :
    FlagsGrow (diagnostic.flagSuppressed suppressions) (diagnostic.flagSuppressed more) := by
  rw [flagSuppressed_eq, flagSuppressed_eq]
  refine ⟨rfl, fun flagged => ?_⟩
  rcases Bool.or_eq_true_iff.mp flagged with before | now
  · exact Bool.or_eq_true_iff.mpr (.inl before)
  · exact Bool.or_eq_true_iff.mpr (.inr (silenced now))

end Diagnostic

/-! ## Lists of diagnostics -/

variable {diagnostics : List Diagnostic} {suppressions more : List Suppression}

theorem flagSuppressed_append :
    flagSuppressed (flagSuppressed diagnostics suppressions) more =
      flagSuppressed diagnostics (suppressions ++ more) := by
  rw [flagSuppressed, flagSuppressed, flagSuppressed, List.map_map]
  exact List.map_congr_left fun _ _ => Diagnostic.flagSuppressed_flagSuppressed

theorem flagSuppressed_of_same_members
    (same : ∀ suppression, suppression ∈ more ↔ suppression ∈ suppressions) :
    flagSuppressed diagnostics more = flagSuppressed diagnostics suppressions :=
  List.map_congr_left fun _ _ => Diagnostic.flagSuppressed_congr same

/-- Suppressions that silence whatever others do flag at least as many diagnostics. -/
theorem flagsGrow_of_silenced
    (silenced : ∀ diagnostic : Diagnostic, diagnostic.isSilencedBy suppressions = true →
      diagnostic.isSilencedBy more = true) :
    List.Forall₂ Diagnostic.FlagsGrow (flagSuppressed diagnostics suppressions)
      (flagSuppressed diagnostics more) := by
  rw [flagSuppressed, flagSuppressed, List.forall₂_map_left_iff, List.forall₂_map_right_iff,
    List.forall₂_same]
  exact fun diagnostic _ => Diagnostic.flagsGrow_of_silenced (silenced diagnostic)

/-- Applying suppressions keeps the diagnostics and their order, and sets the flags of those
that some suppression matches, unless they are about directives.  Two lists may be applied
one after the other or at once, only the members of a list matter, so that neither the
order of suppressions nor their repetition does, and more suppressions flag no less. -/
theorem flagSuppressed_laws (diagnostics : List Diagnostic) (suppressions : List Suppression) :
    List.Forall₂ (Diagnostic.FlaggedBy suppressions) diagnostics
        (flagSuppressed diagnostics suppressions) ∧
      (∀ more, flagSuppressed (flagSuppressed diagnostics suppressions) more =
        flagSuppressed diagnostics (suppressions ++ more)) ∧
      (∀ others, (∀ suppression, suppression ∈ others ↔ suppression ∈ suppressions) →
        flagSuppressed diagnostics others = flagSuppressed diagnostics suppressions) ∧
      flagSuppressed (flagSuppressed diagnostics suppressions) suppressions =
        flagSuppressed diagnostics suppressions ∧
      ∀ more, suppressions ⊆ more →
        List.Forall₂ Diagnostic.FlagsGrow (flagSuppressed diagnostics suppressions)
          (flagSuppressed diagnostics more) := by
  refine ⟨?_, fun _ => flagSuppressed_append, fun _ => flagSuppressed_of_same_members, ?_, ?_⟩
  · rw [flagSuppressed, List.forall₂_map_right_iff, List.forall₂_same]
    exact fun diagnostic _ => Diagnostic.flaggedBy_flagSuppressed suppressions diagnostic
  · rw [flagSuppressed_append]
    exact flagSuppressed_of_same_members fun _ => by rw [List.mem_append, or_self]
  · exact fun _ listed => flagsGrow_of_silenced fun _ => Diagnostic.isSilencedBy_mono listed

end Cascade
