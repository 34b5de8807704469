import Cascade.Proofs.DirectiveYields
import Mathlib.Data.List.Nodup

/-!
# Extraction by first mentions

What a tree yields is the concatenation of what its comments yield on their own, where of
comments with the same number only the first one in pre-order counts.  A directive yields
a suppression for every target at its first mention, and a diagnostic for every other
mention.
-/

namespace Cascade

/-! ## First occurrences -/

section

variable {α : Type} (same : α → α → Bool)

theorem eraseDupsBy_sublist (items : List α) : (items.eraseDupsBy same).Sublist items := by
  match items with
  | [] => rw [List.eraseDupsBy_nil]
  | first :: rest =>
      rw [List.eraseDupsBy_cons]
      exact .cons_cons first ((eraseDupsBy_sublist _).trans List.filter_sublist)
termination_by items.length
decreasing_by exact Nat.lt_succ_of_le (List.length_filter_le ..)

/-- No two of the items that are left are the same. -/
theorem pairwise_eraseDupsBy (items : List α) :
    (items.eraseDupsBy same).Pairwise fun first second => same second first = false := by
  match items with
  | [] =>
      rw [List.eraseDupsBy_nil]
      exact .nil
  | first :: rest =>
      rw [List.eraseDupsBy_cons]
      refine .cons (fun second member => ?_) (pairwise_eraseDupsBy _)
      have kept := (eraseDupsBy_sublist same _).subset member
      exact of_decide_eq_true (List.mem_filter.mp kept).2
termination_by items.length
decreasing_by exact Nat.lt_succ_of_le (List.length_filter_le ..)

end

/-! ## Comments -/

theorem Directive.targetOf_injective : Function.Injective targetOf := by
  intro first second equal
  unfold targetOf at equal
  split at equal <;> split at equal
  next wildcard other => rw [wildcard, other]
  next => exact nomatch equal
  next => exact nomatch equal
  next => exact Target.category.inj equal

namespace Comment

/-- What a comment contributes at a node with the given span: for a directive with targets
a suppression of each of them, in the order of their first mentions, and a diagnostic for
every other mention; for a faulty directive its diagnostic; and nothing otherwise. -/
def contribution (nodeSpan : Option Span) (comment : Comment) : Extraction :=
  let location := comment.span.or nodeSpan
  match Directive.ofText comment.text with
  | .ordinary => {}
  | .misspelt found => { diagnostics := [Directive.unknownWord found location] }
  | .untargeted => { diagnostics := [Directive.lacksTargets location] }
  | .targeted targets reason =>
      { suppressions := targets.eraseDups.map fun target =>
          { target := Directive.targetOf target, span := nodeSpan.or comment.span, reason,
            commentId := comment.id }
        diagnostics := (Directive.repeats [] targets).map (Directive.mentionedAgain · location) }

theorem extraction_eq_contribution (nodeSpan : Option Span) (comment : Comment) :
    comment.extraction nodeSpan = comment.contribution nodeSpan := by
  unfold contribution
  cases reads : Directive.ofText comment.text with
  | ordinary => exact extraction_of_ordinary reads
  | misspelt found => exact extraction_of_misspelt reads
  | untargeted => exact extraction_of_untargeted reads
  | targeted targets reason =>
      have unlisted : targets.filter (· ∉ []) = targets :=
        List.filter_eq_self.mpr fun _ _ => by simp
      rw [extraction_of_targeted reads, Directive.contributions_eq, unlisted]

/-- The suppressions of a directive have its number and pairwise different targets. -/
theorem suppressions_contribution (nodeSpan : Option Span) (comment : Comment) :
    (∀ suppression ∈ (comment.contribution nodeSpan).suppressions,
      suppression.commentId = comment.id) ∧
    ((comment.contribution nodeSpan).suppressions.map Suppression.target).Nodup := by
  unfold contribution
  cases Directive.ofText comment.text with
  | ordinary => exact ⟨fun _ absent => (nomatch absent), List.nodup_nil⟩
  | misspelt found => exact ⟨fun _ absent => (nomatch absent), List.nodup_nil⟩
  | untargeted => exact ⟨fun _ absent => (nomatch absent), List.nodup_nil⟩
  | targeted targets reason =>
      constructor
      · intro suppression member
        obtain ⟨target, _, rfl⟩ := List.mem_map.mp member
        rfl
      · have distinct : targets.eraseDups.Nodup := by
          refine (pairwise_eraseDupsBy (· == ·) targets).imp fun different same => ?_
          simp [same] at different
        rw [List.map_map]
        exact List.Nodup.map Directive.targetOf_injective distinct

/-- Every target that a list names is answered once, by a suppression or by a diagnostic. -/
theorem contribution_length {comment : Comment} {targets : List String} {reason : Option String}
    (reads : Directive.ofText comment.text = .targeted targets reason) (nodeSpan : Option Span) :
    (comment.contribution nodeSpan).suppressions.length +
        (comment.contribution nodeSpan).diagnostics.length = targets.length := by
  rw [← extraction_eq_contribution, extraction_of_targeted reads]
  exact Directive.contributions_length [] targets

end Comment

/-! ## Trees -/

namespace Extraction

/-- Extractions one after another. -/
def concat (extractions : List Extraction) : Extraction where
  suppressions := extractions.flatMap suppressions
  diagnostics := extractions.flatMap diagnostics

theorem concat_cons (first : Extraction) (rest : List Extraction) :
    concat (first :: rest) = first ++ concat rest :=
  rfl

end Extraction

/-- A comment at a node that carries it. -/
structure Remark where
  node : Node
  comment : Comment

namespace Remark

/-- Whether the comments of two remarks have the same number. -/
def repeated (remark other : Remark) : Bool :=
  remark.comment.id == other.comment.id

/-- What the comment contributes on its own. -/
def contribution (remark : Remark) : Extraction :=
  remark.comment.contribution remark.node.span

end Remark

namespace Extractor

/-- Takes up the comment of a remark. -/
def visitRemark (extractor : Extractor) (remark : Remark) : Extractor :=
  extractor.visitComment remark.node.span remark.comment

theorem result_eq (extractor : Extractor) :
    extractor.result = .concat extractor.found.reverse := by
  have joined : ∀ (found : List Extraction) (later : List Extraction),
      found.foldl (fun later earlier => earlier ++ later) (.concat later) =
        .concat (found.reverse ++ later) := by
    intro found
    induction found with
    | nil => exact fun _ => rfl
    | cons extraction rest inductionHypothesis =>
        intro later
        rw [List.foldl_cons, ← Extraction.concat_cons, inductionHypothesis, List.reverse_cons,
          List.append_assoc]
        rfl
  have all := joined extractor.found []
  rwa [List.append_nil] at all

/-- Of the remarks whose comments were not taken, the first one of every comment is found. -/
theorem found_visitRemarks (remarks : List Remark) (extractor : Extractor) :
    (remarks.foldl visitRemark extractor).found.reverse =
      extractor.found.reverse ++
        ((remarks.filter (·.comment.id ∉ extractor.seen)).eraseDupsBy Remark.repeated).map
          Remark.contribution := by
  induction remarks generalizing extractor with
  | nil => simp
  | cons remark rest inductionHypothesis =>
      rw [List.foldl_cons, inductionHypothesis, visitRemark, visitComment]
      by_cases taken : remark.comment.id ∈ extractor.seen
      · rw [if_pos (by simpa using taken), List.filter_cons_of_neg (by simpa using taken)]
      · have remaining : (rest.filter (·.comment.id ∉ extractor.seen)).filter
            (fun other => decide (other.repeated remark = false)) =
              rest.filter (·.comment.id ∉ remark.comment.id :: extractor.seen) := by
          rw [List.filter_filter]
          refine List.filter_congr fun other _ => ?_
          by_cases here : other.comment.id = remark.comment.id <;> simp [Remark.repeated, here]
        rw [if_neg (by simpa using taken), List.filter_cons_of_pos (by simpa using taken),
          List.eraseDupsBy_cons, remaining, List.reverse_cons, List.append_assoc,
          Comment.extraction_eq_contribution]
        rfl

end Extractor

namespace Node

/-- The comments of a tree at the nodes that carry them, the nodes in pre-order. -/
def remarks (node : Node) : List Remark :=
  node.listing.flatMap fun carrier => carrier.comments.map (Remark.mk carrier)

/-- The remarks that count: for every comment number the first one. -/
def firstRemarks (node : Node) : List Remark :=
  node.remarks.eraseDupsBy Remark.repeated

theorem extraction_eq_concat (node : Node) :
    node.extraction = .concat (node.firstRemarks.map Remark.contribution) := by
  have visited : node.listing.foldl Extractor.visitNode {} =
      node.remarks.foldl Extractor.visitRemark {} := by
    rw [remarks, List.foldl_flatMap]
    refine List.foldl_ext _ _ _ fun extractor carrier _ => ?_
    rw [List.foldl_map]
    rfl
  have unseen : node.remarks.filter (·.comment.id ∉ ({} : Extractor).seen) = node.remarks :=
    List.filter_eq_self.mpr fun _ _ => by simp
  rw [extraction, ← Array.foldl_toList, toList_preorder, visited, Extractor.result_eq,
    Extractor.found_visitRemarks, unseen]
  rfl

/-- Two suppressions differ in their comment or in their target. -/
theorem nodup_suppressions (node : Node) :
    (node.extraction.suppressions.map fun suppression =>
      (suppression.commentId, suppression.target)).Nodup := by
  rw [extraction_eq_concat, Extraction.concat, List.flatMap_map, List.map_flatMap,
    List.nodup_flatMap]
  constructor
  · intro remark _
    obtain ⟨_, targets⟩ := remark.comment.suppressions_contribution remark.node.span
    apply List.Nodup.of_map Prod.snd
    rwa [List.map_map]
  · refine (pairwise_eraseDupsBy Remark.repeated node.remarks).imp ?_
    intro remark other different pair member again
    obtain ⟨suppression, yielded, rfl⟩ := List.mem_map.mp member
    obtain ⟨another, yieldedAgain, same⟩ := List.mem_map.mp again
    obtain ⟨ids, _⟩ := remark.comment.suppressions_contribution remark.node.span
    obtain ⟨otherIds, _⟩ := other.comment.suppressions_contribution other.node.span
    have numbers : other.comment.id = remark.comment.id := by
      rw [← ids suppression yielded, ← otherIds another yieldedAgain]
      exact congrArg Prod.fst same
    rw [Remark.repeated, numbers, beq_self_eq_true] at different
    exact nomatch different

/-- What a tree yields depends on the spans and the comments of its nodes in pre-order. -/
theorem extraction_congr {node other : Node}
    (same : other.listing.map (fun carrier => (carrier.span, carrier.comments)) =
      node.listing.map fun carrier => (carrier.span, carrier.comments)) :
    other.extraction = node.extraction := by
  have bySpans : ∀ tree : Node, tree.listing.foldl Extractor.visitNode {} =
      (tree.listing.map fun carrier => (carrier.span, carrier.comments)).foldl
        (fun extractor carried => carried.2.foldl (Extractor.visitComment carried.1) extractor)
        {} := by
    intro tree
    rw [List.foldl_map]
    rfl
  simp only [extraction, ← Array.foldl_toList, toList_preorder, bySpans, same]

/-- What a tree yields is the concatenation of what the first remark of every comment
contributes, in pre-order.  A directive answers every entry of its list that is not blank
once, no two suppressions have both their comment and their target in common, and of the tree
only the spans and the comments in pre-order matter. -/
theorem extraction_by_remarks (node : Node) :
    node.extraction = .concat (node.firstRemarks.map Remark.contribution) ∧
    (∀ remark ∈ node.firstRemarks, ∀ targets reason,
      Directive.ofText remark.comment.text = .targeted targets reason →
        remark.contribution.suppressions.length + remark.contribution.diagnostics.length =
            targets.length ∧
          ∃ list behind, Text.trim remark.comment.text.toList =
              "stagewise-ignore[".toList ++ (list ++ ']' :: behind) ∧ ']' ∉ list ∧
            targets = Directive.targetsOf list ∧
            targets.length = (Text.split ',' list).countP fun entry =>
              entry.any fun c => !Text.isBlank c) ∧
    (node.extraction.suppressions.map fun suppression =>
      (suppression.commentId, suppression.target)).Nodup ∧
    ∀ other : Node,
      (other.listing.map fun carrier => (carrier.span, carrier.comments)) =
        (node.listing.map fun carrier => (carrier.span, carrier.comments)) →
      other.extraction = node.extraction := by
  refine ⟨node.extraction_eq_concat, ?_, node.nodup_suppressions, fun _ => extraction_congr⟩
  intro remark _ targets reason reads
  refine ⟨Comment.contribution_length reads remark.node.span, ?_⟩
  obtain ⟨list, behind, parts, without, rfl⟩ := Directive.exists_list_of_targeted reads
  exact ⟨list, behind, parts, without, rfl, Directive.length_targetsOf list⟩

end Node

end Cascade
