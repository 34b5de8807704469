import Cascade.Proofs.Reports
import Cascade.Proofs.StageRun

/-!
# The courses of stages

The course of a stage is the tree that came in, what the handlers reported, call by
call, and the tree that was left.  An outcome is made of the course of its stage and
of the outcome before: diagnostics come behind those that there were, and
dependencies are added unless they are there.
-/

namespace Cascade

/-! ## Lists without repetition -/

theorem addNew_of_mem {items : List String} {item : String} (member : item ∈ items) :
    addNew items item = items :=
  if_pos (List.contains_iff_mem.mpr member)

theorem addNew_of_notMem {items : List String} {item : String} (absent : item ∉ items) :
    addNew items item = items ++ [item] := by
  rw [addNew, if_neg]
  simpa using absent

theorem mem_addNew {items : List String} {item other : String} :
    other ∈ addNew items item ↔ other ∈ items ∨ other = item := by
  by_cases member : item ∈ items
  · rw [addNew_of_mem member]
    constructor
    · exact .inl
    · rintro (before | rfl)
      · exact before
      · exact member
  · rw [addNew_of_notMem member, List.mem_append, List.mem_singleton]

theorem mem_foldl_addNew {added items : List String} {other : String} :
    other ∈ added.foldl addNew items ↔ other ∈ items ∨ other ∈ added := by
  induction added generalizing items with
  | nil => simp
  | cons item rest inductionHypothesis =>
      rw [List.foldl_cons, inductionHypothesis, mem_addNew, List.mem_cons, or_assoc]

theorem nodup_addNew {items : List String} (nodup : items.Nodup) (item : String) :
    (addNew items item).Nodup := by
  by_cases member : item ∈ items
  · rwa [addNew_of_mem member]
  · rw [addNew_of_notMem member, List.nodup_append]
    refine ⟨nodup, by simp, ?_⟩
    rintro other before _ last rfl
    exact member (List.mem_singleton.mp last ▸ before)

theorem nodup_foldl_addNew {items : List String} (nodup : items.Nodup) (added : List String) :
    (added.foldl addNew items).Nodup := by
  induction added generalizing items with
  | nil => exact nodup
  | cons item rest inductionHypothesis => exact inductionHypothesis (nodup_addNew nodup item)

/-- Items that were made free of repetitions first are added like the items
themselves. -/
theorem foldl_addNew_foldl_addNew (added seen items : List String) :
    (added.foldl addNew seen).foldl addNew items =
      added.foldl addNew (seen.foldl addNew items) := by
  induction added generalizing seen with
  | nil => rfl
  | cons item rest inductionHypothesis =>
      rw [List.foldl_cons, inductionHypothesis, List.foldl_cons]
      congr 1
      by_cases member : item ∈ seen
      · have behind : item ∈ seen.foldl addNew items := mem_foldl_addNew.mpr (.inr member)
        rw [addNew_of_mem member, addNew_of_mem behind]
      · rw [addNew_of_notMem member, List.foldl_append]
        rfl

theorem removeAll_append_singleton (added items : List String) (item : String) :
    added.removeAll (items ++ [item]) =
      (added.removeAll items).filter fun other => !other == item := by
  unfold List.removeAll
  rw [List.filter_filter]
  apply List.filter_congr
  intro other _
  by_cases same : other = item <;> simp [same]

/-- Adding items one by one adds each of them once, apart from those that were there
before. -/
theorem foldl_addNew (added items : List String) :
    added.foldl addNew items = items ++ (added.removeAll items).eraseDups := by
  induction added generalizing items with
  | nil => simp [List.removeAll]
  | cons item rest inductionHypothesis =>
      rw [List.foldl_cons, inductionHypothesis]
      by_cases member : item ∈ items
      · rw [addNew_of_mem member]
        simp [List.removeAll, member]
      · have remaining : (item :: rest).removeAll items = item :: rest.removeAll items := by
          simp [List.removeAll, member]
        rw [addNew_of_notMem member, remaining, List.eraseDups_cons, removeAll_append_singleton,
          List.append_assoc]
        rfl

theorem foldl_addNew_nil (added : List String) : added.foldl addNew [] = added.eraseDups := by
  have untouched : added.removeAll [] = added := by simp [List.removeAll]
  rw [foldl_addNew, untouched]
  rfl

/-! ## Origins of what is wrong with directives -/

namespace Extraction

/-- Every diagnostic has an origin. -/
def Attributed (extraction : Extraction) : Prop :=
  ∀ diagnostic ∈ extraction.diagnostics, diagnostic.origin.isSome = true

theorem Attributed.append {first second : Extraction} (ofFirst : first.Attributed)
    (ofSecond : second.Attributed) : (first ++ second).Attributed := by
  intro diagnostic member
  rcases List.mem_append.mp member with inFirst | inSecond
  · exact ofFirst diagnostic inFirst
  · exact ofSecond diagnostic inSecond

theorem attributed_of_quiet {extraction : Extraction} (quiet : extraction.diagnostics = []) :
    extraction.Attributed := by
  intro diagnostic member
  rw [quiet] at member
  exact nomatch member

theorem attributed_warning (category message : String) (location : Option Span) :
    Attributed { diagnostics := [Directive.warning category message location] } := by
  intro diagnostic member
  rw [List.mem_singleton.mp member]
  rfl

end Extraction

theorem Directive.attributed_contributions (scope location : Option Span) (commentId : UInt32)
    (reason : Option String) (listed targets : List String) :
    (contributions scope location commentId reason listed targets).Attributed := by
  induction targets generalizing listed with
  | nil => exact Extraction.attributed_of_quiet rfl
  | cons target rest inductionHypothesis =>
      unfold contributions
      split
      · exact (Extraction.attributed_warning _ _ _).append (inductionHypothesis listed)
      · exact (Extraction.attributed_of_quiet rfl).append (inductionHypothesis (target :: listed))

theorem Comment.attributed_extraction (nodeSpan : Option Span) (comment : Comment) :
    (comment.extraction nodeSpan).Attributed := by
  unfold extraction
  cases Directive.ofText comment.text with
  | ordinary => exact Extraction.attributed_of_quiet rfl
  | misspelt found => exact Extraction.attributed_warning _ _ _
  | untargeted => exact Extraction.attributed_warning _ _ _
  | targeted targets reason => exact Directive.attributed_contributions _ _ _ _ _ _

namespace Extractor

/-- Everything that was found so far has origins. -/
def Attributed (extractor : Extractor) : Prop :=
  ∀ extraction ∈ extractor.found, extraction.Attributed

theorem Attributed.visitNode {extractor : Extractor} (attributed : extractor.Attributed)
    (node : Node) : (extractor.visitNode node).Attributed := by
  unfold Extractor.visitNode
  induction node.comments generalizing extractor with
  | nil => exact attributed
  | cons comment rest inductionHypothesis =>
      apply inductionHypothesis
      unfold visitComment
      split
      · exact attributed
      · intro extraction member
        rcases List.mem_cons.mp member with rfl | before
        · exact comment.attributed_extraction node.span
        · exact attributed extraction before

theorem Attributed.visitNodes {extractor : Extractor} (attributed : extractor.Attributed)
    (nodes : List Node) : (nodes.foldl Extractor.visitNode extractor).Attributed := by
  induction nodes generalizing extractor with
  | nil => exact attributed
  | cons node rest inductionHypothesis => exact inductionHypothesis (attributed.visitNode node)

theorem Attributed.result {extractor : Extractor} (attributed : extractor.Attributed) :
    extractor.result.Attributed := by
  have joined : ∀ later : Extraction, later.Attributed →
      ∀ found : List Extraction, (∀ extraction ∈ found, extraction.Attributed) →
        (found.foldl (fun later earlier => earlier ++ later) later).Attributed := by
    intro later ofLater found
    induction found generalizing later with
    | nil => exact fun _ => ofLater
    | cons extraction rest inductionHypothesis =>
        intro ofFound
        have ofRest := fun other member => ofFound other (List.mem_cons_of_mem extraction member)
        exact inductionHypothesis _ ((ofFound extraction List.mem_cons_self).append ofLater) ofRest
  exact joined {} (Extraction.attributed_of_quiet rfl) extractor.found attributed

end Extractor

/-- Whatever is wrong with directives in a tree has an origin. -/
theorem Node.attributed_extraction (node : Node) : node.extraction.Attributed := by
  have nothing : Extractor.Attributed {} := fun _ member => nomatch member
  rw [extraction, ← Array.foldl_toList]
  exact (nothing.visitNodes node.preorder.toList).result

/-! ## Courses of stages -/

/-- The course of a stage: the tree that came in, what its handlers reported, call
by call, and the tree that it left. -/
structure Course where
  stage : String
  entered : Node
  reports : List Report
  left : Node

namespace Course

/-- The diagnostics of a stage: first what its handlers reported, then what is wrong
with the directives in the tree that came in. -/
def diagnostics (course : Course) : List Diagnostic :=
  course.reports.flatMap (Report.attributed course.stage) ++ course.entered.extraction.diagnostics

/-- The dependencies that the handlers of a stage recorded, with all repetitions. -/
def dependencies (course : Course) : List String :=
  course.reports.flatMap Report.dependencies

theorem attributed_diagnostics (course : Course) :
    ∀ diagnostic ∈ course.diagnostics, diagnostic.origin.isSome = true := by
  intro diagnostic member
  rcases List.mem_append.mp member with reported | extracted
  · obtain ⟨report, _, inReport⟩ := List.mem_flatMap.mp reported
    obtain ⟨own, _, rfl⟩ := List.mem_map.mp inReport
    rfl
  · exact course.entered.attributed_extraction diagnostic extracted

end Course

namespace Pipeline

variable {σ : Type}

/-- The course of the stage at an index on the tree that comes in. -/
def courseAt (pipeline : Pipeline σ) (request : Request) (index : Fin pipeline.registry.size)
    (entered : Node) (state : σ) : Except Failure Course × σ :=
  let stage := (pipeline.registry.stage index).id
  match pipeline.visitorsAt request index state with
  | (.error failure, state) => (.error failure, state)
  | (.ok visitors, state) =>
      match (pipeline.passAt request index visitors).minutes entered state with
      | none => (.error (.unfinished stage), state)
      | some (left, minutes) =>
          if left.isProgram then (.ok ⟨stage, entered, minutes.reports, left⟩, minutes.state)
          else (.error (.invalidRoot stage left.kind), minutes.state)

/-- The tree behind courses that a tree took, one after another. -/
def treeBehind (tree : Node) (courses : List Course) : Node :=
  (courses.getLast?.map Course.left).getD tree

/-- The courses of the first stages, as many as are counted, from the tree of the
request. -/
def courses (pipeline : Pipeline σ) (request : Request) :
    (count : Nat) → count ≤ pipeline.registry.size → σ → Except Failure (List Course) × σ
  | 0, _, state => (.ok [], state)
  | count + 1, inRange, state =>
      match pipeline.courses request count (Nat.le_of_succ_le inRange) state with
      | (.error failure, state) => (.error failure, state)
      | (.ok earlier, state) =>
          match pipeline.courseAt request ⟨count, inRange⟩ (treeBehind request.tree earlier)
              state with
          | (.error failure, state) => (.error failure, state)
          | (.ok course, state) => (.ok (earlier ++ [course]), state)

variable {pipeline : Pipeline σ} {request : Request}

theorem treeBehind_append (tree : Node) (earlier : List Course) (last : Course) :
    treeBehind tree (earlier ++ [last]) = last.left := by
  simp [treeBehind]

theorem courses_succ {count : Nat} {inRange : count < pipeline.registry.size}
    {state between after : σ} {earlier : List Course} {course : Course}
    (before : pipeline.courses request count (Nat.le_of_succ_le inRange) state =
      (.ok earlier, between))
    (next : pipeline.courseAt request ⟨count, inRange⟩ (treeBehind request.tree earlier) between =
      (.ok course, after)) :
    pipeline.courses request (count + 1) inRange state = (.ok (earlier ++ [course]), after) := by
  rw [courses, before]
  simp only [next]

/-- A stage that answers an outcome has a course, which the outcome is made of. -/
theorem course_of_runStage {index : Fin pipeline.registry.size} {material : Material}
    {state after : σ} {outcome : Outcome}
    (ran : pipeline.runStage request index material state = (.ok outcome, after)) :
    ∃ course, pipeline.courseAt request index material.tree state = (.ok course, after) ∧
      course.entered = material.tree ∧
      outcome =
        { tree := course.left
          suppressions := course.entered.extraction.suppressions
          diagnostics := material.diagnostics ++
            (pipeline.openingDiagnostics request index (pipeline.registry.stage index).id ++
              course.diagnostics)
          dependencies := course.dependencies.foldl addNew material.dependencies } := by
  obtain ⟨visitors, made, reduced, ledger, ready, ends, rfl, rfl⟩ := reduced_of_runStage ran
  obtain ⟨minutes, heard, rfl⟩ := Pass.minutes_of_reduce ends
  obtain ⟨_, program⟩ := Pass.traverse_of_reduce ends
  refine ⟨⟨(pipeline.registry.stage index).id, material.tree, minutes.reports, reduced⟩, ?_, rfl,
    ?_⟩
  · unfold courseAt
    simp only [ready, heard, program]
    rfl
  · unfold Material.outcome Minutes.ledger
    simp only [foldl_addNew_foldl_addNew, List.foldl_nil]
    simp [Course.diagnostics, Course.dependencies, passAt]

end Pipeline

end Cascade
