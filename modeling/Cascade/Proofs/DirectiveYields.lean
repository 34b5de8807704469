import Cascade.Proofs.Listing
import Cascade.Proofs.TrimmedText
import Cascade.Suppression.Extract

/-!
# What directives yield

The text of a directive is a leader and a word, which is the longest run of word
characters and hyphens behind the leader.  The word settles what the directive is; behind
the suppressing word a list in brackets and a reason may follow.  What a comment yields
is read off its text, and a tree whose only comment it is yields just that.
-/

namespace Cascade

namespace Directive

/-! ## Diagnostics about directives -/

/-- The diagnostic about a directive without targets. -/
def lacksTargets (location : Option Span) : Diagnostic :=
  warning missingTarget ("Suppression directive has no category list; use " ++
    "stagewise-ignore[category] or stagewise-ignore[*]") location

/-- The diagnostic about a directive with an unknown word. -/
def unknownWord (found : String) (location : Option Span) : Diagnostic :=
  warning incorrectWord ("Unknown directive `" ++ found ++ "`; did you mean stagewise-ignore?")
    location

/-- The diagnostic about a target that is mentioned again. -/
def mentionedAgain (target : String) (location : Option Span) : Diagnostic :=
  warning duplicateTarget ("Category `" ++ target ++ "` is listed more than once") location

/-! ## The word of a directive -/

/-- The text is the leader, the word, and a rest that does not continue the word. -/
structure Begins (text word rest : List Char) : Prop where
  parts : text = leader.toList ++ word ++ rest
  run : ∀ c ∈ word, Text.isWordOrHyphen c = true
  ends : ∀ c ∈ rest.head?, Text.isWordOrHyphen c = false

/-- Behind the leader there is always a word, which may be empty. -/
theorem exists_begins {text : List Char} (led : leader.toList <+: text) :
    ∃ word rest, Begins text word rest := by
  obtain ⟨behind, rfl⟩ := led
  refine ⟨behind.takeWhile Text.isWordOrHyphen, behind.dropWhile Text.isWordOrHyphen, ?_,
    fun _ member => List.mem_takeWhile_imp member, Text.head?_dropWhile_not behind⟩
  rw [List.append_assoc, List.takeWhile_append_dropWhile]

/-- A text begins with one word only. -/
theorem Begins.unique {text word rest other otherRest : List Char}
    (begins : Begins text word rest) (again : Begins text other otherRest) :
    word = other ∧ rest = otherRest := by
  have same : word ++ rest = other ++ otherRest := by
    have parts := begins.parts.symm.trans again.parts
    rw [List.append_assoc, List.append_assoc] at parts
    exact List.append_cancel_left parts
  have ofWord := Text.takeWhile_run begins.run begins.ends
  have ofOther := Text.takeWhile_run again.run again.ends
  have words : word = other := ofWord.symm.trans ((congrArg _ same).trans ofOther)
  exact ⟨words, List.append_cancel_left (words ▸ same)⟩

theorem isBlank_hyphen : Text.isBlank '-' = false := by decide

theorem isWordOrHyphen_suppressingWord :
    ∀ c ∈ suppressingWord.toList, Text.isWordOrHyphen c = true :=
  Text.isWordOrHyphen_of_ascii (by decide) (by decide)

theorem isWordOrHyphen_bracket : Text.isWordOrHyphen '[' = false := by
  rw [Text.isWordOrHyphen, Text.isWord_of_ascii (by decide)]
  decide

/-- A text with a list behind the suppressing word begins with that word. -/
theorem begins_list (inside : List Char) :
    Begins ("stagewise-ignore[".toList ++ inside) suppressingWord.toList ('[' :: inside) where
  parts := rfl
  run := isWordOrHyphen_suppressingWord
  ends := by simp [isWordOrHyphen_bracket]

variable {text : String} {word rest : List Char}

theorem ofText_of_not_led (notLed : ¬ leader.toList <+: Text.trim text.toList) :
    ofText text = ordinary := by
  rw [ofText, Text.behind?, if_neg fun led => notLed (List.isPrefixOf_iff_prefix.mp led)]

/-- The word settles what a directive is. -/
theorem Begins.ofText (begins : Begins (Text.trim text.toList) word rest) :
    ofText text =
      if word = [] then ordinary
      else if word = suppressingWord.toList then ofRemainder rest
      else misspelt (leader ++ String.ofList word) := by
  have led : leader.toList.isPrefixOf (leader.toList ++ (word ++ rest)) = true := by simp
  rw [Directive.ofText, begins.parts, List.append_assoc, Text.behind?, if_pos led,
    List.drop_left]
  simp only [Text.takeWhile_run begins.run begins.ends, List.drop_left, List.isEmpty_iff]

/-! ## Behind the suppressing word -/

/-- A list in brackets ends at the first closing bracket. -/
theorem ofRemainder_list {list behind : List Char} (without : ']' ∉ list) :
    ofRemainder ('[' :: (list ++ ']' :: behind)) =
      ((reason? behind).map fun reason =>
        if (targetsOf list).isEmpty then untargeted
        else targeted (targetsOf list) reason).getD untargeted := by
  simp only [ofRemainder, Text.takeWhile_until without, Text.dropWhile_until without]
  cases reason? behind with
  | none => rfl
  | some reason => cases targetsOf list <;> rfl

/-- Without a list in brackets no targets are read. -/
theorem ofRemainder_of_not_list {remainder : List Char}
    (notList : ¬ ∃ list behind, remainder = '[' :: (list ++ ']' :: behind) ∧ ']' ∉ list) :
    ofRemainder remainder = untargeted := by
  unfold ofRemainder
  split
  next inside =>
    split
    next closing behind closed =>
      obtain ⟨list, rfl, without⟩ := Text.exists_until closed
      exact absurd ⟨list, behind, rfl, without⟩ notList
    next => rfl
  next => rfl

/-- Behind the suppressing word a directive has either no targets or all that a list in
brackets names, with the reason behind it. -/
theorem ofRemainder_cases (remainder : List Char) :
    ofRemainder remainder = untargeted ∨
      ∃ list behind reason, remainder = '[' :: (list ++ ']' :: behind) ∧ ']' ∉ list ∧
        targetsOf list ≠ [] ∧ ofRemainder remainder = targeted (targetsOf list) reason := by
  by_cases bracketed : ∃ list behind, remainder = '[' :: (list ++ ']' :: behind) ∧ ']' ∉ list
  · obtain ⟨list, behind, rfl, without⟩ := bracketed
    rw [ofRemainder_list without]
    cases reason? behind with
    | none => exact .inl rfl
    | some reason =>
        rw [Option.map_some, Option.getD_some]
        by_cases named : targetsOf list = []
        · rw [named]
          exact .inl rfl
        · rw [if_neg (by simpa using named)]
          exact .inr ⟨list, behind, reason, rfl, without, named, rfl⟩
  · exact .inl (ofRemainder_of_not_list bracketed)

/-- The targets of a directive come from a list in brackets behind the suppressing word. -/
theorem exists_list_of_targeted {text : String} {targets : List String} {reason : Option String}
    (reads : ofText text = targeted targets reason) :
    ∃ list behind, Text.trim text.toList = "stagewise-ignore[".toList ++ (list ++ ']' :: behind) ∧
      ']' ∉ list ∧ targets = targetsOf list := by
  by_cases led : leader.toList <+: Text.trim text.toList
  · obtain ⟨word, rest, begins⟩ := exists_begins led
    rw [begins.ofText] at reads
    split at reads
    next => exact nomatch reads
    next =>
      split at reads
      next isIgnore =>
        rcases ofRemainder_cases rest with lacking | ⟨list, behind, _, rfl, without, _, listed⟩
        · exact nomatch lacking.symm.trans reads
        · obtain ⟨rfl, _⟩ := targeted.inj (listed.symm.trans reads)
          refine ⟨list, behind, ?_, without, rfl⟩
          rw [begins.parts, isIgnore]
          rfl
      next => exact nomatch reads
  · rw [ofText_of_not_led led] at reads
    exact nomatch reads

/-- A list names as many targets as it has entries that are not blank. -/
theorem length_targetsOf (list : List Char) :
    (targetsOf list).length =
      (Text.split ',' list).countP fun entry => entry.any fun c => !Text.isBlank c := by
  have filled : ∀ entry ∈ Text.split ',' list,
      (!(Text.trim entry).isEmpty) = true ↔ (entry.any fun c => !Text.isBlank c) = true := by
    intro entry _
    by_cases blank : ∀ c ∈ entry, Text.isBlank c = true
    · rw [Text.trim_of_blank blank]
      simpa using blank
    · obtain ⟨front, c, rest, rfl, blankFront, first⟩ := Text.exists_first_of_not_blank blank
      rw [Text.trim_front blankFront first]
      simp [first]
  rw [targetsOf, List.length_map, ← List.countP_eq_length_filter, List.countP_map]
  exact List.countP_congr filled

/-- A list that names a target has an entry that is not blank. -/
theorem exists_entry_of_targetsOf {list : List Char} (named : targetsOf list ≠ []) :
    ∃ entry ∈ Text.split ',' list, ∃ c ∈ entry, Text.isBlank c = false := by
  have filled := List.length_pos_of_ne_nil named
  rw [length_targetsOf, List.countP_pos_iff] at filled
  simpa using filled

/-! ## Contributions of targets -/

/-- The mentions of targets that were listed, or mentioned earlier. -/
def repeats (listed mentions : List String) : List String :=
  (mentions.zipIdx.filter fun mention =>
    (listed ++ mentions.take mention.2).contains mention.1).map Prod.fst

theorem repeats_cons (listed : List String) (target : String) (rest : List String) :
    repeats listed (target :: rest) =
      (if target ∈ listed then [target] else []) ++ repeats (listed ++ [target]) rest := by
  have behind : ((rest.zipIdx.map (Prod.map id (· + 1))).filter fun mention =>
      (listed ++ (target :: rest).take mention.2).contains mention.1).map Prod.fst =
        repeats (listed ++ [target]) rest := by
    rw [List.filter_map, List.map_map, repeats]
    simp [Function.comp_def]
  rw [repeats, List.zipIdx_cons', List.filter_cons]
  by_cases again : target ∈ listed <;> simp [again, ← behind]

/-- Only what was listed matters, not in which order or how often. -/
theorem repeats_congr {listed others : List String}
    (same : ∀ target, target ∈ listed ↔ target ∈ others) (mentions : List String) :
    repeats listed mentions = repeats others mentions := by
  unfold repeats
  simp [same]

variable {scope location : Option Span} {commentId : UInt32} {reason : Option String}

/-- Targets that were not listed are suppressed where they are mentioned first, and all
other mentions are complained about. -/
theorem contributions_eq (listed targets : List String) :
    contributions scope location commentId reason listed targets =
      { suppressions := (targets.filter (· ∉ listed)).eraseDups.map fun target =>
          { target := targetOf target, span := scope, reason, commentId }
        diagnostics := (repeats listed targets).map (mentionedAgain · location) } := by
  induction targets generalizing listed with
  | nil => rfl
  | cons target rest inductionHypothesis =>
      rw [contributions, repeats_cons]
      by_cases again : target ∈ listed
      · have known : ∀ other, other ∈ listed ++ [target] ↔ other ∈ listed := by
          intro other
          simp only [List.mem_append, List.mem_singleton, or_iff_left_iff_imp]
          rintro rfl
          exact again
        rw [if_pos (by simpa using again), if_pos again, inductionHypothesis,
          repeats_congr known, List.filter_cons_of_neg (by simpa using again)]
        rfl
      · have known : ∀ other, other ∈ listed ++ [target] ↔ other ∈ target :: listed := by
          simp [or_comm]
        have remaining : (rest.filter (· ∉ listed)).filter (fun other => !other == target) =
            rest.filter (· ∉ target :: listed) := by
          rw [List.filter_filter]
          refine List.filter_congr fun other _ => ?_
          by_cases here : other = target <;> simp [here]
        rw [if_neg (by simpa using again), if_neg again, inductionHypothesis,
          repeats_congr known, List.filter_cons_of_pos (by simpa using again),
          List.eraseDups_cons, remaining]
        rfl

/-- Every mention of a target is answered once. -/
theorem contributions_length (listed targets : List String) :
    (contributions scope location commentId reason listed targets).suppressions.length +
        (contributions scope location commentId reason listed targets).diagnostics.length =
      targets.length := by
  induction targets generalizing listed with
  | nil => rfl
  | cons target rest inductionHypothesis =>
      unfold contributions
      split
      · have behind := inductionHypothesis listed
        rw [List.length_cons, ← behind]
        exact (Nat.add_assoc ..).symm
      · have behind := inductionHypothesis (target :: listed)
        rw [List.length_cons, ← behind]
        exact Nat.succ_add ..

/-- Targets that are pairwise different yield one suppression each. -/
theorem contributions_of_distinct {listed targets : List String}
    (distinct : targets.Nodup) (fresh : ∀ target ∈ targets, target ∉ listed) :
    contributions scope location commentId reason listed targets =
      { suppressions := targets.map fun target =>
          { target := targetOf target, span := scope, reason, commentId } } := by
  induction targets generalizing listed with
  | nil => rfl
  | cons target rest inductionHypothesis =>
      obtain ⟨notBehind, distinctRest⟩ := List.nodup_cons.mp distinct
      obtain ⟨freshTarget, freshRest⟩ := List.forall_mem_cons.mp fresh
      have freshBehind : ∀ other ∈ rest, other ∉ target :: listed := by
        intro other member again
        rcases List.mem_cons.mp again with rfl | before
        · exact notBehind member
        · exact freshRest other member before
      rw [contributions, if_neg (by simpa using freshTarget),
        inductionHypothesis distinctRest freshBehind]
      rfl

/-- Targets are complained about only for being repeated. -/
theorem contributions_diagnostics (listed targets : List String) :
    ∀ diagnostic ∈ (contributions scope location commentId reason listed targets).diagnostics,
      diagnostic.category = duplicateTarget := by
  rw [contributions_eq]
  intro diagnostic member
  obtain ⟨target, _, rfl⟩ := List.mem_map.mp member
  rfl

/-- The first target is always suppressed. -/
theorem contributions_suppressions {targets : List String} (named : targets ≠ []) :
    (contributions scope location commentId reason [] targets).suppressions ≠ [] := by
  cases targets with
  | nil => exact absurd rfl named
  | cons target rest =>
      rw [contributions, if_neg (by simp)]
      exact List.cons_ne_nil _ _

end Directive

/-! ## Comments -/

namespace Comment

variable {comment : Comment} {nodeSpan : Option Span}

theorem extraction_of_ordinary (reads : Directive.ofText comment.text = .ordinary) :
    comment.extraction nodeSpan = {} := by
  rw [extraction, reads]

theorem extraction_of_misspelt {found : String}
    (reads : Directive.ofText comment.text = .misspelt found) :
    comment.extraction nodeSpan =
      { diagnostics := [Directive.unknownWord found (comment.span.or nodeSpan)] } := by
  rw [extraction, reads]
  rfl

theorem extraction_of_untargeted (reads : Directive.ofText comment.text = .untargeted) :
    comment.extraction nodeSpan =
      { diagnostics := [Directive.lacksTargets (comment.span.or nodeSpan)] } := by
  rw [extraction, reads]
  rfl

theorem extraction_of_targeted {targets : List String} {reason : Option String}
    (reads : Directive.ofText comment.text = .targeted targets reason) :
    comment.extraction nodeSpan =
      Directive.contributions (nodeSpan.or comment.span) (comment.span.or nodeSpan) comment.id
        reason [] targets := by
  rw [extraction, reads]

end Comment

/-! ## Trees with a single comment -/

theorem Extraction.append_empty (extraction : Extraction) : extraction ++ {} = extraction := by
  cases extraction with
  | mk suppressions diagnostics =>
      exact congrArg₂ Extraction.mk (List.append_nil suppressions) (List.append_nil diagnostics)

/-- The comment is the only one of the node, and there are none below it. -/
structure Node.CarriesOnly (node : Node) (comment : Comment) : Prop where
  here : node.comments = [comment]
  below : ∀ other ∈ listingAll node.children, other.comments = []

/-- A tree with a single comment yields what the comment yields. -/
theorem Node.CarriesOnly.extraction {node : Node} {comment : Comment}
    (only : node.CarriesOnly comment) : node.extraction = comment.extraction node.span := by
  have skipped : ∀ (nodes : List Node) (extractor : Extractor),
      (∀ other ∈ nodes, other.comments = []) →
        nodes.foldl Extractor.visitNode extractor = extractor := by
    intro nodes
    induction nodes with
    | nil => exact fun _ _ => rfl
    | cons other rest inductionHypothesis =>
        intro extractor uncommented
        obtain ⟨first, others⟩ := List.forall_mem_cons.mp uncommented
        rw [List.foldl_cons, Extractor.visitNode, first, List.foldl_nil]
        exact inductionHypothesis extractor others
  have taken : Extractor.visitNode {} node =
      ⟨[comment.id], [comment.extraction node.span]⟩ := by
    rw [Extractor.visitNode, only.here]
    rfl
  rw [Node.extraction, ← Array.foldl_toList, toList_preorder, listing_eq, List.foldl_cons, taken,
    skipped _ _ only.below]
  exact Extraction.append_empty _

end Cascade
