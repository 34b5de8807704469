import Cascade.Proofs.DirectiveClasses

/-!
# Well-formed directives

A well-formed directive lists its targets in brackets, with any white space around them,
and gives its reason behind two hyphens.  It yields one suppression for every target if
its reason, once it is trimmed, keeps to one line.  Otherwise the directive is not read:
nothing is suppressed, and the complaint is that it lacks targets.
-/

namespace Cascade

/-- A target as it is listed, with white space around it. -/
structure Mention where
  before : List Char
  name : List Char
  after : List Char
  blankBefore : ∀ c ∈ before, Text.isBlank c = true
  blankAfter : ∀ c ∈ after, Text.isBlank c = true
  given : name ≠ []
  trimmed : Text.trim name = name
  withoutComma : ',' ∉ name
  withoutBracket : ']' ∉ name

namespace Mention

/-- The listed text. -/
def text (mention : Mention) : List Char :=
  mention.before ++ mention.name ++ mention.after

/-- The target that is meant. -/
def target (mention : Mention) : String :=
  String.ofList mention.name

theorem trim_text (mention : Mention) : Text.trim mention.text = mention.name :=
  (Text.trim_padded mention.blankBefore mention.blankAfter).trans mention.trimmed

/-- White space adds no other characters. -/
theorem notMem_text {mention : Mention} {c : Char} (notBlank : Text.isBlank c = false)
    (without : c ∉ mention.name) : c ∉ mention.text := by
  intro member
  rcases List.mem_append.mp member with member | behind
  · rcases List.mem_append.mp member with before | named
    · rw [mention.blankBefore c before] at notBlank
      exact nomatch notBlank
    · exact without named
  · rw [mention.blankAfter c behind] at notBlank
    exact nomatch notBlank

/-- The texts of mentions, separated by commas. -/
def listed (mentions : List Mention) : List Char :=
  List.intercalate [','] (mentions.map text)

theorem bracket_notMem_listed (mentions : List Mention) : ']' ∉ listed mentions := by
  induction mentions with
  | nil => simp [listed]
  | cons mention rest inductionHypothesis =>
      have inFirst : ']' ∉ mention.text := notMem_text (by decide) mention.withoutBracket
      cases rest with
      | nil => simpa [listed, List.intercalate] using inFirst
      | cons next others =>
          have joined : listed (mention :: next :: others) =
              mention.text ++ ',' :: listed (next :: others) := by
            simp [listed, List.intercalate]
          rw [joined]
          simp [inFirst, inductionHypothesis]

/-- The targets of a list are those that are mentioned. -/
theorem targetsOf_listed {mentions : List Mention} (nonempty : mentions ≠ []) :
    Directive.targetsOf (listed mentions) = mentions.map target := by
  have commas : ∀ part ∈ mentions.map text, ',' ∉ part := by
    intro part member
    obtain ⟨mention, _, rfl⟩ := List.mem_map.mp member
    exact notMem_text (by decide) mention.withoutComma
  have split : Text.split ',' (listed mentions) = mentions.map text :=
    Text.split_intercalate (mt List.map_eq_nil_iff.mp nonempty) commas
  have names : (mentions.map text).map Text.trim = mentions.map name := by
    rw [List.map_map]
    exact List.map_congr_left fun mention _ => mention.trim_text
  have kept : (mentions.map name).filter (fun part => !part.isEmpty) = mentions.map name := by
    refine List.filter_eq_self.mpr fun part member => ?_
    obtain ⟨mention, _, rfl⟩ := List.mem_map.mp member
    simpa using mention.given
  rw [Directive.targetsOf, split, names, kept, List.map_map]
  rfl

end Mention

namespace Directive

/-- The text of a directive with its targets and its reason, and white space around
it. -/
def written (before : List Char) (mentions : List Mention) (reason after : List Char) :
    List Char :=
  before ++ ("stagewise-ignore[".toList ++ Mention.listed mentions ++ "] -- ".toList ++ reason) ++
    after

/-- The reason that is given by a text; a blank text gives none. -/
def given (reason : List Char) : Option String :=
  if Text.trim reason = [] then none else some (String.ofList (Text.trim reason))

/-- Behind the two hyphens nothing but the reason is read. -/
theorem reasonText_hyphens (reason : List Char) :
    reasonText (" --".toList ++ (' ' :: reason).rdropWhile Text.isBlank) = Text.trim reason := by
  have hyphens : (" --".toList ++ (' ' :: reason).rdropWhile Text.isBlank).dropWhile Text.isBlank =
      '-' :: '-' :: (' ' :: reason).rdropWhile Text.isBlank :=
    rfl
  have padded : Text.trim ([' '] ++ reason ++ []) = Text.trim reason :=
    Text.trim_padded (List.all_eq_true.mp (by decide)) fun _ none => nomatch none
  simp only [reasonText, hyphens]
  rw [Text.dropWhile_rdropWhile, ← padded, List.append_nil]
  rfl

/-- Of the white space around a directive nothing is left. -/
theorem trim_written {before after : List Char} (mentions : List Mention) (reason : List Char)
    (blankBefore : ∀ c ∈ before, Text.isBlank c = true)
    (blankAfter : ∀ c ∈ after, Text.isBlank c = true) :
    Text.trim (written before mentions reason after) =
      "stagewise-ignore[".toList ++ (Mention.listed mentions ++
        ']' :: (" --".toList ++ (' ' :: reason).rdropWhile Text.isBlank)) := by
  have parts : "stagewise-ignore[".toList ++ Mention.listed mentions ++ "] -- ".toList ++ reason =
      's' :: ("tagewise-ignore[".toList ++ Mention.listed mentions ++ "] -".toList ++
        '-' :: (' ' :: reason)) := by
    simp
  have front := @Text.trim_front [] ("tagewise-ignore[".toList ++ Mention.listed mentions ++
    "] -".toList ++ '-' :: (' ' :: reason)) 's' (fun _ none => nomatch none) (by decide)
  rw [List.nil_append, Text.rdropWhile_append_of_last isBlank_hyphen] at front
  rw [written, Text.trim_padded blankBefore blankAfter, parts, front]
  simp

/-- A well-formed directive names its targets and its reason, unless the reason breaks the
line. -/
theorem ofText_written {text : String} {before reason after : List Char}
    {mentions : List Mention} (nonempty : mentions ≠ [])
    (blankBefore : ∀ c ∈ before, Text.isBlank c = true)
    (blankAfter : ∀ c ∈ after, Text.isBlank c = true)
    (isWritten : text.toList = written before mentions reason after) :
    ofText text =
      if '\n' ∈ Text.trim reason then untargeted
      else targeted (mentions.map Mention.target) (given reason) := by
  have begins := begins_list (Mention.listed mentions ++
    ']' :: (" --".toList ++ (' ' :: reason).rdropWhile Text.isBlank))
  rw [← trim_written mentions reason blankBefore blankAfter, ← isWritten] at begins
  rw [begins.ofText, if_neg (by decide), if_pos rfl,
    ofRemainder_list (Mention.bracket_notMem_listed mentions), Mention.targetsOf_listed nonempty,
    reason?, reasonText_hyphens, Text.trim_trim]
  by_cases broken : '\n' ∈ Text.trim reason
  · rw [if_pos (by simpa using broken), if_pos broken, Option.map_none, Option.getD_none]
  · rw [if_neg (by simpa using broken), if_neg broken, given, Option.map_some, Option.getD_some,
      if_neg (by simpa using nonempty)]
    simp only [List.isEmpty_iff]

end Directive

namespace Node.CarriesOnly

variable {node : Node} {comment : Comment} {before reason after : List Char}
  {mentions : List Mention}

/-- A well-formed directive with different targets is honoured if its reason keeps to one
line: every target is suppressed, in order and for the reason, and nothing is complained
about. -/
theorem honoured (only : node.CarriesOnly comment) (nonempty : mentions ≠ [])
    (distinct : (mentions.map Mention.target).Nodup)
    (blankBefore : ∀ c ∈ before, Text.isBlank c = true)
    (blankAfter : ∀ c ∈ after, Text.isBlank c = true)
    (isWritten : comment.text.toList = Directive.written before mentions reason after)
    (line : '\n' ∉ Text.trim reason) :
    node.extraction =
      { suppressions := mentions.map fun mention =>
          { target := Directive.targetOf mention.target, span := node.span.or comment.span,
            reason := Directive.given reason, commentId := comment.id } } := by
  have reads := Directive.ofText_written nonempty blankBefore blankAfter isWritten
  rw [if_neg line] at reads
  have fresh : ∀ target ∈ mentions.map Mention.target, target ∉ ([] : List String) :=
    fun _ _ listed => nomatch listed
  rw [only.extraction, Comment.extraction_of_targeted reads,
    Directive.contributions_of_distinct distinct fresh, List.map_map, Function.comp_def]

/-- A well-formed directive whose reason breaks the line is taken for one without
targets. -/
theorem misread (only : node.CarriesOnly comment) (nonempty : mentions ≠ [])
    (blankBefore : ∀ c ∈ before, Text.isBlank c = true)
    (blankAfter : ∀ c ∈ after, Text.isBlank c = true)
    (isWritten : comment.text.toList = Directive.written before mentions reason after)
    (broken : '\n' ∈ Text.trim reason) :
    node.extraction =
      { diagnostics := [Directive.lacksTargets (comment.span.or node.span)] } := by
  have reads := Directive.ofText_written nonempty blankBefore blankAfter isWritten
  rw [if_pos broken] at reads
  rw [only.extraction, Comment.extraction_of_untargeted reads]

end Node.CarriesOnly

/-- The target `lint`. -/
def lintMention : Mention where
  before := []
  name := "lint".toList
  after := []
  blankBefore := List.all_eq_true.mp (by decide)
  blankAfter := List.all_eq_true.mp (by decide)
  given := by decide
  trimmed := by decide
  withoutComma := by decide
  withoutBracket := by decide

/-- All targets, with white space around. -/
def starMention : Mention where
  before := [' ']
  name := ['*']
  after := [' ', '\n']
  blankBefore := List.all_eq_true.mp (by decide)
  blankAfter := List.all_eq_true.mp (by decide)
  given := by decide
  trimmed := by decide
  withoutComma := by decide
  withoutBracket := by decide

theorem honoured_lint_star :
    (remarked "\tstagewise-ignore[lint, * \n] --  [a]--b \n").extraction =
      { suppressions :=
          [{ target := .category "lint", reason := some "[a]--b", commentId := 1 },
            { target := .wildcard, reason := some "[a]--b", commentId := 1 }] } := by
  have isWritten : "\tstagewise-ignore[lint, * \n] --  [a]--b \n".toList =
      Directive.written ['\t'] [lintMention, starMention] " [a]--b ".toList ['\n'] := by
    decide
  exact (carriesOnly_remarked _).honoured (List.cons_ne_nil lintMention [starMention])
    (by decide) (List.all_eq_true.mp (by decide)) (List.all_eq_true.mp (by decide)) isWritten
    (by decide)

/-- A reason of two lines costs a well-formed directive its target. -/
theorem misread_two_lines :
    "stagewise-ignore[lint] -- first\nsecond".toList =
        Directive.written [] [lintMention] "first\nsecond".toList [] ∧
      (remarked "stagewise-ignore[lint] -- first\nsecond").extraction =
        { diagnostics := [Directive.lacksTargets none] } := by
  have isWritten : "stagewise-ignore[lint] -- first\nsecond".toList =
      Directive.written [] [lintMention] "first\nsecond".toList [] := by
    decide
  have unpadded : ∀ c ∈ ([] : List Char), Text.isBlank c = true := by simp
  refine ⟨isWritten, ?_⟩
  exact (carriesOnly_remarked _).misread (List.cons_ne_nil lintMention []) unpadded unpadded
    isWritten (by decide)

end Cascade
