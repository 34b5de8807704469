import Cascade.Proofs.TrimmedText

/-!
# Patterns of characters

Patterns are what regular expressions are made of: characters of a class, runs of them,
alternatives, sequences and numbered groups.  The ways in which a pattern matches are
listed in the order in which a backtracking search meets them: a run takes as much as it
can before it takes less, and the first of two alternatives comes before the second.  An
expression matches in the first way.
-/

namespace Cascade.Text

/-- A pattern, matched from the front of a text. -/
inductive Pattern where
  | empty
  | one (accepts : Char → Bool)
  | many (accepts : Char → Bool)
  | either (first second : Pattern)
  | seq (first second : Pattern)
  | group (number : Nat) (inner : Pattern)
  | stop

/-- A way to match: what the groups captured, and the text behind the match. -/
structure Way where
  captured : List (Nat × List Char)
  rest : List Char

namespace Way

/-- What a group captured. -/
def get? (way : Way) (number : Nat) : Option (List Char) :=
  way.captured.lookup number

/-- The way behind other captures. -/
def behind (captured : List (Nat × List Char)) (way : Way) : Way :=
  ⟨captured ++ way.captured, way.rest⟩

@[simp]
theorem behind_nil : behind [] = id :=
  rfl

end Way

/-- The part of a text in front of a rest of it. -/
def consumed (text rest : List Char) : List Char :=
  text.take (text.length - rest.length)

@[simp]
theorem consumed_append (front rest : List Char) : consumed (front ++ rest) rest = front := by
  simp [consumed]

theorem consumed_dropWhile (accepts : Char → Bool) (text : List Char) :
    consumed text (text.dropWhile accepts) = text.takeWhile accepts := by
  have parts := consumed_append (text.takeWhile accepts) (text.dropWhile accepts)
  rwa [List.takeWhile_append_dropWhile] at parts

/-- What is left behind runs of accepted characters, the longest run first. -/
def restsBehindRun (accepts : Char → Bool) : List Char → List (List Char)
  | [] => [[]]
  | c :: rest =>
      if accepts c then restsBehindRun accepts rest ++ [c :: rest] else [c :: rest]

namespace Pattern

/-- The ways in which a pattern matches, the preferred ones first. -/
def ways : Pattern → List Char → List Way
  | empty, text => [⟨[], text⟩]
  | one _, [] => []
  | one accepts, c :: rest => if accepts c then [⟨[], rest⟩] else []
  | many accepts, text => (restsBehindRun accepts text).map (Way.mk [])
  | either first second, text => first.ways text ++ second.ways text
  | seq first second, text =>
      (first.ways text).flatMap fun way => (second.ways way.rest).map (Way.behind way.captured)
  | group number inner, text =>
      (inner.ways text).map fun way => way.behind [(number, consumed text way.rest)]
  | stop, text => if text.isEmpty then [⟨[], text⟩] else []

/-- The preferred way to match. -/
def match? (pattern : Pattern) (text : List Char) : Option Way :=
  (pattern.ways text).head?

/-- A pattern that may be left out. -/
def optional (pattern : Pattern) : Pattern :=
  either pattern empty

/-- A character of a class, and as many as follow. -/
def atLeastOne (accepts : Char → Bool) : Pattern :=
  seq (one accepts) (many accepts)

/-- The given characters one after another. -/
def literal : List Char → Pattern
  | [] => empty
  | c :: rest => seq (one (· == c)) (literal rest)

section

variable (accepts : Char → Bool) (first second inner : Pattern) (text : List Char)

@[simp]
theorem ways_one_cons (c : Char) :
    (one accepts).ways (c :: text) = if accepts c then [⟨[], text⟩] else [] :=
  rfl

theorem ways_many : (many accepts).ways text = (restsBehindRun accepts text).map (Way.mk []) :=
  rfl

theorem ways_either : (either first second).ways text = first.ways text ++ second.ways text :=
  rfl

theorem ways_seq : (seq first second).ways text =
    (first.ways text).flatMap fun way => (second.ways way.rest).map (Way.behind way.captured) :=
  rfl

theorem ways_group (number : Nat) : (group number inner).ways text =
    (inner.ways text).map fun way => way.behind [(number, consumed text way.rest)] :=
  rfl

@[simp]
theorem ways_stop : stop.ways text = if text.isEmpty then [⟨[], text⟩] else [] :=
  rfl

theorem ways_optional : (optional inner).ways text = inner.ways text ++ [⟨[], text⟩] :=
  rfl

end

end Pattern

/-! ## Runs -/

section

variable {accepts : Char → Bool} {text rest : List Char}

/-- The preferred run is the longest one. -/
theorem head?_restsBehindRun (accepts : Char → Bool) (text : List Char) :
    (restsBehindRun accepts text).head? = some (text.dropWhile accepts) := by
  induction text with
  | nil => rfl
  | cons c rest inductionHypothesis =>
      rw [restsBehindRun]
      split
      next accepted =>
        rw [List.head?_append, inductionHypothesis, List.dropWhile_cons_of_pos accepted,
          Option.some_or]
      next refused => rw [List.dropWhile_cons_of_neg refused, List.head?_cons]

/-- In front of a rest stand accepted characters only. -/
theorem exists_run_of_mem (member : rest ∈ restsBehindRun accepts text) :
    ∃ run, text = run ++ rest ∧ ∀ c ∈ run, accepts c = true := by
  induction text with
  | nil => exact ⟨[], (List.mem_singleton.mp member).symm, fun _ none => nomatch none⟩
  | cons c behind inductionHypothesis =>
      rw [restsBehindRun] at member
      split at member
      next accepted =>
        rcases List.mem_append.mp member with longer | shortest
        · obtain ⟨run, rfl, all⟩ := inductionHypothesis longer
          exact ⟨c :: run, rfl, List.forall_mem_cons.mpr ⟨accepted, all⟩⟩
        · exact ⟨[], (List.mem_singleton.mp shortest).symm, fun _ none => nomatch none⟩
      next =>
        exact ⟨[], (List.mem_singleton.mp member).symm, fun _ none => nomatch none⟩

/-- Behind every run the same is left when all accepted characters are dropped. -/
theorem dropWhile_of_mem (member : rest ∈ restsBehindRun accepts text) :
    text.dropWhile accepts = rest.dropWhile accepts := by
  obtain ⟨run, rfl, all⟩ := exists_run_of_mem member
  exact List.dropWhile_append_of_pos all

/-- Where a run must not be followed by one of its own characters, only the longest run
counts. -/
theorem flatMap_restsBehindRun {β : Type} {next : List Char → List β}
    (refused : ∀ c rest, accepts c = true → next (c :: rest) = []) (text : List Char) :
    (restsBehindRun accepts text).flatMap next = next (text.dropWhile accepts) := by
  induction text with
  | nil => rw [restsBehindRun, List.flatMap_singleton, List.dropWhile_nil]
  | cons c rest inductionHypothesis =>
      rw [restsBehindRun]
      split
      next accepted =>
        rw [List.flatMap_append, inductionHypothesis, List.flatMap_singleton,
          refused c rest accepted, List.append_nil, List.dropWhile_cons_of_pos accepted]
      next stopped => rw [List.flatMap_singleton, List.dropWhile_cons_of_neg stopped]

end

/-! ## Ways of composed patterns -/

namespace Pattern

/-- A literal matches in one way, or not at all. -/
theorem ways_literal (front text : List Char) :
    (literal front).ways text =
      if front.isPrefixOf text then [⟨[], text.drop front.length⟩] else [] := by
  induction front generalizing text with
  | nil => rfl
  | cons c front inductionHypothesis =>
      cases text with
      | nil => rfl
      | cons first rest =>
          rw [literal, ways_seq, ways_one_cons]
          by_cases same : first = c
          · subst same
            simp [inductionHypothesis]
          · have different : c ≠ first := fun equal => same equal.symm
            simp [same, different]

/-- Behind a literal a sequence goes on with its rest. -/
theorem ways_literal_seq (front behind : List Char) (second : Pattern) :
    (seq (literal front) second).ways (front ++ behind) = second.ways behind := by
  simp [ways_seq, ways_literal]

theorem ways_literal_seq_of_not_prefix {front text : List Char} (notPrefix : ¬ front <+: text)
    (second : Pattern) : (seq (literal front) second).ways text = [] := by
  simp [ways_seq, ways_literal, notPrefix]

/-- Where the preferred way of the first part can be gone on with, a sequence goes on
with it. -/
theorem match?_seq {first second : Pattern} {text : List Char} {way next : Way}
    (begins : first.match? text = some way) (goesOn : second.match? way.rest = some next) :
    (seq first second).match? text = some (next.behind way.captured) := by
  obtain ⟨others, listed⟩ := List.head?_eq_some_iff.mp begins
  obtain ⟨behind, continued⟩ := List.head?_eq_some_iff.mp goesOn
  rw [match?, ways_seq, listed, List.flatMap_cons, continued]
  rfl

/-- A sequence does not match if no way of its first part can be gone on with. -/
theorem ways_seq_eq_nil {first second : Pattern} {text : List Char}
    (stuck : ∀ way ∈ first.ways text, second.ways way.rest = []) :
    (seq first second).ways text = [] := by
  rw [ways_seq, List.flatMap_eq_nil_iff]
  intro way member
  rw [stuck way member, List.map_nil]

theorem mem_ways_seq {first second : Pattern} {text : List Char} {way : Way}
    (member : way ∈ (seq first second).ways text) :
    ∃ begun ∈ first.ways text, ∃ next ∈ second.ways begun.rest, way.rest = next.rest := by
  rw [ways_seq] at member
  obtain ⟨begun, listed, member⟩ := List.mem_flatMap.mp member
  obtain ⟨next, goesOn, rfl⟩ := List.mem_map.mp member
  exact ⟨begun, listed, next, goesOn, rfl⟩

theorem match?_many (accepts : Char → Bool) (text : List Char) :
    (many accepts).match? text = some ⟨[], text.dropWhile accepts⟩ := by
  rw [match?, ways_many, List.head?_map, head?_restsBehindRun, Option.map_some]

theorem mem_ways_many {accepts : Char → Bool} {text : List Char} {way : Way}
    (member : way ∈ (many accepts).ways text) : way.rest ∈ restsBehindRun accepts text := by
  rw [ways_many] at member
  obtain ⟨rest, listed, rfl⟩ := List.mem_map.mp member
  exact listed

theorem match?_group {inner : Pattern} {text : List Char} {way : Way} (number : Nat)
    (begins : inner.match? text = some way) :
    (group number inner).match? text =
      some (way.behind [(number, consumed text way.rest)]) := by
  rw [match?, ways_group, List.head?_map, ← match?, begins, Option.map_some]

theorem match?_optional {inner : Pattern} {text : List Char} {way : Way}
    (begins : inner.match? text = some way) : (optional inner).match? text = some way := by
  rw [match?, ways_optional, List.head?_append, ← match?, begins, Option.some_or]

/-- A group that is a run takes the longest run, where what follows must not be one of its
own characters. -/
theorem ways_group_many_seq {accepts : Char → Bool} {second : Pattern}
    (refused : ∀ c rest, accepts c = true → second.ways (c :: rest) = []) (number : Nat)
    (text : List Char) :
    (seq (group number (many accepts)) second).ways text =
      (second.ways (text.dropWhile accepts)).map
        (Way.behind [(number, text.takeWhile accepts)]) := by
  simp only [ways_seq, ways_group, ways_many, List.map_map, List.flatMap_map]
  rw [← consumed_dropWhile]
  refine (flatMap_restsBehindRun (fun c rest accepted => ?_) text).trans ?_
  · simp [Way.behind, refused c rest accepted]
  · rfl

end Pattern

end Cascade.Text
