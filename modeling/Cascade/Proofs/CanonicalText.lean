import Cascade.Project.Basic
import Cascade.Proofs.ValueText
import Cascade.Tree.Canonical

/-!
# Canonical texts of headers, options and projects

Everything that is digested is written as JSON objects with fixed fields, and the
text of each determines what it was written for.  Alternatives are written
differently from the first character on: an absent part is `null`, a built-in
kind and a bare transform are strings, a custom kind and a detailed transform are
objects.
-/

namespace Cascade

open Json

namespace Json

/-- The lists are equal if a function is injective on their members and makes them
equal. -/
theorem eq_of_map_eq {α β : Type} {f : α → β} {xs ys : List α}
    (injective : ∀ x ∈ xs, ∀ y ∈ ys, f x = f y → x = y) (same : xs.map f = ys.map f) :
    xs = ys := by
  induction xs generalizing ys with
  | nil => exact (List.map_eq_nil_iff.mp same.symm).symm
  | cons x xs inductionHypothesis =>
      cases ys with
      | nil => exact nomatch same
      | cons y ys =>
          rcases List.cons.inj same with ⟨sameHead, sameTail⟩
          have tails := inductionHypothesis
            (fun one memberOne two memberTwo => injective one (List.mem_cons_of_mem x memberOne) two
              (List.mem_cons_of_mem y memberTwo)) sameTail
          rw [injective x List.mem_cons_self y List.mem_cons_self sameHead, tails]

/-- What is written for parts that may be absent determines them, if it does for
those that are present and tells when one is. -/
theorem eq_of_optional_eq {α : Type} {write : Option α → String}
    (present : ∀ x, write (some x) ≠ write none)
    (injective : ∀ x y, write (some x) = write (some y) → x = y) :
    ∀ first second, write first = write second → first = second
  | none, none, _ => rfl
  | none, some y, same => absurd same.symm (present y)
  | some x, none, same => absurd same (present x)
  | some x, some y, same => congrArg some (injective x y same)

/-- Texts that begin differently are different. -/
theorem ne_of_heads {first second : String} {c d : Char} {rest other : List Char}
    (chars : first.toList = c :: rest) (charsOther : second.toList = d :: other)
    (different : c ≠ d) : first ≠ second := by
  rintro rfl
  rw [chars] at charsOther
  exact different (List.cons.inj charsOther).1

theorem objectText_ne_null (members : List (String × String)) : objectText members ≠ "null" :=
  ne_of_heads (toList_objectText members) rfl (by decide)

theorem stringText_ne_null (text : String) : stringText text ≠ "null" :=
  ne_of_heads (toList_stringText text) rfl (by decide)

theorem stringText_ne_objectText (text : String) (members : List (String × String)) :
    stringText text ≠ objectText members :=
  ne_of_heads (toList_stringText text) (toList_objectText members) (by decide)

theorem written_map {α : Type} {write : α → String} (written : ∀ x, Written (write x))
    (xs : List α) : ∀ text ∈ xs.map write, Written text := by
  intro text member
  rcases List.mem_map.mp member with ⟨x, _, rfl⟩
  exact written x

/-- Objects with the same keys have the same texts only if the texts of their values
are the same. -/
theorem recordText_injective {members others : List (String × String)}
    (same : objectText members = objectText others)
    (written : ∀ text ∈ members.map Prod.snd, Written text)
    (writtenOther : ∀ text ∈ others.map Prod.snd, Written text) :
    members.map Prod.snd = others.map Prod.snd := by
  have equal := objectText_injective
    (fun member memberIn => written _ (List.mem_map_of_mem memberIn))
    (fun member memberIn => writtenOther _ (List.mem_map_of_mem memberIn)) same
  rw [equal]

theorem written_record {members : List (String × String)}
    (written : ∀ text ∈ members.map Prod.snd, Written text) : Written (objectText members) :=
  .object fun _ member => written _ (List.mem_map_of_mem member)

end Json

/-! ## Positions and spans -/

namespace Position

theorem written_fields (position : Position) :
    ∀ text ∈ [natText position.line.toNat, natText position.column.toNat], Written text := by
  simp [written_natText]

theorem written_compact (position : Position) : Written position.compact :=
  written_record (written_fields position)

theorem compact_injective {first second : Position} (same : first.compact = second.compact) :
    first = second := by
  have fields := recordText_injective same (written_fields first) (written_fields second)
  rcases List.cons.inj fields with ⟨line, rest⟩
  rcases List.cons.inj rest with ⟨column, _⟩
  obtain ⟨firstLine, firstColumn⟩ := first
  obtain ⟨secondLine, secondColumn⟩ := second
  cases UInt64.toNat_inj.mp (natText_injective line)
  cases UInt64.toNat_inj.mp (natText_injective column)
  rfl

end Position

namespace Span

theorem written_fields (span : Span) :
    ∀ text ∈ [span.start.compact, span.stop.compact], Written text := by
  simp [Position.written_compact]

theorem written_compact (span : Span) : Written span.compact :=
  written_record (written_fields span)

theorem compact_injective {first second : Span} (same : first.compact = second.compact) :
    first = second := by
  have fields := recordText_injective same (written_fields first) (written_fields second)
  rcases List.cons.inj fields with ⟨start, rest⟩
  rcases List.cons.inj rest with ⟨stop, _⟩
  obtain ⟨firstStart, firstStop⟩ := first
  obtain ⟨secondStart, secondStop⟩ := second
  cases Position.compact_injective start
  cases Position.compact_injective stop
  rfl

theorem written_optionCompact (span : Option Span) : Written (optionCompact span) := by
  cases span with
  | none => exact written_null
  | some span => exact span.written_compact

theorem optionCompact_injective {first second : Option Span}
    (same : optionCompact first = optionCompact second) : first = second :=
  eq_of_optional_eq (fun _ => objectText_ne_null _) (fun _ _ => compact_injective) first second same

end Span

/-! ## Kinds and comments -/

namespace Kind

theorem custom_or_builtin (kind : Kind) : (∃ name, kind = custom name) ∨ kind ∈ builtin := by
  cases kind with
  | custom name => exact .inl ⟨name, rfl⟩
  | _ => exact .inr (by decide)

theorem compact_of_builtin {kind : Kind} (known : kind ∈ builtin) :
    kind.compact = stringText kind.name := by
  cases kind with
  | custom name => simp [builtin] at known
  | _ => rfl

theorem name_injective_of_builtin :
    ∀ first ∈ builtin, ∀ second ∈ builtin, first.name = second.name → first = second := by
  decide +kernel

/-- A custom kind is written differently from every built-in one. -/
theorem compact_custom_ne {kind : Kind} (known : kind ∈ builtin) (name : String) :
    (custom name).compact ≠ kind.compact := by
  intro same
  rw [compact_of_builtin known] at same
  exact stringText_ne_objectText _ _ same.symm

theorem written_compact (kind : Kind) : Written kind.compact := by
  rcases kind.custom_or_builtin with ⟨name, rfl⟩ | known
  · exact written_record (by simp [Written.string])
  · rw [compact_of_builtin known]
    exact .string _

theorem compact_injective {first second : Kind} (same : first.compact = second.compact) :
    first = second := by
  rcases first.custom_or_builtin with ⟨name, rfl⟩ | known
  · rcases second.custom_or_builtin with ⟨other, rfl⟩ | knownOther
    · have fields := recordText_injective same (by simp [Written.string])
        (by simp [Written.string])
      exact congrArg custom (stringText_injective (List.cons.inj fields).1)
    · exact absurd same (compact_custom_ne knownOther name)
  · rcases second.custom_or_builtin with ⟨other, rfl⟩ | knownOther
    · exact absurd same.symm (compact_custom_ne known other)
    · rw [compact_of_builtin known, compact_of_builtin knownOther] at same
      exact name_injective_of_builtin first known second knownOther (stringText_injective same)

end Kind

namespace Comment

theorem written_fields (comment : Comment) : ∀ text ∈ [natText comment.id.toNat,
    stringText comment.text, Span.optionCompact comment.span], Written text := by
  simp [written_natText, Written.string, Span.written_optionCompact]

theorem written_compact (comment : Comment) : Written comment.compact :=
  written_record (written_fields comment)

theorem compact_injective {first second : Comment} (same : first.compact = second.compact) :
    first = second := by
  have fields := recordText_injective same (written_fields first) (written_fields second)
  rcases List.cons.inj fields with ⟨id, rest⟩
  rcases List.cons.inj rest with ⟨text, rest⟩
  rcases List.cons.inj rest with ⟨span, _⟩
  obtain ⟨firstId, firstText, firstSpan⟩ := first
  obtain ⟨secondId, secondText, secondSpan⟩ := second
  cases UInt32.toNat_inj.mp (natText_injective id)
  cases stringText_injective text
  cases Span.optionCompact_injective span
  rfl

end Comment

/-! ## Headers -/

namespace Header

/-- The numbers in the properties of a header. -/
def numbers (header : Header) : List Number :=
  Value.numbersOfDict header.properties

theorem written_fields (header : Header) (children : Nat) : ∀ text ∈ [header.kind.compact,
    Span.optionCompact header.span, (Value.ofDict header.properties).compact,
    arrayText (header.comments.map Comment.compact), natText children], Written text := by
  have comments : Written (arrayText (header.comments.map Comment.compact)) :=
    .array (written_map Comment.written_compact header.comments)
  simp [Kind.written_compact, Span.written_optionCompact, Value.written_compact, comments,
    written_natText]

/-- A header's text determines the header and the number of its children. -/
theorem compact_injective {first second : Header} {children other : Nat}
    (apart : Number.ToldApart first.numbers second.numbers)
    (same : first.compact children = second.compact other) : first = second ∧ children = other := by
  have fields := recordText_injective same (written_fields first children)
    (written_fields second other)
  rcases List.cons.inj fields with ⟨kind, rest⟩
  rcases List.cons.inj rest with ⟨span, rest⟩
  rcases List.cons.inj rest with ⟨properties, rest⟩
  rcases List.cons.inj rest with ⟨comments, rest⟩
  rcases List.cons.inj rest with ⟨count, _⟩
  obtain ⟨firstKind, firstSpan, firstProperties, firstComments⟩ := first
  obtain ⟨secondKind, secondSpan, secondProperties, secondComments⟩ := second
  have written := written_map Comment.written_compact
  have commentTexts := arrayText_injective (written firstComments) (written secondComments) comments
  cases Kind.compact_injective kind
  cases Span.optionCompact_injective span
  cases Value.compact_ofDict_injective apart properties
  cases eq_of_map_eq (fun _ _ _ _ => Comment.compact_injective) commentTexts
  exact ⟨rfl, natText_injective count⟩

end Header

/-! ## Options -/

namespace Options

/-- The numbers in options. -/
def numbers (options : Options) : List Number :=
  Value.numbersOfDict options

theorem written_compact (options : Options) : Written options.compact :=
  Value.written_compact _

theorem compact_injective {first second : Options}
    (apart : Number.ToldApart first.numbers second.numbers)
    (same : first.compact = second.compact) : first = second :=
  Value.compact_ofDict_injective apart same

end Options

/-! ## Projects -/

namespace TransformEntry

/-- The numbers in the options of a configured transform. -/
def numbers (entry : TransformEntry) : List Number :=
  entry.options.numbers

theorem written_compact (entry : TransformEntry) : Written entry.compact := by
  cases entry with
  | bare id => exact .string id
  | detailed id options => exact written_record (by simp [Written.string, options.written_compact])

/-- A bare transform is written differently from every detailed one. -/
theorem compact_bare_ne (bareId id : String) (options : Options) :
    (bare bareId).compact ≠ (detailed id options).compact :=
  stringText_ne_objectText _ _

theorem compact_injective {first second : TransformEntry}
    (apart : Number.ToldApart first.numbers second.numbers)
    (same : first.compact = second.compact) : first = second := by
  cases first with
  | bare id =>
      cases second with
      | bare other => exact congrArg bare (stringText_injective same)
      | detailed other options => exact absurd same (compact_bare_ne id other options)
  | detailed id options =>
      cases second with
      | bare other => exact absurd same.symm (compact_bare_ne other id options)
      | detailed other others =>
          have fields := recordText_injective same
            (by simp [Written.string, options.written_compact])
            (by simp [Written.string, others.written_compact])
          rcases List.cons.inj fields with ⟨sameId, rest⟩
          rcases List.cons.inj rest with ⟨sameOptions, _⟩
          cases stringText_injective sameId
          cases Options.compact_injective apart sameOptions
          rfl

end TransformEntry

namespace Project

/-- The text of a project's name. -/
def nameText : Option String → String
  | none => "null"
  | some name => stringText name

/-- The texts of the transforms of a stage. -/
def listText (list : List TransformEntry) : String :=
  arrayText (list.map TransformEntry.compact)

/-- The text of a table of transforms. -/
def tableText (table : Dict (List TransformEntry)) : String :=
  objectText (table.entries.map fun entry => (entry.1, listText entry.2))

/-- The numbers in the transforms and settings of a project. -/
def numbers (project : Project) : List Number :=
  (project.transforms.entries.flatMap fun entry => entry.2.flatMap TransformEntry.numbers) ++
    Value.numbersOfDict project.settings

theorem written_nameText (name : Option String) : Written (nameText name) := by
  cases name with
  | none => exact written_null
  | some name => exact .string name

theorem nameText_injective {first second : Option String}
    (same : nameText first = nameText second) : first = second :=
  eq_of_optional_eq stringText_ne_null (fun _ _ => stringText_injective) first second same

theorem written_listText (list : List TransformEntry) : Written (listText list) :=
  .array (written_map TransformEntry.written_compact list)

theorem listText_injective {first second : List TransformEntry}
    (apart : Number.ToldApart (first.flatMap TransformEntry.numbers)
      (second.flatMap TransformEntry.numbers))
    (same : listText first = listText second) : first = second := by
  have written := written_map TransformEntry.written_compact
  have texts := arrayText_injective (written first) (written second) same
  exact eq_of_map_eq (fun entry member other memberOther =>
    TransformEntry.compact_injective (apart.of_mem member memberOther)) texts

theorem written_lists (entries : List (String × List TransformEntry)) :
    ∀ member ∈ entries.map fun entry => (entry.1, listText entry.2), Written member.2 := by
  intro member memberIn
  rcases List.mem_map.mp memberIn with ⟨entry, _, rfl⟩
  exact written_listText entry.2

theorem written_tableText (table : Dict (List TransformEntry)) : Written (tableText table) :=
  .object (written_lists table.entries)

theorem tableText_injective {first second : Dict (List TransformEntry)}
    (apart : Number.ToldApart
      (first.entries.flatMap fun entry => entry.2.flatMap TransformEntry.numbers)
      (second.entries.flatMap fun entry => entry.2.flatMap TransformEntry.numbers))
    (same : tableText first = tableText second) : first = second := by
  have texts :=
    objectText_injective (written_lists first.entries) (written_lists second.entries) same
  apply Dict.ext
  apply eq_of_map_eq _ texts
  intro entry member other memberOther sameText
  rcases Prod.mk.inj sameText with ⟨sameStage, sameList⟩
  exact Prod.ext sameStage (listText_injective (apart.of_mem member memberOther) sameList)

theorem written_fields (project : Project) : ∀ text ∈ [nameText project.name,
    tableText project.transforms, (Value.ofDict project.settings).compact], Written text := by
  simp [written_nameText, written_tableText, Value.written_compact]

theorem compact_eq (project : Project) :
    project.compact = objectText [("name", nameText project.name),
      ("transforms", tableText project.transforms),
      ("settings", (Value.ofDict project.settings).compact)] := by
  rw [compact]
  cases project.name <;> rfl

theorem compact_injective {first second : Project}
    (apart : Number.ToldApart first.numbers second.numbers)
    (same : first.compact = second.compact) : first = second := by
  rw [compact_eq, compact_eq] at same
  have fields := recordText_injective same (written_fields first) (written_fields second)
  rcases List.cons.inj fields with ⟨name, rest⟩
  rcases List.cons.inj rest with ⟨transforms, rest⟩
  rcases List.cons.inj rest with ⟨settings, _⟩
  obtain ⟨firstName, firstTransforms, firstSettings⟩ := first
  obtain ⟨secondName, secondTransforms, secondSettings⟩ := second
  cases nameText_injective name
  cases tableText_injective apart.left transforms
  cases Value.compact_ofDict_injective apart.right settings
  rfl

end Project

end Cascade
