import Cascade.Json.Document.Scanner
import Cascade.Json.Printer

/-!
# Unique reading of JSON text

Compact JSON text is read from left to right in one way only.  Inside of a string
every escape tells where it ends; outside of strings a run of characters goes on
to the next mark.  So of two written values, each with something behind it that
may follow a value, equal texts mean equal values and equal rests.
-/

namespace Cascade.Json

/-! ## Strings -/

/-- The character that an escape stands for, behind its backslash, and what
follows. -/
def readEscape : List Char → Option (Char × List Char)
  | 'u' :: '0' :: '0' :: high :: low :: rest => do
      let high ← Text.hexDigit? high
      let low ← Text.hexDigit? low
      return (Char.ofNat (high * 16 + low), rest)
  | letter :: rest => (Scanner.simpleEscape? letter).map fun c => (c, rest)
  | [] => none

/-- The character that is written first, and what follows. -/
def readChar : List Char → Option (Char × List Char)
  | c :: rest => if c = '\\' then readEscape rest else some (c, rest)
  | [] => none

theorem hexDigit?_of_control : ∀ code < 0x20,
    Text.hexDigit? (Nat.digitChar (code / 16)) = some (code / 16) ∧
      Text.hexDigit? (Nat.digitChar (code % 16)) = some (code % 16) := by
  decide +kernel

/-- An escaped character is read back, whatever follows it. -/
theorem readChar_escapeChar (c : Char) (rest : List Char) :
    readChar (escapeChar c ++ rest) = some (c, rest) := by
  unfold escapeChar
  split
  · next quote => subst quote; rfl
  split
  · next backslash => subst backslash; rfl
  split
  · next backspace => subst backspace; rfl
  split
  · next tab => subst tab; rfl
  split
  · next newline => subst newline; rfl
  split
  · next feed => subst feed; rfl
  split
  · next carriage => subst carriage; rfl
  split
  · next control =>
      rcases hexDigit?_of_control c.toNat control with ⟨high, low⟩
      have whole : c.toNat / 16 * 16 + c.toNat % 16 = c.toNat := Nat.div_add_mod' c.toNat 16
      simp [readChar, readEscape, high, low, whole]
  · next backslash _ _ _ _ _ _ => simp [readChar, backslash]

/-- No escape begins with the quote that ends a string. -/
theorem escapeChar_ne_quote (c : Char) (rest other : List Char) :
    '"' :: rest ≠ escapeChar c ++ other := by
  intro same
  have read := readChar_escapeChar c other
  rw [← same] at read
  cases read
  exact absurd same (by simp [escapeChar])

theorem escaped_unique {first second rest other : List Char}
    (same : first.flatMap escapeChar ++ '"' :: rest = second.flatMap escapeChar ++ '"' :: other) :
    first = second ∧ rest = other := by
  induction first generalizing second with
  | nil =>
      cases second with
      | nil => exact ⟨rfl, (List.cons.inj same).2⟩
      | cons c second =>
          rw [List.flatMap_cons, List.append_assoc] at same
          exact absurd same (escapeChar_ne_quote c rest _)
  | cons c first inductionHypothesis =>
      cases second with
      | nil =>
          rw [List.flatMap_cons, List.append_assoc] at same
          exact absurd same.symm (escapeChar_ne_quote c other _)
      | cons d second =>
          rw [List.flatMap_cons, List.flatMap_cons, List.append_assoc, List.append_assoc] at same
          have read := readChar_escapeChar c (first.flatMap escapeChar ++ '"' :: rest)
          rw [same, readChar_escapeChar d] at read
          rcases Prod.mk.inj (Option.some.inj read) with ⟨rfl, behind⟩
          rcases inductionHypothesis behind.symm with ⟨sameText, sameRest⟩
          exact ⟨congrArg (d :: ·) sameText, sameRest⟩

theorem toList_stringText (text : String) :
    (stringText text).toList = '"' :: (text.toList.flatMap escapeChar ++ ['"']) :=
  String.toList_ofList

/-- A written string is read in one way, whatever follows it. -/
theorem stringText_unique {first second : String} {rest other : List Char}
    (same : (stringText first).toList ++ rest = (stringText second).toList ++ other) :
    first = second ∧ rest = other := by
  rw [toList_stringText, toList_stringText] at same
  simp only [List.cons_append, List.append_assoc, List.nil_append] at same
  rcases escaped_unique (List.cons.inj same).2 with ⟨sameText, sameRest⟩
  exact ⟨String.toList_inj.mp sameText, sameRest⟩

/-! ## Rests and parts -/

/-- The characters that may follow a value. -/
def isClosing (c : Char) : Bool :=
  c == ',' || c == ']' || c == '\x7d'

/-- What may follow a value: nothing, or a separator or the end of what the value
stands in. -/
def Follows (rest : List Char) : Prop :=
  ∀ c ∈ rest.head?, isClosing c = true

theorem follows_cons {c : Char} (closing : isClosing c = true) (rest : List Char) :
    Follows (c :: rest) := by
  intro first isFirst
  cases isFirst
  exact closing

/-- The two are told apart by what is written for them, whatever follows. -/
def ToldApart {α : Type} (write : α → List Char) (first second : α) : Prop :=
  ∀ rest other, Follows rest → Follows other →
    write first ++ rest = write second ++ other → first = second ∧ rest = other

/-- The text begins a value: it is not empty, and it does not close anything. -/
def Begins (text : List Char) : Prop :=
  ∃ c rest, text = c :: rest ∧ isClosing c = false

/-- Texts behind one another, each behind a comma. -/
def listed (parts : List (List Char)) : List Char :=
  parts.flatMap fun part => ',' :: part

theorem intercalate_cons (part : List Char) (rest : List (List Char)) :
    [','].intercalate (part :: rest) = part ++ listed rest := by
  induction rest generalizing part with
  | nil => simp [listed]
  | cons next rest inductionHypothesis =>
      rw [List.intercalate_cons_cons, inductionHypothesis]
      simp [listed]

section Parts

variable {α : Type} {write : α → List Char} {close : Char} {firsts seconds : List α}
  {rest other : List Char}

theorem follows_listed (closing : isClosing close = true) (parts : List (List Char))
    (rest : List Char) : Follows (listed parts ++ close :: rest) := by
  cases parts with
  | nil => exact follows_cons closing rest
  | cons part parts => exact follows_cons rfl _

theorem listed_unique (closing : isClosing close = true) (separate : close ≠ ',')
    (apart : ∀ first ∈ firsts, ∀ second ∈ seconds, ToldApart write first second)
    (same : listed (firsts.map write) ++ close :: rest =
      listed (seconds.map write) ++ close :: other) : firsts = seconds ∧ rest = other := by
  induction firsts generalizing seconds with
  | nil =>
      cases seconds with
      | nil => exact ⟨rfl, (List.cons.inj same).2⟩
      | cons second seconds => exact absurd (List.cons.inj same).1 separate
  | cons first firsts inductionHypothesis =>
      cases seconds with
      | nil => exact absurd (List.cons.inj same).1.symm separate
      | cons second seconds =>
          simp only [listed, List.map_cons, List.flatMap_cons, List.cons_append,
            List.append_assoc] at same
          have told := apart first List.mem_cons_self second List.mem_cons_self
          obtain ⟨sameFirst, sameBehind⟩ := told _ _ (follows_listed closing _ rest)
            (follows_listed closing _ other) (List.cons.inj same).2
          have apartRest : ∀ one ∈ firsts, ∀ two ∈ seconds, ToldApart write one two :=
            fun one memberOne two memberTwo =>
              apart one (List.mem_cons_of_mem _ memberOne) two (List.mem_cons_of_mem _ memberTwo)
          rcases inductionHypothesis apartRest sameBehind with ⟨sameRest, sameOther⟩
          exact ⟨by rw [sameFirst, sameRest], sameOther⟩

/-- Parts between commas are read in one way if each of them is. -/
theorem joined_unique (closing : isClosing close = true) (separate : close ≠ ',')
    (beginsFirst : ∀ first ∈ firsts, Begins (write first))
    (beginsSecond : ∀ second ∈ seconds, Begins (write second))
    (apart : ∀ first ∈ firsts, ∀ second ∈ seconds, ToldApart write first second)
    (same : [','].intercalate (firsts.map write) ++ close :: rest =
      [','].intercalate (seconds.map write) ++ close :: other) :
    firsts = seconds ∧ rest = other := by
  have open_ne : ∀ {text behind rest : List Char}, Begins text →
      close :: rest ≠ text ++ behind := by
    intro text behind rest begins equal
    obtain ⟨c, tail, rfl, opening⟩ := begins
    rw [(List.cons.inj equal).1] at closing
    exact absurd (closing.symm.trans opening) (by decide)
  cases firsts with
  | nil =>
      cases seconds with
      | nil => exact ⟨rfl, (List.cons.inj same).2⟩
      | cons second seconds =>
          rw [List.map_cons, intercalate_cons, List.append_assoc] at same
          exact absurd same (open_ne (beginsSecond second List.mem_cons_self))
  | cons first firsts =>
      cases seconds with
      | nil =>
          rw [List.map_cons, intercalate_cons, List.append_assoc] at same
          exact absurd same.symm (open_ne (beginsFirst first List.mem_cons_self))
      | cons second seconds =>
          apply listed_unique closing separate apart
          simp only [List.map_cons, intercalate_cons] at same
          simp only [listed, List.map_cons, List.flatMap_cons, List.cons_append]
          exact congrArg (',' :: ·) same

end Parts

/-! ## Written values -/

/-- The characters that begin, separate or end a value that is not a run. -/
def isMark (c : Char) : Bool :=
  c == '"' || c == '[' || c == '\x7b' || isClosing c

/-- The text of a member of an object, given its key and the text of its value. -/
def memberText (member : String × String) : List Char :=
  (stringText member.1).toList ++ ':' :: member.2.toList

/-- The text is written in the way of JSON: a run of characters without marks, a
string, an array or an object. -/
inductive Written : String → Prop where
  | run {text : String} (nonempty : text.toList ≠ [])
      (plain : ∀ c ∈ text.toList, isMark c = false) : Written text
  | string (text : String) : Written (stringText text)
  | array {items : List String} (written : ∀ item ∈ items, Written item) :
      Written (arrayText items)
  | object {members : List (String × String)}
      (written : ∀ member ∈ members, Written member.2) : Written (objectText members)

theorem written_keyword {text : String}
    (plain : (!text.toList.isEmpty && text.toList.all fun c => !isMark c) = true) :
    Written text := by
  rw [Bool.and_eq_true, Bool.not_eq_true', List.all_eq_true] at plain
  apply Written.run
  · exact fun empty => Bool.eq_false_iff.mp plain.1 (List.isEmpty_iff.mpr empty)
  · exact fun c member => Bool.not_eq_true' _ ▸ plain.2 c member

theorem written_null : Written "null" :=
  written_keyword (by decide)

theorem toList_arrayText (items : List String) :
    (arrayText items).toList = '[' :: ([','].intercalate (items.map String.toList) ++ [']']) := by
  simp [arrayText, bracketed]

theorem toList_objectText (members : List (String × String)) :
    (objectText members).toList =
      '\x7b' :: ([','].intercalate (members.map memberText) ++ ['\x7d']) := by
  simp [objectText, bracketed, Function.comp_def]
  rfl

theorem isClosing_eq_false_of_plain {c : Char} (plain : isMark c = false) :
    isClosing c = false := by
  simp only [isMark, Bool.or_eq_false_iff] at plain
  exact plain.2

theorem run_unique {first second rest other : List Char}
    (plainFirst : ∀ c ∈ first, isMark c = false) (plainSecond : ∀ c ∈ second, isMark c = false)
    (follows : Follows rest) (followsOther : Follows other)
    (same : first ++ rest = second ++ other) : first = second ∧ rest = other := by
  induction first generalizing second with
  | nil =>
      cases second with
      | nil => exact ⟨rfl, same⟩
      | cons c second =>
          rw [List.nil_append] at same
          have closing := follows c (by rw [same]; rfl)
          have plain := isClosing_eq_false_of_plain (plainSecond c List.mem_cons_self)
          exact nomatch closing.symm.trans plain
  | cons c first inductionHypothesis =>
      cases second with
      | nil =>
          rw [List.nil_append] at same
          have closing := followsOther c (by rw [← same]; rfl)
          have plain := isClosing_eq_false_of_plain (plainFirst c List.mem_cons_self)
          exact nomatch closing.symm.trans plain
      | cons d second =>
          rcases List.cons.inj same with ⟨sameChar, sameBehind⟩
          obtain ⟨sameRun, sameRest⟩ := inductionHypothesis
            (fun e member => plainFirst e (List.mem_cons_of_mem c member))
            (fun e member => plainSecond e (List.mem_cons_of_mem d member)) sameBehind
          exact ⟨by rw [sameChar, sameRun], sameRest⟩

/-- A run does not begin with a mark. -/
theorem run_ne_mark {text rest behind : List Char} {c : Char} (nonempty : text ≠ [])
    (plain : ∀ c ∈ text, isMark c = false) (mark : isMark c = true) :
    text ++ rest ≠ c :: behind := by
  intro same
  cases text with
  | nil => exact nonempty rfl
  | cons d text =>
      have plainHead := plain d List.mem_cons_self
      rw [(List.cons.inj same).1, mark] at plainHead
      exact nomatch plainHead

theorem Written.begins {text : String} (written : Written text) : Begins text.toList := by
  cases written with
  | run nonempty plain =>
      cases chars : text.toList with
      | nil => exact absurd chars nonempty
      | cons c rest =>
          rw [chars] at plain
          exact ⟨c, rest, rfl, isClosing_eq_false_of_plain (plain c List.mem_cons_self)⟩
  | string text => exact ⟨'"', _, toList_stringText text, rfl⟩
  | @array items _ => exact ⟨'[', _, toList_arrayText items, rfl⟩
  | @object members _ => exact ⟨'\x7b', _, toList_objectText members, rfl⟩

theorem begins_memberText (member : String × String) : Begins (memberText member) := by
  rw [memberText, toList_stringText]
  exact ⟨'"', _, rfl, rfl⟩

/-- Members are told apart if the texts of their values are. -/
theorem toldApart_member {first second : String × String}
    (apart : ToldApart String.toList first.2 second.2) : ToldApart memberText first second := by
  intro rest other follows followsOther same
  simp only [memberText, List.append_assoc] at same
  rcases stringText_unique same with ⟨sameKey, sameBehind⟩
  obtain ⟨sameValue, sameRest⟩ := apart rest other follows followsOther (List.cons.inj sameBehind).2
  exact ⟨Prod.ext sameKey sameValue, sameRest⟩

theorem arrayText_unique {items others : List String} {rest other : List Char}
    (begins : ∀ item ∈ items, Begins item.toList)
    (beginsOther : ∀ item ∈ others, Begins item.toList)
    (apart : ∀ item ∈ items, ∀ other ∈ others, ToldApart String.toList item other)
    (same : (arrayText items).toList ++ rest = (arrayText others).toList ++ other) :
    items = others ∧ rest = other := by
  rw [toList_arrayText, toList_arrayText] at same
  simp only [List.cons_append, List.append_assoc, List.nil_append] at same
  exact joined_unique rfl (by decide) begins beginsOther apart (List.cons.inj same).2

theorem objectText_unique {members others : List (String × String)} {rest other : List Char}
    (apart : ∀ member ∈ members, ∀ other ∈ others, ToldApart String.toList member.2 other.2)
    (same : (objectText members).toList ++ rest = (objectText others).toList ++ other) :
    members = others ∧ rest = other := by
  rw [toList_objectText, toList_objectText] at same
  simp only [List.cons_append, List.append_assoc, List.nil_append] at same
  exact joined_unique rfl (by decide) (fun member _ => begins_memberText member)
    (fun member _ => begins_memberText member)
    (fun member memberIn other otherIn => toldApart_member (apart member memberIn other otherIn))
    (List.cons.inj same).2

/-- Written values are told apart by their texts, whatever follows. -/
theorem Written.toldApart {first second : String} (writtenFirst : Written first)
    (writtenSecond : Written second) : ToldApart String.toList first second := by
  induction writtenFirst generalizing second with
  | run nonempty plain =>
      intro rest other follows followsOther same
      cases writtenSecond with
      | run _ plainSecond =>
          rcases run_unique plain plainSecond follows followsOther same with ⟨sameRun, sameRest⟩
          exact ⟨String.toList_inj.mp sameRun, sameRest⟩
      | string text =>
          rw [toList_stringText] at same
          exact absurd same (run_ne_mark nonempty plain rfl)
      | array written =>
          rw [toList_arrayText] at same
          exact absurd same (run_ne_mark nonempty plain rfl)
      | object written =>
          rw [toList_objectText] at same
          exact absurd same (run_ne_mark nonempty plain rfl)
  | string text =>
      intro rest other follows followsOther same
      cases writtenSecond with
      | run nonempty plain =>
          rw [toList_stringText] at same
          exact absurd same.symm (run_ne_mark nonempty plain rfl)
      | string textOther =>
          rcases stringText_unique same with ⟨sameText, sameRest⟩
          exact ⟨congrArg stringText sameText, sameRest⟩
      | array written =>
          rw [toList_stringText, toList_arrayText] at same
          exact absurd (List.cons.inj same).1 (by decide)
      | object written =>
          rw [toList_stringText, toList_objectText] at same
          exact absurd (List.cons.inj same).1 (by decide)
  | @array items written inductionHypothesis =>
      intro rest other follows followsOther same
      cases writtenSecond with
      | run nonempty plain =>
          rw [toList_arrayText] at same
          exact absurd same.symm (run_ne_mark nonempty plain rfl)
      | string text =>
          rw [toList_stringText, toList_arrayText] at same
          exact absurd (List.cons.inj same).1 (by decide)
      | @array others writtenOther =>
          obtain ⟨sameItems, sameRest⟩ := arrayText_unique
            (fun item member => (written item member).begins)
            (fun item member => (writtenOther item member).begins)
            (fun item member other memberOther =>
              inductionHypothesis item member (writtenOther other memberOther)) same
          exact ⟨congrArg arrayText sameItems, sameRest⟩
      | object _ =>
          rw [toList_arrayText, toList_objectText] at same
          exact absurd (List.cons.inj same).1 (by decide)
  | @object members written inductionHypothesis =>
      intro rest other follows followsOther same
      cases writtenSecond with
      | run nonempty plain =>
          rw [toList_objectText] at same
          exact absurd same.symm (run_ne_mark nonempty plain rfl)
      | string text =>
          rw [toList_stringText, toList_objectText] at same
          exact absurd (List.cons.inj same).1 (by decide)
      | array _ =>
          rw [toList_arrayText, toList_objectText] at same
          exact absurd (List.cons.inj same).1 (by decide)
      | @object others writtenOther =>
          obtain ⟨sameMembers, sameRest⟩ := objectText_unique
            (fun member memberIn other otherIn =>
              inductionHypothesis member memberIn (writtenOther other otherIn)) same
          exact ⟨congrArg objectText sameMembers, sameRest⟩

/-! ## Texts that determine what is written -/

theorem stringText_injective {first second : String} (same : stringText first = stringText second) :
    first = second :=
  (@stringText_unique first second [] [] (by rw [same])).1

theorem arrayText_injective {items others : List String}
    (written : ∀ item ∈ items, Written item) (writtenOther : ∀ item ∈ others, Written item)
    (same : arrayText items = arrayText others) : items = others := by
  have texts : (arrayText items).toList ++ [] = (arrayText others).toList ++ [] := by rw [same]
  exact (arrayText_unique (fun item member => (written item member).begins)
    (fun item member => (writtenOther item member).begins)
    (fun item member other memberOther =>
      (written item member).toldApart (writtenOther other memberOther)) texts).1

theorem objectText_injective {members others : List (String × String)}
    (written : ∀ member ∈ members, Written member.2)
    (writtenOther : ∀ member ∈ others, Written member.2)
    (same : objectText members = objectText others) : members = others := by
  have texts : (objectText members).toList ++ [] = (objectText others).toList ++ [] := by rw [same]
  exact (objectText_unique (fun member memberIn other otherIn =>
    (written member memberIn).toldApart (writtenOther other otherIn)) texts).1

theorem natText_injective {first second : Nat} (same : natText first = natText second) :
    first = second := by
  have digits : Nat.toDigits 10 first = Nat.toDigits 10 second := String.ofList_inj.mp same
  calc
    first = Nat.ofDigitChars 10 (Nat.toDigits 10 first) 0 := Nat.ofDigitChars_ten_toDigits.symm
    _ = Nat.ofDigitChars 10 (Nat.toDigits 10 second) 0 := by rw [digits]
    _ = second := Nat.ofDigitChars_ten_toDigits

/-- A run of the characters that numbers and keywords are written with. -/
theorem written_of_chars {text : List Char} (nonempty : text ≠ [])
    (plain : ∀ c ∈ text, isMark c = false) : Written (String.ofList text) := by
  apply Written.run
  · rw [String.toList_ofList]
    exact nonempty
  · rw [String.toList_ofList]
    exact plain

theorem isMark_of_isDigit {c : Char} (digit : c.isDigit = true) : isMark c = false := by
  cases mark : isMark c with
  | false => rfl
  | true =>
      simp only [isMark, isClosing, Bool.or_eq_true, beq_iff_eq] at mark
      rcases mark with ((rfl | rfl) | rfl) | ((rfl | rfl) | rfl) <;> exact nomatch digit

theorem isMark_of_mem_toDigits {value : Nat} {c : Char} (member : c ∈ Nat.toDigits 10 value) :
    isMark c = false :=
  isMark_of_isDigit (Nat.isDigit_of_mem_toDigits (by decide) (by decide) member)

theorem written_natText (value : Nat) : Written (natText value) :=
  written_of_chars Nat.toDigits_ne_nil fun _ member => isMark_of_mem_toDigits member

end Cascade.Json
