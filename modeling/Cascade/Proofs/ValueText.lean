import Cascade.Proofs.JsonText

/-!
# Canonical text of values

The compact text of a value is written in the way of JSON and determines the
value, provided that the numbers in the two values have different texts unless
they are equal.
-/

namespace Cascade.Json

/-! ## Numbers -/

/-- The characters that numbers are written with. -/
def isNumeric (c : Char) : Bool :=
  c.isDigit || c == '-' || c == '+' || c == '.' || c == 'e'

theorem isMark_of_isNumeric {c : Char} (numeric : isNumeric c = true) : isMark c = false := by
  simp only [isNumeric, Bool.or_eq_true, beq_iff_eq] at numeric
  rcases numeric with (((digit | rfl) | rfl) | rfl) | rfl
  · exact isMark_of_isDigit digit
  all_goals rfl

/-- All characters of the text are numeric. -/
def AllNumeric (text : List Char) : Prop :=
  ∀ c ∈ text, isNumeric c = true

namespace AllNumeric

theorem nil : AllNumeric [] :=
  fun _ member => nomatch member

theorem cons {c : Char} {text : List Char} (numeric : isNumeric c = true)
    (rest : AllNumeric text) : AllNumeric (c :: text) := by
  intro d member
  rcases List.mem_cons.mp member with rfl | there
  · exact numeric
  · exact rest d there

theorem append {first second : List Char} (numericFirst : AllNumeric first)
    (numericSecond : AllNumeric second) : AllNumeric (first ++ second) := by
  intro c member
  rcases List.mem_append.mp member with left | right
  · exact numericFirst c left
  · exact numericSecond c right

theorem sublist {text part : List Char} (numeric : AllNumeric text) (sub : part.Sublist text) :
    AllNumeric part :=
  fun c member => numeric c (sub.subset member)

theorem replicate (count : Nat) {c : Char} (numeric : isNumeric c = true) :
    AllNumeric (List.replicate count c) := by
  intro d member
  exact (List.mem_replicate.mp member).2 ▸ numeric

theorem digits (value : Nat) : AllNumeric (Nat.toDigits 10 value) := by
  intro c member
  have digit := Nat.isDigit_of_mem_toDigits (by decide) (by decide) member
  simp [isNumeric, digit]

end AllNumeric

namespace Number

theorem numeric_positionalText {digits : List Char} (numeric : AllNumeric digits) (leading : Int) :
    AllNumeric (positionalText digits leading) := by
  unfold positionalText
  split
  · exact .cons rfl (.cons rfl ((AllNumeric.replicate _ rfl).append numeric))
  · simp only
    split
    · exact (numeric.append (.replicate _ rfl)).append (.cons rfl (.cons rfl .nil))
    · exact (numeric.sublist (List.take_sublist _ _)).append
        (.cons rfl (numeric.sublist (List.drop_sublist _ _)))

theorem numeric_exponentText {digits : List Char} (numeric : AllNumeric digits) (leading : Int) :
    AllNumeric (exponentText digits leading) := by
  have sign : isNumeric (if leading < 0 then '-' else '+') = true := by split <;> rfl
  unfold exponentText
  apply AllNumeric.append
  · split
    · next first second rest =>
        have behind : AllNumeric (second :: rest) := numeric.sublist (List.sublist_cons_self _ _)
        exact .cons (numeric first List.mem_cons_self) (.cons rfl behind)
    · exact numeric
  · exact .cons rfl (.cons sign (.digits _))

theorem numeric_text (number : Number) : AllNumeric number.text := by
  cases number with
  | integer value =>
      simp only [text, integerText]
      split
      · exact .cons rfl (.digits _)
      · exact .digits _
  | float value =>
      have sign : AllNumeric (if value.negative then ['-'] else []) := by
        split
        · exact .cons rfl .nil
        · exact .nil
      simp only [text, floatText]
      split
      · exact sign.append (.cons rfl (.cons rfl (.cons rfl .nil)))
      · apply sign.append
        split
        · exact numeric_positionalText (.digits _) _
        · exact numeric_exponentText (.digits _) _

theorem positionalText_ne_nil (digits : List Char) (leading : Int) :
    positionalText digits leading ≠ [] := by
  unfold positionalText
  split
  · exact List.cons_ne_nil _ _
  · simp only
    split
    · exact List.append_ne_nil_of_right_ne_nil _ (List.cons_ne_nil _ _)
    · exact List.append_ne_nil_of_right_ne_nil _ (List.cons_ne_nil _ _)

theorem exponentText_ne_nil (digits : List Char) (leading : Int) :
    exponentText digits leading ≠ [] :=
  List.append_ne_nil_of_right_ne_nil _ (List.cons_ne_nil _ _)

theorem text_ne_nil (number : Number) : number.text ≠ [] := by
  cases number with
  | integer value =>
      simp only [text, integerText]
      split
      · exact List.cons_ne_nil _ _
      · exact Nat.toDigits_ne_nil
  | float value =>
      simp only [text, floatText]
      by_cases zero : value.isZero = true
      · rw [if_pos zero]
        exact List.append_ne_nil_of_right_ne_nil _ (List.cons_ne_nil _ _)
      · rw [if_neg zero]
        apply List.append_ne_nil_of_right_ne_nil
        split
        · exact positionalText_ne_nil _ _
        · exact exponentText_ne_nil _ _

theorem written_text (number : Number) : Written (String.ofList number.text) :=
  written_of_chars number.text_ne_nil fun c member =>
    isMark_of_isNumeric (number.numeric_text c member)

/-- Numbers of the first list and of the second one have different texts unless they
are equal. -/
def ToldApart (firsts seconds : List Number) : Prop :=
  ∀ first ∈ firsts, ∀ second ∈ seconds, first.text = second.text → first = second

instance (firsts seconds : List Number) : Decidable (ToldApart firsts seconds) :=
  inferInstanceAs (Decidable (∀ first ∈ firsts, ∀ second ∈ seconds,
    first.text = second.text → first = second))

theorem ToldApart.mono {firsts seconds fewer less : List Number} (apart : ToldApart firsts seconds)
    (subFirst : fewer ⊆ firsts) (subSecond : less ⊆ seconds) : ToldApart fewer less :=
  fun first memberFirst second memberSecond =>
    apart first (subFirst memberFirst) second (subSecond memberSecond)

theorem ToldApart.left {firsts seconds behind other : List Number}
    (apart : ToldApart (firsts ++ behind) (seconds ++ other)) : ToldApart firsts seconds :=
  apart.mono (List.subset_append_left firsts behind) (List.subset_append_left seconds other)

theorem ToldApart.right {before other firsts seconds : List Number}
    (apart : ToldApart (before ++ firsts) (other ++ seconds)) : ToldApart firsts seconds :=
  apart.mono (List.subset_append_right before firsts) (List.subset_append_right other seconds)

theorem ToldApart.of_mem {α : Type} {numbers : α → List Number} {xs ys : List α}
    (apart : ToldApart (xs.flatMap numbers) (ys.flatMap numbers)) {x y : α} (memberFirst : x ∈ xs)
    (memberSecond : y ∈ ys) : ToldApart (numbers x) (numbers y) :=
  apart.mono (fun _ member => List.mem_flatMap_of_mem memberFirst member)
    (fun _ member => List.mem_flatMap_of_mem memberSecond member)

end Number

/-! ## Values -/

namespace Value

mutual

/-- The numbers in a value. -/
def numbers : Value → List Number
  | null => []
  | bool _ => []
  | number value => [value]
  | string _ => []
  | array items => numbersOfItems items
  | object members => numbersOfMembers members

/-- The numbers in a list of values. -/
def numbersOfItems : List Value → List Number
  | [] => []
  | item :: rest => numbers item ++ numbersOfItems rest

/-- The numbers in a list of members. -/
def numbersOfMembers : List (String × Value) → List Number
  | [] => []
  | (_, value) :: rest => numbers value ++ numbersOfMembers rest

end

mutual

theorem written_compact : ∀ value : Value, Written value.compact
  | null => written_null
  | bool true => written_keyword (by decide)
  | bool false => written_keyword (by decide)
  | number value => value.written_text
  | string text => .string text
  | array items => .array (written_compactItems items)
  | object members => .object (written_compactMembers members)

theorem written_compactItems : ∀ items : List Value, ∀ text ∈ compactItems items, Written text
  | [] => fun _ member => nomatch member
  | item :: rest => by
      intro text member
      rcases List.mem_cons.mp member with rfl | there
      · exact written_compact item
      · exact written_compactItems rest text there

theorem written_compactMembers :
    ∀ members : List (String × Value), ∀ member ∈ compactMembers members, Written member.2
  | [] => fun _ member => nomatch member
  | (key, value) :: rest => by
      intro written member
      rcases List.mem_cons.mp member with rfl | there
      · exact written_compact value
      · exact written_compactMembers rest written there

end

/-- The place of a value's constructor. -/
def sort : Value → Nat
  | null => 0
  | bool _ => 1
  | number _ => 2
  | string _ => 3
  | array _ => 4
  | object _ => 5

/-- The place of the constructor of the value whose text begins with a character. -/
def sortOf (c : Char) : Nat :=
  if c = 'n' then 0
  else if c = 't' ∨ c = 'f' then 1
  else if c = '"' then 3
  else if c = '[' then 4
  else if c = '\x7b' then 5
  else 2

theorem sortOf_of_isNumeric {c : Char} (numeric : isNumeric c = true) : sortOf c = 2 := by
  have other : ∀ d, isNumeric d = false → c ≠ d := by
    intro d notNumeric same
    rw [same, notNumeric] at numeric
    exact nomatch numeric
  simp only [sortOf, other 'n' rfl, other 't' rfl, other 'f' rfl, other '"' rfl, other '[' rfl,
    other '\x7b' rfl, or_self, if_false]

/-- The first character of a text tells the constructor of the value. -/
theorem head?_compact (value : Value) :
    value.compact.toList.head?.map sortOf = some value.sort := by
  cases value with
  | null => decide
  | bool value => cases value <;> decide
  | number value =>
      rw [compact, String.toList_ofList]
      cases chars : value.text with
      | nil => exact absurd chars value.text_ne_nil
      | cons c rest =>
          have numeric := value.numeric_text c (by rw [chars]; exact List.mem_cons_self)
          exact congrArg some (sortOf_of_isNumeric numeric)
  | string text =>
      rw [compact, toList_stringText]
      rfl
  | array items =>
      rw [compact, toList_arrayText]
      rfl
  | object members =>
      rw [compact, toList_objectText]
      rfl

theorem sort_eq_of_compact_eq {first second : Value} (same : first.compact = second.compact) :
    first.sort = second.sort := by
  have heads := head?_compact first
  rw [same, head?_compact second] at heads
  exact (Option.some.inj heads).symm

theorem compact_number_injective {first second : Number}
    (apart : Number.ToldApart [first] [second])
    (same : (number first).compact = (number second).compact) : first = second :=
  apart first List.mem_cons_self second List.mem_cons_self (String.ofList_inj.mp same)

mutual

/-- The compact text determines the value. -/
theorem compact_injective : ∀ first second : Value,
    Number.ToldApart first.numbers second.numbers → first.compact = second.compact →
      first = second
  | null, second, _, same => by
      have sameSort := sort_eq_of_compact_eq same
      cases second with
      | null => rfl
      | _ => exact nomatch sameSort
  | bool value, second, _, same => by
      have sameSort := sort_eq_of_compact_eq same
      cases second with
      | bool other => cases value <;> cases other <;> first | rfl | exact absurd same (by decide)
      | _ => exact nomatch sameSort
  | number value, second, apart, same => by
      have sameSort := sort_eq_of_compact_eq same
      cases second with
      | number other => exact congrArg number (compact_number_injective apart same)
      | _ => exact nomatch sameSort
  | string text, second, _, same => by
      have sameSort := sort_eq_of_compact_eq same
      cases second with
      | string other => exact congrArg string (stringText_injective same)
      | _ => exact nomatch sameSort
  | array items, second, apart, same => by
      have sameSort := sort_eq_of_compact_eq same
      cases second with
      | array others =>
          have texts := arrayText_injective (written_compactItems items)
            (written_compactItems others) same
          exact congrArg array (compactItems_injective items others apart texts)
      | _ => exact nomatch sameSort
  | object members, second, apart, same => by
      have sameSort := sort_eq_of_compact_eq same
      cases second with
      | object others =>
          have texts := objectText_injective (written_compactMembers members)
            (written_compactMembers others) same
          exact congrArg object (compactMembers_injective members others apart texts)
      | _ => exact nomatch sameSort

theorem compactItems_injective : ∀ items others : List Value,
    Number.ToldApart (numbersOfItems items) (numbersOfItems others) →
      compactItems items = compactItems others → items = others
  | [], [], _, _ => rfl
  | [], _ :: _, _, same => nomatch same
  | _ :: _, [], _, same => nomatch same
  | item :: rest, other :: others, apart, same => by
      rcases List.cons.inj same with ⟨sameText, sameRest⟩
      have sameItem := compact_injective item other apart.left sameText
      have sameItems := compactItems_injective rest others apart.right sameRest
      rw [sameItem, sameItems]

theorem compactMembers_injective : ∀ members others : List (String × Value),
    Number.ToldApart (numbersOfMembers members) (numbersOfMembers others) →
      compactMembers members = compactMembers others → members = others
  | [], [], _, _ => rfl
  | [], _ :: _, _, same => nomatch same
  | _ :: _, [], _, same => nomatch same
  | (key, value) :: rest, (name, other) :: others, apart, same => by
      rcases List.cons.inj same with ⟨sameMember, sameRest⟩
      rcases Prod.mk.inj sameMember with ⟨sameKey, sameText⟩
      have sameValue := compact_injective value other apart.left sameText
      have sameMembers := compactMembers_injective rest others apart.right sameRest
      rw [sameKey, sameValue, sameMembers]

end

/-- The numbers in a dictionary of values. -/
def numbersOfDict (dict : Dict Value) : List Number :=
  numbersOfMembers dict.entries

theorem compact_ofDict_injective {first second : Dict Value}
    (apart : Number.ToldApart (numbersOfDict first) (numbersOfDict second))
    (same : (ofDict first).compact = (ofDict second).compact) : first = second := by
  apply Dict.ext
  exact object.inj (compact_injective (ofDict first) (ofDict second) apart same)

end Value

end Cascade.Json
