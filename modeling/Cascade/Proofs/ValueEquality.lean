import Cascade.Tree.Node

/-!
# Equality of values as an equivalence

Values are compared by recursion on both of them.  Two values are equal exactly if they are
the same once every zero has a positive sign, and therefore equality of values, of their
dictionaries and of the headers of nodes is an equivalence.
-/

namespace Cascade

namespace Decimal.Binary64

/-- The number with a positive sign if it is zero. -/
def plain (x : Binary64) : Binary64 :=
  if x.isZero then { x with negative := false } else x

theorem same_iff (x y : Binary64) : x.same y = true ↔ x.plain = y.plain := by
  obtain ⟨negative, rank, rank_lt⟩ := x
  obtain ⟨negativeOther, rankOther, rank_ltOther⟩ := y
  by_cases ranks : rank = rankOther
  · subst ranks
    by_cases zero : rank = 0
    · simp [same, plain, isZero, zero]
    · simp [same, plain, isZero, zero]
  · by_cases zero : rank = 0 <;> by_cases zeroOther : rankOther = 0 <;>
      simp_all [same, plain, isZero]

end Decimal.Binary64

namespace Json

/-- The number with a positive sign if it is zero. -/
def Number.plain : Number → Number
  | integer value => integer value
  | float value => float value.plain

theorem Number.same_iff (first second : Number) :
    first.same second = true ↔ first.plain = second.plain := by
  cases first <;> cases second <;> simp [same, plain, Decimal.Binary64.same_iff]

namespace Value

mutual

/-- The value with a positive sign at every zero in it. -/
def plain : Value → Value
  | null => null
  | bool value => bool value
  | number value => number value.plain
  | string value => string value
  | array items => array (plainItems items)
  | object members => object (plainMembers members)

/-- The values with a positive sign at every zero in them. -/
def plainItems : List Value → List Value
  | [] => []
  | item :: rest => plain item :: plainItems rest

/-- The members with a positive sign at every zero in them. -/
def plainMembers : List (String × Value) → List (String × Value)
  | [] => []
  | (key, value) :: rest => (key, plain value) :: plainMembers rest

end

mutual

/-- Values are equal exactly if they differ in the signs of zeros at most. -/
theorem same_iff : ∀ first second : Value,
    first.same second = true ↔ first.plain = second.plain
  | null, second => by cases second <;> simp [same, plain]
  | bool value, second => by cases second <;> simp [same, plain]
  | number value, second => by cases second <;> simp [same, plain, Number.same_iff]
  | string value, second => by cases second <;> simp [same, plain]
  | array items, second => by
      cases second with
      | array others => simp [same, plain, sameItems_iff items others]
      | _ => simp [same, plain]
  | object members, second => by
      cases second with
      | object others => simp [same, plain, sameMembers_iff members others]
      | _ => simp [same, plain]

theorem sameItems_iff : ∀ items others : List Value,
    sameItems items others = true ↔ plainItems items = plainItems others
  | [], [] => by simp [sameItems]
  | [], _ :: _ => by simp [sameItems, plainItems]
  | _ :: _, [] => by simp [sameItems, plainItems]
  | item :: rest, other :: others => by
      simp [sameItems, plainItems, same_iff item other, sameItems_iff rest others]

theorem sameMembers_iff : ∀ members others : List (String × Value),
    sameMembers members others = true ↔ plainMembers members = plainMembers others
  | [], [] => by simp [sameMembers]
  | [], _ :: _ => by simp [sameMembers, plainMembers]
  | _ :: _, [] => by simp [sameMembers, plainMembers]
  | (key, value) :: rest, (name, other) :: others => by
      simp [sameMembers, plainMembers, same_iff value other, sameMembers_iff rest others]

end

theorem sameDict_iff (first second : Dict Value) :
    sameDict first second = true ↔ plainMembers first.entries = plainMembers second.entries :=
  sameMembers_iff first.entries second.entries

end Value

end Json

namespace Header

/-- The headers agree in kind, span, properties and comments. -/
structure Agrees (first second : Header) : Prop where
  kind : first.kind = second.kind
  span : first.span = second.span
  properties : Json.Value.sameDict first.properties second.properties = true
  comments : first.comments = second.comments

theorem same_iff_agrees (first second : Header) :
    first.same second = true ↔ first.Agrees second := by
  constructor
  · intro same
    obtain ⟨before, comments⟩ := Bool.and_eq_true_iff.mp same
    obtain ⟨before, properties⟩ := Bool.and_eq_true_iff.mp before
    obtain ⟨kind, span⟩ := Bool.and_eq_true_iff.mp before
    exact ⟨eq_of_beq kind, eq_of_beq span, properties, eq_of_beq comments⟩
  · rintro ⟨kind, span, properties, comments⟩
    simp [same, kind, span, properties, comments]

theorem agrees_equivalence : Equivalence Agrees where
  refl header := by
    constructor
    · rfl
    · rfl
    · rw [Json.Value.sameDict_iff]
    · rfl
  symm := by
    intro first second agrees
    constructor
    · exact agrees.kind.symm
    · exact agrees.span.symm
    · have properties := agrees.properties
      rw [Json.Value.sameDict_iff] at properties ⊢
      exact properties.symm
    · exact agrees.comments.symm
  trans := by
    intro first second third before behind
    constructor
    · exact before.kind.trans behind.kind
    · exact before.span.trans behind.span
    · have properties := before.properties
      have propertiesBehind := behind.properties
      rw [Json.Value.sameDict_iff] at properties propertiesBehind ⊢
      exact properties.trans propertiesBehind
    · exact before.comments.trans behind.comments

end Header

end Cascade
