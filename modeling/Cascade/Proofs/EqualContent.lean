import Cascade.Proofs.CacheKeys
import Cascade.Proofs.ChainClosure
import Cascade.Proofs.Resumption
import Cascade.Proofs.Stateless
import Cascade.Proofs.TreeEquality
import Mathlib.Data.List.Forall2

/-!
# Equal content

Requests are compared by content, and two zeros compare equal whatever their signs,
although they are written and digested differently.  That is the only difference
which comparison does not see: requests that compare equal have the same content,
and then the same keys, as soon as the signs of their zeros agree.
-/

namespace Cascade

namespace Json

/-! ## Numbers -/

namespace Number

/-- The sign of a number that is one of the two zeros of the doubles. -/
def zeroSign? : Number → Option Bool
  | integer _ => none
  | float value => if value.isZero then some value.negative else none

/-- The signs of the zeros in a list of numbers. -/
def zeroSigns (numbers : List Number) : List Bool :=
  numbers.filterMap zeroSign?

theorem isSome_zeroSign?_of_same {first second : Number} (same : first.same second = true) :
    first.zeroSign?.isSome = second.zeroSign?.isSome := by
  cases first with
  | integer value =>
      cases second with
      | integer other => rfl
      | float other => exact nomatch same
  | float value =>
      cases second with
      | integer other => exact nomatch same
      | float other =>
          have ranks : value.rank = other.rank := eq_of_beq (Bool.and_eq_true_iff.mp same).1
          simp only [zeroSign?, Decimal.Binary64.isZero, ranks]
          by_cases zero : (other.rank == 0) = true <;> simp [zero]

/-- Equal numbers are the same number unless they are zeros of different signs. -/
theorem eq_of_same {first second : Number} (same : first.same second = true)
    (signs : first.zeroSign? = second.zeroSign?) : first = second := by
  cases first with
  | integer value =>
      cases second with
      | integer other => exact congrArg integer (eq_of_beq same)
      | float other => exact nomatch same
  | float value =>
      cases second with
      | integer other => exact nomatch same
      | float other =>
          obtain ⟨negative, rank, rank_lt⟩ := value
          obtain ⟨negativeOther, rankOther, rank_ltOther⟩ := other
          obtain ⟨ranks, sameSign⟩ := Bool.and_eq_true_iff.mp same
          cases (eq_of_beq ranks : rank = rankOther)
          have sameNegative : negative = negativeOther := by
            rcases Bool.or_eq_true_iff.mp sameSign with here | zero
            · exact eq_of_beq here
            · have isZero : rank = 0 := eq_of_beq zero
              simpa [zeroSign?, Decimal.Binary64.isZero, isZero] using signs
          rw [sameNegative]

end Number

/-- The numbers of two pieces of data pair up as equal ones, and if they are the very
same then so are the pieces: these differ in the signs of zeros at most. -/
structure UpToZeros (firsts seconds : List Number) (identical : Prop) : Prop where
  paired : List.Forall₂ (fun first second => first.same second = true) firsts seconds
  identify : firsts = seconds → identical

namespace UpToZeros

variable {firsts seconds behind other : List Number} {identical further : Prop}

theorem of_identical (same : identical) : UpToZeros [] [] identical :=
  ⟨.nil, fun _ => same⟩

theorem imp (upToZeros : UpToZeros firsts seconds identical) (implied : identical → further) :
    UpToZeros firsts seconds further :=
  ⟨upToZeros.paired, fun same => implied (upToZeros.identify same)⟩

theorem append (first : UpToZeros firsts seconds identical)
    (second : UpToZeros behind other further) :
    UpToZeros (firsts ++ behind) (seconds ++ other) (identical ∧ further) := by
  constructor
  · exact List.rel_append first.paired second.paired
  · intro same
    obtain ⟨early, late⟩ := List.append_inj same first.paired.length_eq
    exact ⟨first.identify early, second.identify late⟩

/-- What is equal up to zeros is the same if the signs of the zeros are. -/
theorem of_zeroSigns (upToZeros : UpToZeros firsts seconds identical)
    (signs : Number.zeroSigns firsts = Number.zeroSigns seconds) : identical := by
  obtain ⟨paired, identify⟩ := upToZeros
  apply identify
  clear identify
  induction paired with
  | nil => rfl
  | @cons first second firsts seconds same _ inductionHypothesis =>
      have sameKind := Number.isSome_zeroSign?_of_same same
      unfold Number.zeroSigns at signs
      rw [List.filterMap_cons, List.filterMap_cons] at signs
      cases sign : first.zeroSign? with
      | none =>
          have signOther : second.zeroSign? = none := by
            rw [sign] at sameKind
            exact Option.isNone_iff_eq_none.mp (by simpa using sameKind.symm)
          rw [sign, signOther] at signs
          rw [Number.eq_of_same same (sign.trans signOther.symm), inductionHypothesis signs]
      | some negative =>
          rw [sign] at sameKind
          obtain ⟨negativeOther, signOther⟩ := Option.isSome_iff_exists.mp sameKind.symm
          rw [sign, signOther] at signs
          obtain ⟨sameNegative, rest⟩ := List.cons.inj signs
          rw [sameNegative] at sign
          rw [Number.eq_of_same same (sign.trans signOther.symm), inductionHypothesis rest]

end UpToZeros

/-! ## Values -/

namespace Value

mutual

theorem upToZeros : ∀ first second : Value, first.same second = true →
    UpToZeros first.numbers second.numbers (first = second)
  | null, second, equal => by
      cases second with
      | null => exact .of_identical rfl
      | _ => exact nomatch equal
  | bool value, second, equal => by
      cases second with
      | bool other => exact .of_identical (congrArg bool (eq_of_beq equal))
      | _ => exact nomatch equal
  | number value, second, equal => by
      cases second with
      | number other =>
          exact ⟨.cons equal .nil, fun numbers => congrArg number (List.cons.inj numbers).1⟩
      | _ => exact nomatch equal
  | string text, second, equal => by
      cases second with
      | string other => exact .of_identical (congrArg string (eq_of_beq equal))
      | _ => exact nomatch equal
  | array items, second, equal => by
      cases second with
      | array others => exact (upToZerosItems items others equal).imp (congrArg array)
      | _ => exact nomatch equal
  | object members, second, equal => by
      cases second with
      | object others => exact (upToZerosMembers members others equal).imp (congrArg object)
      | _ => exact nomatch equal

theorem upToZerosItems : ∀ items others : List Value, sameItems items others = true →
    UpToZeros (numbersOfItems items) (numbersOfItems others) (items = others)
  | [], [], _ => .of_identical rfl
  | [], _ :: _, equal => nomatch equal
  | _ :: _, [], equal => nomatch equal
  | item :: rest, other :: others, equal => by
      obtain ⟨equalItem, equalRest⟩ := Bool.and_eq_true_iff.mp equal
      refine ((upToZeros item other equalItem).append
        (upToZerosItems rest others equalRest)).imp ?_
      rintro ⟨rfl, rfl⟩
      rfl

theorem upToZerosMembers : ∀ members others : List (String × Value),
    sameMembers members others = true →
      UpToZeros (numbersOfMembers members) (numbersOfMembers others) (members = others)
  | [], [], _ => .of_identical rfl
  | [], _ :: _, equal => nomatch equal
  | _ :: _, [], equal => nomatch equal
  | (key, value) :: rest, (name, other) :: others, equal => by
      obtain ⟨equalMember, equalRest⟩ := Bool.and_eq_true_iff.mp equal
      obtain ⟨equalKey, equalValue⟩ := Bool.and_eq_true_iff.mp equalMember
      refine ((upToZeros value other equalValue).append
        (upToZerosMembers rest others equalRest)).imp ?_
      rintro ⟨rfl, rfl⟩
      rw [eq_of_beq equalKey]

end

theorem upToZerosDict {first second : Dict Value} (equal : sameDict first second = true) :
    UpToZeros (numbersOfDict first) (numbersOfDict second) (first = second) :=
  (upToZerosMembers first.entries second.entries equal).imp Dict.ext

end Value

end Json

open Json

/-! ## Trees -/

theorem Header.upToZeros {first second : Header} (equal : first.same second = true) :
    UpToZeros first.numbers second.numbers (first = second) := by
  obtain ⟨equalBefore, equalComments⟩ := Bool.and_eq_true_iff.mp equal
  obtain ⟨equalBefore, equalProperties⟩ := Bool.and_eq_true_iff.mp equalBefore
  obtain ⟨equalKind, equalSpan⟩ := Bool.and_eq_true_iff.mp equalBefore
  refine (Value.upToZerosDict equalProperties).imp fun properties => ?_
  obtain ⟨kind, span, _, comments⟩ := first
  obtain ⟨kindOther, spanOther, _, commentsOther⟩ := second
  cases properties
  cases (eq_of_beq equalKind : kind = kindOther)
  cases (eq_of_beq equalSpan : span = spanOther)
  cases (eq_of_beq equalComments : comments = commentsOther)
  rfl

namespace Node

mutual

/-- Trees that the recursion finds equal are equal up to zeros. -/
theorem upToZerosSame : ∀ first second : Node, first.same second = true →
    UpToZeros first.numbers second.numbers (first = second)
  | mk header children, mk other others, equal => by
      obtain ⟨equalHeader, equalChildren⟩ := Bool.and_eq_true_iff.mp equal
      refine ((Header.upToZeros equalHeader).append
        (upToZerosSameAll children others equalChildren)).imp ?_
      rintro ⟨rfl, rfl⟩
      rfl

theorem upToZerosSameAll : ∀ firsts seconds : List Node, sameAll firsts seconds = true →
    UpToZeros (numbersOfHeaders (listingAll firsts)) (numbersOfHeaders (listingAll seconds))
      (firsts = seconds)
  | [], [], _ => .of_identical rfl
  | [], _ :: _, equal => nomatch equal
  | _ :: _, [], equal => nomatch equal
  | first :: rest, second :: others, equal => by
      obtain ⟨equalFirst, equalRest⟩ := Bool.and_eq_true_iff.mp equal
      rw [listingAll, listingAll, numbersOfHeaders, numbersOfHeaders, List.flatMap_append,
        List.flatMap_append]
      refine ((upToZerosSame first second equalFirst).append
        (upToZerosSameAll rest others equalRest)).imp ?_
      rintro ⟨rfl, rfl⟩
      rfl

end

theorem upToZeros {first second : Node} (equal : first.equal second = true) :
    UpToZeros first.numbers second.numbers (first = second) :=
  upToZerosSame first second ((equal_eq_same first second).symm.trans equal)

end Node

/-- Nodes without children are compared by their headers. -/
theorem Node.equal_of_leaf {header other : Header} (equal : header.same other = true) :
    (Node.mk header []).equal (Node.mk other []) = true := by
  rw [Node.equal, Node.equalPending]
  simp [equal, Node.equalPending]

/-- A node without children is digested alone. -/
theorem Node.digest_of_leaf {node : Node} (leaf : node.children = []) :
    node.digest = Digest.ofBytes (ByteArray.empty ++ node.frame) := by
  have nodes : node.preorder.toList = [node] := by
    rw [toList_preorder, listing_eq, leaf]
    rfl
  rw [digest, canonicalBytes, ← Array.foldl_toList, nodes]
  rfl

/-! ## Projects -/

namespace TransformEntry

theorem upToZeros {first second : TransformEntry} (equal : first.same second = true) :
    UpToZeros first.numbers second.numbers (first = second) := by
  cases first with
  | bare id =>
      cases second with
      | bare other => exact .of_identical (congrArg bare (eq_of_beq equal))
      | detailed other others => exact nomatch equal
  | detailed id options =>
      cases second with
      | bare other => exact nomatch equal
      | detailed other others =>
          obtain ⟨equalId, equalOptions⟩ := Bool.and_eq_true_iff.mp equal
          refine (Value.upToZerosDict equalOptions).imp fun sameOptions => ?_
          rw [eq_of_beq equalId, sameOptions]

end TransformEntry

namespace Project

theorem upToZerosLists {firsts seconds : List TransformEntry}
    (equal : sameLists firsts seconds = true) :
    UpToZeros (firsts.flatMap TransformEntry.numbers) (seconds.flatMap TransformEntry.numbers)
      (firsts = seconds) := by
  induction firsts generalizing seconds with
  | nil =>
      cases seconds with
      | nil => exact .of_identical rfl
      | cons second rest => exact nomatch equal
  | cons first firsts inductionHypothesis =>
      cases seconds with
      | nil => exact nomatch equal
      | cons second seconds =>
          obtain ⟨equalFirst, equalRest⟩ := Bool.and_eq_true_iff.mp equal
          rw [List.flatMap_cons, List.flatMap_cons]
          refine ((TransformEntry.upToZeros equalFirst).append
            (inductionHypothesis equalRest)).imp ?_
          rintro ⟨rfl, rfl⟩
          rfl

theorem upToZerosTables {firsts seconds : Entries (List TransformEntry)}
    (equal : sameTables firsts seconds = true) :
    UpToZeros (firsts.flatMap fun entry => entry.2.flatMap TransformEntry.numbers)
      (seconds.flatMap fun entry => entry.2.flatMap TransformEntry.numbers)
      (firsts = seconds) := by
  induction firsts generalizing seconds with
  | nil =>
      cases seconds with
      | nil => exact .of_identical rfl
      | cons second rest => exact nomatch equal
  | cons first firsts inductionHypothesis =>
      cases seconds with
      | nil => exact nomatch equal
      | cons second seconds =>
          obtain ⟨equalBefore, equalRest⟩ := Bool.and_eq_true_iff.mp equal
          obtain ⟨equalStage, equalList⟩ := Bool.and_eq_true_iff.mp equalBefore
          rw [List.flatMap_cons, List.flatMap_cons]
          refine ((upToZerosLists equalList).append (inductionHypothesis equalRest)).imp ?_
          rintro ⟨sameList, rfl⟩
          rw [Prod.ext (eq_of_beq equalStage) sameList]

theorem upToZeros {first second : Project} (equal : first.same second = true) :
    UpToZeros first.numbers second.numbers (first = second) := by
  obtain ⟨equalBefore, equalSettings⟩ := Bool.and_eq_true_iff.mp equal
  obtain ⟨equalName, equalTransforms⟩ := Bool.and_eq_true_iff.mp equalBefore
  refine ((upToZerosTables equalTransforms).append (Value.upToZerosDict equalSettings)).imp ?_
  rintro ⟨sameTransforms, sameSettings⟩
  obtain ⟨name, transforms, _⟩ := first
  obtain ⟨nameOther, transformsOther, _⟩ := second
  cases (eq_of_beq equalName : name = nameOther)
  cases Dict.ext sameTransforms
  cases sameSettings
  rfl

end Project

/-! ## Dictionaries that are built -/

/-- Bindings with the same last one of every key build the same dictionary. -/
theorem Dict.ofList_congr {α : Type} {bindings others : List (String × α)}
    (same : ∀ key, bindings.reverse.lookup key = others.reverse.lookup key) :
    ofList bindings = ofList others := by
  apply Dict.ext_get?
  intro key
  rw [get?, get?, ofList, ofList, Entries.lookup_insertAll, Entries.lookup_insertAll, same]

/-! ## Requests -/

namespace Request

/-- The requests are for trees, options and projects that compare equal. -/
structure Equal (first second : Request) : Prop where
  tree : first.tree.equal second.tree = true
  options : first.options.same second.options = true
  project : first.project.same second.project = true

/-- The signs of the zeros in a request. -/
def zeroSigns (request : Request) : List Bool :=
  Number.zeroSigns request.numbers

variable {first second : Request}

theorem Equal.upToZeros (equal : first.Equal second) :
    UpToZeros first.numbers second.numbers (first.SameContent second) := by
  refine ((Node.upToZeros equal.tree).append
    ((Value.upToZerosDict equal.options).append (Project.upToZeros equal.project))).imp ?_
  rintro ⟨sameTree, sameOptions, sameProject⟩
  exact ⟨sameTree, sameOptions, sameProject⟩

theorem SameContent.fingerprint (same : first.SameContent second) :
    first.fingerprint = second.fingerprint := by
  rw [Request.fingerprint, Request.fingerprint, same.tree, same.options, same.project]

/-- Equal requests have the same content exactly if the signs of their zeros agree. -/
theorem Equal.sameContent_iff (equal : first.Equal second) :
    first.SameContent second ↔ first.zeroSigns = second.zeroSigns := by
  constructor
  · intro same
    rw [zeroSigns, zeroSigns, numbers, numbers, same.tree, same.options, same.project]
  · exact equal.upToZeros.of_zeroSigns

end Request

open Pipeline in
/-- A request that is answered is answered again from the same entry, under whatever
request of the same content for the same stage. -/
theorem Request.SameContent.serve_again {first second : Request}
    (same : first.SameContent second) {σ : Type} {pipeline : Pipeline σ}
    (enabled : pipeline.cacheEnabled = true) {session : Session σ} (fits : pipeline.Fits session)
    (sameStage : first.stage = second.stage) {outcome : Outcome}
    (answered : (pipeline.serve first session).1 = .ok outcome) :
    ∃ target, pipeline.registry.target second.stage = .ok target ∧
      pipeline.serve second (pipeline.serve first session).2 =
        (.ok outcome, (pipeline.serve first session).2.hit target) := by
  cases asked : pipeline.registry.target second.stage with
  | error failure =>
      rw [serve_of_unknown (sameStage ▸ asked)] at answered
      exact nomatch answered
  | ok target =>
      have askedFirst : pipeline.registry.target first.stage = .ok target := sameStage ▸ asked
      have resolves := outcomeAt_resolves first first.fingerprint enabled target.isLt fits
      rw [← serve_of_target askedFirst] at resolves
      have held := resolves.holds fits answered
      rw [same.fingerprint] at held
      refine ⟨target, rfl, ?_⟩
      rw [serve_of_target asked]
      exact outcomeAt_of_held enabled (resolves.fits fits) target.isLt held

namespace Request

/-- Requests that compare equal, with zeros of the same signs, have the same content
and for every stage the same key, and the second one is served from the entry of the
first.  How dictionaries were built does not matter: only the last binding of a key
counts, at any depth. -/
theorem key_eq_of_equal (first second : Request) (equal : first.Equal second)
    (signs : first.zeroSigns = second.zeroSigns) :
    first.SameContent second ∧
    (∀ stage, first.key stage = second.key stage) ∧
    (∀ {σ : Type} (pipeline : Pipeline σ) (session : Session σ), pipeline.cacheEnabled = true →
      pipeline.Reachable session → first.stage = second.stage → ∀ outcome,
        (pipeline.serve first session).1 = .ok outcome →
          ∃ target, pipeline.registry.target second.stage = .ok target ∧
            pipeline.serve second (pipeline.serve first session).2 =
              (.ok outcome, (pipeline.serve first session).2.hit target)) ∧
    ∀ bindings others : List (String × Value),
      (∀ key, bindings.reverse.lookup key = others.reverse.lookup key) →
        Dict.ofList bindings = Dict.ofList others ∧
          Value.ofMembers bindings = Value.ofMembers others := by
  have same := equal.sameContent_iff.mpr signs
  refine ⟨same, ?_, ?_, ?_⟩
  · intro stage
    exact congrArg (fun fingerprint => fingerprint.inStage stage) same.fingerprint
  · intro σ pipeline session enabled reachable sameStage outcome answered
    exact same.serve_again enabled reachable.inOrder.1 sameStage answered
  · intro bindings others sameBindings
    have sameDict := Dict.ofList_congr sameBindings
    exact ⟨sameDict, congrArg Value.ofDict sameDict⟩

/-- A request for an empty program with a zero for a property, and with options that
were set one after another. -/
def zeroed (negative : Bool) (options : List (String × Value)) : Request where
  tree := (Node.program []).withProperty "a" (.number (.float (.zero negative)))
  options := Dict.ofList options

theorem zeroed_equal (negative other : Bool) {options others : List (String × Value)}
    (equalOptions : Options.same (Dict.ofList options) (Dict.ofList others) = true) :
    (zeroed negative options).Equal (zeroed other others) := by
  refine ⟨Node.equal_of_leaf ?_, equalOptions, rfl⟩
  cases negative <;> cases other <;> rfl

/-- The same options, set in another order, make no difference. -/
theorem zeroed_key_eq :
    let early := zeroed true [("limit", .ofNat 3), ("depth", .ofNat 1), ("limit", .ofNat 10)]
    let late := zeroed true [("limit", .ofNat 10), ("depth", .ofNat 1)]
    early.Equal late ∧ early.zeroSigns = late.zeroSigns ∧
      ∀ stage, early.key stage = late.key stage := by
  intro early late
  have equal : early.Equal late := zeroed_equal true true (by decide)
  have signs : early.zeroSigns = late.zeroSigns := by decide
  exact ⟨equal, signs, (key_eq_of_equal early late equal signs).2.1⟩

/-- The sign of a zero does: the requests compare equal, and have different keys. -/
theorem zeroed_key_ne :
    (zeroed false []).Equal (zeroed true []) ∧
      ∀ stage, (zeroed false []).key stage ≠ (zeroed true []).key stage := by
  refine ⟨zeroed_equal false true rfl, fun stage same => ?_⟩
  have digests : (zeroed false []).tree.digest = (zeroed true []).tree.digest :=
    congrArg (fun key => key.fingerprint.tree) same
  rw [Node.digest_of_leaf rfl, Node.digest_of_leaf rfl] at digests
  exact absurd digests (by decide +kernel)

end Request

end Cascade
