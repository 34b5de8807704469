import Cascade.Proofs.Tours
import Cascade.Proofs.ValueEquality
import Mathlib.Data.List.Forall2

/-!
# Equality of trees, place by place

Trees are compared by a loop over pairs of trees that are still pending.  It answers as the
recursion does, and two trees are equal exactly if every path of child indices either leads
to nodes that agree in both of them, or leads nowhere in either.  Equality of trees is
therefore an equivalence, and equal trees may stand for one another anywhere in a tree.
-/

namespace Cascade.Node

/-! ## Alike trees -/

/-- There is a node on both sides and the two agree, or there is none. -/
abbrev Agree : Option Node → Option Node → Prop :=
  Option.Rel fun first second => first.header.Agrees second.header

/-- The trees have the same shape, and in every place of it their nodes agree. -/
def Alike (first second : Node) : Prop :=
  ∀ path, Agree (first.below? path) (second.below? path)

theorem agree_equivalence : Equivalence Agree where
  refl found := by
    cases found with
    | none => exact .none
    | some node => exact .some (Header.agrees_equivalence.refl node.header)
  symm agree := by
    cases agree with
    | none => exact .none
    | some agrees => exact .some (Header.agrees_equivalence.symm agrees)
  trans before behind := by
    cases before with
    | none => exact behind
    | some agrees =>
        cases behind with
        | some others => exact .some (Header.agrees_equivalence.trans agrees others)

theorem alike_equivalence : Equivalence Alike where
  refl node path := agree_equivalence.refl (node.below? path)
  symm alike path := agree_equivalence.symm (alike path)
  trans before behind path := agree_equivalence.trans (before path) (behind path)

/-- Lists of trees are alike one by one exactly if they are at every index. -/
theorem forall₂_alike_iff {firsts seconds : List Node} :
    List.Forall₂ Alike firsts seconds ↔
      ∀ index : Nat, Option.Rel Alike firsts[index]? seconds[index]? := by
  constructor
  · intro pairs
    induction pairs with
    | nil => exact fun _ => .none
    | cons alike _ inductionHypothesis =>
        intro index
        cases index with
        | zero => exact .some alike
        | succ index => exact inductionHypothesis index
  · intro pairs
    induction firsts generalizing seconds with
    | nil =>
        cases seconds with
        | nil => exact .nil
        | cons second rest => exact nomatch pairs 0
    | cons first rest inductionHypothesis =>
        cases seconds with
        | nil => exact nomatch pairs 0
        | cons second others =>
            have heads : Option.Rel Alike (some first) (some second) := pairs 0
            exact .cons (Option.rel_some_some.mp heads)
              (inductionHypothesis fun index => pairs (index + 1))

/-- Trees are alike exactly if their roots agree and their children are alike. -/
theorem alike_iff (first second : Node) :
    first.Alike second ↔
      first.header.Agrees second.header ∧ List.Forall₂ Alike first.children second.children := by
  constructor
  · intro alike
    constructor
    · have roots : Agree (some first) (some second) := alike []
      cases roots with
      | some agrees => exact agrees
    · rw [forall₂_alike_iff]
      intro index
      have below : ∀ path, Agree (first.children[index]?.bind fun child => child.below? path)
          (second.children[index]?.bind fun child => child.below? path) :=
        fun path => alike (index :: path)
      generalize first.children[index]? = child at below ⊢
      generalize second.children[index]? = other at below ⊢
      cases child with
      | none =>
          cases other with
          | none => exact .none
          | some other => exact nomatch below []
      | some child =>
          cases other with
          | none => exact nomatch below []
          | some other => exact .some below
  · rintro ⟨agrees, children⟩ path
    cases path with
    | nil => exact .some agrees
    | cons index path =>
        have pair := forall₂_alike_iff.mp children index
        rw [below?, below?]
        generalize first.children[index]? = child at pair ⊢
        generalize second.children[index]? = other at pair ⊢
        cases pair with
        | none => exact .none
        | some alike => exact alike path

/-! ## The recursion and the loop -/

mutual

/-- The recursion on two trees answers whether they are alike. -/
theorem same_iff_alike : ∀ first second : Node, first.same second = true ↔ first.Alike second
  | mk header children, mk other others => by
      rw [same, Bool.and_eq_true, Header.same_iff_agrees, sameAll_iff children others, alike_iff]
      rfl

theorem sameAll_iff : ∀ firsts seconds : List Node,
    sameAll firsts seconds = true ↔ List.Forall₂ Alike firsts seconds
  | [], [] => by simp [sameAll]
  | [], _ :: _ => by simp [sameAll]
  | _ :: _, [] => by simp [sameAll]
  | first :: rest, second :: others => by
      rw [sameAll, Bool.and_eq_true, same_iff_alike first second, sameAll_iff rest others,
        List.forall₂_cons]

end

theorem sameAll_eq (firsts seconds : List Node) :
    sameAll firsts seconds =
      (firsts.length == seconds.length &&
        (firsts.zip seconds).all fun pair => pair.1.same pair.2) := by
  induction firsts generalizing seconds with
  | nil => cases seconds <;> rfl
  | cons first rest inductionHypothesis =>
      cases seconds with
      | nil => rfl
      | cons second others =>
          simp [sameAll, inductionHypothesis, Bool.and_left_comm]

/-- The loop answers whether the recursion finds all pending pairs equal, in whatever order
it comes to them. -/
theorem equalPending_eq (pending : List (Node × Node)) :
    equalPending pending = pending.all fun pair => pair.1.same pair.2 := by
  induction pending using equalPending.induct with
  | case1 => rw [equalPending, List.all_nil]
  | case2 first second rest sameShape inductionHypothesis =>
      obtain ⟨sameHeader, sameCount⟩ := Bool.and_eq_true_iff.mp sameShape
      have root : first.same second =
          (first.children.zip second.children).all fun pair => pair.1.same pair.2 := by
        rw [← mk_header_children first, ← mk_header_children second, same, sameAll_eq, sameHeader,
          sameCount]
        rfl
      rw [equalPending, if_pos sameShape, inductionHypothesis, List.all_append, List.all_reverse,
        List.all_cons, root]
  | case3 first second rest different =>
      have root : first.same second = false := by
        rw [← mk_header_children first, ← mk_header_children second, same, sameAll_eq,
          ← Bool.and_assoc, Bool.eq_false_iff.mpr different, Bool.false_and]
      rw [equalPending, if_neg different, List.all_cons, root, Bool.false_and]

theorem equal_eq_same (first second : Node) : first.equal second = first.same second := by
  rw [equal, equalPending_eq]
  simp

/-- The loop answers whether the trees are alike. -/
theorem equal_iff_alike (first second : Node) :
    first.equal second = true ↔ first.Alike second := by
  rw [equal_eq_same, same_iff_alike]

/-! ## Trees within trees -/

/-- The tree with a part put in place of what hangs at the end of a path; a path that leads
nowhere changes nothing. -/
def graft (whole : Node) : List Nat → Node → Node
  | [], part => part
  | index :: path, part =>
      whole.withChildren (whole.children.modify index fun child => child.graft path part)

/-- At the end of the path hangs what was put there. -/
theorem below?_graft {whole old : Node} {path : List Nat} (present : whole.below? path = some old)
    (part : Node) : (whole.graft path part).below? path = some part := by
  induction path generalizing whole with
  | nil => rfl
  | cons index path inductionHypothesis =>
      obtain ⟨child, here, behind⟩ := below?_cons_iff.mp present
      rw [graft, below?, withChildren, children_mk, List.getElem?_modify, here]
      simpa using inductionHypothesis behind

/-- What hangs in a place may be put there. -/
theorem graft_of_below {whole old : Node} {path : List Nat}
    (present : whole.below? path = some old) : whole.graft path old = whole := by
  induction path generalizing whole with
  | nil => exact (Option.some.inj present).symm
  | cons index path inductionHypothesis =>
      obtain ⟨child, here, behind⟩ := below?_cons_iff.mp present
      have children : whole.children.modify index (fun child => child.graft path old) =
          whole.children := by
        apply List.ext_getElem?
        intro place
        rw [List.getElem?_modify]
        by_cases same : index = place
        · rw [← same, here]
          simp [inductionHypothesis behind]
        · simp [same]
      rw [graft, children, withChildren, mk_header_children]

/-- Alike parts in alike trees leave the trees alike. -/
theorem Alike.graft {whole other first second : Node} (wholes : whole.Alike other)
    (parts : first.Alike second) (path : List Nat) :
    (whole.graft path first).Alike (other.graft path second) := by
  induction path generalizing whole other with
  | nil => exact parts
  | cons index path inductionHypothesis =>
      obtain ⟨agrees, children⟩ := (alike_iff whole other).mp wholes
      rw [alike_iff]
      refine ⟨agrees, forall₂_alike_iff.mpr fun place => ?_⟩
      have pair := forall₂_alike_iff.mp children place
      rw [Node.graft, Node.graft, withChildren, withChildren, children_mk, children_mk,
        List.getElem?_modify, List.getElem?_modify]
      generalize whole.children[place]? = child at pair ⊢
      generalize other.children[place]? = another at pair ⊢
      cases pair with
      | none => exact .none
      | some alike =>
          by_cases same : index = place
          · simpa [same] using inductionHypothesis alike
          · simpa [same] using alike

end Cascade.Node
