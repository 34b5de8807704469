import Cascade.Proofs.TreeEquality

/-!
# Copies of trees

A tree is copied by a loop over a stack of unfinished nodes.  A node waits below its child
until the copy of that child is handed over to it, and the number of copies it then has is
the index of the child that comes next.  Whatever waits below, the loop hands over the tree
itself, and it never runs out of nodes before the outermost one is copied.
-/

namespace Cascade.Node

/-- How copying goes on when the innermost node is copied: its copy is handed over to the
node that waits for it, or is the answer. -/
def handOver (outer : List Unfinished) (copied : Node) : Option Node :=
  match outer with
  | [] => some copied
  | parent :: above => copyPending (parent.attach copied :: above)

variable {innermost : Unfinished} {outer : List Unfinished}

theorem copyPending_of_next {child : Node} (next : innermost.next? = some child) :
    copyPending (innermost :: outer) = copyPending (.start child :: innermost :: outer) := by
  rw [copyPending.eq_def]
  dsimp only
  split
  next other following =>
    cases next.symm.trans following
    rfl
  next following =>
    rw [next] at following
    cases following

theorem copyPending_of_last (last : innermost.next? = none) :
    copyPending (innermost :: outer) = handOver outer innermost.close := by
  rw [copyPending.eq_def]
  dsimp only
  split
  next child following =>
    rw [last] at following
    cases following
  next => cases outer <;> rfl

/-- A node some of whose children are copied already. -/
def Unfinished.between (header : Header) (done rest : List Node) : Unfinished :=
  ⟨header, (done ++ rest).toArray, done.toArray⟩

theorem Unfinished.next?_between (header : Header) (done rest : List Node) :
    (between header done rest).next? = rest.head? := by
  rw [next?, between]
  cases rest <;> simp

theorem Unfinished.attach_between (header : Header) (done rest : List Node) (child : Node) :
    (between header done (child :: rest)).attach child = between header (done ++ [child]) rest := by
  simp [between, attach]

mutual

/-- A node is handed over as it is. -/
theorem copyPending_start : ∀ (node : Node) (outer : List Unfinished),
    copyPending (.start node :: outer) = handOver outer node
  | mk header children, outer => copyPending_between header [] children outer

/-- So is a node some of whose children are copied already; the cursor stands before the
first of the others. -/
theorem copyPending_between (header : Header) : ∀ (done rest : List Node)
    (outer : List Unfinished),
    copyPending (.between header done rest :: outer) = handOver outer (mk header (done ++ rest))
  | done, [], outer => by
      have last : (Unfinished.between header done []).next? = none :=
        Unfinished.next?_between header done []
      rw [copyPending_of_last last, Unfinished.close, Unfinished.between, List.append_nil]
  | done, child :: rest, outer => by
      have next : (Unfinished.between header done (child :: rest)).next? = some child :=
        Unfinished.next?_between header done (child :: rest)
      calc
        copyPending (.between header done (child :: rest) :: outer)
          = copyPending (.start child :: .between header done (child :: rest) :: outer) :=
            copyPending_of_next next
        _ = handOver (.between header done (child :: rest) :: outer) child :=
            copyPending_start child _
        _ = copyPending (.between header (done ++ [child]) rest :: outer) := by
            rw [handOver, Unfinished.attach_between]
        _ = handOver outer (mk header (done ++ [child] ++ rest)) :=
            copyPending_between header (done ++ [child]) rest outer
        _ = handOver outer (mk header (done ++ child :: rest)) := by
            rw [List.append_assoc, List.singleton_append]

end

/-- A copy is there, and it is the tree itself. -/
theorem copy_eq (node : Node) : node.copy = some node :=
  copyPending_start node []

/-- Copying answers the tree: the same headers in the same places.  The comparison answers
whether two trees have the same shape and agree in every place of it, so that it is an
equivalence which parts of trees may be exchanged under, and every copy is equal to its
original.  A tree with an equal part put in its place is equal to the tree as it was, and
the part hangs there. -/
theorem copied_and_compared :
    (∀ node : Node, node.copy = some node) ∧
      (∀ first second : Node, first.equal second = true ↔ first.Alike second) ∧
      (Equivalence fun first second : Node => first.equal second = true) ∧
      (∀ (whole other first second : Node) (path : List Nat), whole.equal other = true →
        first.equal second = true →
        (whole.graft path first).equal (other.graft path second) = true) ∧
      (∀ (whole old new : Node) (path : List Nat), whole.below? path = some old →
        old.equal new = true →
        whole.equal (whole.graft path new) = true ∧
          (whole.graft path new).below? path = some new) ∧
      ∀ node : Node, ∃ copied, node.copy = some copied ∧ copied.equal node = true := by
  have equivalence : Equivalence fun first second : Node => first.equal second = true := by
    simp only [equal_iff_alike]
    exact alike_equivalence
  refine ⟨copy_eq, equal_iff_alike, equivalence, ?_, ?_, ?_⟩
  · intro whole other first second path wholes parts
    rw [equal_iff_alike] at wholes parts ⊢
    exact wholes.graft parts path
  · intro whole old new path present parts
    rw [equal_iff_alike] at parts ⊢
    have exchanged := (alike_equivalence.refl whole).graft parts path
    rw [graft_of_below present] at exchanged
    exact ⟨exchanged, below?_graft present new⟩
  · intro node
    exact ⟨node, copy_eq node, equivalence.refl node⟩

/-- A statement with a zero for a property. -/
def zeroStatement (negative : Bool) : Node :=
  (ofKind .statement).withProperty "value" (.number (.float (.zero negative)))

/-- Statements that differ in the sign of a zero may be exchanged below a program. -/
theorem copied_and_compared_zeros :
    zeroStatement true ≠ zeroStatement false ∧
      (zeroStatement true).equal (zeroStatement false) = true ∧
      (program [ofKind .block, zeroStatement true]).equal
        (program [ofKind .block, zeroStatement false]) = true := by
  have different : zeroStatement true ≠ zeroStatement false := by
    intro same
    have values : some (Json.Value.number (.float (.zero true))) =
        some (Json.Value.number (.float (.zero false))) :=
      congrArg (·.property? "value") same
    simp [Decimal.Binary64.zero] at values
  have parts : (zeroStatement true).equal (zeroStatement false) = true := by
    rw [equal_eq_same]
    rfl
  obtain ⟨_, _, _, _, exchanges, _⟩ := copied_and_compared
  constructor
  · exact different
  · exact ⟨parts, (exchanges (program [ofKind .block, zeroStatement true]) _ _ [1] rfl parts).1⟩

end Cascade.Node
