import Cascade.Proofs.CanonicalText
import Cascade.Proofs.Listing
import Mathlib.Algebra.Group.Nat.Defs

/-!
# Canonical bytes determine the tree

The eight bytes in front of a header tell where its text ends, so that a stream of
headers is cut in one way.  The child counts in the headers tell the shape: a list
of trees is read back from the headers in pre-order, provided that its length is
known, and one tree is a list of length one.
-/

namespace Cascade

open Json

/-! ## Frames -/

theorem length_lengthBytes (length : Nat) : (lengthBytes length).data.toList.length = 8 := by
  simp [lengthBytes]

/-- The last bytes of a number determine its remainder. -/
theorem mod_eq_of_bytes_eq {first second : Nat} (count : Nat)
    (bytes : ∀ index < count, first / 256 ^ index % 256 = second / 256 ^ index % 256) :
    first % 256 ^ count = second % 256 ^ count := by
  induction count with
  | zero => rw [Nat.pow_zero, Nat.mod_one, Nat.mod_one]
  | succ count inductionHypothesis =>
      have low := inductionHypothesis fun index below => bytes index (Nat.lt_succ_of_lt below)
      rw [Nat.mod_pow_succ, Nat.mod_pow_succ, low, bytes count (Nat.lt_succ_self count)]

/-- Lengths of 64 bits are told apart by their eight bytes. -/
theorem lengthBytes_injective {first second : Nat} (small : first < UInt64.size)
    (smallOther : second < UInt64.size)
    (same : (lengthBytes first).data.toList = (lengthBytes second).data.toList) :
    first = second := by
  have remainders : first % 256 ^ 8 = second % 256 ^ 8 := by
    apply mod_eq_of_bytes_eq
    intro index inRange
    have byte := congrArg (fun list => list[index]?.map UInt8.toNat) same
    simpa [lengthBytes, inRange, Nat.shiftRight_eq_div_pow, Nat.pow_mul] using byte
  have size : 256 ^ 8 = UInt64.size := rfl
  rwa [size, Nat.mod_eq_of_lt small, Nat.mod_eq_of_lt smallOther] at remainders

namespace Node

/-- The text of a node's header. -/
def headerText (node : Node) : String :=
  node.header.compact node.children.length

/-- The length of a header's text in bytes fits into 64 bits. -/
def Framed (node : Node) : Prop :=
  node.headerText.toUTF8.size < UInt64.size

instance (node : Node) : Decidable node.Framed :=
  inferInstanceAs (Decidable (_ < _))

/-- The bytes that a node contributes. -/
def frameBytes (node : Node) : List UInt8 :=
  node.frame.data.toList

theorem frameBytes_eq (node : Node) :
    node.frameBytes = (lengthBytes node.headerText.toUTF8.size).data.toList ++
      node.headerText.toUTF8.data.toList := by
  rw [frameBytes, frame, ByteArray.data_append, Array.toList_append]
  rfl

/-- A frame is cut off in one way, whatever follows it. -/
theorem frameBytes_unique {first second : Node} (framed : first.Framed)
    (framedOther : second.Framed) {rest other : List UInt8}
    (same : first.frameBytes ++ rest = second.frameBytes ++ other) :
    first.headerText = second.headerText ∧ rest = other := by
  rw [frameBytes_eq, frameBytes_eq, List.append_assoc, List.append_assoc] at same
  obtain ⟨sameLength, sameBehind⟩ :=
    List.append_inj same ((length_lengthBytes _).trans (length_lengthBytes _).symm)
  have sizes := lengthBytes_injective framed framedOther sameLength
  rcases List.append_inj sameBehind sizes with ⟨sameText, sameRest⟩
  constructor
  · apply String.toByteArray_inj.mp
    exact ByteArray.ext (Array.toList_inj.mp sameText)
  · exact sameRest

/-! ## Streams of frames -/

/-- The numbers in the headers of a list of nodes. -/
def numbersOfHeaders (nodes : List Node) : List Number :=
  nodes.flatMap fun node => node.header.numbers

theorem numbersOfHeaders_cons (node : Node) (rest : List Node) :
    numbersOfHeaders (node :: rest) = node.header.numbers ++ numbersOfHeaders rest :=
  rfl

/-- Trees are read back from the frames of their nodes in pre-order, if it is known
how many they are. -/
theorem frames_injective {firsts seconds : List Node}
    (framed : ∀ node ∈ listingAll firsts, node.Framed)
    (framedOther : ∀ node ∈ listingAll seconds, node.Framed)
    (apart : Number.ToldApart (numbersOfHeaders (listingAll firsts))
      (numbersOfHeaders (listingAll seconds)))
    (lengths : firsts.length = seconds.length)
    (same : (listingAll firsts).flatMap frameBytes = (listingAll seconds).flatMap frameBytes) :
    firsts = seconds := by
  induction firsts using pending_induction generalizing seconds with
  | nil => exact (List.length_eq_zero_iff.mp lengths.symm).symm
  | cons first firsts inductionHypothesis =>
      cases seconds with
      | nil => exact nomatch lengths
      | cons second seconds =>
          rw [listingAll_cons] at framed framedOther apart same
          rw [listingAll_cons] at apart same
          rw [numbersOfHeaders_cons, numbersOfHeaders_cons] at apart
          rw [List.flatMap_cons, List.flatMap_cons] at same
          obtain ⟨sameText, sameBehind⟩ := frameBytes_unique (framed first List.mem_cons_self)
            (framedOther second List.mem_cons_self) same
          rcases Header.compact_injective apart.left sameText with ⟨sameHeader, sameCount⟩
          -- The children are pending behind the roots, and there are as many on both sides.
          have lengthsBehind : (first.children ++ firsts).length =
              (second.children ++ seconds).length := by
            rw [List.length_append, List.length_append, sameCount, Nat.succ.inj lengths]
          have sameRest := inductionHypothesis
            (fun node member => framed node (List.mem_cons_of_mem first member))
            (fun node member => framedOther node (List.mem_cons_of_mem second member))
            apart.right lengthsBehind sameBehind
          rcases List.append_inj sameRest sameCount with ⟨sameChildren, sameOthers⟩
          rw [← mk_header_children first, ← mk_header_children second, sameHeader, sameChildren,
            sameOthers]

theorem foldl_frame (nodes : List Node) (bytes : ByteArray) :
    (nodes.foldl (fun bytes node => bytes ++ node.frame) bytes).data.toList =
      bytes.data.toList ++ nodes.flatMap frameBytes := by
  induction nodes generalizing bytes with
  | nil => simp
  | cons node rest inductionHypothesis =>
      rw [List.foldl_cons, inductionHypothesis, ByteArray.data_append, Array.toList_append,
        List.append_assoc, List.flatMap_cons, frameBytes]

theorem canonicalBytes_eq (node : Node) :
    node.canonicalBytes.data.toList = node.listing.flatMap frameBytes := by
  rw [canonicalBytes, ← Array.foldl_toList, foldl_frame, toList_preorder]
  rfl

/-- The numbers in the properties of a tree's nodes. -/
def numbers (node : Node) : List Number :=
  numbersOfHeaders node.listing

/-- The canonical bytes determine the tree. -/
theorem canonicalBytes_injective {first second : Node}
    (framed : ∀ node ∈ first.listing, node.Framed)
    (framedOther : ∀ node ∈ second.listing, node.Framed)
    (apart : Number.ToldApart first.numbers second.numbers)
    (same : first.canonicalBytes = second.canonicalBytes) : first = second := by
  have single : ∀ node : Node, listingAll [node] = node.listing := fun node =>
    List.append_nil node.listing
  have bytes := congrArg (fun bytes => bytes.data.toList) same
  simp only [canonicalBytes_eq, ← single] at bytes
  rw [← single] at framed framedOther
  rw [numbers, numbers, ← single, ← single] at apart
  exact List.head_eq_of_cons_eq (frames_injective framed framedOther apart rfl bytes)

end Node

end Cascade
