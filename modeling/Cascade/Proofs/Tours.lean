import Cascade.Proofs.Listing
import Cascade.Visitor.Basic
import Mathlib.Data.List.Nodup

/-!
# Tours of trees

A tour enters a tree at its root, takes a tour of each child in order, and exits the root.
Nodes are told apart by the paths of child indices that lead to them, since equal trees may
hang at several places; the distance of a node from the root is the length of its path.  A
tour enters every place once, in pre-order, and exits every place once, in post-order; in
between lie the entries and exits of what hangs below.
-/

namespace Cascade

/-- An entry or an exit of a node at the end of a path. -/
structure Moment where
  phase : Phase
  path : List Nat
  node : Node

namespace Node

/-- The node at the end of a path of child indices. -/
def below? (node : Node) : List Nat → Option Node
  | [] => some node
  | index :: path => node.children[index]?.bind fun child => child.below? path

/-- A path goes on in the child that its first index names. -/
theorem below?_cons_iff {node found : Node} {index : Nat} {path : List Nat} :
    node.below? (index :: path) = some found ↔
      ∃ child, node.children[index]? = some child ∧ child.below? path = some found := by
  rw [below?, Option.bind_eq_some_iff]

mutual

/-- The nodes of a tree in post-order. -/
def closing : Node → List Node
  | mk header children => closingAll children ++ [mk header children]

/-- The nodes of a list of trees in post-order, one tree after another. -/
def closingAll : List Node → List Node
  | [] => []
  | node :: rest => closing node ++ closingAll rest

end

mutual

/-- The tour of a tree that hangs at the end of a path. -/
def tour (path : List Nat) : Node → List Moment
  | mk header children =>
      ⟨.enter, path, mk header children⟩ ::
        (tourAll path 0 children ++ [⟨.exit, path, mk header children⟩])

/-- The tours of trees that hang side by side below the end of a path, the first of them at
the given index. -/
def tourAll (path : List Nat) (index : Nat) : List Node → List Moment
  | [] => []
  | node :: rest => tour (path ++ [index]) node ++ tourAll path (index + 1) rest

end

theorem tour_eq (path : List Nat) (node : Node) :
    node.tour path =
      ⟨.enter, path, node⟩ :: (tourAll path 0 node.children ++ [⟨.exit, path, node⟩]) := by
  cases node
  rfl

/-! ## Pre-order and post-order -/

mutual

/-- As many nodes are closed as are listed. -/
theorem closing_perm : ∀ node : Node, node.closing.Perm node.listing
  | mk header children => by
      rw [closing, listing]
      exact (List.perm_append_singleton _ _).trans ((closingAll_perm children).cons _)

theorem closingAll_perm : ∀ nodes : List Node, (closingAll nodes).Perm (listingAll nodes)
  | [] => .nil
  | node :: rest => (closing_perm node).append (closingAll_perm rest)

end

/-- The nodes that are entered, or exited, in the order of the moments. -/
def nodesAt (phase : Phase) (moments : List Moment) : List Node :=
  (moments.filter (·.phase = phase)).map Moment.node

theorem nodesAt_append (phase : Phase) (first second : List Moment) :
    nodesAt phase (first ++ second) = nodesAt phase first ++ nodesAt phase second := by
  rw [nodesAt, List.filter_append, List.map_append]
  rfl

mutual

/-- A tour enters the nodes in pre-order. -/
theorem nodesAt_enter (path : List Nat) :
    ∀ node : Node, nodesAt .enter (node.tour path) = node.listing
  | mk header children => by
      have inside := nodesAt_enter_all path 0 children
      rw [nodesAt] at inside
      rw [tour, listing, ← inside, nodesAt]
      simp

theorem nodesAt_enter_all (path : List Nat) (index : Nat) :
    ∀ nodes : List Node, nodesAt .enter (tourAll path index nodes) = listingAll nodes
  | [] => rfl
  | node :: rest => by
      rw [tourAll, listingAll, nodesAt_append, nodesAt_enter (path ++ [index]) node,
        nodesAt_enter_all path (index + 1) rest]

end

mutual

/-- A tour exits the nodes in post-order. -/
theorem nodesAt_exit (path : List Nat) :
    ∀ node : Node, nodesAt .exit (node.tour path) = node.closing
  | mk header children => by
      have inside := nodesAt_exit_all path 0 children
      rw [nodesAt] at inside
      rw [tour, closing, ← inside, nodesAt]
      simp

theorem nodesAt_exit_all (path : List Nat) (index : Nat) :
    ∀ nodes : List Node, nodesAt .exit (tourAll path index nodes) = closingAll nodes
  | [] => rfl
  | node :: rest => by
      rw [tourAll, closingAll, nodesAt_append, nodesAt_exit (path ++ [index]) node,
        nodesAt_exit_all path (index + 1) rest]

end

/-! ## Places -/

mutual

/-- What a tour comes by lies below its start, at the place where it comes by. -/
theorem mem_tour (path : List Nat) :
    ∀ (node : Node) {moment : Moment}, moment ∈ node.tour path →
      ∃ below, moment.path = path ++ below ∧ node.below? below = some moment.node
  | mk header children, moment, member => by
      rw [tour] at member
      rcases List.mem_cons.mp member with rfl | member
      · exact ⟨[], (List.append_nil path).symm, rfl⟩
      rcases List.mem_append.mp member with inside | last
      · obtain ⟨offset, child, below, here, leads, found⟩ := mem_tourAll path 0 children inside
        rw [Nat.zero_add] at leads
        exact ⟨offset :: below, leads, below?_cons_iff.mpr ⟨child, here, found⟩⟩
      · rw [List.mem_singleton.mp last]
        exact ⟨[], (List.append_nil path).symm, rfl⟩

theorem mem_tourAll (path : List Nat) (index : Nat) :
    ∀ (nodes : List Node) {moment : Moment}, moment ∈ tourAll path index nodes →
      ∃ offset child below, nodes[offset]? = some child ∧
        moment.path = path ++ (index + offset) :: below ∧ child.below? below = some moment.node
  | [], _, absent => nomatch absent
  | node :: rest, moment, member => by
      rw [tourAll] at member
      rcases List.mem_append.mp member with first | behind
      · obtain ⟨below, leads, found⟩ := mem_tour (path ++ [index]) node first
        refine ⟨0, node, below, rfl, ?_, found⟩
        rw [leads, List.append_assoc]
        rfl
      · obtain ⟨offset, child, below, here, leads, found⟩ :=
          mem_tourAll path (index + 1) rest behind
        refine ⟨offset + 1, child, below, here, ?_, found⟩
        rw [leads, Nat.add_assoc, Nat.add_comm 1]

end

/-! ## Entries and exits -/

theorem tourAll_append (path : List Nat) (index : Nat) (first second : List Node) :
    tourAll path index (first ++ second) =
      tourAll path index first ++ tourAll path (index + first.length) second := by
  induction first generalizing index with
  | nil => rfl
  | cons node rest inductionHypothesis =>
      rw [List.cons_append, tourAll, tourAll, inductionHypothesis, List.append_assoc,
        List.length_cons, Nat.add_right_comm, Nat.add_assoc]

/-- Where trees hang below a path, the tours of other ones do not come by. -/
theorem not_prefix_of_mem_tourAll {path below : List Nat} {index place : Nat} {nodes : List Node}
    (apart : ∀ offset < nodes.length, index + offset ≠ place) {moment : Moment}
    (member : moment ∈ tourAll path index nodes) : ¬path ++ place :: below <+: moment.path := by
  intro leads
  obtain ⟨offset, _, _, here, parts, _⟩ := mem_tourAll path index nodes member
  obtain ⟨inRange, _⟩ := List.getElem?_eq_some_iff.mp here
  rw [parts, List.prefix_append_right_inj, List.cons_prefix_cons] at leads
  exact apart offset inRange leads.1.symm

/-- The tour of a tree, split at a place of it: what it does before it enters the node there
and behind the exit concerns other places, and in between it tours the children. -/
theorem tour_split (path : List Nat) {node : Node} {place : List Nat} {found : Node}
    (here : node.below? place = some found) :
    ∃ early late, node.tour path = early ++ (found.tour (path ++ place) ++ late) ∧
      ∀ moment ∈ early ++ late, ¬path ++ place <+: moment.path := by
  induction place generalizing path node with
  | nil =>
      cases here
      refine ⟨[], [], ?_, fun _ absent => nomatch absent⟩
      rw [List.append_nil, List.append_nil, List.nil_append]
  | cons index rest inductionHypothesis =>
      obtain ⟨child, listed, foundBelow⟩ := below?_cons_iff.mp here
      obtain ⟨inRange, same⟩ := List.getElem?_eq_some_iff.mp listed
      obtain ⟨early, late, split, elsewhere⟩ := inductionHypothesis (path ++ [index]) foundBelow
      have moved : path ++ index :: rest = path ++ [index] ++ rest := by simp
      have parts : node.children =
          node.children.take index ++ child :: node.children.drop (index + 1) := by
        rw [← same, List.getElem_cons_drop, List.take_append_drop]
      have before : (node.children.take index).length = index :=
        List.length_take_of_le (Nat.le_of_lt inRange)
      have tourParts : tourAll path 0 node.children =
          tourAll path 0 (node.children.take index) ++
            (child.tour (path ++ [index]) ++
              tourAll path (index + 1) (node.children.drop (index + 1))) := by
        conv => lhs; rw [parts]
        rw [tourAll_append, before, Nat.zero_add, tourAll]
      refine ⟨⟨.enter, path, node⟩ :: (tourAll path 0 (node.children.take index) ++ early),
        late ++ (tourAll path (index + 1) (node.children.drop (index + 1)) ++
          [⟨.exit, path, node⟩]), ?_, ?_⟩
      · rw [tour_eq, tourParts, split, moved]
        simp
      · have notHere : ¬path ++ index :: rest <+: path := by
          intro leads
          have longer := leads.length_le
          rw [List.length_append, List.length_cons] at longer
          omega
        intro moment member
        simp only [List.cons_append, List.mem_cons, List.mem_append, List.not_mem_nil,
          or_false] at member
        rcases member with rfl | (earlier | own) | ownLate | later | rfl
        · exact notHere
        · apply not_prefix_of_mem_tourAll _ earlier
          intro offset short
          rw [before] at short
          omega
        · rw [moved]
          exact elsewhere moment (List.mem_append_left _ own)
        · rw [moved]
          exact elsewhere moment (List.mem_append_right _ ownLate)
        · apply not_prefix_of_mem_tourAll _ later
          intro offset _
          omega
        · exact notHere

/-- Moments in the order of a tour: they enter the nodes in pre-order and exit the same ones
in post-order, each at a place of the tree, and between the entry and the exit of a place
they come by just the places below it. -/
structure Toured (root : Node) (moments : List Moment) : Prop where
  entered : nodesAt .enter moments = root.listing
  exited : nodesAt .exit moments = root.closing
  closed : (nodesAt .exit moments).Perm (nodesAt .enter moments)
  found : ∀ moment ∈ moments, root.below? moment.path = some moment.node
  once : (moments.map fun moment => (moment.phase, moment.path)).Nodup
  nested : ∀ path node, root.below? path = some node → ∃ early inner late,
    moments = early ++ ⟨.enter, path, node⟩ :: (inner ++ ⟨.exit, path, node⟩ :: late) ∧
      (∀ moment ∈ inner, path <+: moment.path ∧ moment.path ≠ path) ∧
      ∀ moment ∈ early ++ late, ¬path <+: moment.path

/-- Between its entry and its exit, a tour of a tree comes by what hangs below. -/
theorem nested_tour (root : Node) {path : List Nat} {node : Node}
    (here : root.below? path = some node) : ∃ early inner late,
      root.tour [] = early ++ ⟨.enter, path, node⟩ :: (inner ++ ⟨.exit, path, node⟩ :: late) ∧
        (∀ moment ∈ inner, path <+: moment.path ∧ moment.path ≠ path) ∧
        ∀ moment ∈ early ++ late, ¬path <+: moment.path := by
  obtain ⟨early, late, split, elsewhere⟩ := tour_split [] here
  refine ⟨early, tourAll path 0 node.children, late, ?_, ?_, elsewhere⟩
  · rw [split, tour_eq]
    simp
  · intro moment member
    obtain ⟨offset, _, below, _, leads, _⟩ := mem_tourAll path 0 node.children member
    rw [leads]
    exact ⟨List.prefix_append _ _, by simp⟩

/-- The entry and the exit of a place are the only moments at it. -/
theorem once_tour (root : Node) :
    ((root.tour []).map fun moment => (moment.phase, moment.path)).Nodup := by
  refine List.nodup_iff_count_eq_one.mpr fun occurrence occurs => ?_
  obtain ⟨⟨phase, path, node⟩, member, rfl⟩ := List.mem_map.mp occurs
  obtain ⟨below, leads, found⟩ := mem_tour [] root member
  obtain rfl : path = below := leads
  obtain ⟨early, inner, late, split, inside, elsewhere⟩ := root.nested_tour found
  have absent : ∀ others : List Moment, (∀ other ∈ others, other.path ≠ path) →
      (others.map fun moment => (moment.phase, moment.path)).count (phase, path) = 0 := by
    intro others apart
    refine List.count_eq_zero.mpr fun again => ?_
    obtain ⟨other, listed, equal⟩ := List.mem_map.mp again
    exact apart other listed (congrArg Prod.snd equal)
  have notEarly := absent early fun other listed equal =>
    elsewhere other (List.mem_append_left _ listed) (equal ▸ List.prefix_refl _)
  have notLate := absent late fun other listed equal =>
    elsewhere other (List.mem_append_right _ listed) (equal ▸ List.prefix_refl _)
  have notInside := absent inner fun other listed => (inside other listed).2
  rw [split, List.map_append, List.map_cons, List.map_append, List.map_cons, List.count_append,
    List.count_cons, List.count_append, List.count_cons, notEarly, notLate, notInside]
  cases phase <;> simp

theorem toured (root : Node) : root.Toured (root.tour []) where
  entered := nodesAt_enter [] root
  exited := nodesAt_exit [] root
  closed := by
    rw [nodesAt_exit, nodesAt_enter]
    exact root.closing_perm
  found := by
    intro moment member
    obtain ⟨below, leads, found⟩ := mem_tour [] root member
    rw [leads]
    exact found
  once := root.once_tour
  nested := fun _ _ => root.nested_tour

end Node

end Cascade
