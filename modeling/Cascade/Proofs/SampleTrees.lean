import Cascade.Proofs.DepthFirst
import Cascade.Tree.Sample
import Mathlib.Data.List.Nodup

/-!
# The shape of sample trees

A sample tree is laid out from the top: block behind block, each over the lines of its
statements and a line before and behind them.  The loop that lays the blocks out keeps a
joint account of their lines and of their nodes.  As long as the lines fit in positions, a
sample tree has the size that was asked for, the span of every node contains those of its
children, which come one behind another, and every statement has an index of its own.
-/

namespace Cascade

/-! ## Spans of whole lines -/

namespace Span

variable {span other : Span}

/-- The position is not before the span and not behind it. -/
def Holds (span : Span) (position : Position) : Prop :=
  span.start.le position = true ∧ position.le span.stop = true

/-- The span ends on a line before the one on which the other starts. -/
def Above (span other : Span) : Prop :=
  span.stop.line < other.start.line

/-- No position is in both spans. -/
def Apart (span other : Span) : Prop :=
  ∀ position, ¬(span.Holds position ∧ other.Holds position)

theorem line_le_of_le {first second : Position} (le : first.le second = true) :
    first.line ≤ second.line := by
  rcases Bool.or_eq_true_iff.mp le with below | same
  · exact UInt64.le_of_lt (of_decide_eq_true below)
  · exact UInt64.le_of_eq (eq_of_beq (Bool.and_eq_true_iff.mp same).1)

theorem Above.apart (above : span.Above other) : span.Apart other := by
  rintro position ⟨⟨_, notBehind⟩, ⟨notBefore, _⟩⟩
  have lines := UInt64.le_trans (line_le_of_le notBefore) (line_le_of_le notBehind)
  exact UInt64.not_lt.mpr lines above

theorem contains_lines {first last start stop : UInt64} (below : first ≤ start)
    (above : stop ≤ last) : (lines first last).contains (lines start stop) = true := by
  have atStart : decide (first < start) = true ∨ first = start :=
    (UInt64.lt_or_eq_of_le below).imp_left decide_eq_true
  have atStop : decide (stop < last) = true ∨ stop = last :=
    (UInt64.lt_or_eq_of_le above).imp_left decide_eq_true
  simpa [contains, lines, Position.le] using ⟨atStart, atStop⟩

end Span

namespace Node

/-- Both nodes have spans, and these are related. -/
def Spanned (relation : Span → Span → Prop) (first second : Node) : Prop :=
  ∃ span other, first.span = some span ∧ second.span = some other ∧ relation span other

/-- The span of the node contains those of its children, which come in the order of their
lines, no two of them with a position in common. -/
structure Nests (node : Node) : Prop where
  within : ∀ child ∈ node.children,
    node.Spanned (fun outer inner => outer.contains inner = true) child
  ordered : node.children.Pairwise (Spanned Span.Above)
  apart : node.children.Pairwise (Spanned Span.Apart)

theorem Nests.of_ordered {node : Node}
    (within : ∀ child ∈ node.children,
      node.Spanned (fun outer inner => outer.contains inner = true) child)
    (ordered : node.children.Pairwise (Spanned Span.Above)) : node.Nests where
  within := within
  ordered := ordered
  apart := ordered.imp fun ⟨span, other, ofFirst, ofSecond, above⟩ =>
    ⟨span, other, ofFirst, ofSecond, above.apart⟩

/-! ## Plots -/

/-- Room for a block: the line on which it starts and how many statements it holds. -/
structure Plot where
  line : Nat
  statements : Nat

namespace Plot

/-- The block in a plot. -/
def block (plot : Plot) : Node :=
  sampleBlock plot.line plot.statements

/-- The number of nodes of the block. -/
def nodes (plot : Plot) : Nat :=
  plot.statements + 1

/-- The lines before those of the statements, which are their indices. -/
def indices (plot : Plot) : List Nat :=
  (List.range plot.statements).map (plot.line + ·)

end Plot

/-- Plots one behind another, from one line up to another. -/
inductive Laid : Nat → List Plot → Nat → Prop where
  | none {line : Nat} : Laid line [] line
  | more {line statements stop : Nat} {plots : List Plot}
      (others : Laid (line + statements + 2) plots stop) :
      Laid line (⟨line, statements⟩ :: plots) stop

/-- The loop lays blocks out behind those before, for as many nodes as remain. -/
theorem laid_sampleBlocks (blocks : Array Node) (line remaining : Nat) :
    ∃ plots, Laid line plots (sampleBlocks blocks line remaining).2 ∧
      (sampleBlocks blocks line remaining).1.toList = blocks.toList ++ plots.map Plot.block ∧
      (plots.map Plot.nodes).sum = remaining := by
  induction blocks, line, remaining using sampleBlocks.induct with
  | case1 blocks line =>
      rw [sampleBlocks]
      exact ⟨[], .none, (List.append_nil _).symm, rfl⟩
  | case2 blocks line rest statements inductionHypothesis =>
      obtain ⟨plots, laid, placed, total⟩ := inductionHypothesis
      rw [sampleBlocks]
      refine ⟨⟨line, statements⟩ :: plots, .more laid, ?_, ?_⟩
      · rw [placed, Array.toList_push, List.append_assoc]
        rfl
      · have few : statements ≤ rest := Nat.min_le_left rest 3
        rw [List.map_cons, List.sum_cons, total, Plot.nodes]
        show statements + 1 + (rest - statements) = rest + 1
        omega

namespace Laid

variable {line stop : Nat} {plots : List Plot}

theorem start_le (laid : Laid line plots stop) : line ≤ stop := by
  induction laid with
  | none => exact Nat.le_refl _
  | more others inductionHypothesis => omega

theorem room (laid : Laid line plots stop) {plot : Plot} (member : plot ∈ plots) :
    line ≤ plot.line ∧ plot.line + plot.statements + 2 ≤ stop := by
  induction laid with
  | none => exact nomatch member
  | @more line statements stop plots others inductionHypothesis =>
      rcases List.mem_cons.mp member with here | there
      · subst here
        exact ⟨Nat.le_refl line, others.start_le⟩
      · obtain ⟨start, finish⟩ := inductionHypothesis there
        exact ⟨by omega, finish⟩

theorem ordered (laid : Laid line plots stop) :
    plots.Pairwise fun plot other => plot.line + plot.statements + 2 ≤ other.line := by
  induction laid with
  | none => exact .nil
  | more others inductionHypothesis =>
      exact .cons (fun plot member => (others.room member).1) inductionHypothesis

/-- The lines are at most two for each node. -/
theorem stop_le (laid : Laid line plots stop) :
    stop ≤ line + 2 * (plots.map Plot.nodes).sum := by
  induction laid with
  | none => exact Nat.le_add_right _ _
  | @more line statements stop plots others inductionHypothesis =>
      have first : Plot.nodes ⟨line, statements⟩ = statements + 1 := rfl
      rw [List.map_cons, List.sum_cons, first]
      omega

theorem line_le_of_index (laid : Laid line plots stop) {index : Nat}
    (member : index ∈ plots.flatMap Plot.indices) : line ≤ index := by
  obtain ⟨plot, plotMember, indexMember⟩ := List.mem_flatMap.mp member
  obtain ⟨place, _, rfl⟩ := List.mem_map.mp indexMember
  exact Nat.le_trans (laid.room plotMember).1 (Nat.le_add_right plot.line place)

/-- The indices increase from plot to plot and within each plot. -/
theorem indices_increase (laid : Laid line plots stop) :
    (plots.flatMap Plot.indices).Pairwise (· < ·) := by
  induction laid with
  | none => exact .nil
  | @more line statements stop plots others inductionHypothesis =>
      rw [List.flatMap_cons, List.pairwise_append]
      refine ⟨?_, inductionHypothesis, ?_⟩
      · rw [Plot.indices, List.pairwise_map]
        exact List.pairwise_lt_range.imp fun below => Nat.add_lt_add_left below line
      · intro index member other memberBehind
        obtain ⟨place, inRange, rfl⟩ := List.mem_map.mp member
        have above := others.line_le_of_index memberBehind
        have placed : place < statements := List.mem_range.mp inRange
        show line + place < other
        omega

end Laid

/-! ## Statements and blocks -/

theorem span_sampleStatement (line : Nat) :
    (sampleStatement line).span =
      some (Span.lines (UInt64.ofNat (line + 1)) (UInt64.ofNat (line + 1))) :=
  rfl

theorem property?_sampleStatement (line : Nat) :
    (sampleStatement line).property? "index" = some (.ofNat line) :=
  Dict.get?_insert_self Dict.empty "index" (Json.Value.ofNat line)

theorem children_block (plot : Plot) :
    plot.block.children = plot.indices.map sampleStatement := by
  rw [Plot.indices, List.map_map]
  rfl

theorem kind_block (plot : Plot) : plot.block.kind = .block :=
  rfl

theorem span_block (plot : Plot) :
    plot.block.span =
      some (Span.lines (UInt64.ofNat plot.line)
        (UInt64.ofNat (plot.line + plot.statements + 1))) :=
  rfl

theorem size_sampleStatement (line : Nat) : (sampleStatement line).size = 1 :=
  rfl

theorem height_sampleStatement (line : Nat) : (sampleStatement line).height = 1 :=
  rfl

theorem listing_sampleStatement (line : Nat) :
    (sampleStatement line).listing = [sampleStatement line] :=
  rfl

theorem size_block (plot : Plot) : plot.block.size = plot.nodes := by
  have alone : plot.indices.map (fun line => (sampleStatement line).size) =
      plot.indices.map fun _ => 1 :=
    List.map_congr_left fun line _ => size_sampleStatement line
  rw [size_eq, sizeAll_eq_sum, children_block, List.map_map, Function.comp_def, alone,
    List.map_const', List.sum_replicate_nat, Plot.indices, List.length_map, List.length_range,
    Nat.mul_one]
  rfl

theorem heightAll_le {nodes : List Node} {bound : Nat}
    (bounded : ∀ node ∈ nodes, node.height ≤ bound) : heightAll nodes ≤ bound := by
  induction nodes with
  | nil => exact Nat.zero_le bound
  | cons node rest inductionHypothesis =>
      rw [heightAll]
      exact Nat.max_le.mpr ⟨bounded node List.mem_cons_self,
        inductionHypothesis fun other member => bounded other (List.mem_cons_of_mem _ member)⟩

theorem height_block (plot : Plot) : plot.block.height ≤ 2 := by
  rw [height_eq, children_block]
  refine Nat.succ_le_succ (heightAll_le fun node member => ?_)
  obtain ⟨line, _, rfl⟩ := List.mem_map.mp member
  exact Nat.le_of_eq (height_sampleStatement line)

theorem listing_block (plot : Plot) :
    plot.block.listing = plot.block :: plot.indices.map sampleStatement := by
  have alone : plot.indices.flatMap (fun line => (sampleStatement line).listing) =
      plot.indices.flatMap fun line => [sampleStatement line] :=
    congrArg (plot.indices.flatMap ·) (funext listing_sampleStatement)
  rw [listing_eq, listingAll_eq_flatMap, children_block, List.flatMap_map, alone,
    ← List.map_eq_flatMap]

/-! ## Sample trees -/

/-- The line behind the blocks of a sample tree, which is its last one. -/
def sampleEnd (count : Nat) : Nat :=
  (sampleBlocks #[] 1 (count - 1)).2

/-- A sample tree is a root over the blocks in its plots. -/
theorem exists_plots (count : Nat) :
    ∃ plots, Laid 1 plots (sampleEnd count) ∧ (plots.map Plot.nodes).sum = count - 1 ∧
      (sample count).kind = .program ∧ (sample count).children = plots.map Plot.block ∧
      (sample count).span = some (Span.lines 1 (UInt64.ofNat (sampleEnd count))) := by
  obtain ⟨plots, laid, placed, total⟩ := laid_sampleBlocks #[] 1 (count - 1)
  exact ⟨plots, laid, total, rfl, placed, rfl⟩

theorem sampleEnd_le (count : Nat) : sampleEnd count ≤ 1 + 2 * (count - 1) := by
  obtain ⟨plots, laid, total, _⟩ := exists_plots count
  rw [← total]
  exact laid.stop_le

section Lines

variable {first second : Nat}

theorem ofNat_le (ordered : first ≤ second) (fits : second < UInt64.size) :
    UInt64.ofNat first ≤ UInt64.ofNat second := by
  rw [UInt64.le_iff_toNat_le, UInt64.toNat_ofNat_of_lt' fits,
    UInt64.toNat_ofNat_of_lt' (Nat.lt_of_le_of_lt ordered fits)]
  exact ordered

theorem ofNat_lt (ordered : first < second) (fits : second < UInt64.size) :
    UInt64.ofNat first < UInt64.ofNat second := by
  rw [UInt64.lt_iff_toNat_lt, UInt64.toNat_ofNat_of_lt' fits,
    UInt64.toNat_ofNat_of_lt' (Nat.lt_trans ordered fits)]
  exact ordered

end Lines

theorem nests_sampleStatement (line : Nat) : (sampleStatement line).Nests :=
  .of_ordered (fun _ member => nomatch member) .nil

theorem nests_block {plot : Plot} (fits : plot.line + plot.statements + 1 < UInt64.size) :
    plot.block.Nests := by
  refine .of_ordered ?_ ?_
  · intro child member
    rw [children_block] at member
    obtain ⟨line, listed, rfl⟩ := List.mem_map.mp member
    obtain ⟨place, inRange, rfl⟩ := List.mem_map.mp listed
    have placed : place < plot.statements := List.mem_range.mp inRange
    refine ⟨_, _, span_block plot, span_sampleStatement _, Span.contains_lines ?_ ?_⟩
    · exact ofNat_le (by omega) (by omega)
    · exact ofNat_le (by omega) fits
  · rw [children_block, Plot.indices, List.map_map, List.pairwise_map]
    refine List.pairwise_lt_range.imp_of_mem ?_
    intro place other _ inRange below
    have placed : other < plot.statements := List.mem_range.mp inRange
    have next : plot.line + place + 1 < plot.line + other + 1 := by omega
    have inLines : plot.line + other + 1 < UInt64.size := by omega
    exact ⟨_, _, span_sampleStatement _, span_sampleStatement _, ofNat_lt next inLines⟩

theorem nests_root {count : Nat} (fits : sampleEnd count < UInt64.size) :
    (sample count).Nests := by
  obtain ⟨plots, laid, _, _, children, span⟩ := exists_plots count
  refine .of_ordered ?_ ?_
  · intro child member
    rw [children] at member
    obtain ⟨plot, listed, rfl⟩ := List.mem_map.mp member
    obtain ⟨start, finish⟩ := laid.room listed
    refine ⟨_, _, span, span_block plot, Span.contains_lines ?_ ?_⟩
    · exact ofNat_le start (by omega)
    · exact ofNat_le (by omega) fits
  · rw [children, List.pairwise_map]
    refine laid.ordered.imp_of_mem ?_
    intro plot other _ listed behind
    have finish := (laid.room listed).2
    exact ⟨_, _, span_block plot, span_block other, ofNat_lt (by omega) (by omega)⟩

/-- Whether the node is a statement. -/
def isStatement (node : Node) : Bool :=
  node.kind == .statement

/-- The indices that the statements of a tree have as properties, in order. -/
def statementIndices (node : Node) : List (Option Json.Value) :=
  (node.listing.filter isStatement).map fun statement => statement.property? "index"

/-- The statements of a list of blocks in order. -/
theorem statements_blocks (plots : List Plot) :
    (listingAll (plots.map Plot.block)).filter isStatement =
      (plots.flatMap Plot.indices).map sampleStatement := by
  rw [listingAll_eq_flatMap, List.flatMap_map, List.filter_flatMap, List.map_flatMap]
  refine congrArg (plots.flatMap ·) (funext fun plot => ?_)
  have other : ¬plot.block.isStatement = true := by
    rw [isStatement, kind_block]
    decide
  rw [listing_block, List.filter_cons_of_neg other]
  refine List.filter_eq_self.mpr fun node member => ?_
  obtain ⟨line, _, rfl⟩ := List.mem_map.mp member
  rfl

/-- Every node of a sample tree is the root, a block in one of its plots or a statement. -/
theorem nests_listing {count : Nat} (fits : sampleEnd count < UInt64.size) :
    ∀ node ∈ (sample count).listing, node.Nests := by
  obtain ⟨plots, laid, _, _, children, _⟩ := exists_plots count
  intro node member
  rw [listing_eq, children, listingAll_eq_flatMap, List.flatMap_map] at member
  rcases List.mem_cons.mp member with root | below
  · exact root ▸ nests_root fits
  · obtain ⟨plot, listed, inBlock⟩ := List.mem_flatMap.mp below
    have finish := (laid.room listed).2
    rw [listing_block] at inBlock
    rcases List.mem_cons.mp inBlock with block | statement
    · exact block ▸ nests_block (by omega)
    · obtain ⟨line, _, rfl⟩ := List.mem_map.mp statement
      exact nests_sampleStatement line

theorem ofNat_injective : Function.Injective fun index : Nat => some (Json.Value.ofNat index) := by
  intro first second same
  have values : (first : Int) = second := by simpa [Json.Value.ofNat] using same
  exact Int.ofNat_inj.mp values

/-- The statements of a sample tree are numbered upwards. -/
theorem statementIndices_sample (count : Nat) :
    ∃ indices : List Nat, indices.Pairwise (· < ·) ∧
      (sample count).statementIndices = indices.map fun index => some (.ofNat index) := by
  obtain ⟨plots, laid, _, root, children, _⟩ := exists_plots count
  refine ⟨plots.flatMap Plot.indices, laid.indices_increase, ?_⟩
  have other : ¬(sample count).isStatement = true := by
    rw [isStatement, root]
    decide
  rw [statementIndices, listing_eq, children, List.filter_cons_of_neg other, statements_blocks,
    List.map_map]
  exact List.map_congr_left fun line _ => property?_sampleStatement line

theorem count_sample (count : Nat) : (sample count).count = max count 1 := by
  obtain ⟨plots, _, total, _, children, _⟩ := exists_plots count
  have sizes : plots.map (fun plot => plot.block.size) = plots.map Plot.nodes :=
    List.map_congr_left fun plot _ => size_block plot
  rw [count_eq_size, size_eq, children, sizeAll_eq_sum, List.map_map, Function.comp_def, sizes,
    total]
  omega

theorem depth_sample_le (count : Nat) : (sample count).depth ≤ 3 := by
  obtain ⟨plots, _, _, _, children, _⟩ := exists_plots count
  rw [depth_eq_height, height_eq, children]
  refine Nat.succ_le_succ (heightAll_le fun node member => ?_)
  obtain ⟨plot, _, rfl⟩ := List.mem_map.mp member
  exact height_block plot

/-- A sample tree whose lines fit in positions is a program with as many nodes as were asked
for, at least one, in at most three levels.  Everywhere in it the span of a node contains
those of its children, which lie apart and come in the order of their lines.  Its statements
are numbered upwards, so no two have the same index. -/
theorem sample_wellFormed (count : Nat) (fits : sampleEnd count < UInt64.size) :
    (sample count).isProgram = true ∧ (sample count).count = max count 1 ∧
      (sample count).depth ≤ 3 ∧ (∀ node ∈ (sample count).listing, node.Nests) ∧
      (sample count).statementIndices.Nodup ∧
      ∃ indices : List Nat, indices.Pairwise (· < ·) ∧
        (sample count).statementIndices = indices.map fun index => some (.ofNat index) := by
  obtain ⟨indices, increase, numbered⟩ := statementIndices_sample count
  have program : (sample count).isProgram = true := by
    obtain ⟨_, _, _, root, _⟩ := exists_plots count
    rw [isProgram, root]
    rfl
  have distinct : (sample count).statementIndices.Nodup := by
    have indicesDistinct : indices.Nodup := increase.imp Nat.ne_of_lt
    rw [numbered]
    exact indicesDistinct.map ofNat_injective
  exact ⟨program, count_sample count, depth_sample_le count, nests_listing fits, distinct,
    indices, increase, numbered⟩

/-- Ten nodes are a root over three blocks, the last of them without statements. -/
theorem sample_wellFormed_ten :
    sampleEnd 10 < UInt64.size ∧ (sample 10).isProgram = true ∧ (sample 10).count = 10 ∧
      (sample 10).depth ≤ 3 ∧ (∀ node ∈ (sample 10).listing, node.Nests) ∧
      (sample 10).statementIndices.Nodup ∧
      ∃ indices : List Nat, indices.Pairwise (· < ·) ∧
        (sample 10).statementIndices = indices.map fun index => some (.ofNat index) := by
  have fits : sampleEnd 10 < UInt64.size := Nat.lt_of_le_of_lt (sampleEnd_le 10) (by decide)
  exact ⟨fits, sample_wellFormed 10 fits⟩

end Node

end Cascade
