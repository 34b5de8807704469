import Cascade.Tree.Node

/-!
# Sample trees

Programs of any size for trying out pipelines: statements grouped under blocks
of at most three, with spans that count lines from the top.
-/

namespace Cascade.Node

/-- A sample statement on the line behind `line`. -/
def sampleStatement (line : Nat) : Node :=
  let place := UInt64.ofNat (line + 1)
  ((ofKind .statement).withSpan (some (Span.lines place place))).withProperty "index"
    (.ofNat line)

/-- A sample block that starts at `line` and holds as many statements. -/
def sampleBlock (line statements : Nat) : Node :=
  let span := Span.lines (UInt64.ofNat line) (UInt64.ofNat (line + statements + 1))
  (ofKind .block ((List.range statements).map fun index =>
    sampleStatement (line + index))).withSpan (some span)

/-- Sample blocks from `line` on with `remaining` nodes in all, appended to the
ones before, and the line behind them. -/
def sampleBlocks (blocks : Array Node) (line remaining : Nat) : Array Node × Nat :=
  match remaining with
  | 0 => (blocks, line)
  | rest + 1 =>
      let statements := min rest 3
      sampleBlocks (blocks.push (sampleBlock line statements)) (line + statements + 2)
        (rest - statements)
termination_by remaining

/-- A program with the given number of nodes, at least the root. -/
def sample (count : Nat) : Node :=
  let (blocks, line) := sampleBlocks #[] 1 (count - 1)
  (program blocks.toList).withSpan (some (Span.lines 1 (UInt64.ofNat line)))

/-- A function over whole lines with one comment attached. -/
def commentedFunction (first last : UInt64) (comment : Comment) : Node :=
  ((ofKind .function).withSpan (some (Span.lines first last))).withComments [comment]

end Cascade.Node
