/-!
# Positions and spans

A position is a line and a column, counted from one, and positions are ordered
as they follow each other in a file.  A span reaches from a first to a last
position, both included.
-/

namespace Cascade

/-- A line and a column in a source file. -/
structure Position where
  line : UInt64
  column : UInt64
deriving DecidableEq

namespace Position

/-- Whether the first position does not come after the second. -/
def le (first second : Position) : Bool :=
  first.line < second.line || (first.line == second.line && first.column ≤ second.column)

end Position

/-- A stretch of a source file. -/
structure Span where
  start : Position
  stop : Position
deriving DecidableEq

namespace Span

/-- The last column there can be; a span up to it takes in its whole last
line. -/
def lastColumn : UInt64 :=
  0xFFFFFFFFFFFFFFFF

/-- The span of the whole lines from `first` to `last`. -/
def lines (first last : UInt64) : Span :=
  ⟨⟨first, 1⟩, ⟨last, lastColumn⟩⟩

/-- Whether `inner` lies entirely within the span. -/
def contains (span inner : Span) : Bool :=
  span.start.le inner.start && inner.stop.le span.stop

/-- The written form of a span: its two positions. -/
def text (span : Span) : String :=
  s!"{span.start.line.toNat}:{span.start.column.toNat}-" ++
    s!"{span.stop.line.toNat}:{span.stop.column.toNat}"

end Span

end Cascade
