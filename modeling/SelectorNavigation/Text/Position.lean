import SelectorNavigation.Text.Basic

/-!
# Positions and spans

A position is a line and a UTF-16 column, both counted from zero, and a span is a
pair of positions.  Positions are ordered lexicographically.
-/

namespace SelectorNavigation

/-- A range of byte offsets, without its end. -/
structure ByteRange where
  start : Nat
  stop : Nat
deriving DecidableEq, Repr

/-- A line and a UTF-16 column in it, both counted from zero. -/
structure Position where
  line : Nat
  column : Nat
deriving DecidableEq, Repr

namespace Position

/-- The start of a document. -/
def zero : Position := ⟨0, 0⟩

/-- One position stands strictly in front of another. -/
def before (first second : Position) : Bool :=
  first.line < second.line ||
    (first.line == second.line && first.column < second.column)

/-- One position stands in front of another or is the same. -/
def notAfter (first second : Position) : Bool :=
  !second.before first

end Position

/-- A stretch of a document between two positions. -/
structure Span where
  start : Position
  stop : Position
deriving DecidableEq, Repr

namespace Span

/-- A span whose end is not in front of its start. -/
def isOrdered (span : Span) : Bool :=
  span.start.notAfter span.stop

/-- Two spans overlap when each starts strictly in front of the other's end, so
spans that only touch do not. -/
def overlaps (first second : Span) : Bool :=
  first.start.before second.stop && second.start.before first.stop

end Span

end SelectorNavigation
