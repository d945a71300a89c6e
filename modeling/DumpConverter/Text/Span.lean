/-
**Positions and spans.**

Where something stands in a text: lines and columns count from 1, columns count characters.
-/

namespace DumpConverter.Text

/-- A place between two characters. -/
structure Position where
  /-- The number of characters before it. -/
  offset : Nat
  line : Nat
  column : Nat
deriving DecidableEq, Repr, Inhabited

namespace Position

/-- The start of a text. -/
def start : Position := ⟨0, 1, 1⟩

/-- The position behind the character `c`, which a line break takes to the next line. -/
def after (position : Position) (c : Char) : Position :=
  if c == '\n' then ⟨position.offset + 1, position.line + 1, 1⟩
  else ⟨position.offset + 1, position.line, position.column + 1⟩

end Position

/-- The text between two positions. -/
structure Span where
  first : Position
  last : Position
deriving DecidableEq, Repr, Inhabited

namespace Span

/-- The span of no text at a position. -/
def point (position : Position) : Span := ⟨position, position⟩

/-- Whether the span begins and ends on one line. -/
def isOneLine (span : Span) : Bool :=
  span.first.line == span.last.line

/-- Spans in order of their start, then of their end. -/
def isBefore (span other : Span) : Bool :=
  span.first.offset < other.first.offset ||
    (span.first.offset == other.first.offset && span.last.offset ≤ other.last.offset)

end Span

end DumpConverter.Text
