import CssSelector.Fault
import CssSelector.Text.Bytes

/-!
# Positions and spans

A position is a byte offset, with the line and the column where they are known. Lines and columns
count from one; zero stands for "not known". A span runs from a position up to, and without,
another one. Nothing forces the two positions of a span into order: `Span.between` does, and
operations that need the order fault without it.
-/

set_option autoImplicit false

namespace CssSelector

def maxColumn : Nat := 4294967295

structure Position where
  offset : Nat
  line : Nat
  column : Nat
  deriving DecidableEq, Repr

namespace Position

/-- A position of which only the offset is known. -/
def atOffset (offset : Nat) : Position := ⟨offset, 0, 0⟩

def hasLine (position : Position) : Bool := 0 < position.line

/-- Line and column if they are known, otherwise the offset. -/
def render (position : Position) : String :=
  if position.hasLine then s!"{position.line}:{position.column}" else s!"@{position.offset}"

/-- Positions are ordered by offset, then by line, then by column. -/
def le (left right : Position) : Bool :=
  left.offset < right.offset ||
    (left.offset == right.offset &&
      (left.line < right.line || (left.line == right.line && left.column ≤ right.column)))

end Position

structure Span where
  start : Position
  stop : Position
  deriving DecidableEq, Repr

namespace Span

/-- The span between two positions; they must be in order. -/
def between (start stop : Position) : Except Fault Span :=
  if start.offset ≤ stop.offset then .ok ⟨start, stop⟩ else .error .reversedSpan

def ofOffsets (start stop : Nat) : Except Fault Span :=
  between (.atOffset start) (.atOffset stop)

def length (span : Span) : Except Fault Nat :=
  if span.start.offset ≤ span.stop.offset then .ok (span.stop.offset - span.start.offset)
  else .error .reversedSpan

def isEmpty (span : Span) : Bool := span.start.offset == span.stop.offset

/-- The smallest span that covers two spans. Of equal offsets the first span's position is taken. -/
def merge (left right : Span) : Span where
  start := if left.start.offset ≤ right.start.offset then left.start else right.start
  stop := if right.stop.offset ≤ left.stop.offset then left.stop else right.stop

/-- The text that a span covers; `none` if the span does not fit the text. -/
def slice? (span : Span) (text : String) : Option String :=
  (sliceBytes? span.start.offset span.stop.offset text.toList).map String.ofList

/-- Columns within one line, two positions across lines, offsets without line information. -/
def render (span : Span) : String :=
  if !span.start.hasLine then s!"@{span.start.offset}..{span.stop.offset}"
  else if span.start.line = span.stop.line then
    s!"{span.start.line}:{span.start.column}-{span.stop.column}"
  else s!"{span.start.render}-{span.stop.render}"

end Span

end CssSelector
