import CssSelector.Source.Lines

/-!
# Places found by search

A line index knows no more than where the lines of a text start. Everything else is searched for:
an offset goes back to the boundary in front of it, its line is found by halving the table, and its
column by cutting the line there. Each of these steps may fail. `Lines` answers the same questions
from tables that hold the answers.
-/

set_option autoImplicit false

namespace CssSelector

/-- Whether an offset is a place between two characters of a text, or one of its ends. -/
def isBoundary (text : String) (offset : Nat) : Bool := (dropBytes? offset text.toList).isSome

/-- The last boundary that is not behind an offset. The search may not leave the text in front. -/
def lastBoundary (text : String) : Nat → Except Fault Nat
  | 0 => if isBoundary text 0 then .ok 0 else .error .offsetOverflow
  | offset + 1 =>
      if isBoundary text (offset + 1) then .ok (offset + 1) else lastBoundary text offset

/-- The first place between two bounds whose entry is not below a value, by halving the distance of
the bounds. Entries must be in order. -/
def lowerBound (entries : Array Nat) (value low high : Nat) : Nat :=
  if low < high then
    let middle := low + (high - low) / 2
    if entries[middle]?.any (· < value) then lowerBound entries value (middle + 1) high
    else lowerBound entries value low middle
  else low
termination_by high - low

def startOffsets (starts : Array Nat) (offset : Nat) : List Char → Array Nat
  | [] => starts
  | c :: rest =>
      startOffsets (if c = '\n' then starts.push (offset + 1) else starts)
        (offset + c.utf8Size) rest

/-- A line or a column as a number of 32 bits. -/
def columnNumber (number : Nat) : Nat := number % (maxColumn + 1)

structure LineIndex where
  text : String
  starts : Array Nat

namespace LineIndex

def ofString (text : String) : LineIndex := ⟨text, startOffsets #[0] 0 text.toList⟩

/-- The line with an offset, counted from zero. It starts there, or it is the one in front of the
line that would. -/
def lineAt (index : LineIndex) (offset : Nat) : Except Fault Nat :=
  let place := lowerBound index.starts offset 0 index.starts.size
  if index.starts[place]? = some offset then .ok place
  else if place = 0 then .error .offsetOverflow
  else .ok (place - 1)

def cut (index : LineIndex) (start stop : Nat) : Except Fault (List Char) :=
  match sliceBytes? start stop index.text.toList with
  | some inside => .ok inside
  | none => .error .misplacedCut

def lineUpTo (index : LineIndex) (line offset : Nat) : Except Fault (List Char) :=
  match index.starts[line]? with
  | some start => index.cut start offset
  | none => .error .misplacedCut

/-- The position of an offset. Offsets behind the end stand for the end, offsets inside a
character for its start. -/
def positionAt (index : LineIndex) (offset : Nat) : Except Fault Position := do
  let place ← lastBoundary index.text (min offset index.text.utf8ByteSize)
  let line ← index.lineAt place
  let before ← index.lineUpTo line place
  return ⟨place, columnNumber (line + 1), columnNumber (before.length + 1)⟩

def spanAt (index : LineIndex) (offset length : Nat) : Except Fault Span := do
  let start ← index.positionAt offset
  Span.between start (← index.positionAt (min (offset + length) maxOffset))

/-- The offset at which a line ends, counted from zero: in front of the line feed before the next
one, or at the end of the text. -/
def stopOf (index : LineIndex) (line : Nat) : Except Fault Nat :=
  match index.starts[line + 1]? with
  | none => .ok index.text.utf8ByteSize
  | some 0 => .error .offsetOverflow
  | some (next + 1) => .ok next

/-- The line with a number, counted from one, without the carriage returns at its end. -/
def line? (index : LineIndex) (number : Nat) : Except Fault (Option String) :=
  if number = 0 then return none
  else
    match index.starts[number - 1]? with
    | none => return none
    | some start => do
        let line ← index.cut start (← index.stopOf (number - 1))
        return some (String.ofList (trimReturns line))

/-- A message with the place it is about, and an excerpt if that line exists. A span without line
information is resolved first. -/
def renderDiagnostic (index : LineIndex) (span : Span) (message : String) :
    Except Fault String := do
  let span ←
    if span.start.hasLine then pure span
    else do index.spanAt span.start.offset (← span.length)
  let header := s!"error: {message}\n  --> {span.start.line}:{span.start.column}\n"
  match ← index.line? span.start.line with
  | none => return header
  | some line => return header ++ (← excerpt span line)

end LineIndex

end CssSelector
