import CssSelector.Position

/-!
# Lines of a text

Line and column of an offset, the text of a line, and the excerpt that underlines a span. A line
ends at a line feed; carriage returns at its end are not shown. Columns count characters.

`Lines` is a text with tables for direct access. `Lines.positionAt_eq` and `Lines.line?_eq` say
what the tables hold.
-/

set_option autoImplicit false

namespace CssSelector

namespace Position

def origin : Position := ⟨0, 1, 1⟩

def after (position : Position) (c : Char) : Position :=
  if c = '\n' then ⟨position.offset + c.utf8Size, position.line + 1, 1⟩
  else ⟨position.offset + c.utf8Size, position.line, position.column + 1⟩

/-- The last position, going on from a given one, that is not behind an offset. -/
def advanceTo (offset : Nat) (position : Position) : List Char → Position
  | [] => position
  | c :: rest =>
      if position.offset + c.utf8Size ≤ offset then advanceTo offset (position.after c) rest
      else position

end Position

/-- The characters of the line with a number, counted from zero, up to its line feed. -/
def lineFrom? : Nat → List Char → Option (List Char)
  | 0, chars => some (chars.takeWhile (· ≠ '\n'))
  | number + 1, chars =>
      match chars.dropWhile (· ≠ '\n') with
      | [] => none
      | _ :: rest => lineFrom? number rest

def trimReturns (line : List Char) : List Char :=
  (line.reverse.dropWhile (· = '\r')).reverse

/-! ## Tables for direct access -/

/-- One entry for each byte, the position where its character starts; and one entry for the end. -/
def positionTable (table : Array Position) (position : Position) : List Char → Array Position
  | [] => table.push position
  | c :: rest =>
      positionTable (table ++ Array.replicate c.utf8Size position) (position.after c) rest

/-- One entry behind each line feed, the characters from there on. -/
def startTable (table : Array (List Char)) : List Char → Array (List Char)
  | [] => table
  | c :: rest => startTable (if c = '\n' then table.push rest else table) rest

structure Lines where
  text : String
  positions : Array Position
  starts : Array (List Char)
  positions_eq : positions = positionTable #[] .origin text.toList
  starts_eq : starts = startTable #[text.toList] text.toList

namespace Lines

def ofString (text : String) : Lines where
  text := text
  positions := positionTable #[] .origin text.toList
  starts := startTable #[text.toList] text.toList
  positions_eq := rfl
  starts_eq := rfl

def positionAt (lines : Lines) (offset : Nat) : Position :=
  lines.positions[min offset lines.text.utf8ByteSize]?.getD .origin

def spanAt (lines : Lines) (offset length : Nat) : Except Fault Span :=
  Span.between (lines.positionAt offset) (lines.positionAt (min (offset + length) maxOffset))

def line? (lines : Lines) (number : Nat) : Option String :=
  if number = 0 then none
  else lines.starts[number - 1]?.map fun rest =>
    String.ofList (trimReturns (rest.takeWhile (· ≠ '\n')))

end Lines

/-! ## Excerpts -/

def repeated (c : Char) (count : Nat) : String := String.ofList (List.replicate count c)

/-- How many characters to underline in a line: up to the end of the span, or up to the end of
the line where the span goes on behind it. -/
def underlineWidth (span : Span) (line : String) : Except Fault Nat :=
  if span.start.line = span.stop.line then subtractColumns span.stop.column span.start.column
  else subtractColumns (line.length + 1) span.start.column

/-- The lines of an excerpt: the line itself under a margin, then the underline. At least one
character is underlined. -/
def excerpt (span : Span) (line : String) : Except Fault String := do
  let number := toString span.start.line
  let margin := repeated ' ' number.length
  let width ← underlineWidth span line
  let indent ← subtractColumns span.start.column 1
  return s!"{margin} |\n{number} | {line}\n{margin} | " ++ repeated ' ' indent
    ++ repeated '^' (max width 1) ++ "\n"

def Lines.renderDiagnostic (lines : Lines) (span : Span) (message : String) :
    Except Fault String := do
  let span ←
    if span.start.hasLine then pure span
    else do lines.spanAt span.start.offset (← span.length)
  let header := s!"error: {message}\n  --> {span.start.line}:{span.start.column}\n"
  match lines.line? span.start.line with
  | none => return header
  | some line => return header ++ (← excerpt span line)

/-! ## What the tables hold -/

private def positionList (position : Position) : List Char → List Position
  | [] => [position]
  | c :: rest => List.replicate c.utf8Size position ++ positionList (position.after c) rest

private theorem toList_positionTable (table : Array Position) (position : Position)
    (chars : List Char) :
    (positionTable table position chars).toList = table.toList ++ positionList position chars := by
  induction chars generalizing table position with
  | nil => simp [positionTable, positionList]
  | cons c rest hypothesis => simp [positionTable, positionList, hypothesis]

@[simp]
theorem Position.offset_after (position : Position) (c : Char) :
    (position.after c).offset = position.offset + c.utf8Size := by
  rw [Position.after]
  split <;> rfl

private theorem getElem?_positionList (position : Position) (chars : List Char) (distance : Nat) :
    (positionList position chars)[min distance (byteLength chars)]? =
      some (position.advanceTo (position.offset + distance) chars) := by
  induction chars generalizing position distance with
  | nil => simp [positionList, Position.advanceTo]
  | cons c rest hypothesis =>
      rw [positionList, byteLength_cons, Position.advanceTo]
      by_cases inside : distance < c.utf8Size
      · rw [List.getElem?_append_left (by simp; omega), List.getElem?_replicate,
          if_pos (by omega), if_neg (by omega)]
      · rw [List.getElem?_append_right (by simp; omega), if_pos (by omega)]
        simp only [List.length_replicate]
        have shifted := hypothesis (position.after c) (distance - c.utf8Size)
        rw [Position.offset_after] at shifted
        have index : min distance (c.utf8Size + byteLength rest) - c.utf8Size =
            min (distance - c.utf8Size) (byteLength rest) := by omega
        have total : position.offset + c.utf8Size + (distance - c.utf8Size) =
            position.offset + distance := by omega
        rw [index, shifted, total]

theorem Lines.positionAt_eq (lines : Lines) (offset : Nat) :
    lines.positionAt offset = Position.origin.advanceTo offset lines.text.toList := by
  rw [Lines.positionAt, lines.positions_eq, ← Array.getElem?_toList, toList_positionTable,
    utf8ByteSize_eq_byteLength, List.nil_append, getElem?_positionList]
  simp [Position.origin]

private def startList : List Char → List (List Char)
  | [] => []
  | c :: rest => if c = '\n' then rest :: startList rest else startList rest

private theorem toList_startTable (table : Array (List Char)) (chars : List Char) :
    (startTable table chars).toList = table.toList ++ startList chars := by
  induction chars generalizing table with
  | nil => simp [startTable, startList]
  | cons c rest hypothesis =>
      rw [startTable, startList, hypothesis]
      split <;> simp

private theorem startList_eq (chars : List Char) :
    startList chars =
      match chars.dropWhile (· ≠ '\n') with
      | [] => []
      | _ :: rest => rest :: startList rest := by
  induction chars with
  | nil => rfl
  | cons c rest hypothesis =>
      by_cases feed : c = '\n'
      · simp [startList, feed]
      · simpa [startList, feed] using hypothesis

private theorem getElem?_startList (chars : List Char) (number : Nat) :
    (chars :: startList chars)[number]?.map (List.takeWhile (· ≠ '\n')) =
      lineFrom? number chars := by
  induction number generalizing chars with
  | zero => simp [lineFrom?]
  | succ number hypothesis =>
      rw [List.getElem?_cons_succ, startList_eq, lineFrom?]
      cases chars.dropWhile (· ≠ '\n') with
      | nil => simp
      | cons c rest => exact hypothesis rest

theorem Lines.line?_eq (lines : Lines) (number : Nat) :
    lines.line? (number + 1) =
      (lineFrom? number lines.text.toList).map fun line => String.ofList (trimReturns line) := by
  rw [Lines.line?, lines.starts_eq, ← Array.getElem?_toList, toList_startTable,
    ← getElem?_startList, Option.map_map]
  rfl

end CssSelector
