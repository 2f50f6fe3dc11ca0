import CssSelector.Proofs.Source.Excerpt
import CssSelector.Proofs.Source.Index
import Mathlib.Data.Prod.Lex

/-!
# Resolving offsets

Every offset has a position, and line and column of the position tell the boundary for which the
offset stands, `Lines.positionAt_resolution`. Every stretch of offsets has a span, the span covers
a part of the text, and its lines can be shown, `Lines.spanAt_faithful`. Tables and searches give
the same answers, and none of them fails.
-/

set_option autoImplicit false

namespace CssSelector

/-! ## The order of positions -/

/-- Line and column, in the order in which a text is read. -/
def Position.lineColumn (position : Position) : Nat ×ₗ Nat :=
  toLex (position.line, position.column)

theorem lineColumn_lt_append (before : List Char) {inside : List Char} (more : inside ≠ []) :
    (Position.origin.afterAll before).lineColumn <
      (Position.origin.afterAll (before ++ inside)).lineColumn := by
  rw [Position.lineColumn, Position.lineColumn, Prod.Lex.toLex_lt_toLex,
    Position.origin_afterAll, Position.origin_afterAll]
  dsimp only
  rw [List.count_append]
  by_cases several : '\n' ∈ inside
  · have lines := List.count_pos_iff.mpr several
    exact .inl (by omega)
  · have columns := List.length_pos_iff.mpr more
    rw [List.count_eq_zero.mpr several, currentLine_append_of_not_mem several, List.length_append]
    exact .inr ⟨rfl, by omega⟩

namespace Lines

variable {text : String}

theorem lineColumn_positionAt {offset later : Nat} (ordered : offset ≤ later) :
    ((Lines.ofString text).positionAt offset).lineColumn ≤
        ((Lines.ofString text).positionAt later).lineColumn ∧
      (((Lines.ofString text).positionAt offset).offset ≠
          ((Lines.ofString text).positionAt later).offset →
        ((Lines.ofString text).positionAt offset).lineColumn <
          ((Lines.ofString text).positionAt later).lineColumn) := by
  obtain ⟨before, inside, after, -, -, -, first, second⟩ := @exists_standsFor_of_le text _ _ ordered
  rw [first, second]
  by_cases same : inside = []
  · rw [same, List.append_nil]
    exact ⟨le_refl _, fun differ => absurd rfl differ⟩
  · have less := lineColumn_lt_append before same
    exact ⟨le_of_lt less, fun _ => less⟩

/-- The position of an offset is found, and it is the one of the last boundary up to the offset: it
counts the lines in front of the boundary and the characters in front of it on its line. Positions
are read in the order of their boundaries, so that line and column tell the boundary. -/
theorem positionAt_resolution (text : String) (short : text.utf8ByteSize < maxColumn)
    (offset : Nat) :
    (∃ before after position,
      text.toList = before ++ after ∧ StandsFor text offset (byteLength before) ∧
        position =
          ⟨byteLength before, before.count '\n' + 1, (currentLine before).length + 1⟩ ∧
        (Lines.ofString text).positionAt offset = position ∧
        (LineIndex.ofString text).positionAt offset = .ok position) ∧
      ∀ other,
        let here := (Lines.ofString text).positionAt offset
        let there := (Lines.ofString text).positionAt other
        (offset ≤ other → here.lineColumn ≤ there.lineColumn ∧
          (here.offset ≠ there.offset → here.lineColumn < there.lineColumn)) ∧
        (here.lineColumn = there.lineColumn → here.offset = there.offset) := by
  obtain ⟨before, after, chars, stands, position⟩ := exists_standsFor text offset
  have searched := LineIndex.positionAt_ofString short offset
  refine ⟨⟨before, after, _, chars, stands, Position.origin_afterAll before, position,
    searched.trans (congrArg Except.ok position)⟩, ?_⟩
  intro other here there
  refine ⟨lineColumn_positionAt, ?_⟩
  intro same
  by_contra differ
  rcases Nat.le_total offset other with ordered | ordered
  · exact absurd same (ne_of_lt ((lineColumn_positionAt ordered).2 differ))
  · exact absurd same.symm (ne_of_lt ((lineColumn_positionAt ordered).2 (Ne.symm differ)))

/-- An offset inside of a character on the second line. -/
theorem positionAt_resolution_of_inside :
    "a\r\né\n".utf8ByteSize < maxColumn ∧
      (LineIndex.ofString "a\r\né\n").positionAt 4 = .ok ⟨3, 2, 1⟩ ∧
        ((Lines.ofString "a\r\né\n").positionAt 4).lineColumn <
          ((Lines.ofString "a\r\né\n").positionAt 5).lineColumn := by
  have short : "a\r\né\n".utf8ByteSize < maxColumn := by decide
  obtain ⟨⟨before, after, position, -, -, -, found, searched⟩, order⟩ :=
    positionAt_resolution "a\r\né\n" short 4
  have known : (Lines.ofString "a\r\né\n").positionAt 4 = ⟨3, 2, 1⟩ := by decide
  rw [← found, known] at searched
  exact ⟨short, searched, ((order 5).1 (by decide)).2 (by decide)⟩

/-! ## Spans and lines -/

theorem slice?_ofChars {before inside after : List Char}
    (chars : text.toList = before ++ (inside ++ after)) :
    sliceBytes? (byteLength before) (byteLength (before ++ inside)) text.toList = some inside := by
  rw [byteLength_append, chars, sliceBytes?_byteLength]

theorem exists_spanAt (text : String) {offset : Nat} (representable : offset ≤ maxOffset)
    (length : Nat) :
    ∃ before inside after, text.toList = before ++ (inside ++ after) ∧
      StandsFor text offset (byteLength before) ∧
        StandsFor text (min (offset + length) maxOffset) (byteLength (before ++ inside)) ∧
          (Lines.ofString text).spanAt offset length = .ok (.ofChars before inside) := by
  have ordered : offset ≤ min (offset + length) maxOffset := by omega
  obtain ⟨before, inside, after, chars, first, second, here, there⟩ :=
    @exists_standsFor_of_le text _ _ ordered
  refine ⟨before, inside, after, chars, first, second, ?_⟩
  rw [spanAt, here, there, Span.between_afterAll]

theorem isSome_line?_iff (text : String) (number : Nat) :
    ((Lines.ofString text).line? number).isSome = true ↔
      1 ≤ number ∧ number ≤ 1 + text.toList.count '\n' := by
  cases number with
  | zero => simp [line?]
  | succ number =>
      rw [line?_ofString, Option.isSome_map, isSome_getElem?, length_splitOn_feed]
      omega

theorem exists_piece_of_line? {number : Nat} {line : String}
    (found : (Lines.ofString text).line? number = some line) :
    ∃ piece, (text.toList.splitOn '\n')[number - 1]? = some piece ∧
      line = String.ofList (trimReturns piece) := by
  cases number with
  | zero => cases found
  | succ number =>
      rw [line?_ofString, Option.map_eq_some_iff] at found
      obtain ⟨piece, inside, rfl⟩ := found
      exact ⟨piece, inside, rfl⟩

theorem isSome_line?_positionAt (text : String) (offset : Nat) :
    ((Lines.ofString text).line? ((Lines.ofString text).positionAt offset).line).isSome =
      true := by
  obtain ⟨before, after, chars, -, position⟩ := exists_standsFor text offset
  have line := @line?_origin_afterAll (Lines.ofString text) before after chars
  rw [position, line]
  rfl

/-- The span of a stretch of offsets is found, it runs between boundaries and it covers the
characters between them, which are those of the stretch if this runs between boundaries itself.
A line is found if and only if there is a piece of the text with its number, and it is this piece
without the carriage returns at its end. Positions are on lines that are found. -/
theorem spanAt_faithful (text : String) (short : text.utf8ByteSize < maxColumn) {offset : Nat}
    (representable : offset ≤ maxOffset) (length : Nat) :
    (∃ span covered,
      (Lines.ofString text).spanAt offset length = .ok span ∧
        (LineIndex.ofString text).spanAt offset length = .ok span ∧
        isBoundary text span.start.offset = true ∧ isBoundary text span.stop.offset = true ∧
        span.start.offset ≤ span.stop.offset ∧ span.stop.offset ≤ text.utf8ByteSize ∧
        span.slice? text = some covered ∧
        (isBoundary text offset = true → isBoundary text (offset + length) = true →
          sliceBytes? offset (offset + length) text.toList = some covered.toList)) ∧
      (∀ number,
        (LineIndex.ofString text).line? number = .ok ((Lines.ofString text).line? number) ∧
        (((Lines.ofString text).line? number).isSome = true ↔
          1 ≤ number ∧ number ≤ 1 + text.toList.count '\n') ∧
        ∀ line, (Lines.ofString text).line? number = some line →
          ∃ piece, (text.toList.splitOn '\n')[number - 1]? = some piece ∧
            line = String.ofList (trimReturns piece)) ∧
      ∀ other,
        ((Lines.ofString text).line? ((Lines.ofString text).positionAt other).line).isSome =
          true := by
  refine ⟨?_, fun number => ⟨LineIndex.line?_ofString number, isSome_line?_iff text number,
    fun line => exists_piece_of_line?⟩, isSome_line?_positionAt text⟩
  obtain ⟨before, inside, after, chars, first, second, found⟩ :=
    exists_spanAt text representable length
  have start : (Span.ofChars before inside).start.offset = byteLength before := by
    simp [Span.ofChars, Position.origin]
  have stop : (Span.ofChars before inside).stop.offset = byteLength (before ++ inside) := by
    simp [Span.ofChars, Position.origin]
  refine ⟨.ofChars before inside, String.ofList inside, found,
    (LineIndex.spanAt_ofString short offset length).trans found, ?_⟩
  rw [Span.slice?, start, stop, slice?_ofChars chars, String.toList_ofList]
  refine ⟨first.boundary, second.boundary, ?_, second.le_size, rfl, ?_⟩
  · rw [byteLength_append]
    exact Nat.le_add_right _ _
  · intro front back
    have reach := le_size_of_isBoundary back
    have limit : maxColumn < maxOffset := by decide
    rw [Nat.min_eq_left (by omega)] at second
    rw [← IsGreatest.unique second (StandsFor.of_isBoundary back),
      ← IsGreatest.unique first (StandsFor.of_isBoundary front)]
    exact slice?_ofChars chars

/-- A stretch that begins inside of a character and ends in front of a line feed. -/
theorem spanAt_faithful_of_inside :
    "é\r\nx".utf8ByteSize < maxColumn ∧ 1 ≤ maxOffset ∧
      (LineIndex.ofString "é\r\nx").spanAt 1 2 = .ok ⟨⟨0, 1, 1⟩, ⟨3, 1, 3⟩⟩ ∧
        Span.slice? ⟨⟨0, 1, 1⟩, ⟨3, 1, 3⟩⟩ "é\r\nx" = some "é\r" ∧
          (LineIndex.ofString "é\r\nx").line? 1 = .ok (some "é") := by
  have short : "é\r\nx".utf8ByteSize < maxColumn := by decide
  have representable : 1 ≤ maxOffset := by decide
  obtain ⟨⟨span, covered, found, searched, -, -, -, -, slice, -⟩, lines, -⟩ :=
    spanAt_faithful "é\r\nx" short representable 2
  have known : (Lines.ofString "é\r\nx").spanAt 1 2 = .ok ⟨⟨0, 1, 1⟩, ⟨3, 1, 3⟩⟩ := by decide
  have line : (Lines.ofString "é\r\nx").line? 1 = some "é" := by decide
  rw [known] at found
  cases found
  refine ⟨short, representable, searched, by decide, ?_⟩
  rw [(lines 1).1, line]

end Lines

end CssSelector
