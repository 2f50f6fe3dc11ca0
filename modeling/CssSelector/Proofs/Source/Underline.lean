import CssSelector.Proofs.Source.Resolution

/-!
# Underlining offsets

A diagnostic about two offsets shows the line of the first one and underlines it up to the second,
or up to the end of the shown line if the second is on a later one. It fails in one case only, that
the shown line ends in front of the first offset and the second is on a later line,
`Lines.renderDiagnostic_offsets`.
-/

set_option autoImplicit false

namespace CssSelector

/-- A message at a position, over a line and an underline that starts below the position. -/
def underlined (message : String) (position : Position) (line : List Char) (width : Nat) :
    String :=
  let margin := repeated ' ' (toString position.line).length
  s!"error: {message}\n  --> {position.line}:{position.column}\n" ++
    (s!"{margin} |\n{position.line} | {String.ofList line}\n{margin} | " ++
      repeated ' ' (position.column - 1) ++ repeated '^' width ++ "\n")

theorem diagnostic_eq_underlined (message : String) (before after : List Char) (width : Nat) :
    diagnostic message before after width =
      underlined message (Position.origin.afterAll before)
        (trimReturns (currentLine before ++ after.takeWhile (· ≠ '\n'))) width := by
  rw [Position.origin_afterAll]
  rfl

/-! ## What is hidden and what is underlined -/

/-- Of two beginnings of the same characters, the one with fewer characters takes fewer bytes. -/
theorem byteLength_lt_iff_length_lt {first second whole : List Char} (left : first <+: whole)
    (right : second <+: whole) :
    byteLength first < byteLength second ↔ first.length < second.length := by
  rcases List.prefix_or_prefix_of_prefix left right with ⟨more, rfl⟩ | ⟨more, rfl⟩
  · cases more with
    | nil => simp
    | cons c more =>
        have positive := Char.utf8Size_pos c
        simp only [byteLength_append, byteLength_cons, List.length_append, List.length_cons]
        omega
  · rw [byteLength_append, List.length_append]
    omega

section

variable {before inside : List Char}

theorem lt_line_iff :
    (Position.origin.afterAll before).line <
        (Position.origin.afterAll (before ++ inside)).line ↔ '\n' ∈ inside := by
  rw [Position.line_origin_afterAll, Position.line_origin_afterAll, List.count_append,
    ← List.count_pos_iff]
  omega

theorem line_eq_iff :
    (Position.origin.afterAll before).line =
        (Position.origin.afterAll (before ++ inside)).line ↔ '\n' ∉ inside := by
  rw [Position.line_origin_afterAll, Position.line_origin_afterAll, List.count_append,
    ← List.count_eq_zero]
  omega

/-- What is hidden starts behind the end of the shown line and goes on to a later line. -/
theorem overhangs_iff_line (before inside after : List Char) :
    overhangs before inside = true ↔
      (Position.origin.afterAll before).line <
          (Position.origin.afterAll (before ++ inside)).line ∧
        byteLength (earlierLines before) + byteLength
          (trimReturns (currentLine before ++ (inside ++ after).takeWhile (· ≠ '\n'))) <
            byteLength before := by
  rw [overhangs_iff, lt_line_iff]
  refine and_congr_right fun several => ?_
  have place : byteLength before =
      byteLength (earlierLines before) + byteLength (currentLine before) := by
    rw [← byteLength_append, earlierLines_append_currentLine]
  rw [place, Nat.add_lt_add_iff_left, takeWhile_append_of_feed several]
  exact (byteLength_lt_iff_length_lt (List.rdropWhile_prefix _ _) (List.prefix_append _ _)).symm

variable {text : String} {after : List Char}

theorem exists_rest_of_shown (chars : text.toList = before ++ (inside ++ after))
    (several : '\n' ∈ inside) (visible : ¬overhangs before inside = true) :
    ∃ rest,
      sliceBytes? (byteLength before)
          (byteLength (earlierLines before) + byteLength
            (trimReturns (currentLine before ++ (inside ++ after).takeWhile (· ≠ '\n'))))
          text.toList = some rest ∧
        underlineLength before inside = rest.length := by
  have isLine := isLine_of_append chars
  rw [takeWhile_append_of_feed several] at isLine ⊢
  generalize shape : currentLine before ++ inside.takeWhile (· ≠ '\n') = line at isLine ⊢
  have reached : ¬(trimReturns line).length < (currentLine before).length := by
    rw [← shape]
    exact fun hidden => visible (overhangs_iff.mpr ⟨several, hidden⟩)
  obtain ⟨returns, trimmed⟩ : trimReturns line <+: line := List.rdropWhile_prefix _ _
  have front : currentLine before <+: line := by
    rw [← shape]
    exact List.prefix_append _ _
  obtain ⟨rest, shown⟩ : currentLine before <+: trimReturns line :=
    List.prefix_of_prefix_length_le front ⟨returns, trimmed⟩ (Nat.le_of_not_lt reached)
  have parts : text.toList =
      before ++ (rest ++ (returns ++ (inside ++ after).dropWhile (· ≠ '\n'))) := by
    rw [isLine.chars_eq, ← trimmed, ← shown]
    nth_rewrite 3 [← earlierLines_append_currentLine before]
    simp only [List.append_assoc]
  have place : byteLength (earlierLines before) + byteLength (trimReturns line) =
      byteLength before + byteLength rest := by
    rw [← shown, byteLength_append, ← Nat.add_assoc, ← byteLength_append,
      earlierLines_append_currentLine]
  refine ⟨rest, ?_, ?_⟩
  · rw [place, parts, sliceBytes?_byteLength]
  · rw [underlineLength, if_pos several, shape, ← shown, List.length_append,
      Nat.add_sub_cancel_left]

/-- Unless they are hidden, characters are underlined to their end, or to the end of the shown line
if they go on behind that line. -/
theorem exists_covered (chars : text.toList = before ++ (inside ++ after))
    (visible : ¬overhangs before inside = true) :
    ∃ covered,
      sliceBytes? (byteLength before)
          (if (Position.origin.afterAll before).line =
              (Position.origin.afterAll (before ++ inside)).line then byteLength (before ++ inside)
            else byteLength (earlierLines before) + byteLength
              (trimReturns (currentLine before ++ (inside ++ after).takeWhile (· ≠ '\n'))))
          text.toList = some covered ∧
        underlineLength before inside = covered.length := by
  by_cases several : '\n' ∈ inside
  · rw [if_neg fun same => line_eq_iff.mp same several]
    exact exists_rest_of_shown chars several visible
  · rw [if_pos (line_eq_iff.mpr several), underlineLength, if_neg several, byteLength_append, chars,
      sliceBytes?_byteLength]
    exact ⟨inside, rfl, rfl⟩

/-! ## Diagnostics about offsets -/

theorem Lines.renderDiagnostic_atOffset {start stop : Nat} (ordered : start ≤ stop)
    (representable : stop ≤ maxOffset) (chars : text.toList = before ++ (inside ++ after))
    (here : (Lines.ofString text).positionAt start = Position.origin.afterAll before)
    (there : (Lines.ofString text).positionAt stop = Position.origin.afterAll (before ++ inside))
    (message : String) :
    (Lines.ofString text).renderDiagnostic ⟨.atOffset start, .atOffset stop⟩ message =
      if overhangs before inside then .error .columnUnderflow
      else .ok (diagnostic message before (inside ++ after)
        (max (underlineLength before inside) 1)) := by
  have size : Span.length ⟨.atOffset start, .atOffset stop⟩ = .ok (stop - start) := if_pos ordered
  have resolved : (Lines.ofString text).spanAt start (stop - start) =
      .ok (.ofChars before inside) := by
    rw [spanAt, Nat.add_sub_cancel' ordered, Nat.min_eq_left representable, here, there,
      Span.between_afterAll]
  rw [renderDiagnostic_ofOffsets rfl size resolved]
  exact renderDiagnostic_ofChars chars message

end

/-- A diagnostic about two offsets in order. It is about the boundaries for which they stand, at
the position of the first. On its line, without the carriage returns at the end, it underlines one
character, or as many as there are up to the second boundary, or up to the end of the shown line if
the second is on a later one. In that last case the shown line may end in front of the first
boundary; then, and only then, there is no diagnostic. -/
theorem Lines.renderDiagnostic_offsets (text : String) (short : text.utf8ByteSize < maxColumn)
    (message : String) {start stop : Nat} (ordered : start ≤ stop)
    (representable : stop ≤ maxOffset) :
    ∃ span first last earlier line later,
      Span.ofOffsets start stop = .ok span ∧
      StandsFor text start first ∧ StandsFor text stop last ∧
      IsLine text earlier line later ∧
      byteLength earlier ≤ first ∧ first ≤ byteLength (earlier ++ line) ∧
      let here := (Lines.ofString text).positionAt start
      let there := (Lines.ofString text).positionAt stop
      let shown := trimReturns line
      let rendered := (Lines.ofString text).renderDiagnostic span message
      here.offset = first ∧ there.offset = last ∧
      (LineIndex.ofString text).renderDiagnostic span message = rendered ∧
      if here.line < there.line ∧ byteLength earlier + byteLength shown < first then
        rendered = .error .columnUnderflow
      else ∃ covered,
        sliceBytes? first
            (if here.line = there.line then last else byteLength earlier + byteLength shown)
            text.toList = some covered ∧
          rendered = .ok (underlined message here shown (max 1 covered.length)) := by
  obtain ⟨before, inside, after, chars, first, last, here, there⟩ :=
    @exists_standsFor_of_le text _ _ ordered
  have rendered := renderDiagnostic_atOffset ordered representable chars here there message
  have hidden := overhangs_iff_line before inside after
  refine ⟨_, _, _, _, _, _, if_pos ordered, first, last, isLine_of_append chars, ?_, ?_, ?_, ?_,
    LineIndex.renderDiagnostic_ofString short _ message, ?_⟩
  · nth_rewrite 2 [← earlierLines_append_currentLine before]
    rw [byteLength_append]
    exact Nat.le_add_right _ _
  · rw [← List.append_assoc, earlierLines_append_currentLine, byteLength_append]
    exact Nat.le_add_right _ _
  · rw [here, Position.origin_afterAll]
  · rw [there, Position.origin_afterAll]
  · rw [here, there, rendered]
    by_cases hides : overhangs before inside = true
    · rw [if_pos (hidden.mp hides), if_pos hides]
    · obtain ⟨covered, found, width⟩ := exists_covered chars hides
      rw [if_neg (mt hidden.mpr hides), if_neg hides, diagnostic_eq_underlined, width,
        Nat.max_comm]
      exact ⟨covered, found, rfl⟩

/-- From behind the first of two carriage returns that are not shown there is no diagnostic that
goes on to the next line; from in front of it there is one, which underlines one character. -/
theorem Lines.renderDiagnostic_offsets_of_returns :
    "a\r\r\nbé".utf8ByteSize < maxColumn ∧ 1 ≤ 6 ∧ 2 ≤ 6 ∧ 6 ≤ maxOffset ∧
      (LineIndex.ofString "a\r\r\nbé").renderDiagnostic ⟨.atOffset 2, .atOffset 6⟩ "lost" =
        .error .columnUnderflow ∧
      (LineIndex.ofString "a\r\r\nbé").renderDiagnostic ⟨.atOffset 1, .atOffset 6⟩ "lost" =
        .ok "error: lost\n  --> 1:2\n  |\n1 | a\n  |  ^\n" := by
  have short : "a\r\r\nbé".utf8ByteSize < maxColumn := by decide
  have representable : 6 ≤ maxOffset := by decide
  obtain ⟨_, _, _, _, _, _, behind, -, -, -, -, -, -, -, searched, -⟩ :=
    Lines.renderDiagnostic_offsets "a\r\r\nbé" short "lost" (by decide : 2 ≤ 6) representable
  obtain ⟨_, _, _, _, _, _, front, -, -, -, -, -, -, -, found, -⟩ :=
    Lines.renderDiagnostic_offsets "a\r\r\nbé" short "lost" (by decide : 1 ≤ 6) representable
  cases behind
  cases front
  refine ⟨short, by decide, by decide, representable, searched.trans ?_, found.trans ?_⟩
  · decide +kernel
  · decide +kernel

end CssSelector
