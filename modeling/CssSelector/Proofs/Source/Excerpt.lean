import CssSelector.Proofs.Source.Position

/-!
# Excerpts that cannot be shown

Carriage returns at the end of a line are not shown. A span that starts behind one of them and
goes on to the next line would be underlined from a column on that its shown line does not reach.
Of the spans between two places of a text, these are the ones without an excerpt,
`renderDiagnostic_ofChars`.
-/

set_option autoImplicit false

namespace CssSelector

/-- Whether characters begin with a line end: carriage returns, possibly none, and a line feed. -/
def beginsWithLineEnd (chars : List Char) : Bool := (chars.dropWhile (· = '\r')).head? = some '\n'

/-- Whether characters start behind a carriage return that is not shown and go on to the next
line. -/
def overhangs (before inside : List Char) : Bool :=
  before.getLast? = some '\r' && beginsWithLineEnd inside

theorem beginsWithLineEnd_iff {chars : List Char} :
    beginsWithLineEnd chars = true ↔
      '\n' ∈ chars ∧ ∀ c ∈ chars.takeWhile (· ≠ '\n'), c = '\r' := by
  induction chars with
  | nil => simp [beginsWithLineEnd]
  | cons c rest ih =>
      by_cases feed : c = '\n'
      · simp [beginsWithLineEnd, feed]
      · by_cases blank : c = '\r'
        · simpa [beginsWithLineEnd, blank] using ih
        · simp [beginsWithLineEnd, feed, blank]

theorem trimReturns_concat (line : List Char) : trimReturns (line ++ ['\r']) = trimReturns line :=
  List.rdropWhile_concat_pos _ _ _ (by simp)

theorem trimReturns_concat_of_ne {c : Char} (other : c ≠ '\r') (line : List Char) :
    trimReturns (line ++ [c]) = line ++ [c] :=
  List.rdropWhile_concat_neg _ _ _ (by simpa using other)

theorem length_trimReturns_le (line : List Char) : (trimReturns line).length ≤ line.length :=
  List.IsPrefix.length_le ( List.rdropWhile_prefix _ line)

/-- Cutting off the carriage returns of a line reaches into its left part exactly if that ends in
one and only others follow. -/
theorem length_trimReturns_lt_iff {left right : List Char} :
    (trimReturns (left ++ right)).length < left.length ↔
      left.getLast? = some '\r' ∧ ∀ c ∈ right, c = '\r' := by
  induction right using List.reverseRecOn with
  | nil =>
      induction left using List.reverseRecOn with
      | nil => simp [trimReturns]
      | append_singleton left c ih =>
          by_cases blank : c = '\r'
          · have shorter := length_trimReturns_le left
            simp [blank, trimReturns_concat]
            omega
          · simp [blank, trimReturns_concat_of_ne]
  | append_singleton right c ih =>
      rw [← List.append_assoc, List.forall_mem_append, List.forall_mem_singleton]
      by_cases blank : c = '\r'
      · rw [blank, trimReturns_concat, ih]
        simp
      · rw [trimReturns_concat_of_ne blank]
        simp only [blank, and_false, iff_false, List.length_append]
        omega

/-! ## Resolved spans -/

/-- The span of characters behind others. -/
def Span.ofChars (before inside : List Char) : Span where
  start := Position.origin.afterAll before
  stop := Position.origin.afterAll (before ++ inside)

theorem Span.between_afterAll (before inside : List Char) :
    Span.between (Position.origin.afterAll before) (Position.origin.afterAll (before ++ inside)) =
      .ok (.ofChars before inside) := by
  rw [between, if_pos]
  · rfl
  · simp

@[simp]
theorem Span.hasLine_start_ofChars (before inside : List Char) :
    (Span.ofChars before inside).start.hasLine = true := by
  simp [Span.ofChars, Position.hasLine, Position.line_origin_afterAll]

theorem currentLine_append_of_not_mem {inside : List Char} (single : '\n' ∉ inside)
    (before : List Char) : currentLine (before ++ inside) = currentLine before ++ inside := by
  induction inside using List.reverseRecOn with
  | nil => simp
  | append_singleton inside c ih =>
      rw [List.mem_append, List.mem_singleton, not_or] at single
      rw [← List.append_assoc, currentLine_concat (Ne.symm single.2), ih single.1,
        List.append_assoc]

theorem getLast?_currentLine_eq_return {before : List Char} :
    (currentLine before).getLast? = some '\r' ↔ before.getLast? = some '\r' := by
  induction before using List.reverseRecOn with
  | nil => rfl
  | append_singleton before c ih =>
      by_cases feed : c = '\n'
      · simp [feed]
      · simp [currentLine_concat feed]

theorem takeWhile_append_of_feed {inside : List Char} (several : '\n' ∈ inside)
    (after : List Char) :
    (inside ++ after).takeWhile (· ≠ '\n') = inside.takeWhile (· ≠ '\n') := by
  rw [List.takeWhile_append, if_neg]
  intro full
  have whole := List.IsPrefix.eq_of_length ( List.takeWhile_prefix _) full
  rw [← whole] at several
  simpa using List.mem_takeWhile_imp several

theorem overhangs_iff {before inside : List Char} :
    overhangs before inside = true ↔
      '\n' ∈ inside ∧
        (trimReturns (currentLine before ++ inside.takeWhile (· ≠ '\n'))).length <
          (currentLine before).length := by
  rw [overhangs, Bool.and_eq_true, decide_eq_true_iff, beginsWithLineEnd_iff,
    length_trimReturns_lt_iff, getLast?_currentLine_eq_return]
  exact and_left_comm

/-! ## Diagnostics -/

/-- The line of the place between two parts of a text, without carriage returns at its end. -/
def shownLine (before after : List Char) : String :=
  String.ofList (trimReturns (currentLine before ++ after.takeWhile (· ≠ '\n')))

/-- How far characters are underlined: to their end, or to the end of the shown line where they go
on behind it. -/
def underlineLength (before inside : List Char) : Nat :=
  if '\n' ∈ inside then
    (trimReturns (currentLine before ++ inside.takeWhile (· ≠ '\n'))).length -
      (currentLine before).length
  else inside.length

/-- A message about the place between two parts of a text: the line and the column of the place,
counted from one; its line; and the underline, behind one blank for each character of the line
before the place. -/
def diagnostic (message : String) (before after : List Char) (width : Nat) : String :=
  let line := before.count '\n' + 1
  let column := (currentLine before).length + 1
  let margin := repeated ' ' (toString line).length
  s!"error: {message}\n  --> {line}:{column}\n" ++
    (s!"{margin} |\n{line} | {shownLine before after}\n{margin} | " ++
      repeated ' ' (column - 1) ++ repeated '^' width ++ "\n")

/-- Underlining characters needs the shown line to reach them. -/
theorem underlineWidth_ofChars (before inside after : List Char) :
    underlineWidth (.ofChars before inside) (shownLine before (inside ++ after)) =
      if overhangs before inside then .error .columnUnderflow
      else .ok (underlineLength before inside) := by
  have lines : (Span.ofChars before inside).start.line = (Span.ofChars before inside).stop.line ↔
      '\n' ∉ inside := by
    rw [← List.count_eq_zero]
    simp [Span.ofChars, Position.line_origin_afterAll]
  have start : (Span.ofChars before inside).start.column = (currentLine before).length + 1 :=
    Position.column_origin_afterAll before
  have stop : (Span.ofChars before inside).stop.column =
      (currentLine (before ++ inside)).length + 1 := Position.column_origin_afterAll _
  rw [underlineWidth, shownLine, underlineLength, start, stop]
  by_cases several : '\n' ∈ inside
  · rw [if_neg (by simpa [lines] using several), if_pos several,
      takeWhile_append_of_feed several, String.length_ofList, subtractColumns]
    by_cases hidden : overhangs before inside = true
    · have short := (overhangs_iff.mp hidden).2
      rw [if_neg (by omega), if_pos hidden]
    · have reached := not_and.mp (mt overhangs_iff.mpr hidden) several
      rw [if_pos (by omega), if_neg hidden, Nat.add_sub_add_right]
  · have shown : ¬overhangs before inside = true :=
      fun hidden => several (overhangs_iff.mp hidden).1
    rw [if_pos (lines.mpr several), if_neg several, if_neg shown,
      currentLine_append_of_not_mem several, subtractColumns, if_pos (by simp)]
    simp

theorem excerpt_eq_map {span : Span} (known : 0 < span.start.column) (line : String) :
    excerpt span line = (underlineWidth span line).map fun width =>
      let number := toString span.start.line
      let margin := repeated ' ' number.length
      s!"{margin} |\n{number} | {line}\n{margin} | " ++ repeated ' ' (span.start.column - 1)
        ++ repeated '^' (max width 1) ++ "\n" := by
  have indent : subtractColumns span.start.column 1 = .ok (span.start.column - 1) := if_pos known
  rw [excerpt, indent]
  cases underlineWidth span line with
  | error cause => rfl
  | ok width => rfl

theorem Lines.renderDiagnostic_eq_map {lines : Lines} {span : Span} {line : String}
    (resolved : span.start.hasLine = true) (found : lines.line? span.start.line = some line)
    (message : String) :
    lines.renderDiagnostic span message = (excerpt span line).map fun shown =>
      s!"error: {message}\n  --> {span.start.line}:{span.start.column}\n" ++ shown := by
  rw [renderDiagnostic, if_pos resolved]
  simp only [bind, Except.bind, pure, Except.pure, found]
  cases excerpt span line with
  | error cause => rfl
  | ok shown => rfl

section

variable {lines : Lines} {before inside after : List Char}

/-- The characters of a text are shown unless they overhang their line. -/
theorem Lines.renderDiagnostic_ofChars (chars : lines.text.toList = before ++ (inside ++ after))
    (message : String) :
    lines.renderDiagnostic (.ofChars before inside) message =
      if overhangs before inside then .error .columnUnderflow
      else .ok (diagnostic message before (inside ++ after)
        (max (underlineLength before inside) 1)) := by
  have line := Position.line_origin_afterAll before
  have column := Position.column_origin_afterAll before
  have known : 0 < (Span.ofChars before inside).start.column := by
    rw [Span.ofChars, column]
    exact Nat.succ_pos _
  have found := Lines.line?_origin_afterAll chars
  rw [renderDiagnostic_eq_map (Span.hasLine_start_ofChars before inside) found,
    excerpt_eq_map known, ← shownLine, underlineWidth_ofChars]
  split
  · rfl
  · rw [diagnostic, ← line, ← column]
    rfl

/-! ## Spans of offsets -/

theorem Lines.renderDiagnostic_ofOffsets {span : Span} {length : Nat}
    (unresolved : span.start.hasLine = false) (size : span.length = .ok length)
    (resolved : lines.spanAt span.start.offset length = .ok (.ofChars before inside))
    (message : String) :
    lines.renderDiagnostic span message =
      lines.renderDiagnostic (.ofChars before inside) message := by
  rw [renderDiagnostic, renderDiagnostic, unresolved, size,
    if_pos (Span.hasLine_start_ofChars before inside)]
  simp only [bind, Except.bind, pure, Except.pure, resolved, Bool.false_eq_true, if_false]

theorem Lines.exists_spanAt_eq (chars : lines.text.toList = before ++ after)
    (representable : byteLength before ≤ maxOffset) (length : Nat) :
    ∃ inside rest, after = inside ++ rest ∧
      lines.spanAt (byteLength before) length = .ok (.ofChars before inside) := by
  have behind : byteLength before ≤ min (byteLength before + length) maxOffset := by omega
  obtain ⟨inside, rest, parts, reached⟩ := lines.exists_positionAt_eq chars behind
  refine ⟨inside, rest, parts, ?_⟩
  rw [spanAt, positionAt_byteLength chars, reached, Span.between_afterAll]

theorem Lines.spanAt_byteLength (chars : lines.text.toList = before ++ (inside ++ after))
    (representable : byteLength (before ++ inside) ≤ maxOffset) :
    lines.spanAt (byteLength before) (byteLength inside) = .ok (.ofChars before inside) := by
  have behind : lines.text.toList = (before ++ inside) ++ after := by
    rw [chars, List.append_assoc]
  rw [spanAt, positionAt_byteLength chars, ← byteLength_append, Nat.min_eq_left representable,
    positionAt_byteLength behind, Span.between_afterAll]

end

end CssSelector
