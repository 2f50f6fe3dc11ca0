import CssSelector.Source.Lines
import Mathlib.Data.List.DropRight
import Mathlib.Data.List.Induction

/-!
# Positions in terms of the characters before them

Every position of a text is the one behind some first characters. Its line and column, and the
text of its line, are stated in terms of these characters, so that no later argument counts.
-/

set_option autoImplicit false

namespace CssSelector

namespace Position

/-- The position behind characters. -/
def afterAll (position : Position) (chars : List Char) : Position := chars.foldl after position

@[simp]
theorem afterAll_nil (position : Position) : position.afterAll [] = position := rfl

@[simp]
theorem afterAll_cons (position : Position) (c : Char) (rest : List Char) :
    position.afterAll (c :: rest) = (position.after c).afterAll rest := rfl

theorem afterAll_append (position : Position) (left right : List Char) :
    position.afterAll (left ++ right) = (position.afterAll left).afterAll right :=
  List.foldl_append

@[simp]
theorem offset_afterAll (position : Position) (chars : List Char) :
    (position.afterAll chars).offset = position.offset + byteLength chars := by
  induction chars generalizing position with
  | nil => rfl
  | cons c rest ih =>
      rw [afterAll_cons, ih, offset_after, byteLength_cons]
      omega

theorem advanceTo_append {position : Position} {offset : Nat} {before : List Char}
    (passed : position.offset + byteLength before ≤ offset) (after : List Char) :
    position.advanceTo offset (before ++ after) =
      (position.afterAll before).advanceTo offset after := by
  induction before generalizing position with
  | nil => rfl
  | cons c rest ih =>
      rw [byteLength_cons] at passed
      rw [List.cons_append, advanceTo, if_pos (by omega), afterAll_cons]
      apply ih
      rw [offset_after]
      omega

theorem advanceTo_self (position : Position) (chars : List Char) :
    position.advanceTo position.offset chars = position := by
  cases chars with
  | nil => rfl
  | cons c rest =>
      have positive := Char.utf8Size_pos c
      rw [advanceTo, if_neg (by omega)]

theorem exists_advanceTo_eq (position : Position) (offset : Nat) (chars : List Char) :
    ∃ inside rest, chars = inside ++ rest ∧
      position.advanceTo offset chars = position.afterAll inside ∧
        (position.offset ≤ offset → (position.afterAll inside).offset ≤ offset) ∧
          ∀ c later, rest = c :: later → offset < (position.afterAll (inside ++ [c])).offset := by
  induction chars generalizing position with
  | nil => exact ⟨[], [], rfl, rfl, id, by simp⟩
  | cons c tail ih =>
      rw [advanceTo]
      split
      · next passed =>
          obtain ⟨inside, rest, parts, reached, within, next⟩ := ih (position.after c)
          rw [offset_after] at within
          exact ⟨c :: inside, rest, by rw [parts, List.cons_append], reached,
            fun _ => within passed, next⟩
      · next beyond =>
          refine ⟨[], c :: tail, rfl, rfl, id, ?_⟩
          rintro c later ⟨⟩
          rw [List.nil_append, afterAll_cons, afterAll_nil, offset_after]
          omega

end Position

namespace Lines

variable {lines : Lines} {before after : List Char}

theorem positionAt_byteLength (chars : lines.text.toList = before ++ after) :
    lines.positionAt (byteLength before) = Position.origin.afterAll before := by
  rw [positionAt_eq, chars, Position.advanceTo_append (by simp [Position.origin])]
  have place : byteLength before = (Position.origin.afterAll before).offset := by
    simp [Position.origin]
  rw [place]
  exact Position.advanceTo_self _ after

theorem exists_positionAt_eq (chars : lines.text.toList = before ++ after) {offset : Nat}
    (behind : byteLength before ≤ offset) :
    ∃ inside rest, after = inside ++ rest ∧
      lines.positionAt offset = Position.origin.afterAll (before ++ inside) := by
  rw [positionAt_eq, chars, Position.advanceTo_append (by simpa [Position.origin] using behind)]
  obtain ⟨inside, rest, parts, reached, -, -⟩ :=
    Position.exists_advanceTo_eq (Position.origin.afterAll before) offset after
  exact ⟨inside, rest, parts, by rw [reached, Position.afterAll_append]⟩

end Lines

/-! ## Lines and columns -/

/-- The characters behind the last line feed. -/
def currentLine (chars : List Char) : List Char := chars.rtakeWhile (· ≠ '\n')

theorem currentLine_of_not_mem {chars : List Char} (single : '\n' ∉ chars) :
    currentLine chars = chars := by
  refine List.rtakeWhile_eq_self_iff.mpr ?_
  intro c member
  have other : c ≠ '\n' := by
    rintro rfl
    exact single member
  simpa using other

theorem currentLine_cons_of_mem {c : Char} {rest : List Char} (several : '\n' ∈ c :: rest) :
    currentLine (c :: rest) = currentLine rest := by
  rw [currentLine, currentLine, List.rtakeWhile, List.rtakeWhile, List.reverse_cons,
    List.takeWhile_append]
  split
  · next full =>
      -- the rest is one line, so that the line feed is the character in front of it
      have whole := List.IsPrefix.eq_of_length ( List.takeWhile_prefix _) full
      have single : '\n' ∉ rest := by
        intro member
        rw [← List.mem_reverse, ← whole] at member
        simpa using List.mem_takeWhile_imp member
      have feed : '\n' = c := by simpa [single] using several
      rw [← feed, List.takeWhile_cons_of_neg (by simp), List.append_nil, whole]
  · rfl

@[simp]
theorem currentLine_concat_feed (chars : List Char) : currentLine (chars ++ ['\n']) = [] :=
  List.rtakeWhile_concat_neg _ _ _ (by simp)

theorem currentLine_concat {c : Char} (other : c ≠ '\n') (chars : List Char) :
    currentLine (chars ++ [c]) = currentLine chars ++ [c] :=
  List.rtakeWhile_concat_pos _ _ _ (by simpa using other)

theorem length_currentLine_le (chars : List Char) : (currentLine chars).length ≤ chars.length :=
  List.IsSuffix.length_le (List.rtakeWhile_suffix _ chars)

theorem length_le_byteLength (chars : List Char) : chars.length ≤ byteLength chars := by
  induction chars with
  | nil => exact Nat.zero_le _
  | cons c rest ih =>
      have positive := Char.utf8Size_pos c
      rw [List.length_cons, byteLength_cons]
      omega

namespace Position

theorem line_origin_afterAll (chars : List Char) :
    (origin.afterAll chars).line = chars.count '\n' + 1 := by
  induction chars using List.reverseRecOn with
  | nil => rfl
  | append_singleton chars c ih =>
      rw [afterAll_append, afterAll_cons, afterAll_nil, Position.after, List.count_append]
      by_cases feed : c = '\n'
      · simp [feed, ih]
      · simp [feed, ih]

theorem column_origin_afterAll (chars : List Char) :
    (origin.afterAll chars).column = (currentLine chars).length + 1 := by
  induction chars using List.reverseRecOn with
  | nil => rfl
  | append_singleton chars c ih =>
      rw [afterAll_append, afterAll_cons, afterAll_nil, Position.after]
      by_cases feed : c = '\n'
      · simp [feed]
      · simp [feed, ih, currentLine_concat]

/-- The position behind the first characters of a text. -/
theorem origin_afterAll (chars : List Char) :
    origin.afterAll chars =
      ⟨byteLength chars, chars.count '\n' + 1, (currentLine chars).length + 1⟩ := by
  calc origin.afterAll chars
      = ⟨(origin.afterAll chars).offset, (origin.afterAll chars).line,
          (origin.afterAll chars).column⟩ := rfl
    _ = _ := by
        rw [offset_afterAll, line_origin_afterAll, column_origin_afterAll, origin, Nat.zero_add]

end Position

theorem lineFrom?_zero (chars : List Char) :
    lineFrom? 0 chars = some (chars.takeWhile (· ≠ '\n')) := rfl

theorem lineFrom?_succ_feed (number : Nat) (rest : List Char) :
    lineFrom? (number + 1) ('\n' :: rest) = lineFrom? number rest := by
  simp [lineFrom?]

theorem lineFrom?_succ_cons {c : Char} (other : c ≠ '\n') (number : Nat) (rest : List Char) :
    lineFrom? (number + 1) (c :: rest) = lineFrom? (number + 1) rest := by
  simp [lineFrom?, other]

/-- The line at a place: what is there before the place, and what comes behind it. -/
theorem lineFrom?_count (before after : List Char) :
    lineFrom? (before.count '\n') (before ++ after) =
      some (currentLine before ++ after.takeWhile (· ≠ '\n')) := by
  induction before with
  | nil => rfl
  | cons c rest ih =>
      by_cases feed : c = '\n'
      · rw [feed, List.count_cons_self, List.cons_append, lineFrom?_succ_feed, ih,
          currentLine_cons_of_mem List.mem_cons_self]
      · rw [List.count_cons_of_ne feed, List.cons_append]
        by_cases several : '\n' ∈ rest
        · obtain ⟨number, counted⟩ := Nat.exists_eq_succ_of_ne_zero
            (Nat.ne_of_gt (List.count_pos_iff.mpr several))
          rw [counted] at ih ⊢
          rw [lineFrom?_succ_cons feed, ih,
            currentLine_cons_of_mem (List.mem_cons_of_mem c several)]
        · rw [List.count_eq_zero.mpr several, lineFrom?_zero] at ih ⊢
          have single : '\n' ∉ c :: rest := by
            simpa [several] using Ne.symm feed
          rw [currentLine_of_not_mem several] at ih
          rw [currentLine_of_not_mem single, List.takeWhile_cons_of_pos (by simpa using feed),
            Option.some.inj ih, List.cons_append]

theorem Lines.line?_origin_afterAll {lines : Lines} {before after : List Char}
    (chars : lines.text.toList = before ++ after) :
    lines.line? (Position.origin.afterAll before).line =
      some (String.ofList (trimReturns (currentLine before ++ after.takeWhile (· ≠ '\n')))) := by
  rw [Position.line_origin_afterAll, line?_eq, chars, lineFrom?_count]
  rfl

end CssSelector
