import CssSelector.Proofs.Source.Position

/-!
# Lines as pieces of a text

Line feeds split a text into its lines. `IsLine` says this of one line and what stands around it,
and `Lines.line?_ofString` of all of them, by number.
-/

set_option autoImplicit false

namespace CssSelector

/-- A text has a line between what stands in front of it and what stands behind it. -/
structure IsLine (text : String) (earlier line later : List Char) : Prop where
  chars_eq : text.toList = earlier ++ (line ++ later)
  opens : earlier = [] ∨ earlier.getLast? = some '\n'
  single : '\n' ∉ line
  closes : later = [] ∨ later.head? = some '\n'

/-! ## The line at a place -/

/-- What stands in front of the last line of some characters. -/
def earlierLines (chars : List Char) : List Char := chars.rdropWhile (· ≠ '\n')

theorem earlierLines_append_currentLine (chars : List Char) :
    earlierLines chars ++ currentLine chars = chars := List.rdropWhile_append_rtakeWhile

theorem earlierLines_opens (chars : List Char) :
    earlierLines chars = [] ∨ (earlierLines chars).getLast? = some '\n' := by
  by_cases first : earlierLines chars = []
  · exact .inl first
  · have last := List.rdropWhile_last_not _ chars first
    rw [decide_eq_true_iff, not_not] at last
    exact .inr (by rw [List.getLast?_eq_some_getLast first]; exact congrArg some last)

theorem not_mem_currentLine (chars : List Char) : '\n' ∉ currentLine chars := by
  intro member
  simpa using List.mem_rtakeWhile_imp member

theorem count_earlierLines (chars : List Char) :
    (earlierLines chars).count '\n' = chars.count '\n' := by
  have parts := congrArg (List.count '\n') (earlierLines_append_currentLine chars)
  rw [List.count_append, List.count_eq_zero.mpr (not_mem_currentLine chars)] at parts
  exact parts

theorem not_mem_takeWhile (chars : List Char) : '\n' ∉ chars.takeWhile (· ≠ '\n') := by
  intro member
  simpa using List.mem_takeWhile_imp member

theorem isLine_of_append {text : String} {before after : List Char}
    (chars : text.toList = before ++ after) :
    IsLine text (earlierLines before) (currentLine before ++ after.takeWhile (· ≠ '\n'))
      (after.dropWhile (· ≠ '\n')) where
  chars_eq := by
    rw [List.append_assoc, List.takeWhile_append_dropWhile, ← List.append_assoc,
      earlierLines_append_currentLine, chars]
  opens := earlierLines_opens before
  single := by
    rw [List.mem_append, not_or]
    exact ⟨not_mem_currentLine before, not_mem_takeWhile after⟩
  closes := by
    cases behind : after.dropWhile (· ≠ '\n') with
    | nil => exact .inl rfl
    | cons c rest =>
        have stopped := List.head?_dropWhile_not (· ≠ '\n') after
        rw [behind] at stopped
        exact .inr (by simpa using stopped)

theorem exists_append_of_le_count {number : Nat} {chars : List Char}
    (many : number ≤ chars.count '\n') :
    ∃ before after, chars = before ++ after ∧ before.count '\n' = number := by
  induction chars generalizing number with
  | nil => exact ⟨[], [], rfl, by simpa [eq_comm] using many⟩
  | cons c rest ih =>
      cases number with
      | zero => exact ⟨[], c :: rest, rfl, rfl⟩
      | succ number =>
          by_cases feed : c = '\n'
          · rw [feed, List.count_cons_self, Nat.succ_le_succ_iff] at many
            obtain ⟨before, after, rfl, counted⟩ := ih many
            exact ⟨c :: before, after, rfl, by rw [feed, List.count_cons_self, counted]⟩
          · rw [List.count_cons_of_ne feed] at many
            obtain ⟨before, after, rfl, counted⟩ := ih many
            exact ⟨c :: before, after, rfl, by rw [List.count_cons_of_ne feed, counted]⟩

/-- A text has one line more than it has line feeds. -/
theorem exists_isLine_of_le_count {text : String} {number : Nat}
    (many : number ≤ text.toList.count '\n') :
    ∃ earlier line later, IsLine text earlier line later ∧ earlier.count '\n' = number := by
  obtain ⟨before, after, chars, counted⟩ := exists_append_of_le_count many
  exact ⟨_, _, _, isLine_of_append chars, by rw [count_earlierLines, counted]⟩

namespace IsLine

variable {text : String} {earlier line later : List Char}

theorem currentLine_earlier (isLine : IsLine text earlier line later) :
    currentLine earlier = [] := by
  rcases isLine.opens with rfl | last
  · rfl
  · obtain ⟨front, rfl⟩ := List.getLast?_eq_some_iff.mp last
    exact currentLine_concat_feed front

theorem takeWhile_line (isLine : IsLine text earlier line later) :
    (line ++ later).takeWhile (· ≠ '\n') = line := by
  have inside : ∀ c ∈ line, decide (c ≠ '\n') = true := by
    rintro c member
    refine decide_eq_true ?_
    rintro rfl
    exact isLine.single member
  rw [List.takeWhile_append_of_pos inside]
  rcases isLine.closes with rfl | first
  · simp
  · obtain ⟨rest, rfl⟩ := List.head?_eq_some_iff.mp first
    simp

end IsLine

/-! ## Lines by number -/

theorem splitOn_feed (chars : List Char) :
    chars.splitOn '\n' =
      chars.takeWhile (· ≠ '\n') ::
        match chars.dropWhile (· ≠ '\n') with
        | [] => []
        | _ :: rest => rest.splitOn '\n' := by
  induction chars with
  | nil => rfl
  | cons c rest ih =>
      rw [List.splitOn, List.splitOnP_cons_eq_if_modifyHead]
      by_cases feed : c = '\n'
      · simp [feed, List.splitOn]
      · rw [if_neg (by simpa using feed), ← List.splitOn, ih,
          List.takeWhile_cons_of_pos (by simpa using feed),
          List.dropWhile_cons_of_pos (by simpa using feed)]
        rfl

theorem lineFrom?_eq_getElem? (number : Nat) (chars : List Char) :
    lineFrom? number chars = (chars.splitOn '\n')[number]? := by
  induction number generalizing chars with
  | zero => rw [lineFrom?, splitOn_feed, List.getElem?_cons_zero]
  | succ number ih =>
      rw [lineFrom?, splitOn_feed, List.getElem?_cons_succ]
      cases chars.dropWhile (· ≠ '\n') with
      | nil => rfl
      | cons c rest => exact ih rest

theorem length_splitOn_feed (chars : List Char) :
    (chars.splitOn '\n').length = chars.count '\n' + 1 := by
  induction chars with
  | nil => rfl
  | cons c rest ih =>
      rw [List.splitOn, List.splitOnP_cons_eq_if_modifyHead]
      by_cases feed : c = '\n'
      · rw [if_pos (by simpa using feed), ← List.splitOn, List.length_cons, ih, feed,
          List.count_cons_self]
      · rw [if_neg (by simpa using feed), ← List.splitOn, List.length_modifyHead, ih,
          List.count_cons_of_ne feed]

namespace Lines

variable {text : String} {earlier line later : List Char}

/-- The lines that can be asked for are the pieces between line feeds, counted from one. -/
theorem line?_ofString (text : String) (number : Nat) :
    (Lines.ofString text).line? (number + 1) =
      (text.toList.splitOn '\n')[number]?.map fun piece => String.ofList (trimReturns piece) := by
  rw [line?_eq, lineFrom?_eq_getElem?]
  rfl

theorem line?_of_isLine (isLine : IsLine text earlier line later) :
    (Lines.ofString text).line? (earlier.count '\n' + 1) =
      some (String.ofList (trimReturns line)) := by
  rw [line?_eq]
  change (lineFrom? _ text.toList).map _ = _
  rw [isLine.chars_eq, lineFrom?_count, isLine.currentLine_earlier, isLine.takeWhile_line]
  rfl

end Lines

end CssSelector
