import CssSelector.Proofs.Source.Boundary
import CssSelector.Proofs.Source.Line
import CssSelector.Proofs.Source.Split

/-!
# Searching finds what the tables hold

No step of a search in a line index fails, and the search gives what the tables of `Lines` hold, as
long as lines and columns are numbers of 32 bits: `positionAt_ofString`, `spanAt_ofString`,
`line?_ofString` and `renderDiagnostic_ofString`.
-/

set_option autoImplicit false

namespace CssSelector

/-! ## Halving -/

section

variable {entries : Array Nat} {lower upper : List Nat} {value : Nat}
  (parts : entries.toList = lower ++ upper) (below : ∀ entry ∈ lower, entry < value)
  (above : ∀ entry ∈ upper, value ≤ entry)

include parts below above

theorem any_getElem?_iff (place : Nat) :
    entries[place]?.any (· < value) = true ↔ place < lower.length := by
  rw [← Array.getElem?_toList, parts, Option.any_eq_true]
  constructor
  · rintro ⟨entry, found, small⟩
    by_contra outside
    rw [List.getElem?_append_right (Nat.le_of_not_lt outside)] at found
    have large := above entry (List.mem_of_getElem? found)
    rw [decide_eq_true_iff] at small
    omega
  · intro inside
    refine ⟨lower[place], ?_, decide_eq_true (below _ (List.getElem_mem inside))⟩
    rw [List.getElem?_append_left inside, List.getElem?_eq_getElem inside]

/-- Entries in order are split by a value where those begin that are not below it. -/
theorem lowerBound_eq {low high : Nat} (left : low ≤ lower.length) (right : lower.length ≤ high) :
    lowerBound entries value low high = lower.length := by
  have split := any_getElem?_iff parts below above
  fun_induction lowerBound entries value low high with
  | case1 low high apart middle small ih =>
      have inside := (split middle).mp small
      exact ih inside right
  | case2 low high apart middle large ih =>
      have outside := mt (split middle).mpr large
      exact ih left (Nat.le_of_not_lt outside)
  | case3 low high close => omega

theorem lowerBound_size : lowerBound entries value 0 entries.size = lower.length := by
  refine lowerBound_eq parts below above (Nat.zero_le _) ?_
  rw [← Array.length_toList, parts, List.length_append]
  exact Nat.le_add_right _ _

end

/-! ## Where lines start -/

/-- The offsets behind the line feeds of characters from an offset on. -/
def feedOffsets (offset : Nat) : List Char → List Nat
  | [] => []
  | c :: rest =>
      if c = '\n' then (offset + 1) :: feedOffsets (offset + c.utf8Size) rest
      else feedOffsets (offset + c.utf8Size) rest

theorem toList_startOffsets (starts : Array Nat) (offset : Nat) (chars : List Char) :
    (startOffsets starts offset chars).toList = starts.toList ++ feedOffsets offset chars := by
  induction chars generalizing starts offset with
  | nil => simp [startOffsets, feedOffsets]
  | cons c rest ih =>
      rw [startOffsets, ih, feedOffsets]
      split
      · simp
      · rfl

theorem feedOffsets_append (offset : Nat) (left right : List Char) :
    feedOffsets offset (left ++ right) =
      feedOffsets offset left ++ feedOffsets (offset + byteLength left) right := by
  induction left generalizing offset with
  | nil => rfl
  | cons c rest ih =>
      rw [List.cons_append, feedOffsets, feedOffsets, ih, byteLength_cons, Nat.add_assoc]
      split <;> rfl

theorem feedOffsets_concat_feed (offset : Nat) (chars : List Char) :
    feedOffsets offset (chars ++ ['\n']) =
      feedOffsets offset chars ++ [offset + byteLength chars + 1] := by
  rw [feedOffsets_append]
  rfl

theorem feedOffsets_concat {c : Char} (other : c ≠ '\n') (offset : Nat) (chars : List Char) :
    feedOffsets offset (chars ++ [c]) = feedOffsets offset chars := by
  rw [feedOffsets_append, feedOffsets, if_neg other, feedOffsets, List.append_nil]

@[simp]
theorem length_feedOffsets (offset : Nat) (chars : List Char) :
    (feedOffsets offset chars).length = chars.count '\n' := by
  induction chars generalizing offset with
  | nil => rfl
  | cons c rest ih =>
      rw [feedOffsets]
      by_cases feed : c = '\n'
      · rw [if_pos feed, List.length_cons, ih, feed, List.count_cons_self]
      · rw [if_neg feed, ih, List.count_cons_of_ne feed]

theorem mem_feedOffsets_bounds {offset entry : Nat} {chars : List Char}
    (member : entry ∈ feedOffsets offset chars) :
    offset < entry ∧ entry ≤ offset + byteLength chars := by
  induction chars generalizing offset with
  | nil => cases member
  | cons c rest ih =>
      have positive := Char.utf8Size_pos c
      have later : entry ∈ feedOffsets (offset + c.utf8Size) rest →
          offset < entry ∧ entry ≤ offset + byteLength (c :: rest) := by
        intro behind
        have bounds := ih behind
        rw [byteLength_cons]
        omega
      rw [feedOffsets] at member
      split at member
      · rcases List.mem_cons.mp member with rfl | behind
        · rw [byteLength_cons]
          omega
        · exact later behind
      · exact later member

namespace LineIndex

variable {text : String} {before after : List Char}

theorem toList_starts (text : String) :
    (ofString text).starts.toList = 0 :: feedOffsets 0 text.toList :=
  toList_startOffsets #[0] 0 text.toList

/-- A line that starts behind some characters is in the table under the number of line feeds
there. -/
theorem getElem?_starts (chars : text.toList = before ++ after)
    (opens : before = [] ∨ before.getLast? = some '\n') :
    (ofString text).starts[before.count '\n']? = some (byteLength before) := by
  rw [← Array.getElem?_toList, toList_starts, chars]
  rcases opens with rfl | last
  · rfl
  · obtain ⟨front, rfl⟩ := List.getLast?_eq_some_iff.mp last
    have place : byteLength (front ++ ['\n']) = byteLength front + 1 := byteLength_append _ _
    rw [feedOffsets_append, feedOffsets_concat_feed, place]
    simp

theorem lineAt_of_found {index : LineIndex} {offset : Nat} {lower upper : List Nat}
    (parts : index.starts.toList = lower ++ offset :: upper)
    (below : ∀ start ∈ lower, start < offset) (above : ∀ start ∈ upper, offset < start) :
    index.lineAt offset = .ok lower.length := by
  have notBelow : ∀ start ∈ offset :: upper, offset ≤ start := by
    rintro start (_ | ⟨_, member⟩)
    · exact Nat.le_refl _
    · exact Nat.le_of_lt (above start member)
  have found : index.starts[lower.length]? = some offset := by
    rw [← Array.getElem?_toList, parts, List.getElem?_append_right (Nat.le_refl _), Nat.sub_self]
    rfl
  rw [lineAt, lowerBound_size parts below notBelow]
  exact if_pos found

theorem lineAt_of_missing {index : LineIndex} {offset : Nat} {lower upper : List Nat}
    (parts : index.starts.toList = lower ++ upper) (nonempty : lower ≠ [])
    (below : ∀ start ∈ lower, start < offset) (above : ∀ start ∈ upper, offset < start) :
    index.lineAt offset = .ok (lower.length - 1) := by
  have missing : ¬index.starts[lower.length]? = some offset := by
    rw [← Array.getElem?_toList, parts, List.getElem?_append_right (Nat.le_refl _), Nat.sub_self]
    intro found
    exact Nat.lt_irrefl _ (above offset (List.mem_of_getElem? found))
  have positive : lower.length ≠ 0 := fun empty => nonempty (List.length_eq_zero_iff.mp empty)
  rw [lineAt, lowerBound_size parts below fun start member => Nat.le_of_lt (above start member)]
  exact (if_neg missing).trans (if_neg positive)

/-- The line of an offset has as many lines in front of it as there are line feeds. -/
theorem lineAt_byteLength (chars : text.toList = before ++ after) :
    (ofString text).lineAt (byteLength before) = .ok (before.count '\n') := by
  have parts : (ofString text).starts.toList =
      0 :: (feedOffsets 0 before ++ feedOffsets (byteLength before) after) := by
    rw [toList_starts, chars, feedOffsets_append, Nat.zero_add]
  have behind : ∀ start ∈ feedOffsets (byteLength before) after, byteLength before < start :=
    fun start member => (mem_feedOffsets_bounds member).1
  induction before using List.reverseRecOn with
  | nil => exact @lineAt_of_found _ _ [] _ parts (by simp) behind
  | append_singleton front c =>
      have passed : ∀ start ∈ 0 :: feedOffsets 0 front, start < byteLength (front ++ [c]) := by
        have positive := Char.utf8Size_pos c
        rw [byteLength_append, byteLength_cons]
        rintro start member
        rcases List.mem_cons.mp member with rfl | member
        · omega
        · have bounds := mem_feedOffsets_bounds member
          omega
      by_cases feed : c = '\n'
      · -- a line starts here, so that the table has the offset itself
        rw [feed] at parts behind passed ⊢
        have place : byteLength (front ++ ['\n']) = byteLength front + 1 := byteLength_append _ _
        rw [feedOffsets_concat_feed, Nat.zero_add, ← place, List.append_assoc,
          ← List.cons_append] at parts
        rw [lineAt_of_found parts passed behind]
        simp
      · rw [feedOffsets_concat feed, ← List.cons_append] at parts
        rw [lineAt_of_missing parts (by simp) passed behind]
        simp [feed]

theorem cut_byteLength {inside : List Char} (chars : text.toList = before ++ (inside ++ after)) :
    (ofString text).cut (byteLength before) (byteLength (before ++ inside)) = .ok inside := by
  have found : sliceBytes? (byteLength before) (byteLength (before ++ inside))
      (ofString text).text.toList = some inside := by
    change sliceBytes? _ _ text.toList = _
    rw [byteLength_append, chars, sliceBytes?_byteLength]
  rw [cut, found]

theorem lineUpTo_byteLength (chars : text.toList = before ++ after) :
    (ofString text).lineUpTo (before.count '\n') (byteLength before) =
      .ok (currentLine before) := by
  have parts : text.toList = earlierLines before ++ (currentLine before ++ after) := by
    rw [← List.append_assoc, earlierLines_append_currentLine, chars]
  have start := getElem?_starts parts (earlierLines_opens before)
  rw [count_earlierLines] at start
  have inside := cut_byteLength parts
  rw [earlierLines_append_currentLine] at inside
  rw [lineUpTo, start]
  exact inside

theorem stopOf_count {earlier line later : List Char} (isLine : IsLine text earlier line later) :
    (ofString text).stopOf (earlier.count '\n') = .ok (byteLength (earlier ++ line)) := by
  rw [stopOf]
  rcases isLine.closes with rfl | first
  · have last : text.toList = earlier ++ line := by
      rw [isLine.chars_eq, List.append_nil]
    have missing : (ofString text).starts[earlier.count '\n' + 1]? = none := by
      rw [← Array.getElem?_toList, toList_starts, List.getElem?_eq_none_iff, List.length_cons,
        length_feedOffsets, last, List.count_append, List.count_eq_zero.mpr isLine.single]
    rw [missing, ← last, ← utf8ByteSize_eq_byteLength]
    rfl
  · obtain ⟨rest, rfl⟩ := List.head?_eq_some_iff.mp first
    have parts : text.toList = (earlier ++ line ++ ['\n']) ++ rest := by
      rw [isLine.chars_eq]
      simp
    have next := getElem?_starts parts (.inr (by simp))
    have number : (earlier ++ line ++ ['\n']).count '\n' = earlier.count '\n' + 1 := by
      simp [List.count_eq_zero.mpr isLine.single]
    rw [number, byteLength_append] at next
    rw [next]
    rfl

/-! ## Agreement -/

theorem line?_ofString (number : Nat) :
    (ofString text).line? number = .ok ((Lines.ofString text).line? number) := by
  cases number with
  | zero => rfl
  | succ number =>
      rw [line?, if_neg (Nat.succ_ne_zero number), Nat.add_sub_cancel]
      by_cases many : number ≤ text.toList.count '\n'
      · obtain ⟨earlier, line, later, isLine, rfl⟩ := exists_isLine_of_le_count many
        rw [getElem?_starts isLine.chars_eq isLine.opens, stopOf_count isLine,
          Lines.line?_of_isLine isLine]
        simp only [bind, Except.bind, pure, Except.pure, cut_byteLength isLine.chars_eq]
      · have missing : (ofString text).starts[number]? = none := by
          rw [← Array.getElem?_toList, toList_starts, List.getElem?_eq_none_iff, List.length_cons,
            length_feedOffsets]
          omega
        have unknown : (Lines.ofString text).line? (number + 1) = none := by
          rw [Lines.line?_ofString, List.getElem?_eq_none]
          · rfl
          · rw [length_splitOn_feed]
            omega
        rw [missing, unknown]
        rfl

end LineIndex

theorem columnNumber_of_le {number : Nat} (small : number ≤ maxColumn) :
    columnNumber number = number := Nat.mod_eq_of_lt (Nat.lt_succ_of_le small)

section

variable {text : String} (short : text.utf8ByteSize < maxColumn)

include short

theorem line_le_maxColumn {before after : List Char} (chars : text.toList = before ++ after) :
    before.count '\n' + 1 ≤ maxColumn ∧ (currentLine before).length + 1 ≤ maxColumn := by
  have lines : before.count '\n' ≤ before.length := List.count_le_length
  have columns := length_currentLine_le before
  have bytes := length_le_byteLength before
  rw [utf8ByteSize_eq_byteLength, chars, byteLength_append] at short
  omega

namespace LineIndex

theorem positionAt_ofString (offset : Nat) :
    (ofString text).positionAt offset = .ok ((Lines.ofString text).positionAt offset) := by
  obtain ⟨before, after, chars, stands, position⟩ := exists_standsFor text offset
  obtain ⟨line, column⟩ := line_le_maxColumn short chars
  have place : lastBoundary (ofString text).text (min offset (ofString text).text.utf8ByteSize) =
      .ok (byteLength before) := lastBoundary_eq_ok stands
  rw [positionAt, place]
  simp only [bind, Except.bind, pure, Except.pure, lineAt_byteLength chars,
    lineUpTo_byteLength chars, columnNumber_of_le line, columnNumber_of_le column]
  rw [position, Position.origin_afterAll]

theorem spanAt_ofString (offset length : Nat) :
    (ofString text).spanAt offset length = (Lines.ofString text).spanAt offset length := by
  rw [spanAt, positionAt_ofString short, positionAt_ofString short]
  rfl

theorem renderDiagnostic_ofString (span : Span) (message : String) :
    (ofString text).renderDiagnostic span message =
      (Lines.ofString text).renderDiagnostic span message := by
  rw [renderDiagnostic, Lines.renderDiagnostic]
  simp only [spanAt_ofString short, line?_ofString]
  rfl

end LineIndex

end

end CssSelector
