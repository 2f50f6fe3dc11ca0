import CssSelector.Proofs.Source.Position
import CssSelector.Source.Index
import Mathlib.Order.Bounds.Basic

/-!
# Boundaries between characters

Every offset stands for one boundary, the last one that is neither behind the offset nor behind the
end of the text. Tables and searches agree on it: the position of the offset is that of the
characters in front of the boundary, `exists_standsFor`, and going back byte by byte stops there,
`lastBoundary_eq_ok`.
-/

set_option autoImplicit false

namespace CssSelector

variable {text : String} {offset place : Nat}

theorem isBoundary_iff :
    isBoundary text offset = true ↔
      ∃ before after, text.toList = before ++ after ∧ byteLength before = offset := by
  rw [isBoundary, Option.isSome_iff_exists]
  constructor
  · rintro ⟨after, found⟩
    obtain ⟨before, chars, size⟩ := exists_append_of_dropBytes? found
    exact ⟨before, after, chars, size⟩
  · rintro ⟨before, after, chars, rfl⟩
    refine ⟨after, ?_⟩
    rw [chars]
    exact dropBytes?_byteLength_append before after

/-- An offset stands for the last boundary that is neither behind it nor behind the end. -/
def StandsFor (text : String) (offset place : Nat) : Prop :=
  IsGreatest {boundary | isBoundary text boundary = true ∧ boundary ≤ min offset text.utf8ByteSize}
    place

/-! ## Comparing boundaries -/

theorem byteLength_pos_of_ne_nil {chars : List Char} (filled : chars ≠ []) :
    0 < byteLength chars := by
  have count := length_le_byteLength chars
  have positive := List.length_pos_iff.mpr filled
  omega

/-- Of two beginnings of a text, the one that takes fewer bytes is the beginning of the other. -/
theorem exists_append_of_byteLength_le {before after first second : List Char}
    (same : before ++ after = first ++ second) (shorter : byteLength before ≤ byteLength first) :
    ∃ middle, first = before ++ middle ∧ after = middle ++ second := by
  rcases List.append_eq_append_iff.mp same with found | ⟨middle, parts, rest⟩
  · exact found
  · have empty : middle = [] := by
      by_contra filled
      have positive := byteLength_pos_of_ne_nil filled
      rw [parts, byteLength_append] at shorter
      omega
    exact ⟨[], by simp [parts, empty], by simp [rest, empty]⟩

theorem StandsFor.boundary (stands : StandsFor text offset place) :
    isBoundary text place = true := stands.1.1

theorem StandsFor.le_size (stands : StandsFor text offset place) : place ≤ text.utf8ByteSize :=
  Nat.le_trans stands.1.2 (Nat.min_le_right _ _)

theorem le_size_of_isBoundary (boundary : isBoundary text offset = true) :
    offset ≤ text.utf8ByteSize := by
  obtain ⟨before, after, chars, rfl⟩ := isBoundary_iff.mp boundary
  rw [utf8ByteSize_eq_byteLength, chars, byteLength_append]
  exact Nat.le_add_right _ _

/-- A boundary stands for itself. -/
theorem StandsFor.of_isBoundary (boundary : isBoundary text offset = true) :
    StandsFor text offset offset :=
  ⟨⟨boundary, Nat.le_min.mpr ⟨Nat.le_refl _, le_size_of_isBoundary boundary⟩⟩,
    fun _ other => Nat.le_trans other.2 (Nat.min_le_left _ _)⟩

/-! ## What an offset stands for -/

/-- The characters in front of the boundary for which an offset stands give its position. -/
theorem exists_standsFor (text : String) (offset : Nat) :
    ∃ before after, text.toList = before ++ after ∧ StandsFor text offset (byteLength before) ∧
      (Lines.ofString text).positionAt offset = Position.origin.afterAll before := by
  obtain ⟨before, after, chars, reached, within, next⟩ :=
    Position.origin.exists_advanceTo_eq offset text.toList
  have position := (Lines.ofString text).positionAt_eq offset
  have boundary : isBoundary text (byteLength before) = true :=
    isBoundary_iff.mpr ⟨before, after, chars, rfl⟩
  have passed : byteLength before ≤ offset := by
    simpa [Position.origin] using within
  refine ⟨before, after, chars,
    ⟨⟨boundary, Nat.le_min.mpr ⟨passed, le_size_of_isBoundary boundary⟩⟩, ?_⟩,
    position.trans reached⟩
  rintro other ⟨reachable, near⟩
  obtain ⟨first, second, parts, rfl⟩ := isBoundary_iff.mp reachable
  by_contra further
  obtain ⟨middle, rfl, rest⟩ :=
    exists_append_of_byteLength_le (chars.symm.trans parts) (by omega)
  cases middle with
  | nil => simp at further
  | cons c middle =>
      -- the character behind the boundary already ends behind the offset
      have beyond := next c (middle ++ second) rest
      rw [Position.offset_afterAll] at beyond
      simp only [byteLength_append, byteLength_cons, byteLength_nil, Position.origin] at near beyond
      omega

/-- Positions of a text do not go back: what stands in front of an offset is the beginning of what
stands in front of a later one. -/
theorem exists_standsFor_of_le {later : Nat} (ordered : offset ≤ later) :
    ∃ before inside after, text.toList = before ++ (inside ++ after) ∧
      StandsFor text offset (byteLength before) ∧
        StandsFor text later (byteLength (before ++ inside)) ∧
          (Lines.ofString text).positionAt offset = Position.origin.afterAll before ∧
            (Lines.ofString text).positionAt later =
              Position.origin.afterAll (before ++ inside) := by
  obtain ⟨before, behind, chars, first, start⟩ := exists_standsFor text offset
  obtain ⟨further, after, parts, second, stop⟩ := exists_standsFor text later
  have near : byteLength before ≤ min offset text.utf8ByteSize := first.1.2
  have reached : byteLength before ≤ byteLength further :=
    second.2 ⟨first.boundary, by omega⟩
  obtain ⟨inside, rfl, rfl⟩ := exists_append_of_byteLength_le (chars.symm.trans parts) reached
  exact ⟨before, inside, after, chars, first, second, start, stop⟩

/-! ## Going back to a boundary -/

theorem lastBoundary_eq_ok
    (last : IsGreatest {boundary | isBoundary text boundary = true ∧ boundary ≤ offset} place) :
    lastBoundary text offset = .ok place := by
  induction offset with
  | zero =>
      have front : place = 0 := Nat.le_zero.mp last.1.2
      rw [lastBoundary, if_pos (front ▸ last.1.1), front]
  | succ offset ih =>
      rw [lastBoundary]
      by_cases here : isBoundary text (offset + 1) = true
      · have place : offset + 1 = place :=
          Nat.le_antisymm (last.2 ⟨here, Nat.le_refl _⟩) last.1.2
        rw [if_pos here, place]
      · have nearer : place ≠ offset + 1 := fun same => here (same ▸ last.1.1)
        have bound : place ≤ offset + 1 := last.1.2
        rw [if_neg here]
        refine ih ⟨⟨last.1.1, by omega⟩, ?_⟩
        rintro other ⟨reachable, near⟩
        exact last.2 ⟨reachable, Nat.le_succ_of_le near⟩

end CssSelector
