import CssSelector.Lexeme

/-!
# The classes of characters

A code point that a search tree finds lies in one of its ranges. So two classes are apart if no
range of the one meets a range of the other, which the tables show. The ASCII characters of a class
are those of any programming language.
-/

set_option autoImplicit false

namespace CssSelector

/-- Two ranges of code points without a common one. -/
def rangesApart (left right : Nat × Nat) : Bool := left.2 < right.1 || right.2 < left.1

namespace RangeTree

theorem exists_range_of_contains {tree : RangeTree} {code : Nat}
    (found : tree.contains code = true) :
    ∃ range ∈ tree.toList, range.1 ≤ code ∧ code ≤ range.2 := by
  induction tree with
  | empty => cases found
  | node left first last right leftIH rightIH =>
      rw [contains] at found
      split at found
      · obtain ⟨range, member, bounds⟩ := leftIH found
        exact ⟨range, List.mem_append_left _ member, bounds⟩
      · split at found
        · obtain ⟨range, member, bounds⟩ := rightIH found
          exact ⟨range, List.mem_append_right _ (List.mem_cons_of_mem _ member), bounds⟩
        · exact ⟨(first, last), List.mem_append_right _ List.mem_cons_self, by omega⟩

/-- Whether no range of the one tree meets a range of the other. -/
def apart (tree other : RangeTree) : Bool :=
  tree.toList.all fun left => other.toList.all (rangesApart left)

theorem contains_of_apart {tree other : RangeTree} {code : Nat}
    (disjoint : tree.apart other = true) (found : tree.contains code = true) :
    other.contains code = false := by
  rw [Bool.eq_false_iff]
  intro both
  obtain ⟨left, leftMember, leftBounds⟩ := exists_range_of_contains found
  obtain ⟨right, rightMember, rightBounds⟩ := exists_range_of_contains both
  have gap := List.all_eq_true.mp (List.all_eq_true.mp disjoint left leftMember) right rightMember
  simp only [rangesApart, Bool.or_eq_true, decide_eq_true_eq] at gap
  omega

end RangeTree

theorem isDigit_of_isSpace {c : Char} (space : isSpace c = true) : isDigit c = false := by
  have disjoint : spaceTree.apart digitTree = true := by decide +kernel
  exact RangeTree.contains_of_apart disjoint space

theorem isWord_of_isSpace {c : Char} (space : isSpace c = true) : isWord c = false := by
  have disjoint : spaceTree.apart wordTree = true := by decide +kernel
  exact RangeTree.contains_of_apart disjoint space

/-! ## ASCII characters -/

theorem eq_of_ascii {belongs other : Char → Bool}
    (same : ∀ code < 128, belongs (Char.ofNat code) = other (Char.ofNat code)) {c : Char}
    (ascii : c.toNat < 128) : belongs c = other c := by
  have found := same c.toNat ascii
  rwa [Char.ofNat_toNat] at found

/-- The blank and the controls that move the cursor. -/
def isAsciiSpace (c : Char) : Bool := c = ' ' || (9 ≤ c.toNat && c.toNat ≤ 13)

/-- Letters, digits and the underscore. -/
def isAsciiWord (c : Char) : Bool := c.isAlphanum || c = '_'

theorem isSpace_of_ascii {c : Char} (ascii : c.toNat < 128) : isSpace c = isAsciiSpace c :=
  eq_of_ascii (by decide +kernel) ascii

theorem ne_of_isSpace {c mark : Char} (space : isSpace c = true) (ascii : mark.toNat < 128)
    (visible : isAsciiSpace mark = false) : c ≠ mark := by
  rintro rfl
  rw [isSpace_of_ascii ascii, visible] at space
  cases space

theorem continuesName_of_isSpace {c : Char} (space : isSpace c = true) :
    Lexeme.continuesName c = false := by
  have hyphen : c ≠ '-' := ne_of_isSpace space (by decide) rfl
  simp [Lexeme.continuesName, isWord_of_isSpace space, hyphen]

theorem isDigit_of_ascii {c : Char} (ascii : c.toNat < 128) : isDigit c = c.isDigit :=
  eq_of_ascii (by decide +kernel) ascii

theorem isWord_of_ascii {c : Char} (ascii : c.toNat < 128) : isWord c = isAsciiWord c :=
  eq_of_ascii (by decide +kernel) ascii

theorem continuesName_of_ascii {c : Char} (ascii : c.toNat < 128) :
    Lexeme.continuesName c = (isAsciiWord c || c = '-') := by
  rw [Lexeme.continuesName, isWord_of_ascii ascii]

theorem startsName_of_ascii {c : Char} (ascii : c.toNat < 128) :
    Lexeme.startsName c = (isAsciiWord c && !c.isDigit) := by
  rw [Lexeme.startsName, isWord_of_ascii ascii, isDigit_of_ascii ascii]

end CssSelector
