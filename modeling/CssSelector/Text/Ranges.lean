/-!
# Character classes given by ranges of code points

A class of characters is a sorted list of inclusive ranges. It is held in a search tree, so that
deciding one character takes as many comparisons as the tree is high. `RangeTree.toList` is the
view of a tree: the ranges from left to right.
-/

set_option autoImplicit false

namespace CssSelector

inductive RangeTree where
  | empty
  | node (left : RangeTree) (first last : Nat) (right : RangeTree)
  deriving Repr

namespace RangeTree

/-- Whether a code point lies in one of the ranges. Only one path of the tree is followed. -/
def contains : RangeTree → Nat → Bool
  | empty, _ => false
  | node left first last right, code =>
      if code < first then left.contains code
      else if last < code then right.contains code
      else true

def toList : RangeTree → List (Nat × Nat)
  | empty => []
  | node left first last right => left.toList ++ (first, last) :: right.toList

/-- A tree of at most the given height over the first ranges, and the ranges that did not fit. -/
def build : Nat → List (Nat × Nat) → RangeTree × List (Nat × Nat)
  | 0, ranges => (empty, ranges)
  | height + 1, ranges =>
      match build height ranges with
      | (left, []) => (left, [])
      | (left, (first, last) :: later) =>
          let (right, rest) := build height later
          (node left first last right, rest)

/-- The tree of a list of ranges; its height is logarithmic in the number of ranges. -/
def ofList (ranges : List (Nat × Nat)) : RangeTree :=
  (build (ranges.length.log2 + 1) ranges).1

theorem toList_build (height : Nat) (ranges : List (Nat × Nat)) :
    (build height ranges).1.toList ++ (build height ranges).2 = ranges := by
  induction height generalizing ranges with
  | zero => rfl
  | succ height hypothesis =>
      have leftPart := hypothesis ranges
      unfold build
      split
      · next left split => simpa [split] using leftPart
      · next left first last later split =>
          have rightPart := hypothesis later
          rw [split] at leftPart
          simp only [toList, List.append_assoc, List.cons_append, rightPart]
          exact leftPart

end RangeTree

end CssSelector
