import CssSelector.Text.Ranges

/-!
# White space: the characters with the Unicode property White_Space
-/

set_option autoImplicit false

namespace CssSelector

/-- The ranges of the property White_Space. -/
def spaceRanges : List (Nat × Nat) :=
  [(0x9, 0xD), (0x20, 0x20), (0x85, 0x85), (0xA0, 0xA0), (0x1680, 0x1680), (0x2000, 0x200A),
   (0x2028, 0x2029), (0x202F, 0x202F), (0x205F, 0x205F), (0x3000, 0x3000)]

def spaceTree : RangeTree := .ofList spaceRanges

/-- Whether a character is white space. This is wider than the blanks of ASCII: it has the no-break
space, the ideographic space and the two separators of line and paragraph. -/
def isSpace (c : Char) : Bool := spaceTree.contains c.toNat

end CssSelector
