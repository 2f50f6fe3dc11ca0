/-!
# Faults

A fault is a breach of a contract that callers have to keep: it is not an error of the input and
there is no way to go on. A computation that may fault returns `Except Fault`. Offsets are 64-bit
numbers; leaving their range is a fault as well.
-/

set_option autoImplicit false

namespace CssSelector

/-- Why a computation cannot go on. -/
inductive Fault where
  | offsetOverflow
  | reversedSpan
  /-- An underline would have a negative width or margin. -/
  | columnUnderflow
  /-- A text would be cut inside a character or behind its end. -/
  | misplacedCut
  | wildcardDropped
  | abandoned
  deriving DecidableEq, Repr

def maxOffset : Nat := 18446744073709551615

/-- The sum of an offset and a length, as long as it is an offset. -/
def addOffset (offset length : Nat) : Except Fault Nat :=
  if offset + length ≤ maxOffset then .ok (offset + length) else .error .offsetOverflow

def subtractColumns (left right : Nat) : Except Fault Nat :=
  if right ≤ left then .ok (left - right) else .error .columnUnderflow

end CssSelector
