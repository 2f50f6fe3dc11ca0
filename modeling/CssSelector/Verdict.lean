import CssSelector.Fault

/-!
# Verdicts

An operation is done, or it fails with an error, which is a result like any other, or it breaks a
contract and has no result at all.
-/

set_option autoImplicit false

namespace CssSelector

inductive Verdict (ε α : Type) where
  | done (value : α)
  | failed (error : ε)
  /-- It broke a contract. -/
  | fault (cause : Fault)
  deriving DecidableEq, Repr

end CssSelector
