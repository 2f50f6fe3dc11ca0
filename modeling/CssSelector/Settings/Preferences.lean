import CssSelector.Log.Event

/-!
# Preferences

What a user may choose. Preferences change what is recorded and reported, not what is accepted.
-/

set_option autoImplicit false

namespace CssSelector

structure ScanPreferences where
  collectMetrics : Bool := true
  logTransitions : Bool := false
  /-- Whether an error carries the rest of the source. -/
  includeRemainder : Bool := true
  deriving DecidableEq, Repr

structure ParsePreferences where
  logDelegation : Bool := false
  logMismatches : Bool := true
  deriving DecidableEq, Repr

structure LogPreferences where
  structured : Bool := false
  /-- Whether log lines are written at all. -/
  console : Bool := false
  /-- The least urgent level that is logged. -/
  minLevel : Level := .warning
  deriving DecidableEq, Repr

end CssSelector
