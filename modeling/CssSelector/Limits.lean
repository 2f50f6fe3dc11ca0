/-!
# Limits

The bounds within which selectors are processed.
-/

set_option autoImplicit false

namespace CssSelector

/-- The longest source, in bytes. -/
def maxSourceLength : Nat := 1048576

def maxTokenCount : Nat := 100000

/-- The most contexts that are open at once, the outermost included. -/
def maxContextDepth : Nat := 64

def maxDelegationDepth : Nat := 128

def logBufferSize : Nat := 1000

def maxErrorCollection : Nat := 500

end CssSelector
