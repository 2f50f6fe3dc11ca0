import CssSelector.Token.Basic

/-!
# Sets of acceptable kinds

The alternatives that are accepted at one place of a parse. The wildcard accepts every token.
Alternatives keep the order in which they were given, for the sake of messages.
-/

set_option autoImplicit false

namespace CssSelector

structure Expected where
  kinds : List TokenKind
  deriving DecidableEq, Repr

namespace Expected

/-- The given alternatives, each once, at the place where it came first. -/
def ofKinds (kinds : List TokenKind) : Expected := ⟨kinds.eraseDups⟩

def only (kind : TokenKind) : Expected := ofKinds [kind]

def anything : Expected := only .any

def contains (expected : Expected) (kind : TokenKind) : Bool := expected.kinds.contains kind

def isWildcard (expected : Expected) : Bool := expected.contains .any

def isEmpty (expected : Expected) : Bool := expected.kinds.isEmpty

def accepts (expected : Expected) (token : Token) : Bool :=
  expected.kinds.any fun kind => kind.isWildcard || kind = token.kind

/-- Whether a token is named: like `accepts`, except that the wildcard names nothing. -/
def names (expected : Expected) (token : Token) : Bool :=
  expected.kinds.any fun kind => !kind.isWildcard && kind = token.kind

def render (expected : Expected) : String := " | ".intercalate (expected.kinds.map (·.name))

end Expected

end CssSelector
