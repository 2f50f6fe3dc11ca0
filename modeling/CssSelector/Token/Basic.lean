import CssSelector.Position
import CssSelector.Token.Kind

/-!
# Tokens

A token is a classified stretch of a source: its kind, the byte offset at which it starts, and
its text.
-/

set_option autoImplicit false

namespace CssSelector

structure Token where
  kind : TokenKind
  offset : Nat
  value : String
  deriving DecidableEq, Repr

namespace Token

/-- What looking past the last token finds, where that is allowed. -/
def endOfTokens : Token := ⟨.any, 0, ""⟩

def length (token : Token) : Nat := token.value.utf8ByteSize

def stop (token : Token) : Except Fault Nat := addOffset token.offset token.length

def span (token : Token) : Except Fault Span := do
  Span.ofOffsets token.offset (← token.stop)

def render (token : Token) : String :=
  s!"TOKEN::{token.kind.name} @{token.offset} '{token.value}'"

end Token

end CssSelector
