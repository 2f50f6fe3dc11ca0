import CssSelector.Lexeme
import CssSelector.Source
import CssSelector.Token.Basic

/-!
# Lexical contexts

A lexical context classifies the source at an offset, says which of its tokens close it, and which
open a context inside it. Contexts have no state and do not know where they are. A family gives
these three answers, and a name, for every context of a type; nothing is assumed of the answers.
Instead of a token, a context may also give a fault.
-/

set_option autoImplicit false

namespace CssSelector

structure ContextFamily (κ : Type) where
  name : κ → String
  token? : κ → Source → Nat → Except Fault (Option Token)
  closes : κ → Token → Bool
  opens? : κ → Token → Option κ

/-- The name of a context that has none of its own. -/
def defaultContextName : String := "status"

def describeContext (name : String) : String := s!"Status({name})"

structure LexicalRule where
  kind : TokenKind
  recognize : Recognizer

namespace LexicalRule

/-- The token of a rule at an offset; none inside a character or behind the end. -/
def token? (rule : LexicalRule) (source : Source) (offset : Nat) : Option Token := do
  let lexeme ← rule.recognize (← source.after? offset)
  return ⟨rule.kind, offset, String.ofList lexeme⟩

def firstToken? (rules : List LexicalRule) (source : Source) (offset : Nat) : Option Token :=
  rules.findSome? fun rule => rule.token? source offset

end LexicalRule

end CssSelector
