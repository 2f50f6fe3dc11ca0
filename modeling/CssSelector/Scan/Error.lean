import CssSelector.Limits
import CssSelector.Log.Code
import CssSelector.Token.Basic

/-!
# Errors of scanning

Every error ends the scan. Errors name the context in which they arose.
-/

set_option autoImplicit false

namespace CssSelector

inductive ScanError where
  /-- The context has no token at the offset. -/
  | stuck (offset : Nat) (remainder : String) (context : String)
  | zeroLengthToken (offset : Nat) (kind : TokenKind) (context : String)
  | wildcardToken (offset : Nat) (context : String)
  | offsetMismatch (expected actual : Nat) (context : String)
  | sourceTooLong (length : Nat)
  | tooManyTokens (count : Nat)
  | contextTooDeep (depth offset : Nat)
  deriving DecidableEq, Repr

namespace ScanError

def message : ScanError → String
  | stuck offset remainder context =>
      s!"Unable to tokenize input at offset {offset} in {context} context: '{remainder}'"
  | zeroLengthToken offset kind context =>
      s!"Lexical context {context} produced a zero-length token of kind {kind.name} "
        ++ s!"at offset {offset}"
  | wildcardToken offset context =>
      s!"Lexical context {context} produced a wildcard token at offset {offset}"
  | offsetMismatch expected actual context =>
      s!"Lexical context {context} produced a token at offset {actual}, expected offset {expected}"
  | sourceTooLong length => s!"Selector too long: {length} bytes (max {maxSourceLength})"
  | tooManyTokens count => s!"Too many tokens: {count} (max {maxTokenCount})"
  | contextTooDeep depth _ =>
      s!"Lexical contexts nested too deeply: {depth} (max {maxContextDepth})"

def code : ScanError → Code
  | stuck .. => .stuck
  | zeroLengthToken .. => .zeroLengthToken
  | wildcardToken .. => .wildcardToken
  | offsetMismatch .. => .offsetMismatch
  | sourceTooLong .. => .sourceTooLong
  | tooManyTokens .. => .tooManyTokens
  | contextTooDeep .. => .contextTooDeep

def spanFrom (offset length : Nat) : Except Fault (Option Span) := do
  return some (← Span.ofOffsets offset (← addOffset offset length))

/-- The source that an error is about: the rest for input that cannot be classified, one byte for
a misbehaving context or one too many, nothing for a limit on the whole source. -/
def span : ScanError → Except Fault (Option Span)
  | stuck offset remainder _ => spanFrom offset (max remainder.utf8ByteSize 1)
  | zeroLengthToken offset _ _ => spanFrom offset 1
  | wildcardToken offset _ => spanFrom offset 1
  | offsetMismatch expected _ _ => spanFrom expected 1
  | contextTooDeep _ offset => spanFrom offset 1
  | sourceTooLong _ => .ok none
  | tooManyTokens _ => .ok none

end ScanError

end CssSelector
