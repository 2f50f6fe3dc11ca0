import CssSelector.Limits
import CssSelector.Log.Code
import CssSelector.Token.Expected

/-!
# Errors of parsing

Errors carry what was expected and what was found instead.
-/

set_option autoImplicit false

namespace CssSelector

inductive ParseError where
  | tokenMismatch (actual : Token) (expected : Expected)
  | unexpectedEnd (expected : Expected)
  | delegationTooDeep (depth : Nat)
  /-- A rule refused a sequence of tokens for a reason of its own. -/
  | grammarViolation (reason : String) (span : Span)
  deriving DecidableEq, Repr

namespace ParseError

def message : ParseError → String
  | tokenMismatch actual expected =>
      s!"Unexpected '{actual.value}' ({actual.kind.name}) at offset {actual.offset}, "
        ++ s!"expected {expected.render}"
  | unexpectedEnd expected => s!"Unexpected end of input, expected {expected.render}"
  | delegationTooDeep depth =>
      s!"Grammar delegation nested too deeply: {depth} (max {maxDelegationDepth})"
  | grammarViolation reason span => s!"Grammar violation: {reason} at {span.render}"

def code : ParseError → Code
  | tokenMismatch .. => .tokenMismatch
  | unexpectedEnd .. => .unexpectedEnd
  | delegationTooDeep .. => .delegationTooDeep
  | grammarViolation .. => .grammarViolation

/-- The source that an error is about; nothing at the end of the tokens. -/
def span : ParseError → Except Fault (Option Span)
  | tokenMismatch actual _ => some <$> actual.span
  | grammarViolation _ span => .ok (some span)
  | unexpectedEnd _ => .ok none
  | delegationTooDeep _ => .ok none

def expected? : ParseError → Option Expected
  | tokenMismatch _ expected => some expected
  | unexpectedEnd expected => some expected
  | _ => none

def actual? : ParseError → Option Token
  | tokenMismatch actual _ => some actual
  | _ => none

end ParseError

end CssSelector
