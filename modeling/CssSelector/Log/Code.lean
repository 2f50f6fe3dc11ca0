/-!
# Codes of events

Every event has a code. The codes of errors are registered with what is known about them; for a
code that is not registered the queries have fixed answers.
-/

set_option autoImplicit false

namespace CssSelector

inductive Severity where
  | critical
  | high
  | medium
  | low
  deriving DecidableEq, Repr

namespace Severity

def name : Severity → String
  | critical => "Critical"
  | high => "High"
  | medium => "Medium"
  | low => "Low"

/-- The place of a severity, the worst first. -/
def rank : Severity → Nat
  | critical => 0
  | high => 1
  | medium => 2
  | low => 3

end Severity

structure Code where
  text : String
  deriving DecidableEq, Repr

/-- What is registered about the code of an error. -/
structure CodeEntry where
  code : String
  category : String
  severity : Severity
  recoverable : Bool
  requiresHalt : Bool
  description : String
  action : String
  deriving Repr

namespace Code

/-! ## The codes in use -/

def internalError : Code := ⟨"ERR001"⟩

/-- Input that the active context cannot classify. -/
def stuck : Code := ⟨"E020"⟩

def zeroLengthToken : Code := ⟨"E021"⟩

def wildcardToken : Code := ⟨"E022"⟩

def offsetMismatch : Code := ⟨"E023"⟩

def sourceTooLong : Code := ⟨"E024"⟩

def tooManyTokens : Code := ⟨"E025"⟩

def contextTooDeep : Code := ⟨"E026"⟩

def unexpectedEnd : Code := ⟨"E040"⟩

def tokenMismatch : Code := ⟨"E041"⟩

def delegationTooDeep : Code := ⟨"E042"⟩

/-- A rule refused a sequence of tokens. -/
def grammarViolation : Code := ⟨"E043"⟩

def initialized : Code := ⟨"I004"⟩

def tokenized : Code := ⟨"I020"⟩

def parsed : Code := ⟨"I040"⟩

def compiled : Code := ⟨"I050"⟩

/-- A warning without a code of its own. -/
def plainWarning : Code := ⟨"W000"⟩

def plainInfo : Code := ⟨"I000"⟩

def plainDebug : Code := ⟨"D000"⟩

/-! ## The register -/

def register : List CodeEntry :=
  [⟨"ERR001", "System", .critical, false, true, "Critical internal system error",
      "File a bug report with the failing selector"⟩,
   ⟨"E020", "Scanner", .high, false, true,
      "Input could not be classified in the active lexical context",
      "Check the selector near the reported offset for unsupported characters"⟩,
   ⟨"E021", "Scanner", .critical, false, true, "Lexical context produced a zero-length token",
      "Fix the lexical context: every token must consume input"⟩,
   ⟨"E022", "Scanner", .critical, false, true,
      "Lexical context produced the reserved wildcard token kind",
      "Fix the lexical context: ANY is only valid for parser matching"⟩,
   ⟨"E023", "Scanner", .critical, false, true,
      "Lexical context produced a token at the wrong offset",
      "Fix the lexical context: tokens must start at the requested offset"⟩,
   ⟨"E024", "Scanner", .medium, false, true, "Selector source exceeds the maximum length",
      "Shorten the selector or raise lexical.max_source_length"⟩,
   ⟨"E025", "Scanner", .medium, false, true, "Selector produced too many tokens",
      "Split the selector or raise lexical.max_token_count"⟩,
   ⟨"E026", "Scanner", .high, false, true, "Lexical contexts nested too deeply",
      "Reduce nesting or check for a context that re-enters itself"⟩,
   ⟨"E040", "Parser", .high, true, false, "Token stream ended while more input was expected",
      "Complete the selector; see the expected token kinds"⟩,
   ⟨"E041", "Parser", .high, true, false, "Token does not match any of the expected kinds",
      "Check the selector at the reported offset against the expected token kinds"⟩,
   ⟨"E042", "Parser", .critical, false, true, "Grammar delegation nested too deeply",
      "Check for a grammar rule that delegates without consuming tokens"⟩,
   ⟨"E043", "Parser", .high, true, false, "Token sequence violates the grammar",
      "Check the selector structure"⟩]

def registered? (code : Code) : Option CodeEntry := register.find? (·.code = code.text)

/-- A code that is not registered is of medium severity. -/
def severity (code : Code) : Severity := (code.registered?.map (·.severity)).getD .medium

def recoverable (code : Code) : Bool := (code.registered?.map (·.recoverable)).getD true

def requiresHalt (code : Code) : Bool := (code.registered?.map (·.requiresHalt)).getD false

def unknownDescription : String := "Unknown error"

def unknownAction : String := "No specific action available"

def description (code : Code) : String :=
  (code.registered?.map (·.description)).getD unknownDescription

def action (code : Code) : String := (code.registered?.map (·.action)).getD unknownAction

def category (code : Code) : String := (code.registered?.map (·.category)).getD "Unknown"

end Code

end CssSelector
