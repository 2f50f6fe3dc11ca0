import CssSelector.Context.Selector

/-!
# Contexts given by tables

A table lists contexts by number. Each is a context of selectors or is given by rules, by the
kinds that close it and by the numbers of the contexts that kinds open. A rule may misstate its
token: it can move the offset or replace the text. To move an offset beyond the largest one is a
fault.
-/

set_option autoImplicit false

namespace CssSelector

inductive Pattern where
  /-- Small letters, anywhere. -/
  | letters
  /-- White space at the front, possibly none. -/
  | spaces
  /-- One character at the front, but no line feed. -/
  | any
  /-- Word characters at the front. -/
  | word
  /-- Digits, anywhere. -/
  | digits
  deriving DecidableEq, Repr

namespace Pattern

def all : List Pattern := [letters, spaces, any, word, digits]

def name : Pattern → String
  | letters => "letters"
  | spaces => "spaces"
  | any => "any"
  | word => "word"
  | digits => "digits"

def ofName? (name : String) : Option Pattern := all.find? (·.name = name)

def find : Pattern → Lexeme.Finder
  | letters => Lexeme.findRun fun c => 'a' ≤ c && c ≤ 'z'
  | spaces => Lexeme.leadingRun isSpace
  | any => Lexeme.leadingChar (· ≠ '\n')
  | word => Lexeme.leadingRun isWord
  | digits => Lexeme.findRun isDigit

def recognize : Pattern → Recognizer
  | letters => Lexeme.run fun c => 'a' ≤ c && c ≤ 'z'
  | spaces => Lexeme.run isSpace
  | any => Lexeme.single (· ≠ '\n')
  | word => Lexeme.run isWord
  | digits => Lexeme.run isDigit

theorem atFront_find (pattern : Pattern) : Lexeme.atFront pattern.find = pattern.recognize := by
  cases pattern with
  | letters => exact Lexeme.atFront_findRun _
  | spaces => exact Lexeme.atFront_leadingRun _
  | any => exact Lexeme.atFront_leadingChar _
  | word => exact Lexeme.atFront_leadingRun _
  | digits => exact Lexeme.atFront_findRun _

end Pattern

def LexicalRule.ofText (kind : TokenKind) (text : String) : LexicalRule :=
  ⟨kind, Lexeme.literal text.toList⟩

/-- The rule for a search, whose match counts only at the front. -/
def LexicalRule.ofFinder (kind : TokenKind) (find : Lexeme.Finder) : LexicalRule :=
  ⟨kind, Lexeme.atFront find⟩

def LexicalRule.ofPattern (kind : TokenKind) (pattern : Pattern) : LexicalRule :=
  ⟨kind, pattern.recognize⟩

theorem LexicalRule.ofPattern_eq (kind : TokenKind) (pattern : Pattern) :
    LexicalRule.ofPattern kind pattern = LexicalRule.ofFinder kind pattern.find := by
  rw [LexicalRule.ofPattern, LexicalRule.ofFinder, Pattern.atFront_find]

/-- A lexical rule whose tokens may be misstated. -/
structure TableRule where
  rule : LexicalRule
  shift : Nat := 0
  replacement : Option String := none

namespace TableRule

def token? (rule : TableRule) (source : Source) (offset : Nat) : Except Fault (Option Token) :=
  match rule.rule.token? source offset with
  | none => .ok none
  | some token => do
      let place ← addOffset token.offset rule.shift
      return some ⟨token.kind, place, rule.replacement.getD token.value⟩

def firstToken? (source : Source) (offset : Nat) : List TableRule → Except Fault (Option Token)
  | [] => .ok none
  | rule :: later => do
      match ← rule.token? source offset with
      | some token => return some token
      | none => firstToken? source offset later

end TableRule

inductive TableContext where
  | selector (context : SelectorContext)
  | table (name : String) (rules : List TableRule) (ends : List TokenKind)
      (opens : List (TokenKind × Nat))

namespace TableContext

def name : TableContext → String
  | selector context => context.name
  | table name _ _ _ => name

def token? : TableContext → Source → Nat → Except Fault (Option Token)
  | selector context, source, offset => .ok (context.token? source offset)
  | table _ rules _ _, source, offset => TableRule.firstToken? source offset rules

def closes : TableContext → Token → Bool
  | selector context, token => SelectorContext.family.closes context token
  | table _ _ ends _, token => ends.contains token.kind

/-- The context that a token opens, looked up by number. -/
def opens? (contexts : List TableContext) : TableContext → Token → Option TableContext
  | selector context, token => (context.openedBy? token.kind).map selector
  | table _ _ _ opens, token => do
      let entry ← opens.find? fun entry => entry.1 = token.kind
      contexts[entry.2]?

def family (contexts : List TableContext) : ContextFamily TableContext where
  name := name
  token? := token?
  closes := closes
  opens? := opens? contexts

end TableContext

end CssSelector
