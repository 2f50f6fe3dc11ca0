import CssSelector.Context.Basic

/-!
# The contexts of selectors

A selector is scanned in the `selector` context. Parentheses, brackets and quotes open contexts
of their own, which end at their closing token.
-/

set_option autoImplicit false

namespace CssSelector

inductive Quote where
  | single
  | double
  deriving DecidableEq, Repr

namespace Quote

def char : Quote → Char
  | single => '\''
  | double => '"'

def startKind : Quote → TokenKind
  | single => .singleQuoteStart
  | double => .doubleQuoteStart

def endKind : Quote → TokenKind
  | single => .singleQuoteEnd
  | double => .doubleQuoteEnd

end Quote

inductive SelectorContext where
  | selector
  | parameters
  | attributes
  | string (quote : Quote)
  deriving DecidableEq, Repr

namespace SelectorContext

def all : List SelectorContext :=
  [selector, parameters, attributes, string .single, string .double]

def name : SelectorContext → String
  | selector => "selector"
  | parameters => "selector-parameters"
  | attributes => "attribute"
  | string .single => "single-quoted-string"
  | string .double => "double-quoted-string"

def quoteRules : List LexicalRule :=
  [⟨.singleQuoteStart, Lexeme.literal ['\'']⟩, ⟨.doubleQuoteStart, Lexeme.literal ['"']⟩]

/-- The rules of a selector. Combinators and separators take the white space around them, so they
come before white space. -/
def selectorRules : List LexicalRule :=
  [⟨.combinator, Lexeme.combinator⟩, ⟨.separator, Lexeme.separator⟩,
   ⟨.whitespace, Lexeme.whitespace⟩, ⟨.typeSelector, Lexeme.typeSelector⟩,
   ⟨.classSelector, Lexeme.classSelector⟩, ⟨.idSelector, Lexeme.idSelector⟩,
   ⟨.pseudoElement, Lexeme.pseudoElement⟩, ⟨.pseudoClass, Lexeme.pseudoClass⟩,
   ⟨.parametersStart, Lexeme.literal ['(']⟩, ⟨.attributeStart, Lexeme.literal ['[']⟩]
  ++ quoteRules

/-- The rules inside parentheses: their end and positions come before those of a selector. -/
def parameterRules : List LexicalRule :=
  [⟨.parametersEnd, Lexeme.literal [')']⟩, ⟨.position, Lexeme.delimitedPosition⟩]
  ++ selectorRules

def attributeRules : List LexicalRule :=
  [⟨.attributeEnd, Lexeme.literal [']']⟩, ⟨.whitespace, Lexeme.whitespace⟩,
   ⟨.attributeOperator, Lexeme.attributeOperator⟩, ⟨.characters, Lexeme.attributeWord⟩]
  ++ quoteRules

def stringRules (quote : Quote) : List LexicalRule :=
  [⟨quote.endKind, Lexeme.literal [quote.char]⟩,
   ⟨.escapedCharacter, Lexeme.escapedCharacter⟩,
   ⟨.characters, Lexeme.stringCharacters quote.char⟩]

/-- The rules of a context, in the order in which they are tried. -/
def rules : SelectorContext → List LexicalRule
  | selector => selectorRules
  | parameters => parameterRules
  | attributes => attributeRules
  | string quote => stringRules quote

/-- The kind of token that closes a context; nothing closes a selector. -/
def endKind? : SelectorContext → Option TokenKind
  | selector => none
  | parameters => some .parametersEnd
  | attributes => some .attributeEnd
  | string quote => some quote.endKind

def stringOpenedBy? : TokenKind → Option SelectorContext
  | .singleQuoteStart => some (string .single)
  | .doubleQuoteStart => some (string .double)
  | _ => none

/-- The context that a kind of token opens. Strings open nothing, brackets only strings. -/
def openedBy? : SelectorContext → TokenKind → Option SelectorContext
  | selector, .parametersStart | parameters, .parametersStart => some parameters
  | selector, .attributeStart | parameters, .attributeStart => some attributes
  | selector, kind | parameters, kind | attributes, kind => stringOpenedBy? kind
  | string _, _ => none

def token? (context : SelectorContext) (source : Source) (offset : Nat) : Option Token :=
  LexicalRule.firstToken? context.rules source offset

def family : ContextFamily SelectorContext where
  name := name
  token? context source offset := .ok (context.token? source offset)
  closes context token := context.endKind? = some token.kind
  opens? context token := context.openedBy? token.kind

end SelectorContext

end CssSelector
