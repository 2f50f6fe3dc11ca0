/-!
# Kinds of tokens

The kinds that the lexical contexts of a selector produce. `any` is reserved for matching: it
stands for every kind and no scanner may produce it.
-/

set_option autoImplicit false

namespace CssSelector

inductive TokenClass where
  | wildcard
  | layout
  | selector
  | attributes
  | string
  | parameters
  | structural
  deriving DecidableEq, Repr

namespace TokenClass

def all : List TokenClass :=
  [wildcard, layout, selector, attributes, string, parameters, structural]

def name : TokenClass → String
  | wildcard => "wildcard"
  | layout => "layout"
  | selector => "selector"
  | attributes => "attribute"
  | string => "string"
  | parameters => "parameters"
  | structural => "structure"

/-- The name of a class in descriptions of program state. -/
def label : TokenClass → String
  | wildcard => "Wildcard"
  | layout => "Layout"
  | selector => "Selector"
  | attributes => "Attribute"
  | string => "String"
  | parameters => "Parameters"
  | structural => "Structure"

def ofName? (name : String) : Option TokenClass := all.find? (·.name = name)

end TokenClass

inductive TokenKind where
  | any
  | whitespace
  | typeSelector
  | classSelector
  | idSelector
  | attributeStart
  | attributeOperator
  | attributeEnd
  | singleQuoteStart
  | singleQuoteEnd
  | doubleQuoteStart
  | doubleQuoteEnd
  | characters
  | escapedCharacter
  | pseudoClass
  | parametersStart
  | parametersEnd
  | position
  | pseudoElement
  | combinator
  | separator
  deriving DecidableEq, Repr

namespace TokenKind

def all : List TokenKind :=
  [any, whitespace, typeSelector, classSelector, idSelector, attributeStart, attributeOperator,
   attributeEnd, singleQuoteStart, singleQuoteEnd, doubleQuoteStart, doubleQuoteEnd, characters,
   escapedCharacter, pseudoClass, parametersStart, parametersEnd, position, pseudoElement,
   combinator, separator]

/-- The name of a kind in token listings, messages and data formats. -/
def name : TokenKind → String
  | any => "ANY"
  | whitespace => "WHITESPACE"
  | typeSelector => "SIMPLESELECTOR_TYPE"
  | classSelector => "SIMPLESELECTOR_CLASS"
  | idSelector => "SIMPLESELECTOR_ID"
  | attributeStart => "SIMPLESELECTOR_ATTRIBUTE_START"
  | attributeOperator => "SIMPLESELECTOR_ATTRIBUTE_OPERATOR"
  | attributeEnd => "SIMPLESELECTOR_ATTRIBUTE_END"
  | singleQuoteStart => "STRING_SINGLE_QUOTE_START"
  | singleQuoteEnd => "STRING_SINGLE_QUOTE_END"
  | doubleQuoteStart => "STRING_DOUBLE_QUOTE_START"
  | doubleQuoteEnd => "STRING_DOUBLE_QUOTE_END"
  | characters => "STRING_CHARACTERS"
  | escapedCharacter => "STRING_ESCAPED_CHARACTER"
  | pseudoClass => "PSEUDOCLASS"
  | parametersStart => "PSEUDOCLASS_PARAMETERS_START"
  | parametersEnd => "PSEUDOCLASS_PARAMETERS_END"
  | position => "PSEUDOCLASS_POSITION"
  | pseudoElement => "PSEUDOELEMENT"
  | combinator => "SELECTOR_COMBINATOR"
  | separator => "SEPARATOR"

/-- The name of a kind in descriptions of program state. -/
def label : TokenKind → String
  | any => "Any"
  | whitespace => "Whitespace"
  | typeSelector => "SimpleSelectorType"
  | classSelector => "SimpleSelectorClass"
  | idSelector => "SimpleSelectorId"
  | attributeStart => "SimpleSelectorAttributeStart"
  | attributeOperator => "SimpleSelectorAttributeOperator"
  | attributeEnd => "SimpleSelectorAttributeEnd"
  | singleQuoteStart => "StringSingleQuoteStart"
  | singleQuoteEnd => "StringSingleQuoteEnd"
  | doubleQuoteStart => "StringDoubleQuoteStart"
  | doubleQuoteEnd => "StringDoubleQuoteEnd"
  | characters => "StringCharacters"
  | escapedCharacter => "StringEscapedCharacter"
  | pseudoClass => "PseudoClass"
  | parametersStart => "PseudoClassParametersStart"
  | parametersEnd => "PseudoClassParametersEnd"
  | position => "PseudoClassPosition"
  | pseudoElement => "PseudoElement"
  | combinator => "SelectorCombinator"
  | separator => "Separator"

def ofName? (name : String) : Option TokenKind := all.find? (·.name = name)

def index (kind : TokenKind) : Nat := kind.ctorIdx

def isWildcard (kind : TokenKind) : Bool := kind = any

def tokenClass : TokenKind → TokenClass
  | any => .wildcard
  | whitespace => .layout
  | typeSelector | classSelector | idSelector | pseudoClass | pseudoElement => .selector
  | attributeStart | attributeOperator | attributeEnd => .attributes
  | singleQuoteStart | singleQuoteEnd | doubleQuoteStart | doubleQuoteEnd | characters
  | escapedCharacter => .string
  | parametersStart | parametersEnd | position => .parameters
  | combinator | separator => .structural

end TokenKind

end CssSelector
