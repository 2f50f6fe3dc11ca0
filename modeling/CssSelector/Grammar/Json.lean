import CssSelector.Grammar.Selector
import CssSelector.Json.Basic

/-!
# Parsed selectors as JSON

A simple selector is a record whose only field says what it is. Compounds, sequences and lists are
arrays, and so are pairs.
-/

set_option autoImplicit false

namespace CssSelector

namespace SimpleSelector

def toJson : SimpleSelector → Json
  | element name => .object [("type", .text name)]
  | className name => .object [("class", .text name)]
  | identifier name => .object [("id", .text name)]
  | attributeName name => .object [("attribute", .text name)]

end SimpleSelector

namespace SelectorProduction

def compoundJson (compound : Compound) : Json := .array (compound.map SimpleSelector.toJson)

def sequenceJson (sequence : CompoundSequence) : Json := .array (sequence.map compoundJson)

def toJson : (production : SelectorProduction) → production.Ast → Json
  | typeName, value => .text value
  | attributeTest, value => SimpleSelector.toJson value
  | compound, value => compoundJson value
  | list, value => .array (List.map sequenceJson value)
  | pair, value => .array [.text value.1, .text value.2]
  | structural, value => .array [.text value.1, .text value.2]
  | runaway, value => Empty.elim value

end SelectorProduction

end CssSelector
