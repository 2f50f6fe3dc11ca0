import CssSelector.Json.Shape
import CssSelector.Token.Expected
import CssSelector.Token.Stream

/-!
# Positions, tokens and streams as JSON

Every type is written in one way. Reading accepts what is written, and the variants that
`Json.fields?` and `Json.alternative?` allow.
-/

set_option autoImplicit false

namespace CssSelector

namespace Position

def toJson (position : Position) : Json :=
  .object [("offset", .natural position.offset), ("line", .natural position.line),
    ("column", .natural position.column)]

/-- Reads a position. Offsets have 64 bits, lines and columns 32. -/
def ofJson? (value : Json) : Option Position := do
  match ← value.fields? Json.records ["offset", "line", "column"] with
  | [some offset, some line, some column] =>
      return ⟨← offset.natural? maxOffset, ← line.natural? maxColumn, ← column.natural? maxColumn⟩
  | _ => none

end Position

namespace Span

def toJson (span : Span) : Json :=
  .object [("start", span.start.toJson), ("end", span.stop.toJson)]

/-- Reads a span. Its positions may come in any order. -/
def ofJson? (value : Json) : Option Span := do
  match ← value.fields? Json.records ["start", "end"] with
  | [some start, some stop] => return ⟨← Position.ofJson? start, ← Position.ofJson? stop⟩
  | _ => none

end Span

namespace TokenKind

def toJson (kind : TokenKind) : Json := .text kind.name

def ofJson? (value : Json) : Option TokenKind := do
  ofName? (← value.alternative? Json.records)

end TokenKind

namespace TokenClass

def toJson (tokenClass : TokenClass) : Json := .text tokenClass.name

def ofJson? (value : Json) : Option TokenClass := do
  ofName? (← value.alternative? Json.records)

end TokenClass

namespace Token

def toJson (token : Token) : Json :=
  .object [("kind", token.kind.toJson), ("offset", .natural token.offset),
    ("value", .text token.value)]

def ofJson? (value : Json) : Option Token := do
  match ← value.fields? Json.records ["kind", "offset", "value"] with
  | [some kind, some offset, some text] =>
      return ⟨← TokenKind.ofJson? kind, ← offset.natural? maxOffset, ← text.text?⟩
  | _ => none

end Token

namespace TokenStream

def toJson (stream : TokenStream) : Json := .array (stream.toList.map Token.toJson)

def ofJson? (value : Json) : Option TokenStream := do
  return ofList (← (← value.items?).mapM Token.ofJson?)

end TokenStream

namespace Expected

def toJson (expected : Expected) : Json := .array (expected.kinds.map TokenKind.toJson)

/-- Reads alternatives. They are kept as they are, repetitions included. -/
def ofJson? (value : Json) : Option Expected := do
  return ⟨← (← value.items?).mapM TokenKind.ofJson?⟩

end Expected

end CssSelector
