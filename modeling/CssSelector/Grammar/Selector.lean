import CssSelector.Parse.Basic

/-!
# Productions of selectors

A compound is a run of simple selectors without white space, a sequence is a run of compounds
with white space between them, and a list has sequences with separators between them.
-/

set_option autoImplicit false

namespace CssSelector

inductive SimpleSelector where
  | element (name : String)
  | className (name : String)
  | identifier (name : String)
  | attributeName (name : String)
  deriving DecidableEq, Repr

abbrev Compound := List SimpleSelector

abbrev CompoundSequence := List Compound

inductive SelectorProduction where
  | typeName
  | attributeTest
  | compound
  | list
  | pair
  | structural
  /-- A production that only delegates to itself. -/
  | runaway
  deriving DecidableEq, Repr

namespace SelectorProduction

def all : List SelectorProduction :=
  [typeName, attributeTest, compound, list, pair, structural, runaway]

def name : SelectorProduction → String
  | typeName => "type"
  | attributeTest => "attribute"
  | compound => "compound"
  | list => "list"
  | pair => "pair"
  | structural => "structural"
  | runaway => "runaway"

def ofName? (name : String) : Option SelectorProduction := all.find? (·.name = name)

def Ast : SelectorProduction → Type
  | typeName => String
  | attributeTest => SimpleSelector
  | compound => Compound
  | list => List CompoundSequence
  | pair => String × String
  | structural => String × String
  | runaway => Empty

def partStarts : Expected :=
  .ofKinds [.typeSelector, .classSelector, .idSelector, .attributeStart]

def structuralNames : List String := [":root", ":first-child", ":last-child"]

section

variable {ν : Type} {Result : ν → Type}

def typeRule : Rule Result String := do
  let token ← Rule.expect (.only .typeSelector)
  return token.value

def attributeRule : Rule Result SimpleSelector := do
  let _ ← Rule.expect (.only .attributeStart)
  let name ← Rule.expect (.only .characters)
  let _ ← Rule.expect (.only .attributeEnd)
  return .attributeName name.value

def plainPart (kind : TokenKind) (name : String) : SimpleSelector :=
  match kind with
  | .classSelector => .className name
  | .idSelector => .identifier name
  | _ => .element name

/-- The parts of a compound behind those already there. It ends where no part can start, as long
as there is one. The fuel bounds the number of parts. -/
def compoundParts (bracketed : Rule Result SimpleSelector) : Nat → Compound → Rule Result Compound
  | 0, reversed => return reversed.reverse
  | fuel + 1, reversed =>
      .look partStarts 0 (!reversed.isEmpty) fun
        | .error error => if reversed.isEmpty then .fail error else return reversed.reverse
        | .ok token =>
            if token.kind = .any then return reversed.reverse
            else if token.kind = .attributeStart then do
              let part ← bracketed
              compoundParts bracketed fuel (part :: reversed)
            else do
              let token ← Rule.expect (.only token.kind)
              compoundParts bracketed fuel (plainPart token.kind token.value :: reversed)

/-- A compound: at least one part. There are no more parts than tokens. -/
def compoundRule (bracketed : Rule Result SimpleSelector) : Rule Result Compound := do
  let count ← Rule.remaining
  compoundParts bracketed (count + 1) []

def sequenceRest (compound : Rule Result Compound) : Nat → CompoundSequence →
    Rule Result CompoundSequence
  | 0, reversed => return reversed.reverse
  | fuel + 1, reversed => do
      if ← Rule.skip (.only .whitespace) then
        let next ← compound
        sequenceRest compound fuel (next :: reversed)
      else return reversed.reverse

/-- The sequences of a list behind those already there. The fuel bounds their number. -/
def listRest (compound : Rule Result Compound) : Nat → List CompoundSequence →
    Rule Result (List CompoundSequence)
  | 0, reversed => return reversed.reverse
  | fuel + 1, reversed => do
      let first ← compound
      let count ← Rule.remaining
      let sequence ← sequenceRest compound (count + 1) [first]
      if ← Rule.endOfTokens 0 then return (sequence :: reversed).reverse
      else
        let _ ← Rule.expect (.only .separator)
        listRest compound fuel (sequence :: reversed)

/-- A list: sequences up to the end of the tokens, with separators between them. -/
def listRule (compound : Rule Result Compound) : Rule Result (List CompoundSequence) := do
  let count ← Rule.remaining
  listRest compound (count + 1) []

def pairRule (type : Rule Result String) : Rule Result (String × String) := do
  let name ← type
  let token ← Rule.expect (.only .classSelector)
  return (name, token.value)

/-- A type selector and a structural pseudo-class; other pseudo-classes are refused. -/
def structuralRule : Rule Result (String × String) := do
  let type ← Rule.expect (.only .typeSelector)
  let pseudo ← Rule.expect (.only .pseudoClass)
  if structuralNames.contains pseudo.value then return (type.value, pseudo.value)
  else Rule.violation "unknown structural pseudo-class" pseudo

end

end SelectorProduction

open SelectorProduction in
def selectorGrammar : Grammar SelectorProduction where
  Ast := SelectorProduction.Ast
  name := SelectorProduction.name
  rule
    | .typeName => typeRule
    | .attributeTest => attributeRule
    | .compound => compoundRule (Rule.call SelectorProduction.attributeTest)
    | .list => listRule (Rule.call SelectorProduction.compound)
    | .pair => pairRule (Rule.call SelectorProduction.typeName)
    | .structural => structuralRule
    | .runaway => Rule.call SelectorProduction.runaway

end CssSelector
