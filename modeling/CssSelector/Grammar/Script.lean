import CssSelector.Grammar.Selector

/-!
# Rules written as scripts

A script is a list of steps, each of which asks one question to the parser or delegates. A script
as a rule yields the results of its steps and fails with the first step that fails, unless that
step was only an attempt. A script may also be run outside any rule, step by step.
-/

set_option autoImplicit false

namespace CssSelector

inductive ScriptStep where
  | read (expected : Expected)
  | look (expected : Expected) (place : Nat) (allowEnd : Bool)
  | peek (expected : Expected)
  | endOfTokens (place : Nat)
  | ignore (expected : Expected)
  | remaining
  | depth
  | tokens
  | describe
  /-- Fails at the front token. -/
  | violation (reason : String)
  | delegate (production : SelectorProduction)
  | script (name : String) (steps : List ScriptStep)
  /-- Delegates to a script through a number of rules that only delegate. -/
  | nest (levels : Nat) (steps : List ScriptStep)
  | attempt (step : ScriptStep)

inductive ScriptProduction where
  | selector (production : SelectorProduction)
  | script (name : String) (steps : List ScriptStep)
  | nest (levels : Nat) (steps : List ScriptStep)

inductive ScriptValue where
  | token (value : Token)
  | flag (value : Bool)
  | number (value : Nat)
  | tokens (values : List Token)
  | text (value : String)
  | selector (production : SelectorProduction) (value : production.Ast)
  | results (values : List ScriptValue)
  /-- A failed attempt, with the source that the error is about. -/
  | failure (error : ParseError) (span : Option Span)

namespace ScriptProduction

def Ast : ScriptProduction → Type
  | selector production => production.Ast
  | script _ _ => List ScriptValue
  | nest _ _ => List ScriptValue

def name : ScriptProduction → String
  | selector production => production.name
  | script name _ => name
  | nest _ _ => "nest"

def toValue : (production : ScriptProduction) → production.Ast → ScriptValue
  | selector production, value => .selector production value
  | script _ _, values => .results values
  | nest _ _, values => .results values

end ScriptProduction

namespace ScriptStep

def callValue (production : ScriptProduction) : Rule ScriptProduction.Ast ScriptValue := do
  let value ← Rule.call production
  return production.toValue value

def failureValue (error : ParseError) : Rule ScriptProduction.Ast ScriptValue :=
  match error.span with
  | .ok span => return .failure error span
  | .error cause => .fault cause

def rule : ScriptStep → Rule ScriptProduction.Ast ScriptValue
  | read expected => do return .token (← Rule.expect expected)
  | look expected place allowEnd => do return .token (← Rule.lookahead expected place allowEnd)
  | peek expected => do return .token (← Rule.peek expected)
  | endOfTokens place => do return .flag (← Rule.endOfTokens place)
  | ignore expected => do return .flag (← Rule.skip expected)
  | remaining => do return .number (← Rule.remaining)
  | depth => do return .number (← Rule.depth)
  | tokens => do return .tokens (← Rule.tokens)
  | describe => .inspect fun stream depth => return .text (describeParser stream depth)
  | violation reason => do Rule.violation reason (← Rule.peek .anything)
  | delegate production => callValue (.selector production)
  | script name steps => callValue (.script name steps)
  | nest levels steps => callValue (.nest levels steps)
  | attempt step => do
      match ← step.rule.attempt with
      | .ok value => return value
      | .error error => failureValue error

def body : List ScriptStep → Rule ScriptProduction.Ast (List ScriptValue)
  | [] => return []
  | step :: later => do
      let value ← step.rule
      let values ← body later
      return value :: values

end ScriptStep

open SelectorProduction in
def scriptGrammar : Grammar ScriptProduction where
  Ast := ScriptProduction.Ast
  name := ScriptProduction.name
  rule
    | .selector .typeName => typeRule
    | .selector .attributeTest => attributeRule
    | .selector .compound => compoundRule (Rule.call (ScriptProduction.selector .attributeTest))
    | .selector .list => listRule (Rule.call (ScriptProduction.selector .compound))
    | .selector .pair => pairRule (Rule.call (ScriptProduction.selector .typeName))
    | .selector .structural => structuralRule
    | .selector .runaway => Rule.call (ScriptProduction.selector .runaway)
    | .script _ steps => ScriptStep.body steps
    | .nest 0 steps => ScriptStep.body steps
    | .nest (levels + 1) steps => Rule.call (ScriptProduction.nest levels steps)

structure StepReport where
  value : ScriptValue
  remaining : Nat
  depth : Nat

/-- Runs steps in a parser. Errors are results and do not stop it; a fault does. -/
def runSteps {σ : Type} [EventLog σ] (preferences : ParsePreferences) (reversed : List StepReport) :
    List ScriptStep → Parsing σ → Except Fault (List StepReport) × Parsing σ
  | [], parser => (.ok reversed.reverse, parser)
  | step :: later, parser =>
      match scriptGrammar.runRule preferences (ScriptStep.attempt step).rule parser with
      | (.done value, parser) =>
          let report := ⟨value, parser.stream.length, parser.depth⟩
          runSteps preferences (report :: reversed) later parser
      | (.failed error, parser) =>
          let report := ⟨.failure error none, parser.stream.length, parser.depth⟩
          runSteps preferences (report :: reversed) later parser
      | (.fault cause, parser) => (.error cause, parser)

end CssSelector
