import CssSelector.Log.Event
import CssSelector.Parse.Rule
import CssSelector.Settings.Preferences
import CssSelector.Verdict

/-!
# Parsing

A rule runs on a token stream. Tokens that it removes are gone for good, also if it fails later.
Delegation is bounded: at most `maxDelegationDepth` rules are active at once, and this is the only
bound that recursive rules need.
-/

set_option autoImplicit false

namespace CssSelector

/-- A parser at work: the tokens that are left, the number of active rules, and the log that it
writes to. -/
structure Parsing (σ : Type) where
  stream : TokenStream
  depth : Nat := 0
  events : σ

abbrev Parser := Parsing (Array Event)

namespace Parsing

variable {σ : Type}

def endOfTokens (parser : Parsing σ) (place : Nat) : Bool := parser.stream.length ≤ place

def matchesAt (parser : Parsing σ) (expected : Expected) (place : Nat) : Bool :=
  (parser.stream.get? place).any expected.accepts

/-- The error for a place at which no expected token is. -/
def mismatch (parser : Parsing σ) (expected : Expected) (place : Nat) : ParseError :=
  match parser.stream.get? place with
  | some token => .tokenMismatch token expected
  | none => .unexpectedEnd expected

/-- Removes all tokens at the front that are expected. To expect every token is a fault. -/
def ignore (expected : Expected) (parser : Parsing σ) : Except Fault (Bool × Parsing σ) :=
  if expected.isWildcard then .error .wildcardDropped
  else
    let count := parser.stream.countWhile expected.names
    .ok (0 < count, { parser with stream := parser.stream.drop count })

def leave (parser : Parsing σ) : Parsing σ := { parser with depth := parser.depth - 1 }

variable [EventLog σ]

def start (stream : TokenStream) (log : σ) : Parsing σ where
  stream := stream
  events := EventLog.note log
    ((Event.debug "Creating selector parser").withDetail "tokens" (toString stream.length))

def logMismatch (preferences : ParsePreferences) (error : ParseError) (place : Nat)
    (parser : Parsing σ) : Parsing σ :=
  if preferences.logMismatches then
    let event := (Event.debug "Token mismatch").withDetails
      [("code", error.code.text), ("position", toString place), ("error", error.message)]
    { parser with events := EventLog.note parser.events event }
  else parser

def refuse (preferences : ParsePreferences) (expected : Expected) (place : Nat)
    (parser : Parsing σ) : Except ParseError Token × Parsing σ :=
  let error := parser.mismatch expected place
  (.error error, parser.logMismatch preferences error place)

def read (preferences : ParsePreferences) (expected : Expected) (parser : Parsing σ) :
    Except ParseError Token × Parsing σ :=
  if parser.matchesAt expected 0 then
    match parser.stream.popFront? with
    | some (token, left) => (.ok token, { parser with stream := left })
    | none => parser.refuse preferences expected 0
  else parser.refuse preferences expected 0

/-- The token at a place, if it is expected; behind the last token `Token.endOfTokens`, if that is
allowed. -/
def look (preferences : ParsePreferences) (expected : Expected) (place : Nat) (allowEnd : Bool)
    (parser : Parsing σ) : Except ParseError Token × Parsing σ :=
  if allowEnd && parser.endOfTokens place then (.ok .endOfTokens, parser)
  else
    match parser.stream.get? place with
    | some token =>
        if expected.accepts token then (.ok token, parser)
        else parser.refuse preferences expected place
    | none => parser.refuse preferences expected place

def enter (preferences : ParsePreferences) (name : String) (parser : Parsing σ) : Parsing σ :=
  let entered := { parser with depth := parser.depth + 1 }
  if preferences.logDelegation then
    let event := (Event.debug "Delegating to grammar").withDetails
      [("grammar", name), ("depth", toString entered.depth),
       ("remaining", toString entered.stream.length)]
    { entered with events := EventLog.note entered.events event }
  else entered

end Parsing

abbrev Parser.start (stream : TokenStream) : Parser := Parsing.start stream #[]

def describeParser (stream : TokenStream) (depth : Nat) : String :=
  "Parser \x7b remaining: " ++ toString stream.length ++ ", depth: " ++ toString depth ++ " \x7d"

/-- Runs a rule, given how productions are run. -/
def Rule.run {σ ν : Type} [EventLog σ] {Ast : ν → Type} {α : Type} (preferences : ParsePreferences)
    (call : (production : ν) → Parsing σ → Verdict ParseError (Ast production) × Parsing σ) :
    Rule Ast α → Parsing σ → Verdict ParseError α × Parsing σ
  | done value, parser => (.done value, parser)
  | fail error, parser => (.failed error, parser)
  | fault cause, parser => (.fault cause, parser)
  | read expected next, parser =>
      match parser.read preferences expected with
      | (answer, parser) => run preferences call (next answer) parser
  | look expected place allowEnd next, parser =>
      match parser.look preferences expected place allowEnd with
      | (answer, parser) => run preferences call (next answer) parser
  | ignore expected next, parser =>
      match parser.ignore expected with
      | .ok (answer, parser) => run preferences call (next answer) parser
      | .error cause => (.fault cause, parser)
  | inspect next, parser => run preferences call (next parser.stream parser.depth) parser
  | delegate production next, parser =>
      match call production parser with
      | (.done value, parser) => run preferences call (next (.ok value)) parser
      | (.failed error, parser) => run preferences call (next (.error error)) parser
      | (.fault cause, parser) => (.fault cause, parser)

namespace Grammar

variable {σ ν : Type} [EventLog σ] (grammar : Grammar ν) (preferences : ParsePreferences)

/-- Runs a production. The levels are the rules that may still become active. -/
def runProduction : (levels : Nat) → (production : ν) → Parsing σ →
    Verdict ParseError (grammar.Ast production) × Parsing σ
  | 0, _, parser => (.failed (.delegationTooDeep (parser.depth + 1)), parser)
  | levels + 1, production, parser =>
      match (grammar.rule production).run preferences (runProduction levels)
          (parser.enter preferences (grammar.name production)) with
      | (verdict, parser) => (verdict, parser.leave)

/-- Runs a production in a parser: it is refused if too many rules are active. -/
def delegate (production : ν) (parser : Parsing σ) :
    Verdict ParseError (grammar.Ast production) × Parsing σ :=
  grammar.runProduction preferences (maxDelegationDepth - parser.depth) production parser

def runRule {α : Type} (rule : Rule grammar.Ast α) (parser : Parsing σ) :
    Verdict ParseError α × Parsing σ :=
  let levels := maxDelegationDepth - parser.depth
  rule.run preferences (grammar.runProduction preferences levels) parser

end Grammar

/-- What parsing a stream comes to: the verdict, the tokens that are left, and the log behind it. -/
structure ParseResult (σ α : Type) where
  verdict : Verdict ParseError α
  stream : TokenStream
  events : σ

abbrev ParseOutcome (α : Type) := ParseResult (Array Event) α

namespace Grammar

variable {σ ν : Type} (grammar : Grammar ν) (preferences : ParsePreferences) (production : ν)

/-- Parses a stream with a production. Tokens that it does not remove are left. Each event is
written to the log when it happens. -/
def parseInto [EventLog σ] (stream : TokenStream) (log : σ) :
    ParseResult σ (grammar.Ast production) :=
  let name := grammar.name production
  match grammar.delegate preferences production (.start stream log) with
  | (.done value, parser) =>
      let left := parser.stream.length
      let event := (Event.success .parsed "Selector parsed").withDetails
        [("grammar", name), ("consumed", toString (stream.length - left)),
         ("remaining", toString left)]
      ⟨.done value, parser.stream, EventLog.note parser.events event⟩
  | (.failed error, parser) =>
      match error.span with
      | .ok span =>
          let event := ((Event.error error.code error.message).withSpan span).withDetail
            "grammar" name
          ⟨.failed error, parser.stream, EventLog.note parser.events event⟩
      | .error cause => ⟨.fault cause, parser.stream, parser.events⟩
  | (.fault cause, parser) => ⟨.fault cause, parser.stream, parser.events⟩

def parse (stream : TokenStream) : ParseOutcome (grammar.Ast production) :=
  grammar.parseInto preferences production stream #[]

end Grammar

end CssSelector
