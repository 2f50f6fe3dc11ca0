import CssSelector.Context.Selector
import CssSelector.Parse.Basic
import CssSelector.Scan.Basic
import CssSelector.Source.Lines

/-!
# From a selector to its meaning

A selector is scanned with the contexts of selectors and parsed with a production. Errors of
either stage are shown with an excerpt of the source.
-/

set_option autoImplicit false

namespace CssSelector

inductive SelectorError where
  | scan (error : ScanError)
  | parse (error : ParseError)
  deriving DecidableEq, Repr

namespace SelectorError

def message : SelectorError → String
  | scan error => "Tokenization failed: " ++ error.message
  | parse error => "Parsing failed: " ++ error.message

def code : SelectorError → Code
  | scan error => error.code
  | parse error => error.code

def span : SelectorError → Except Fault (Option Span)
  | scan error => error.span
  | parse error => error.span

/-- An error with an excerpt of its source. Without a span of its own it is shown at the end. -/
def render (text : String) (error : SelectorError) : Except Fault String := do
  let lines := Lines.ofString text
  let span ← match ← error.span with
    | some span => pure span
    | none => lines.spanAt text.utf8ByteSize 0
  lines.renderDiagnostic span s!"[{error.code.text}] {error.message}"

end SelectorError

def scanSelector (preferences : ScanPreferences) (text : String) : ScanOutcome :=
  SelectorContext.family.scan preferences .selector (.ofString text)

structure ScanReport where
  text : String
  tokens : List Token
  metrics : ScanMetrics

namespace ScanReport

def render (report : ScanReport) : String := (TokenStream.ofList report.tokens).render

def toJson (report : ScanReport) : Json :=
  .object [("source", .text report.text), ("tokens", .array (report.tokens.map Token.toJson)),
    ("metrics", report.metrics.toJson)]

end ScanReport

section

variable {σ : Type} [EventLog σ]

def scanSelectorInto (preferences : ScanPreferences) (text : String) (log : σ) : ScanResult σ :=
  SelectorContext.family.scanInto preferences .selector (.ofString text) 0 log

/-- Scans a selector for a report. Durations are in microseconds. -/
def reportInto (preferences : ScanPreferences) (duration : Nat) (text : String) (log : σ) :
    Verdict SelectorError ScanReport × σ :=
  let outcome := scanSelectorInto preferences text log
  match outcome.verdict with
  | .failed error => (.failed (.scan error), outcome.events)
  | .fault cause => (.fault cause, outcome.events)
  | .done _ =>
      let event := (Event.info "Selector scan report ready").withDetails
        [("source_length", toString text.utf8ByteSize),
         ("tokens", toString outcome.tokens.size),
         ("contexts", toString outcome.metrics.contextsEntered),
         ("duration_us", toString duration)]
      (.done ⟨text, outcome.tokens.toList, outcome.metrics⟩, EventLog.note outcome.events event)

/-- Scans and parses a selector. Tokens that are left are worth a warning. Durations are in
microseconds. -/
def compileInto {ν : Type} (grammar : Grammar ν) (scanning : ScanPreferences)
    (parsing : ParsePreferences) (duration : Nat) (production : ν) (text : String) (log : σ) :
    Verdict SelectorError (grammar.Ast production) × σ :=
  let scanned := scanSelectorInto scanning text log
  match scanned.verdict with
  | .failed error => (.failed (.scan error), scanned.events)
  | .fault cause => (.fault cause, scanned.events)
  | .done _ =>
      let parsed :=
        grammar.parseInto parsing production (.ofArray scanned.tokens) scanned.events
      match parsed.verdict with
      | .failed error => (.failed (.parse error), parsed.events)
      | .fault cause => (.fault cause, parsed.events)
      | .done value =>
          let name := grammar.name production
          let warned := match parsed.stream.front? with
            | none => parsed.events
            | some first => EventLog.note parsed.events
                ((Event.warning "Grammar left tokens unconsumed").withDetails
                  [("grammar", name), ("remaining", toString parsed.stream.length),
                   ("first", first.render)])
          let finished := (Event.success .compiled "Selector compiled").withDetails
            [("grammar", name), ("tokens", toString scanned.tokens.size),
             ("duration_us", toString duration)]
          (.done value, EventLog.note warned finished)

end

def reportSelector (preferences : ScanPreferences) (duration : Nat) (text : String) :
    Verdict SelectorError ScanReport × Array Event :=
  reportInto preferences duration text #[]

def compileSelector {ν : Type} (grammar : Grammar ν) (scanning : ScanPreferences)
    (parsing : ParsePreferences) (duration : Nat) (production : ν) (text : String) :
    Verdict SelectorError (grammar.Ast production) × Array Event :=
  compileInto grammar scanning parsing duration production text #[]

end CssSelector
