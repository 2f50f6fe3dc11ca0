import CssSelector.Proofs.Log.Delivery
import CssSelector.Proofs.Parse.Access

/-!
# Parses that write to a log

No question to a parser is answered from its log. So a change of the log that does not mind events
may be made before a rule is run or after it, by induction over the rule and over the rules that may
still become active: `runProduction_mapLog`. Writing the events of a parse to a log when they happen
is keeping them and writing them behind the parse, `parseInto_eq`.
-/

set_option autoImplicit false

namespace CssSelector

variable {σ τ ν : Type}

/-- A parser with another log. -/
def Parsing.mapLog (change : σ → τ) (parser : Parsing σ) : Parsing τ :=
  { parser with events := change parser.events }

/-- A result with another log. -/
def ParseResult.mapLog {α : Type} (change : σ → τ) (result : ParseResult σ α) : ParseResult τ α :=
  { result with events := change result.events }

namespace Parsing

variable {change : σ → τ} (expected : Expected) (parser : Parsing σ)

theorem tokenAt_mapLog (place : Nat) :
    (parser.mapLog change).tokenAt expected place = parser.tokenAt expected place := rfl

theorem ignore_mapLog :
    (parser.mapLog change).ignore expected =
      (parser.ignore expected).map (·.map id (·.mapLog change)) := by
  unfold ignore
  split <;> rfl

variable [EventLog σ] [EventLog τ] (forwards : EventLog.Forwards change)
  (preferences : ParsePreferences)

include forwards

theorem logMismatch_mapLog (error : ParseError) (place : Nat) :
    (parser.mapLog change).logMismatch preferences error place =
      (parser.logMismatch preferences error place).mapLog change := by
  unfold logMismatch
  split
  · simp only [mapLog, forwards _ _]
  · rfl

theorem enter_mapLog (name : String) :
    (parser.mapLog change).enter preferences name =
      (parser.enter preferences name).mapLog change := by
  simp only [enter]
  split
  · simp only [mapLog, forwards _ _]
  · rfl

theorem read_mapLog :
    (parser.mapLog change).read preferences expected =
      (parser.read preferences expected).map id (·.mapLog change) := by
  rw [read_eq, read_eq, tokenAt_mapLog]
  cases parser.tokenAt expected 0 with
  | ok token => rfl
  | error error => exact Prod.ext rfl (logMismatch_mapLog parser forwards preferences error 0)

theorem look_mapLog (place : Nat) (allowEnd : Bool) :
    (parser.mapLog change).look preferences expected place allowEnd =
      (parser.look preferences expected place allowEnd).map id (·.mapLog change) := by
  have ended : (parser.mapLog change).endOfTokens place = parser.endOfTokens place := rfl
  rw [look_eq, look_eq, tokenAt_mapLog, ended]
  split
  · rfl
  · cases parser.tokenAt expected place with
    | ok token => rfl
    | error error => exact Prod.ext rfl (logMismatch_mapLog parser forwards preferences error place)

end Parsing

section

variable [EventLog σ] [EventLog τ] {change : σ → τ} (forwards : EventLog.Forwards change)

include forwards

/-- A rule may be run with another log if productions may. -/
theorem Rule.run_mapLog {Ast : ν → Type} {α : Type} (preferences : ParsePreferences)
    {call : (production : ν) → Parsing σ → Verdict ParseError (Ast production) × Parsing σ}
    {also : (production : ν) → Parsing τ → Verdict ParseError (Ast production) × Parsing τ}
    (calls : ∀ production parser, also production (parser.mapLog change) =
      (call production parser).map id (·.mapLog change))
    (rule : Rule Ast α) (parser : Parsing σ) :
    rule.run preferences also (parser.mapLog change) =
      (rule.run preferences call parser).map id (·.mapLog change) := by
  induction rule generalizing parser with
  | done value => rfl
  | fail error => rfl
  | fault cause => rfl
  | read expected next ih =>
      simp only [run, Parsing.read_mapLog expected parser forwards]
      exact ih _ _
  | look expected place allowEnd next ih =>
      simp only [run, Parsing.look_mapLog expected parser forwards]
      exact ih _ _
  | ignore expected next ih =>
      simp only [run, Parsing.ignore_mapLog]
      cases parser.ignore expected with
      | ok answer => exact ih _ _
      | error cause => rfl
  | inspect next ih => exact ih _ _ _
  | delegate production next ih =>
      simp only [run, calls]
      generalize call production parser = returned
      obtain ⟨verdict, left⟩ := returned
      cases verdict with
      | done value => exact ih _ _
      | failed error => exact ih _ _
      | fault cause => rfl

namespace Grammar

variable (grammar : Grammar ν) (preferences : ParsePreferences)

theorem runProduction_mapLog (levels : Nat) (production : ν) (parser : Parsing σ) :
    grammar.runProduction preferences levels production (parser.mapLog change) =
      (grammar.runProduction preferences levels production parser).map id (·.mapLog change) := by
  induction levels generalizing production parser with
  | zero => rfl
  | succ levels ih =>
      simp only [runProduction, Parsing.enter_mapLog parser forwards,
        Rule.run_mapLog forwards preferences ih]
      rfl

theorem delegate_mapLog (production : ν) (parser : Parsing σ) :
    grammar.delegate preferences production (parser.mapLog change) =
      (grammar.delegate preferences production parser).map id (·.mapLog change) :=
  runProduction_mapLog forwards grammar preferences _ production parser

theorem parseInto_mapLog (production : ν) (stream : TokenStream) (log : σ) :
    grammar.parseInto preferences production stream (change log) =
      (grammar.parseInto preferences production stream log).mapLog change := by
  have started : Parsing.start stream (change log) = (Parsing.start stream log).mapLog change := by
    simp only [Parsing.start, Parsing.mapLog, forwards _ _]
  simp only [parseInto, started, delegate_mapLog forwards]
  generalize grammar.delegate preferences production (Parsing.start stream log) = returned
  obtain ⟨verdict, left⟩ := returned
  cases verdict with
  | done value => simp only [Prod.map, id, ParseResult.mapLog, Parsing.mapLog, forwards _ _]
  | failed error =>
      dsimp only [Prod.map, id]
      cases error.span with
      | ok span => simp only [ParseResult.mapLog, Parsing.mapLog, forwards _ _]
      | error cause => rfl
  | fault cause => rfl

end Grammar

end

/-- A parse that writes to a log comes to what it comes to anyway, and its events are in the log. -/
theorem Grammar.parseInto_eq [EventLog σ] (grammar : Grammar ν) (preferences : ParsePreferences)
    (production : ν) (stream : TokenStream) (log : σ) :
    grammar.parseInto preferences production stream log =
      (grammar.parse preferences production stream).mapLog (EventLog.noteAll log) :=
  parseInto_mapLog (EventLog.forwards_noteAll log) grammar preferences production stream #[]

end CssSelector
