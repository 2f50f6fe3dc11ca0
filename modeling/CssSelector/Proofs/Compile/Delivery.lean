import CssSelector.Compile
import CssSelector.Proofs.Log.Capture
import CssSelector.Proofs.Parse.Delivery
import CssSelector.Proofs.Scan.Delivery

/-!
# Compilations that write to a log

Scanning for a report and compiling write to a log while they run. To keep the events and to write
them to the log behind the run comes to the same, `reportInto_eq` and `compileInto_eq`. The stages
may be looked at one by one, each with the events that it logs: `compileSelector_eq`.
-/

set_option autoImplicit false

namespace CssSelector

variable {ν : Type}

section

variable {σ τ : Type} [EventLog σ] [EventLog τ] {change : σ → τ}
  (forwards : EventLog.Forwards change)

include forwards

theorem scanSelectorInto_mapLog (preferences : ScanPreferences) (text : String) (log : σ) :
    scanSelectorInto preferences text (change log) =
      (scanSelectorInto preferences text log).mapLog change :=
  SelectorContext.family.scanInto_mapLog forwards preferences (.ofString text) .selector 0 log

theorem reportInto_mapLog (preferences : ScanPreferences) (duration : Nat) (text : String)
    (log : σ) :
    reportInto preferences duration text (change log) =
      (reportInto preferences duration text log).map id change := by
  simp only [reportInto, scanSelectorInto_mapLog forwards]
  generalize scanSelectorInto preferences text log = scanned
  simp only [ScanResult.mapLog]
  cases scanned.verdict with
  | done cursor => simp only [Prod.map, id, forwards _ _]
  | failed error => rfl
  | fault cause => rfl

theorem compileInto_mapLog (grammar : Grammar ν) (scanning : ScanPreferences)
    (parsing : ParsePreferences) (duration : Nat) (production : ν) (text : String) (log : σ) :
    compileInto grammar scanning parsing duration production text (change log) =
      (compileInto grammar scanning parsing duration production text log).map id change := by
  simp only [compileInto, scanSelectorInto_mapLog forwards]
  generalize scanSelectorInto scanning text log = scanned
  simp only [ScanResult.mapLog, grammar.parseInto_mapLog forwards]
  cases scanned.verdict with
  | failed error => rfl
  | fault cause => rfl
  | done cursor =>
      dsimp only
      generalize grammar.parseInto parsing production (.ofArray scanned.tokens) scanned.events =
        parsed
      simp only [ParseResult.mapLog]
      cases parsed.verdict with
      | failed error => rfl
      | fault cause => rfl
      | done value =>
          dsimp only
          cases parsed.stream.front? with
          | none => simp only [Prod.map, id, forwards _ _]
          | some first => simp only [Prod.map, id, forwards _ _]

end

/-! ## Events that are kept -/

theorem scanSelectorInto_array (preferences : ScanPreferences) (text : String) :
    scanSelectorInto preferences text (#[] : Array Event) = scanSelector preferences text := rfl

theorem reportSelector_eq (preferences : ScanPreferences) (duration : Nat) (text : String) :
    reportSelector preferences duration text =
      match (scanSelector preferences text).verdict with
      | .failed error => (.failed (.scan error), (scanSelector preferences text).events)
      | .fault cause => (.fault cause, (scanSelector preferences text).events)
      | .done _ =>
          let outcome := scanSelector preferences text
          let event := (Event.info "Selector scan report ready").withDetails
            [("source_length", toString text.utf8ByteSize),
             ("tokens", toString outcome.tokens.size),
             ("contexts", toString outcome.metrics.contextsEntered),
             ("duration_us", toString duration)]
          (.done ⟨text, outcome.tokens.toList, outcome.metrics⟩, outcome.events.push event) := rfl

/-- Compiling is scanning and then parsing the tokens of the scan, each with events of its own. -/
theorem compileSelector_eq (grammar : Grammar ν) (scanning : ScanPreferences)
    (parsing : ParsePreferences) (duration : Nat) (production : ν) (text : String) :
    compileSelector grammar scanning parsing duration production text =
      let scanned := scanSelector scanning text
      match scanned.verdict with
      | .failed error => (.failed (.scan error), scanned.events)
      | .fault cause => (.fault cause, scanned.events)
      | .done _ =>
          let parsed := grammar.parse parsing production (.ofArray scanned.tokens)
          let events := scanned.events ++ parsed.events
          match parsed.verdict with
          | .failed error => (.failed (.parse error), events)
          | .fault cause => (.fault cause, events)
          | .done value =>
              let name := grammar.name production
              let warned := match parsed.stream.front? with
                | none => events
                | some first => events.push
                    ((Event.warning "Grammar left tokens unconsumed").withDetails
                      [("grammar", name), ("remaining", toString parsed.stream.length),
                       ("first", first.render)])
              let finished := (Event.success .compiled "Selector compiled").withDetails
                [("grammar", name), ("tokens", toString scanned.tokens.size),
                 ("duration_us", toString duration)]
              (.done value, warned.push finished) := by
  simp only [compileSelector, compileInto, scanSelectorInto_array, grammar.parseInto_eq,
    ParseResult.mapLog, EventLog.noteAll_array]
  rfl

variable {σ : Type} [EventLog σ]

/-- To scan for a report and write to a log is to keep the events and to write them afterwards. -/
theorem reportInto_eq (preferences : ScanPreferences) (duration : Nat) (text : String) (log : σ) :
    reportInto preferences duration text log =
      (reportSelector preferences duration text).map id (EventLog.noteAll log) :=
  reportInto_mapLog (EventLog.forwards_noteAll log) preferences duration text #[]

/-- To compile and write to a log is to keep the events and to write them afterwards. -/
theorem compileInto_eq (grammar : Grammar ν) (scanning : ScanPreferences)
    (parsing : ParsePreferences) (duration : Nat) (production : ν) (text : String) (log : σ) :
    compileInto grammar scanning parsing duration production text log =
      (compileSelector grammar scanning parsing duration production text).map id
        (EventLog.noteAll log) :=
  compileInto_mapLog (EventLog.forwards_noteAll log) grammar scanning parsing duration production
    text #[]

theorem delivers_compileInto (grammar : Grammar ν) (scanning : ScanPreferences)
    (parsing : ParsePreferences) (duration : Nat) (production : ν) (text : String) :
    Session.Delivers (compileInto grammar scanning parsing duration production text)
      (compileSelector grammar scanning parsing duration production text) :=
  fun session => compileInto_eq grammar scanning parsing duration production text session

end CssSelector
