import CssSelector.Proofs.Compile.Render
import CssSelector.Proofs.Parse.Log
import CssSelector.Proofs.Scan.Log

/-!
# The log of a compilation

Who listens to the compilation of a selector learns its outcome: each stage tells once that it is
done, an error is told once and ends the log, and what rules try on their way is not told at all.
-/

set_option autoImplicit false

namespace CssSelector

namespace Event

/-- An event that tells an error, with its code and its span. -/
structure Reports (event : Event) (error : SelectorError) : Prop where
  level : event.level = .error
  code : event.code = error.code
  span : error.span = .ok event.span

/-- An event that tells that a source was scanned, and how many tokens it has. -/
def TellsTokens (event : Event) (count : Nat) : Prop :=
  ∃ cursor : Nat, event.Tells .info .tokenized
    [("tokens", toString count), ("end_offset", toString cursor)]

/-- An event that tells that tokens were parsed, how many of them were consumed and how many are
left. -/
def TellsConsumed (event : Event) (name : String) (count left : Nat) : Prop :=
  ∃ consumed, consumed + left = count ∧ event.Tells .info .parsed
    [("grammar", name), ("consumed", toString consumed), ("remaining", toString left)]

/-- An event that warns of tokens that are left. -/
def WarnsOf (event : Event) (name : String) (left : Nat) (first : Token) : Prop :=
  event.Tells .warning .plainWarning
    [("grammar", name), ("remaining", toString left), ("first", first.render)]

/-- An event that tells that a selector was compiled. -/
def TellsCompiled (event : Event) (name : String) (count duration : Nat) : Prop :=
  event.Tells .info .compiled
    [("grammar", name), ("tokens", toString count), ("duration_us", toString duration)]

variable {event : Event} {name : String} {count left : Nat}

theorem Reports.stamp {error : SelectorError} (told : event.Reports error) (session : Session) :
    (session.stamp event).Reports error := ⟨told.level, told.code, told.span⟩

theorem TellsTokens.level (told : event.TellsTokens count) : event.level = .info := by
  obtain ⟨cursor, told⟩ := told
  exact told.level

theorem TellsTokens.stamp (told : event.TellsTokens count) (session : Session) :
    (session.stamp event).TellsTokens count := by
  obtain ⟨cursor, told⟩ := told
  exact ⟨cursor, told.stamp session⟩

theorem TellsConsumed.level (told : event.TellsConsumed name count left) : event.level = .info := by
  obtain ⟨consumed, -, told⟩ := told
  exact told.level

theorem TellsConsumed.stamp (told : event.TellsConsumed name count left) (session : Session) :
    (session.stamp event).TellsConsumed name count left := by
  obtain ⟨consumed, total, told⟩ := told
  exact ⟨consumed, total, told.stamp session⟩

end Event

/-- What is told of a compilation. -/
inductive CompileLog {α : Type} (name : String) (duration count : Nat) (left : TokenStream) :
    Verdict SelectorError α → List Event → Prop
  /-- The grammar has consumed every token. -/
  | complete {value : α} {tokenized parsed compiled : Event} :
      left.toList = [] → tokenized.TellsTokens count →
      parsed.TellsConsumed name count left.length → compiled.TellsCompiled name count duration →
      CompileLog name duration count left (.done value) [tokenized, parsed, compiled]
  /-- The grammar has left tokens. -/
  | incomplete {value : α} {first : Token} {tokenized parsed warning compiled : Event} :
      left.front? = some first → tokenized.TellsTokens count →
      parsed.TellsConsumed name count left.length → warning.WarnsOf name left.length first →
      compiled.TellsCompiled name count duration →
      CompileLog name duration count left (.done value) [tokenized, parsed, warning, compiled]
  | notScanned {error : ScanError} {failure : Event} : failure.Reports (.scan error) →
      CompileLog name duration count left (.failed (.scan error)) [failure]
  | notParsed {error : ParseError} {tokenized failure : Event} : tokenized.TellsTokens count →
      failure.Reports (.parse error) →
      CompileLog name duration count left (.failed (.parse error)) [tokenized, failure]
  | scanBroken (cause : Fault) : CompileLog name duration count left (.fault cause) []
  | parseBroken {tokenized : Event} (cause : Fault) : tokenized.TellsTokens count →
      CompileLog name duration count left (.fault cause) [tokenized]

/-- What is heard of a compilation up to errors. -/
def ErrorLog {α : Type} (verdict : Verdict SelectorError α) (events : List Event) : Prop :=
  match verdict with
  | .failed error => ∃ event, events = [event] ∧ event.Reports error
  | _ => events = []

/-! ## What the stages log -/

/-- The spans of errors of a scan of a selector are in range. -/
theorem exists_span_of_scanSelector {preferences : ScanPreferences} {text : String}
    {error : ScanError} (failed : (scanSelector preferences text).verdict = .failed error) :
    ∃ span, error.span = .ok span := by
  rcases Nat.lt_or_ge maxSourceLength text.utf8ByteSize with long | short
  · cases failed.symm.trans (scanSelector_of_too_long long).2
    exact ⟨none, rfl⟩
  · obtain ⟨rendered, shown⟩ := render_scan_eq_ok short failed
    cases covered : error.span with
    | ok span => exact ⟨span, rfl⟩
    | error cause =>
        have broken : (SelectorError.scan error).span = .error cause := covered
        rw [SelectorError.render, broken] at shown
        cases shown

theorem reports_event {error : ScanError} {span : Option Span} (covered : error.span = .ok span)
    (name value : String) : (error.event name value).Reports (.scan error) := by
  obtain ⟨told, shown⟩ := Event.tells_error error.code error.message name value span
  have same : error.event name value =
      ((Event.error error.code error.message).withSpan span).withDetail name value := by
    rw [ScanError.event, covered]
    rfl
  rw [same]
  exact ⟨told.level, told.code, covered.trans (congrArg Except.ok shown.symm)⟩

/-- Events that tell nothing but these, apart from trace messages. -/
def TellsOnly (events : Array Event) (told : List Event) : Prop :=
  ∀ (session : Session) (level : Level), level ≠ .debug →
    session.heard level events.toList = session.heard level told

theorem TellsOnly.of_traces {traced : Array Event} (traces : Traces traced)
    (events : Array Event) : TellsOnly (traced ++ events) events.toList := by
  intro session level unwanted
  rw [Array.toList_append, Session.heard_append, Session.heard_of_traces traces unwanted,
    List.nil_append]

theorem TellsOnly.append {left right : Array Event} {first second : List Event}
    (leading : TellsOnly left first) (trailing : TellsOnly right second) :
    TellsOnly (left ++ right) (first ++ second) := by
  intro session level unwanted
  rw [Array.toList_append, Session.heard_append, Session.heard_append,
    leading session level unwanted, trailing session level unwanted]

theorem TellsOnly.push {events : Array Event} {told : List Event} (only : TellsOnly events told)
    (event : Event) : TellsOnly (events.push event) (told ++ [event]) := by
  intro session level unwanted
  rw [Array.toList_push, Session.heard_append, Session.heard_append,
    only session level unwanted]

/-- The end of a compilation that is done. -/
theorem exists_log_of_parsed {α : Type} {name : String} {count : Nat} {left : TokenStream}
    {tokenized parsed : Event} {events : Array Event} (counted : tokenized.TellsTokens count)
    (consumed : parsed.TellsConsumed name count left.length)
    (only : TellsOnly events [tokenized, parsed]) (duration : Nat) (value : α) :
    let warned := match left.front? with
      | none => events
      | some first => events.push ((Event.warning "Grammar left tokens unconsumed").withDetails
          [("grammar", name), ("remaining", toString left.length), ("first", first.render)])
    let finished := (Event.success .compiled "Selector compiled").withDetails
      [("grammar", name), ("tokens", toString count), ("duration_us", toString duration)]
    ∃ told, CompileLog name duration count left (.done value) told ∧
      TellsOnly (warned.push finished) told := by
  intro warned finished
  have compiled : finished.TellsCompiled name count duration :=
    Event.tells_withDetails (by simp) _
  cases front : left.front? with
  | none =>
      have empty : left.toList = [] := by
        rw [TokenStream.front?, TokenStream.get?_eq] at front
        exact List.eq_nil_of_length_eq_zero (Nat.le_zero.mp (List.getElem?_eq_none_iff.mp front))
      have same : warned = events := by simp only [warned, front]
      rw [same]
      exact ⟨_, .complete empty counted consumed compiled, only.push finished⟩
  | some first =>
      have warns := @Event.tells_withDetails
        [("grammar", name), ("remaining", toString left.length), ("first", first.render)]
        (by simp) (.warning "Grammar left tokens unconsumed")
      simp only [warned, front]
      exact ⟨_, .incomplete front counted consumed warns compiled, (only.push _).push finished⟩

variable {ν : Type} (grammar : Grammar ν) (scanning : ScanPreferences)
  (parsing : ParsePreferences) (duration : Nat) (production : ν) (text : String)

/-- Apart from trace messages a compilation logs what its outcome is. -/
theorem compileSelector_log :
    let compiled := compileSelector grammar scanning parsing duration production text
    let tokens := (scanSelector scanning text).tokens
    let left := (grammar.parse parsing production (.ofArray tokens)).stream
    ∃ told, CompileLog (grammar.name production) duration tokens.size left compiled.1 told ∧
      TellsOnly compiled.2 told := by
  obtain ⟨traced, last, traces, events, concludes⟩ :=
    SelectorContext.family.scanFrom_log scanning (.ofString text) .selector 0
  change (scanSelector scanning text).events = _ at events
  change Concludes (scanSelector scanning text).tokens.size (scanSelector scanning text).verdict
    last at concludes
  simp only [compileSelector_eq, events]
  cases scanned : (scanSelector scanning text).verdict with
  | failed error =>
      obtain ⟨span, covered⟩ := exists_span_of_scanSelector scanned
      rw [scanned] at concludes
      cases concludes with
      | failed _ name value =>
          exact ⟨_, .notScanned (reports_event covered name value), .of_traces traces _⟩
  | fault cause =>
      rw [scanned] at concludes
      cases concludes with
      | fault => exact ⟨_, .scanBroken cause, .of_traces traces _⟩
  | done cursor =>
      rw [scanned] at concludes
      obtain ⟨parseTraced, parseLast, parseTraces, parseEvents, parseConcludes⟩ :=
        grammar.parse_log parsing production (.ofArray (scanSelector scanning text).tokens)
      generalize grammar.parse parsing production (.ofArray (scanSelector scanning text).tokens) =
        parsed at parseEvents parseConcludes ⊢
      cases concludes with
      | @done _ tokenized counted =>
          have only : TellsOnly (traced ++ #[tokenized] ++ parsed.events)
              (tokenized :: parseLast.toList) := by
            rw [parseEvents]
            exact (TellsOnly.of_traces traces _).append (.of_traces parseTraces _)
          cases outcome : parsed.verdict with
          | failed error =>
              rw [outcome] at parseConcludes
              cases parseConcludes with
              | failed told covered =>
                  exact ⟨_, .notParsed ⟨cursor, counted⟩ ⟨told.level, told.code, covered⟩, only⟩
          | fault cause =>
              rw [outcome] at parseConcludes
              cases parseConcludes with
              | fault => exact ⟨_, .parseBroken cause ⟨cursor, counted⟩, only⟩
          | done value =>
              rw [outcome] at parseConcludes
              cases parseConcludes with
              | @done _ consumed finished total told =>
                  exact exists_log_of_parsed ⟨cursor, counted⟩ ⟨consumed, total, told⟩ only duration
                    value

/-! ## What is heard -/

namespace CompileLog

variable {α : Type} {name : String} {duration count : Nat} {left : TokenStream}
  {verdict : Verdict SelectorError α} {told : List Event}

theorem length_le (log : CompileLog name duration count left verdict told) : told.length ≤ 4 := by
  cases log with
  | complete | incomplete | notScanned | notParsed | scanBroken | parseBroken => simp

open Session in
/-- Everything that is told is heard where trace messages are not wanted. -/
theorem heard_info (log : CompileLog name duration count left verdict told) (session : Session) :
    CompileLog name duration count left verdict (session.heard .info told) := by
  cases log with
  | complete empty counted consumed compiled =>
      rw [heard_cons_of_within counted.level rfl, heard_cons_of_within consumed.level rfl,
        heard_cons_of_within (Event.Tells.level compiled) rfl]
      exact .complete empty (counted.stamp session) (consumed.stamp session)
        (Event.Tells.stamp compiled session)
  | incomplete front counted consumed warned compiled =>
      rw [heard_cons_of_within counted.level rfl, heard_cons_of_within consumed.level rfl,
        heard_cons_of_within (Event.Tells.level warned) rfl,
        heard_cons_of_within (Event.Tells.level compiled) rfl]
      exact .incomplete front (counted.stamp session) (consumed.stamp session)
        (Event.Tells.stamp warned session) (Event.Tells.stamp compiled session)
  | notScanned reported =>
      rw [heard_cons_of_within reported.level rfl]
      exact .notScanned (reported.stamp session)
  | notParsed counted reported =>
      rw [heard_cons_of_within counted.level rfl, heard_cons_of_within reported.level rfl]
      exact .notParsed (counted.stamp session) (reported.stamp session)
  | scanBroken cause => exact .scanBroken cause
  | parseBroken cause counted =>
      rw [heard_cons_of_within counted.level rfl]
      exact .parseBroken cause (counted.stamp session)

open Session in
theorem heard_error (log : CompileLog name duration count left verdict told) (session : Session) :
    ErrorLog verdict (session.heard .error told) := by
  cases log with
  | complete empty counted consumed compiled =>
      rw [heard_cons_of_beyond counted.level rfl, heard_cons_of_beyond consumed.level rfl,
        heard_cons_of_beyond (Event.Tells.level compiled) rfl]
      rfl
  | incomplete front counted consumed warned compiled =>
      rw [heard_cons_of_beyond counted.level rfl, heard_cons_of_beyond consumed.level rfl,
        heard_cons_of_beyond (Event.Tells.level warned) rfl,
        heard_cons_of_beyond (Event.Tells.level compiled) rfl]
      rfl
  | notScanned reported =>
      rw [heard_cons_of_within reported.level rfl]
      exact ⟨_, rfl, reported.stamp session⟩
  | notParsed counted reported =>
      rw [heard_cons_of_beyond counted.level rfl, heard_cons_of_within reported.level rfl]
      exact ⟨_, rfl, reported.stamp session⟩
  | scanBroken cause => rfl
  | parseBroken cause counted =>
      rw [heard_cons_of_beyond counted.level rfl]
      rfl

end CompileLog

/-- The outcome of a compilation does not depend on who listens, and its log tells the outcome to
whoever listens in a scope with a fresh memory log. Up to messages, the log has one entry for each
stage that is done, with the numbers of tokens that there are, were consumed and are left; a warning
with the first token if any are left; and one entry for an error, the last and the only one of its
level, with the code and the span of the error. Up to errors, the log has this entry only. -/
theorem compile_log_tells_outcome (session : Session) :
    let run : Session → Verdict SelectorError (grammar.Ast production) × Session :=
      compileInto grammar scanning parsing duration production text
    let verdict := (compileSelector grammar scanning parsing duration production text).1
    let tokens := (scanSelector scanning text).tokens
    let left := (grammar.parse parsing production (.ofArray tokens)).stream
    (∀ log, session.resultUnder run log = verdict) ∧
      CompileLog (grammar.name production) duration tokens.size left verdict
        (session.captured .info run) ∧
      ErrorLog verdict (session.captured .error run) := by
  intro run verdict tokens left
  have delivers : Session.Delivers run _ :=
    delivers_compileInto grammar scanning parsing duration production text
  obtain ⟨told, log, only⟩ :=
    compileSelector_log grammar scanning parsing duration production text
  have room : ∀ level, (session.heard level told).length ≤ logBufferSize := by
    intro level
    rw [Session.heard, List.length_map]
    have few := log.length_le
    have fewer := List.length_filter_le (fun event : Event => event.level.within level) told
    exact Nat.le_trans (Nat.le_trans fewer few) (by decide)
  have captured : ∀ level, level ≠ .debug →
      session.captured level run = session.heard level told := by
    intro level unwanted
    rw [session.captured_eq delivers, only session level unwanted, latest_of_length_le (room level)]
  rw [captured .info (by decide), captured .error (by decide)]
  refine ⟨session.resultUnder_eq delivers, ?_, ?_⟩
  · exact log.heard_info session
  · exact log.heard_error session

end CssSelector
