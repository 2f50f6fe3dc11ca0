import CssSelector.Context.Basic
import CssSelector.Scan.Error
import CssSelector.Scan.Metrics
import CssSelector.Settings.Preferences
import CssSelector.Text.Quoted
import CssSelector.Verdict

/-!
# Scanning

A scan runs a context over a source. The context is asked for the token at the cursor; the token
may close the context, or open another one, which then runs from behind the token until it is
closed or the source ends. The contexts of a family may answer anything: what they answer is
checked, and the number of tokens and of open contexts is bounded. A fault of a context ends the
scan where it is.

The recursion follows the contexts that may still be opened and, in each of them, the bytes that
are left; every token that is accepted takes at least one byte.
-/

set_option autoImplicit false

namespace CssSelector

/-- How far a scan has come, with the log that it writes to. -/
structure Scanning (σ : Type) where
  /-- The cursor. -/
  offset : Nat
  tokens : Array Token := #[]
  metrics : ScanMetrics := {}
  events : σ

abbrev Progress := Scanning (Array Event)

namespace Scanning

variable {σ : Type}

def accept (preferences : ScanPreferences) (token : Token) (progress : Scanning σ) :
    Scanning σ :=
  { progress with
    offset := progress.offset + token.length
    tokens := progress.tokens.push token
    metrics :=
      if preferences.collectMetrics then progress.metrics.recordToken token
      else progress.metrics }

variable [EventLog σ]

def logTransition (preferences : ScanPreferences) (message name : String) (depth : Nat)
    (progress : Scanning σ) : Scanning σ :=
  if preferences.logTransitions then
    let event := (Event.debug message).withDetails
      [("status", name), ("depth", toString depth), ("offset", toString progress.offset)]
    { progress with events := EventLog.note progress.events event }
  else progress

def enter (preferences : ScanPreferences) (name : String) (depth : Nat) (progress : Scanning σ) :
    Scanning σ :=
  logTransition preferences "Entering lexical context" name depth
    (if preferences.collectMetrics then
      { progress with metrics := progress.metrics.recordContext depth }
    else progress)

def leave (preferences : ScanPreferences) (name : String) (depth : Nat) (progress : Scanning σ) :
    Scanning σ :=
  logTransition preferences "Leaving lexical context" name depth progress

end Scanning

abbrev ScanStep := Progress × Verdict ScanError Unit

namespace ContextFamily

variable {κ σ : Type} (family : ContextFamily κ) (preferences : ScanPreferences) (source : Source)

/-- What is wrong with a token that a context produced at an offset. -/
def defect? (context : κ) (offset : Nat) (token : Token) : Option ScanError :=
  if token.kind.isWildcard then some (.wildcardToken offset (family.name context))
  else if token.offset ≠ offset then
    some (.offsetMismatch offset token.offset (family.name context))
  else if token.length = 0 then some (.zeroLengthToken offset token.kind (family.name context))
  else none

def next (context : κ) (progress : Scanning σ) : Verdict ScanError Token :=
  match family.token? context source progress.offset with
  | .error cause => .fault cause
  | .ok none =>
      let remainder :=
        if preferences.includeRemainder then source.textAfter progress.offset else ""
      .failed (.stuck progress.offset remainder (family.name context))
  | .ok (some token) =>
      match family.defect? context progress.offset token with
      | some error => .failed error
      | none =>
          if maxTokenCount < progress.tokens.size + 1 then
            .failed (.tooManyTokens (progress.tokens.size + 1))
          else .done token

/-- Runs an open context until it is closed or the source ends. The fuel is the number of bytes
that are left. -/
def runContext (nested : κ → Scanning σ → Scanning σ × Verdict ScanError Unit) (context : κ) :
    Nat → Scanning σ → Scanning σ × Verdict ScanError Unit
  | 0, progress => (progress, .done ())
  | fuel + 1, progress =>
      if progress.offset < source.length then
        match family.next preferences source context progress with
        | .failed error => (progress, .failed error)
        | .fault cause => (progress, .fault cause)
        | .done token =>
            let progress := progress.accept preferences token
            if family.closes context token then (progress, .done ())
            else
              match family.opens? context token with
              | none => runContext nested context fuel progress
              | some inner =>
                  match nested inner progress with
                  | (progress, .done ()) => runContext nested context fuel progress
                  | stopped => stopped
      else (progress, .done ())

/-- Opens a context, runs it and closes it. The levels are the contexts that may still be opened;
what stops a scan leaves all of them as they are. -/
def scanContext [EventLog σ] : Nat → κ → Scanning σ → Scanning σ × Verdict ScanError Unit
  | 0, _, progress => (progress, .failed (.contextTooDeep (maxContextDepth + 1) progress.offset))
  | levels + 1, context, progress =>
      let depth := maxContextDepth - levels
      let entered := progress.enter preferences (family.name context) depth
      match family.runContext preferences source (scanContext levels) context
          (source.length - entered.offset) entered with
      | (progress, .done ()) => (progress.leave preferences (family.name context) depth, .done ())
      | stopped => stopped

end ContextFamily

/-- What a scan comes to: the tokens it produced, also if it was stopped; the final cursor or what
stopped it; statistics; and the log behind it. -/
structure ScanResult (σ : Type) where
  tokens : Array Token
  verdict : Verdict ScanError Nat
  metrics : ScanMetrics
  events : σ

abbrev ScanOutcome := ScanResult (Array Event)

/-- The log entry of an error. Its span is left out if it has none. -/
def ScanError.event (error : ScanError) (name value : String) : Event :=
  ((Event.error error.code error.message).withSpan (error.span.toOption.join)).withDetail name value

namespace ContextFamily

variable {κ σ : Type} (family : ContextFamily κ)

/-- Scans a source from an offset on, starting in a context. Each event is written to the log when
it happens. -/
def scanInto [EventLog σ] (preferences : ScanPreferences) (root : κ) (source : Source)
    (offset : Nat) (log : σ) : ScanResult σ :=
  if maxSourceLength < source.length then
    let error := ScanError.sourceTooLong source.length
    ⟨#[], .failed error, {}, EventLog.note log (error.event "length" (toString source.length))⟩
  else
    let name := family.name root
    let started := (Event.debug "Starting scan").withDetails
      [("root_status", name), ("source_length", toString source.length),
       ("offset", toString offset)]
    match family.scanContext preferences source maxContextDepth root
        { offset := offset, events := EventLog.note log started } with
    | (progress, .done ()) =>
        let finished := (Event.success .tokenized "Selector tokenized").withDetails
          [("tokens", toString progress.tokens.size), ("end_offset", toString progress.offset)]
        ⟨progress.tokens, .done progress.offset, progress.metrics,
          EventLog.note progress.events finished⟩
    | (progress, .failed error) =>
        ⟨progress.tokens, .failed error, progress.metrics,
          EventLog.note progress.events (error.event "root_status" name)⟩
    | (progress, .fault cause) =>
        ⟨progress.tokens, .fault cause, progress.metrics, progress.events⟩

def scanFrom (preferences : ScanPreferences) (root : κ) (source : Source) (offset : Nat) :
    ScanOutcome :=
  family.scanInto preferences root source offset #[]

/-- Scans a source from an offset on and puts the tokens at the back of a stream, also those of a
scan that was stopped. -/
def scanOnto (preferences : ScanPreferences) (root : κ) (source : Source) (offset : Nat)
    (stream : TokenStream) : TokenStream × ScanOutcome :=
  let outcome := family.scanFrom preferences root source offset
  (stream.append outcome.tokens, outcome)

def scan (preferences : ScanPreferences) (root : κ) (source : Source) : ScanOutcome :=
  family.scanFrom preferences root source 0

end ContextFamily

def describeScanner (name : String) (metrics : ScanMetrics) : String :=
  "Scanner \x7b status: " ++ quoted name ++ ", metrics: " ++ metrics.describe ++ " \x7d"

end CssSelector
