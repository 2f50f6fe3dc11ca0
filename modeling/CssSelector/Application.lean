import CssSelector.Compile
import CssSelector.Log.Session
import CssSelector.Settings.Basic

/-!
# A running application

An application has an environment, possibly preferences that were installed, and a session with
its log. Preferences and the shared log are installed once.
-/

set_option autoImplicit false

namespace CssSelector

def version : String := "0.1.0"

def profile : String := "development"

def profileDirectory : String := "config"

def limitsOrigin : String := s!"Generated from {profileDirectory}/{profile}.toml"

/-! ## Self-checks -/

def validateLogLimits : Except String Unit :=
  if 100000 < logBufferSize then .error s!"Log buffer size too large: {logBufferSize}"
  else if logBufferSize < 100 then .error s!"Log buffer size too small: {logBufferSize}"
  else if logBufferSize < maxErrorCollection then
    .error "Max error collection exceeds total buffer size"
  else if maxMessageLength = 0 then .error "Max log message length must be positive"
  else .ok ()

def unregistered? (codes : List Code) : Option Code := codes.find? (·.registered?.isNone)

section

variable {σ : Type} [EventLog σ]

def validateScanning (log : σ) : Except String Unit × σ :=
  match unregistered? [.stuck, .zeroLengthToken, .wildcardToken, .offsetMismatch, .sourceTooLong,
      .tooManyTokens, .contextTooDeep] with
  | some code => (.error s!"Scanner error code {code.text} not found in metadata registry", log)
  | none =>
      if maxTokenCount = 0 then (.error "MAX_TOKEN_COUNT cannot be zero", log)
      else if maxContextDepth < 2 then
        (.error "MAX_CONTEXT_DEPTH must allow at least one nested context", log)
      else if maxSourceLength = 0 then (.error "MAX_SOURCE_LENGTH cannot be zero", log)
      else
        (.ok (), EventLog.note log ((Event.debug "Scanner limits validated").withDetails
          [("max_source_length", toString maxSourceLength),
           ("max_token_count", toString maxTokenCount),
           ("max_context_depth", toString maxContextDepth)]))

def validateParsing : Except String Unit :=
  match unregistered? [.unexpectedEnd, .tokenMismatch, .delegationTooDeep, .grammarViolation] with
  | some code => .error s!"Parser error code {code.text} not found in metadata registry"
  | none =>
      if maxDelegationDepth = 0 then .error "MAX_DELEGATION_DEPTH cannot be zero" else .ok ()

def validateAll (log : σ) : Except String Unit × σ :=
  let started := EventLog.note log (Event.debug "Validating selector pipeline configuration")
  match validateLogLimits with
  | .error problem => (.error problem, started)
  | .ok () =>
      match validateScanning started with
      | (.error problem, scanned) => (.error problem, scanned)
      | (.ok (), scanned) =>
          match validateParsing with
          | .error problem => (.error problem, scanned)
          | .ok () =>
              let finished :=
                (Event.success .initialized "Selector pipeline validation succeeded").withDetail
                  "stages_validated" "2"
              (.ok (), EventLog.note scanned finished)

end

/-! ## Descriptions -/

def capabilities (sharedLog : Bool) : String :=
  let contexts := ", ".intercalate (SelectorContext.all.map (·.name))
  "\n".intercalate
    [s!"Selector Compiler Front End v{version}:", s!"- Lexical Contexts: {contexts}",
     s!"- Max Source Length: {maxSourceLength} bytes", s!"- Max Token Count: {maxTokenCount}",
     s!"- Max Context Depth: {maxContextDepth}", s!"- Max Delegation Depth: {maxDelegationDepth}",
     s!"- Global Logging: {sharedLog}"]

/-- Preferences for work on the program: everything is written, as text. -/
def LogPreferences.development : LogPreferences := ⟨false, true, .debug⟩

/-- Preferences for use inside a service: nothing is written. -/
def LogPreferences.production : LogPreferences := ⟨true, false, .warning⟩

/-! ## Applications -/

structure Application where
  environment : Environment := []
  installed : Option LogPreferences := none
  session : Session := {}

namespace Application

def logPreferences (application : Application) : LogPreferences :=
  application.installed.getD (.ofEnvironment application.environment)

def hasSharedLog (application : Application) : Bool := application.session.shared.isSome

def mapSession (application : Application) (change : Session → Session) : Application :=
  { application with session := change application.session }

def logging {α : Type} (run : Session → α × Session) (application : Application) :
    α × Application :=
  match run application.session with
  | (result, session) => (result, { application with session := session })

def installPreferences (preferences : LogPreferences) (application : Application) :
    Except String Unit × Application :=
  match application.installed with
  | some _ => (.error "Runtime preferences already initialized", application)
  | none => (.ok (), { application with installed := some preferences })

def installService (service : Service) (application : Application) :
    Except String Unit × Application :=
  match application.session.shared with
  | some _ => (.error "Global logger already initialized", application)
  | none =>
      (.ok (), application.mapSession fun session =>
        { session.enlist service with shared := some session.nextNumber })

/-- Installs the shared log that the preferences ask for. That it is there is the first event that
it gets, also if a scope is open. -/
def startLog (application : Application) : Except String Unit × Application :=
  match validateLogLimits with
  | .error problem => (.error s!"Configuration validation failed: {problem}", application)
  | .ok () =>
      let preferences := application.logPreferences
      let service :=
        Service.ofPreferences preferences.console preferences.structured preferences.minLevel
      match application.installService service with
      | (.error problem, application) => (.error problem, application)
      | (.ok (), application) =>
          match [Code.stuck, .tokenMismatch, .unexpectedEnd].find?
              (·.description = Code.unknownDescription) with
          | some code => (.error s!"Missing metadata for error code: {code.text}", application)
          | none =>
              (.ok (), application.mapSession fun session => session.dispatchShared
                { Event.success .initialized "Global logging system initialized" with
                  seconds := session.now })

def diagnostics (application : Application) : String :=
  let preferences := application.logPreferences
  "\n".intercalate
    ["=== Logging System Diagnostics ===", s!"Initialized: {application.hasSharedLog}", "",
     "Logging Configuration:", "=== Compile-time Limits ===",
     s!"- Log buffer size: {logBufferSize}", s!"- Max message length: {maxMessageLength}",
     s!"- Max error collection: {maxErrorCollection}", "=== Runtime Preferences ===",
     s!"- Min log level: {preferences.minLevel.label}",
     s!"- Structured logging: {preferences.structured}",
     s!"- Console logging: {preferences.console}"]

def validate (application : Application) : Except String Unit × Application :=
  application.logging validateAll

def writeTo (sink : Sink) (event : Event) (application : Application) : Application :=
  application.mapSession fun session =>
    { session with transcript := (sink.take event session.transcript).2 }

end Application

end CssSelector
