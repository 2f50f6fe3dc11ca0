import CssSelector.Json.Reader
import CssSelector.Json.Shape
import CssSelector.Settings.Preferences
import CssSelector.Toml.Reader

/-!
# Settings

All preferences together. What a document leaves open comes from the environment, and what the
environment leaves open has a fixed default.
-/

set_option autoImplicit false

namespace CssSelector

/-- The variables of the environment; the first of a name counts. -/
abbrev Environment := List (String × String)

namespace Environment

def get? (environment : Environment) (name : String) : Option String :=
  (environment.find? fun entry => entry.1 = name).map (·.2)

/-- A variable that is `true` or `false`; any other value counts as none. -/
def flag (environment : Environment) (name : String) (default : Bool) : Bool :=
  match environment.get? name with
  | some "true" => true
  | some "false" => false
  | _ => default

end Environment

/-- The level that a variable names: by its name in any case, by a short name, or by number. Only
ASCII letters have a case here; no other letter has one of the letters of these names as its lower
case. -/
def Level.parse? (text : String) : Option Level :=
  match String.ofList (text.toList.map Char.toLower) with
  | "error" | "0" => some .error
  | "warning" | "warn" | "1" => some .warning
  | "info" | "2" => some .info
  | "debug" | "3" => some .debug
  | _ => none

def ScanPreferences.ofEnvironment (environment : Environment) : ScanPreferences where
  collectMetrics := environment.flag "SELECTOR_SCANNER_COLLECT_METRICS" true
  logTransitions := environment.flag "SELECTOR_SCANNER_LOG_TRANSITIONS" false
  includeRemainder := environment.flag "SELECTOR_SCANNER_INCLUDE_REMAINDER" true

def ParsePreferences.ofEnvironment (environment : Environment) : ParsePreferences where
  logDelegation := environment.flag "SELECTOR_PARSER_LOG_DELEGATION" false
  logMismatches := environment.flag "SELECTOR_PARSER_LOG_MISMATCHES" true

def LogPreferences.ofEnvironment (environment : Environment) : LogPreferences where
  structured := environment.flag "SELECTOR_LOGGING_USE_STRUCTURED" false
  console := environment.flag "SELECTOR_LOGGING_ENABLE_CONSOLE" false
  minLevel := ((environment.get? "SELECTOR_LOGGING_MIN_LEVEL").bind Level.parse?).getD .warning

structure Settings where
  scanner : ScanPreferences := {}
  parser : ParsePreferences := {}
  logging : LogPreferences := {}
  deriving DecidableEq, Repr

inductive SettingsError where
  | missingFile (path : String)
  /-- The document is not well-formed, or it does not describe settings. -/
  | invalid
  deriving DecidableEq, Repr

def SettingsError.missingFileMessage (path : String) : String :=
  s!"Failed to read configuration file '{path}': No such file or directory (os error 2)"

def orDefault {α : Type} (read? : Json → Option α) (default : α) : Option Json → Option α
  | some value => read? value
  | none => some default

def Level.ofData? (rules : RecordRules) (value : Json) : Option Level := do
  Level.ofName? (← value.alternative? rules)

def ScanPreferences.ofData? (rules : RecordRules) (default : ScanPreferences) (value : Json) :
    Option ScanPreferences := do
  match ← value.fields? rules
      ["collect_metrics", "log_context_transitions", "include_remainder_in_errors"] with
  | [metrics, transitions, remainder] =>
      return ⟨← orDefault Json.bool? default.collectMetrics metrics,
        ← orDefault Json.bool? default.logTransitions transitions,
        ← orDefault Json.bool? default.includeRemainder remainder⟩
  | _ => none

def ScanPreferences.toJson (preferences : ScanPreferences) : Json :=
  .object [("collect_metrics", .bool preferences.collectMetrics),
    ("log_context_transitions", .bool preferences.logTransitions),
    ("include_remainder_in_errors", .bool preferences.includeRemainder)]

def ParsePreferences.ofData? (rules : RecordRules) (default : ParsePreferences) (value : Json) :
    Option ParsePreferences := do
  match ← value.fields? rules ["log_delegation", "log_mismatches"] with
  | [delegation, mismatches] =>
      return ⟨← orDefault Json.bool? default.logDelegation delegation,
        ← orDefault Json.bool? default.logMismatches mismatches⟩
  | _ => none

def ParsePreferences.toJson (preferences : ParsePreferences) : Json :=
  .object [("log_delegation", .bool preferences.logDelegation),
    ("log_mismatches", .bool preferences.logMismatches)]

def LogPreferences.ofData? (rules : RecordRules) (default : LogPreferences) (value : Json) :
    Option LogPreferences := do
  match ← value.fields? rules
      ["use_structured_logging", "enable_console_logging", "min_log_level"] with
  | [structured, console, minLevel] =>
      return ⟨← orDefault Json.bool? default.structured structured,
        ← orDefault Json.bool? default.console console,
        ← orDefault (Level.ofData? rules) default.minLevel minLevel⟩
  | _ => none

def LogPreferences.toJson (preferences : LogPreferences) : Json :=
  .object [("use_structured_logging", .bool preferences.structured),
    ("enable_console_logging", .bool preferences.console),
    ("min_log_level", .text preferences.minLevel.name)]

namespace Settings

def ofEnvironment (environment : Environment) : Settings where
  scanner := .ofEnvironment environment
  parser := .ofEnvironment environment
  logging := .ofEnvironment environment

/-- Reads settings; what is left open is taken from other settings. -/
def ofData? (rules : RecordRules) (default : Settings) (value : Json) : Option Settings := do
  match ← value.fields? rules ["scanner", "parser", "logging"] with
  | [scanner, parser, logging] =>
      return ⟨← orDefault (ScanPreferences.ofData? rules default.scanner) default.scanner scanner,
        ← orDefault (ParsePreferences.ofData? rules default.parser) default.parser parser,
        ← orDefault (LogPreferences.ofData? rules default.logging) default.logging logging⟩
  | _ => none

def toJson (settings : Settings) : Json :=
  .object [("scanner", settings.scanner.toJson), ("parser", settings.parser.toJson),
    ("logging", settings.logging.toJson)]

def ofJson? (environment : Environment) (value : Json) : Option Settings :=
  ofData? Json.records (ofEnvironment environment) value

def ofToml (environment : Environment) (document : String) : Except SettingsError Settings :=
  match (Toml.read? document).bind (ofData? Toml.records (ofEnvironment environment)) with
  | some settings => .ok settings
  | none => .error .invalid

def load (environment : Environment) (path : String) (content : Option String) :
    Except SettingsError Settings :=
  match content with
  | some document => ofToml environment document
  | none => .error (.missingFile path)

end Settings

end CssSelector
