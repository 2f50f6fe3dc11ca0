import CssSelector.Json.Basic
import CssSelector.Log.Code
import CssSelector.Position

/-!
# Log events

An event has a level, a code, a message, and possibly a span and named values. Messages are cut
off when the event is made. The named values are sorted by name, and a later value replaces an
earlier one of the same name.
-/

set_option autoImplicit false

namespace CssSelector

/-- The levels, the most urgent first. -/
inductive Level where
  | error
  | warning
  | info
  | debug
  deriving DecidableEq, Repr

namespace Level

def all : List Level := [error, warning, info, debug]

def rank : Level → Nat
  | error => 0
  | warning => 1
  | info => 2
  | debug => 3

/-- The name of a level in log lines. -/
def label : Level → String
  | error => "ERROR"
  | warning => "WARN"
  | info => "INFO"
  | debug => "DEBUG"

/-- The name of a level in settings. -/
def name : Level → String
  | error => "error"
  | warning => "warning"
  | info => "info"
  | debug => "debug"

def ofName? (name : String) : Option Level := all.find? (·.name = name)

/-- Whether a level is at least as urgent as a bound. -/
def within (level bound : Level) : Bool := level.rank ≤ bound.rank

end Level

def CodeEntry.toJson (entry : CodeEntry) : Json :=
  .object [("code", .text entry.code), ("category", .text entry.category),
    ("severity", .text entry.severity.name), ("recoverable", .bool entry.recoverable),
    ("requires_halt", .bool entry.requiresHalt), ("description", .text entry.description),
    ("action", .text entry.action)]

/-- The longest message of an event, in characters. -/
def maxMessageLength : Nat := 4096

/-- The message itself, or its beginning followed by three dots. -/
def cutMessage (message : String) : String :=
  let chars := message.toList
  if (chars.drop maxMessageLength).isEmpty then message
  else String.ofList (chars.take maxMessageLength) ++ "..."

/-- The named values of an event, sorted by name. -/
abbrev Details := List (String × String)

namespace Details

/-- Adds a named value at its place; it replaces the value that had the name. -/
def insert (name value : String) : Details → Details
  | [] => [(name, value)]
  | (other, present) :: rest =>
      if name = other then (name, value) :: rest
      else if name < other then (name, value) :: (other, present) :: rest
      else (other, present) :: insert name value rest

def render (details : Details) : String :=
  if details.isEmpty then ""
  else " (" ++ ", ".intercalate (details.map fun (name, value) => name ++ "=" ++ value) ++ ")"

end Details

/-- An event. The time is in seconds since the epoch. -/
structure Event where
  level : Level
  code : Code
  message : String
  span : Option Span := none
  details : Details := []
  seconds : Int := 0
  deriving DecidableEq, Repr

namespace Event

def make (level : Level) (code : Code) (message : String) : Event :=
  ⟨level, code, cutMessage message, none, [], 0⟩

def error (code : Code) (message : String) : Event := make .error code message

def warning (message : String) : Event := make .warning .plainWarning message

def info (message : String) : Event := make .info .plainInfo message

def success (code : Code) (message : String) : Event := make .info code message

def debug (message : String) : Event := make .debug .plainDebug message

def withSpan (event : Event) (span : Option Span) : Event :=
  match span with
  | some span => { event with span := some span }
  | none => event

def withDetail (event : Event) (name value : String) : Event :=
  { event with details := event.details.insert name value }

def withDetails (event : Event) (details : List (String × String)) : Event :=
  details.foldl (fun event detail => event.withDetail detail.1 detail.2) event

def render (event : Event) : String :=
  let place := match event.span with
    | some span => " at " ++ span.render
    | none => ""
  s!"[{event.level.label}] {event.code.text} - {event.message}{place}{event.details.render}"

def isError (event : Event) : Bool := event.level = .error

def renderDetailed (event : Event) : String :=
  let code := event.code
  let general := s!"{event.render}\n  Category: {code.category}\n  Severity: {code.severity.name}"
  let handling :=
    if event.isError then
      s!"\n  Recoverable: {code.recoverable}\n  Requires halt: {code.requiresHalt}"
    else ""
  let description :=
    if code.description = Code.unknownDescription then ""
    else s!"\n  Description: {code.description}"
  let action :=
    if code.action = Code.unknownAction then ""
    else s!"\n  Recommended action: {code.action}"
  general ++ handling ++ description ++ action

/-- The event as a JSON record. Its fields are sorted by name, and so are those of its parts.
Times before the epoch are given as zero. -/
def toJson (event : Event) : Json :=
  let code := event.code
  let details :=
    if event.details.isEmpty then []
    else [("context", Json.object (event.details.map fun (name, value) => (name, .text value)))]
  let handling :=
    if event.isError then
      [("error_metadata", Json.object
        [("description", .text code.description), ("recommended_action", .text code.action),
         ("recoverable", .bool code.recoverable), ("requires_halt", .bool code.requiresHalt)])]
    else []
  let place := match event.span with
    | some span => [("span", Json.object
        [("end_offset", .natural span.stop.offset), ("start_offset", .natural span.start.offset)])]
    | none => []
  .object ([("category", .text code.category), ("code", .text code.text)] ++ details ++ handling
    ++ [("level", .text event.level.label), ("message", .text event.message),
        ("severity", .text code.severity.name)]
    ++ place ++ [("timestamp", .natural event.seconds.toNat)])

end Event

/-- A log takes events one at a time, when they happen. -/
class EventLog (σ : Type) where
  note : σ → Event → σ

instance : EventLog (Array Event) where
  note := Array.push

end CssSelector
