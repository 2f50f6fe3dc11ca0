import CssSelector.Log.Memory

/-!
# Where events go

A service passes the events up to a level on to a sink. A session knows its services by number. One
of them may be shared, and one may be active: an event goes to the active service, to the shared one
if none is active, and nowhere if there is none either. Running something in a scope puts another
service into the place of the active one, and puts the one that was there back at the end.
-/

set_option autoImplicit false

namespace CssSelector

structure Transcript where
  out : String := ""
  err : String := ""
  deriving DecidableEq, Repr

namespace Transcript

def line (transcript : Transcript) (text : String) : Transcript :=
  { transcript with out := transcript.out ++ text ++ "\n" }

def errorLine (transcript : Transcript) (text : String) : Transcript :=
  { transcript with err := transcript.err ++ text ++ "\n" }

end Transcript

inductive Sink where
  | discard
  /-- Events up to a level are written as lines of text. -/
  | console (minLevel : Level)
  /-- Events up to a level are written as lines of JSON. -/
  | structured (minLevel : Level)
  | memory (log : MemoryLog)
  deriving Repr

namespace Sink

/-- Writes the line of an event: errors go to the error stream. -/
def writeLine (minLevel : Level) (event : Event) (line : String) (transcript : Transcript) :
    Transcript :=
  if event.level.within minLevel then
    if event.isError then transcript.errorLine line else transcript.line line
  else transcript

def take (event : Event) (transcript : Transcript) : Sink → Sink × Transcript
  | discard => (discard, transcript)
  | console minLevel =>
      (console minLevel, writeLine minLevel event event.render transcript)
  | structured minLevel =>
      (structured minLevel, writeLine minLevel event event.toJson.compact transcript)
  | memory log => (memory (log.record event), transcript)

end Sink

/-- A sink behind a level. -/
structure Service where
  minLevel : Level
  sink : Sink
  deriving Repr

namespace Service

def inMemory (minLevel : Level) : Service := ⟨minLevel, .memory {}⟩

def ofPreferences (console structured : Bool) (minLevel : Level) : Service where
  minLevel := minLevel
  sink :=
    if !console then .discard
    else if structured then .structured minLevel
    else .console minLevel

def accepts (service : Service) (level : Level) : Bool := level.within service.minLevel

/-- Passes an event on, whatever its level. -/
def take (service : Service) (event : Event) (transcript : Transcript) : Service × Transcript :=
  match service.sink.take event transcript with
  | (sink, transcript) => (⟨service.minLevel, sink⟩, transcript)

/-- Passes an event on, unless its level is beyond that of the service. -/
def log (service : Service) (event : Event) (transcript : Transcript) : Service × Transcript :=
  if service.accepts event.level then service.take event transcript else (service, transcript)

def kept (service : Service) : MemoryLog :=
  match service.sink with
  | .memory log => log
  | _ => {}

end Service

/-- A running program, as far as its log is concerned. -/
structure Session where
  services : Array Service := #[]
  /-- The service of the scope that is being run. -/
  active : Option Nat := none
  /-- The service for events outside every scope. -/
  shared : Option Nat := none
  transcript : Transcript := {}
  /-- The time of the session's own events. -/
  now : Int := 0

namespace Session

def service? (session : Session) (number : Nat) : Option Service := session.services[number]?

def nextNumber (session : Session) : Nat := session.services.size

def enlist (session : Session) (service : Service) : Session :=
  { session with services := session.services.push service }

def activate (session : Session) (active : Option Nat) : Session :=
  { session with active := active }

def update (session : Session) (number : Nat)
    (change : Service → Transcript → Service × Transcript) : Session :=
  match session.service? number with
  | none => session
  | some service =>
      match change service session.transcript with
      | (service, transcript) =>
          { session with
            services := session.services.setIfInBounds number service, transcript := transcript }

section

variable (session : Session) (number : Nat) (change : Service → Transcript → Service × Transcript)

theorem active_update : (session.update number change).active = session.active := by
  unfold update
  split <;> rfl

theorem shared_update : (session.update number change).shared = session.shared := by
  unfold update
  split <;> rfl

theorem update_activate (active : Option Nat) :
    (session.activate active).update number change =
      (session.update number change).activate active := by
  simp only [update, activate, service?]
  split <;> rfl

theorem service?_update (other : Nat) :
    (session.update number change).service? other =
      if number = other then
        (session.service? other).map fun service => (change service session.transcript).1
      else session.service? other := by
  unfold update
  split
  · next missing =>
      split
      · next same => rw [← same, missing, Option.map_none]
      · rfl
  · next service found =>
      have present : number < session.services.size :=
        (Array.getElem?_eq_some_iff.mp found).1
      simp only [service?] at found ⊢
      rw [Array.getElem?_setIfInBounds, if_pos present]
      split
      · next same => rw [← same, found, Option.map_some]
      · rfl

theorem update_enlist (service : Service) :
    (session.enlist service).update session.nextNumber change =
      { session with transcript := (change service session.transcript).2 }.enlist
        (change service session.transcript).1 := by
  have found : (session.enlist service).service? session.nextNumber = some service :=
    Array.getElem?_push_size
  rw [update, found]
  simp only [enlist, nextNumber, Array.setIfInBounds_def, Array.size_push, Nat.lt_succ_self,
    dif_pos, Array.set_push, Nat.lt_irrefl, dif_neg, not_false_eq_true]

end

def deliver (session : Session) (number : Nat) (event : Event) : Session :=
  session.update number fun service => service.log event

def dispatchShared (session : Session) (event : Event) : Session :=
  match session.shared with
  | none => session
  | some number => session.deliver number event

/-- Hands an event to the active service, or else to the shared one. -/
def dispatch (session : Session) (event : Event) : Session :=
  match session.active with
  | some number => session.deliver number event
  | none => session.dispatchShared event

def minLevel? (session : Session) (number : Nat) : Option Level :=
  (session.service? number).map (·.minLevel)

/-- Whether trace messages are wanted: by the active service, or else by the shared one. -/
def debugEnabled (session : Session) : Bool :=
  let minLevel := match session.active with
    | some number => session.minLevel? number
    | none => session.shared.bind session.minLevel?
  minLevel = some .debug

def trace (session : Session) (event : Event) : Session :=
  if session.debugEnabled then session.dispatch event else session

def note (session : Session) (event : Event) : Session :=
  let event := { event with seconds := session.now }
  if event.level = .debug then session.trace event else session.dispatch event

instance : EventLog Session where
  note := note

def printError (session : Session) (code : Code) (message : String) : Session :=
  { session with
    transcript := session.transcript.errorLine s!"[ERROR] FALLBACK: [{code.text}] {message}" }

/-- Hands over an error; without any service it goes to the error stream. -/
def reportError (session : Session) (code : Code) (message : String) : Session :=
  if session.active.isSome || session.shared.isSome then session.dispatch (.error code message)
  else session.printError code message

/-- Runs something in a scope of a service. However that ends, the service that was active before is
active again. -/
def within {α : Type} (number : Nat) (body : Session → α × Session) (session : Session) :
    α × Session :=
  let outer := session.active
  match body (session.activate (some number)) with
  | (result, session) => (result, session.activate outer)

/-- Runs something in a scope of a service of its own, which is returned with what it kept. -/
def inScope {α : Type} (service : Service) (body : Session → α × Session) (session : Session) :
    (α × Service) × Session :=
  let number := session.nextNumber
  match (session.enlist service).within number body with
  | (result, session) => ((result, (session.service? number).getD service), session)

end Session

end CssSelector
