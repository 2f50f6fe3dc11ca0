import CssSelector.Fault
import CssSelector.Log.Session

/-!
# Programs of log operations

A program hands over events, runs other programs in scopes, and may give up. Giving up ends every
scope up to the innermost attempt; the program around that attempt goes on. The services of all
scopes are there before a program runs. More than one scope may be of the same service, also of the
shared one.
-/

set_option autoImplicit false

namespace CssSelector

inductive LogStep where
  | scope (service : Nat) (steps : List LogStep)
  /-- Runs a program, and goes on also if it gave up. -/
  | attempt (steps : List LogStep)
  | debugEnabled
  | abandon
  | dispatch (event : Event)
  /-- Hands over a trace message, if such messages are wanted. -/
  | trace (event : Event)
  | report (code : Code) (message : String)

inductive LogReply where
  | nothing
  | flag (value : Bool)
  /-- The results in a scope, up to where it was left. -/
  | scope (replies : List LogReply)
  /-- The results of a program, up to where it gave up, if it did. -/
  | attempt (replies : List LogReply) (cause : Option Fault)

namespace LogStep

mutual

/-- Runs an operation. It has a result also if it gives up. -/
def run : LogStep → Session → (LogReply × Option Fault) × Session
  | scope service steps, session =>
      match session.within service (runAll steps) with
      | ((replies, cause), session) => ((.scope replies, cause), session)
  | attempt steps, session =>
      match runAll steps session with
      | ((replies, cause), session) => ((.attempt replies cause, none), session)
  | debugEnabled, session => ((.flag session.debugEnabled, none), session)
  | abandon, session => ((.nothing, some .abandoned), session)
  | dispatch event, session => ((.nothing, none), session.dispatch event)
  | trace event, session => ((.nothing, none), session.trace event)
  | report code message, session => ((.nothing, none), session.reportError code message)

/-- Runs operations one after the other, until one gives up. -/
def runAll : List LogStep → Session → (List LogReply × Option Fault) × Session
  | [], session => (([], none), session)
  | step :: later, session =>
      match step.run session with
      | ((reply, some cause), session) => (([reply], some cause), session)
      | ((reply, none), session) =>
          match runAll later session with
          | ((replies, cause), session) => ((reply :: replies, cause), session)

end

end LogStep

end CssSelector
