import CssSelector.Log.Session

/-!
# Programs over a memory log

A program hands events to a service that keeps them, and now and then has everything forgotten. What
is to be logged is given as a draft: the event is made, and its message cut off, when it is logged.
-/

set_option autoImplicit false

namespace CssSelector

/-- What an event is made of. -/
structure Draft where
  level : Level
  code : Code
  message : String
  span : Option Span := none
  details : List (String × String) := []
  seconds : Int := 0
  deriving DecidableEq, Repr

def Draft.event (draft : Draft) : Event :=
  { ((Event.make draft.level draft.code draft.message).withSpan draft.span).withDetails
      draft.details with seconds := draft.seconds }

def Service.forget (service : Service) : Service :=
  match service.sink with
  | .memory log => { service with sink := .memory log.clear }
  | _ => service

inductive MemoryStep where
  | log (draft : Draft)
  | clear
  deriving DecidableEq, Repr

namespace MemoryStep

def run (service : Service) : MemoryStep → Service
  | log draft => (service.log draft.event {}).1
  | clear => service.forget

def runAll (steps : List MemoryStep) (service : Service) : Service := steps.foldl run service

end MemoryStep

end CssSelector
