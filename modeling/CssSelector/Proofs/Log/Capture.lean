import CssSelector.Proofs.Log.Delivery

/-!
# What a scope keeps

A scope with a memory log of its own keeps the last of the events up to its level,
`captured_eq`, and what something comes to does not depend on who listens, `resultUnder_eq`.
-/

set_option autoImplicit false

namespace CssSelector

/-- The last events, as many as a memory log keeps. -/
def latest (events : List Event) : List Event := events.drop (events.length - logBufferSize)

theorem latest_of_length_le {events : List Event} (few : events.length ≤ logBufferSize) :
    latest events = events := by
  unfold latest
  rw [Nat.sub_eq_zero_of_le few, List.drop_zero]

/-- Events that are no longer kept do not come back. -/
theorem latest_append_latest (older newer : List Event) :
    latest (latest older ++ newer) = latest (older ++ newer) := by
  by_cases few : older.length ≤ logBufferSize
  · rw [latest_of_length_le few]
  · have dropped : older.length - logBufferSize ≤ older.length := Nat.sub_le _ _
    have count : older.length - logBufferSize +
        ((older ++ newer).length - (older.length - logBufferSize) - logBufferSize) =
          (older ++ newer).length - logBufferSize := by
      rw [List.length_append]
      omega
    unfold latest
    rw [← List.drop_append_of_le_length dropped, List.drop_drop, List.length_drop]
    exact congrArg (List.drop · (older ++ newer)) count

theorem MemoryLog.toList_record_eq_latest (log : MemoryLog) (event : Event) :
    (log.record event).toList = latest (log.toList ++ [event]) := by
  rw [MemoryLog.toList_record, latest, List.length_append, List.length_singleton]

theorem MemoryLog.latest_toList (log : MemoryLog) : latest log.toList = log.toList := by
  apply latest_of_length_le
  rw [MemoryLog.length_toList, MemoryLog.count]
  exact log.size_le

/-- Adds events to a log, one after the other. -/
def MemoryLog.recordAll (log : MemoryLog) (events : List Event) : MemoryLog :=
  events.foldl record log

/-- Whatever was dropped on the way, the last events are kept. -/
theorem MemoryLog.toList_recordAll (log : MemoryLog) (events : List Event) :
    (log.recordAll events).toList = latest (log.toList ++ events) := by
  induction events generalizing log with
  | nil => rw [List.append_nil, log.latest_toList, recordAll, List.foldl_nil]
  | cons event rest ih =>
      have later := ih (log.record event)
      rw [toList_record_eq_latest, latest_append_latest, List.append_assoc,
        List.singleton_append] at later
      exact later

theorem Service.log_memory (level : Level) (log : MemoryLog) (event : Event)
    (transcript : Transcript) :
    Service.log ⟨level, .memory log⟩ event transcript =
      (⟨level, .memory (if event.level.within level then log.record event else log)⟩,
        transcript) := by
  by_cases within : event.level.within level = true
  · rw [if_pos within]
    exact if_pos within
  · rw [if_neg within]
    exact if_neg within

namespace Session

/-- A session inside a scope of a service of its own, with a memory log. -/
def listening (session : Session) (level : Level) (log : MemoryLog) : Session :=
  (session.enlist ⟨level, .memory log⟩).activate (some session.nextNumber)

/-- An event as a session hands it over. -/
def stamp (session : Session) (event : Event) : Event := { event with seconds := session.now }

/-- The events up to a level, as a session hands them over. -/
def heard (session : Session) (level : Level) (events : List Event) : List Event :=
  (events.filter (·.level.within level)).map session.stamp

theorem dispatch_listening (session : Session) (level : Level) (log : MemoryLog) (event : Event) :
    (session.listening level log).dispatch event =
      session.listening level (if event.level.within level then log.record event else log) := by
  change (session.listening level log).deliver session.nextNumber event = _
  rw [listening, deliver, update_activate, update_enlist, Service.log_memory]
  rfl

theorem service?_listening (session : Session) (level : Level) (log : MemoryLog) :
    (session.listening level log).service? session.nextNumber = some ⟨level, .memory log⟩ :=
  Array.getElem?_push_size

theorem debugEnabled_listening (session : Session) (log : MemoryLog) :
    (session.listening .debug log).debugEnabled = true := by
  change decide (Option.map (·.minLevel)
    ((session.listening .debug log).service? session.nextNumber) = some .debug) = true
  rw [service?_listening]
  rfl

theorem note_listening (session : Session) (level : Level) (log : MemoryLog) (event : Event) :
    (session.listening level log).note event =
      session.listening level
        (if event.level.within level then log.record (session.stamp event) else log) := by
  have dispatched := dispatch_listening session level log (session.stamp event)
  have noted : (session.listening level log).note event =
      if event.level = .debug then (session.listening level log).trace (session.stamp event)
      else (session.listening level log).dispatch (session.stamp event) := rfl
  rw [noted]
  split
  · next tracing =>
      unfold trace
      split
      · exact dispatched
      · next unwanted =>
          -- a trace message that nobody wants would not be taken either
          have beyond : ¬event.level.within level = true := by
            intro within
            apply unwanted
            rw [tracing] at within
            cases level with
            | debug => exact session.debugEnabled_listening log
            | error | warning | info => cases within
          rw [if_neg beyond]
  · exact dispatched

theorem heard_cons (session : Session) (level : Level) (event : Event) (rest : List Event) :
    session.heard level (event :: rest) =
      if event.level.within level then session.stamp event :: session.heard level rest
      else session.heard level rest := by
  unfold heard
  rw [List.filter_cons]
  split <;> rfl

/-- A scope hears the events in order. -/
theorem noteAll_listening (session : Session) (level : Level) (log : MemoryLog)
    (events : Array Event) :
    EventLog.noteAll (session.listening level log) events =
      session.listening level (log.recordAll (session.heard level events.toList)) := by
  unfold EventLog.noteAll
  rw [← Array.foldl_toList]
  induction events.toList generalizing log with
  | nil => rfl
  | cons event rest ih =>
      have noted : EventLog.note (session.listening level log) event = _ :=
        note_listening session level log event
      rw [List.foldl_cons, noted, heard_cons, ih]
      split <;> rfl

/-- Something that always comes to the same and logs the same events, whoever listens. -/
def Delivers {α : Type} (run : Session → α × Session) (computed : α × Array Event) : Prop :=
  ∀ session, run session = (computed.1, EventLog.noteAll session computed.2)

/-- What a fresh memory log of a level keeps of what something logs. -/
def captured {α : Type} (session : Session) (level : Level) (run : Session → α × Session) :
    List Event :=
  (session.inScope (.inMemory level) run).1.2.kept.toList

/-- What something comes to under a service of its own, or under those of the session. -/
def resultUnder {α : Type} (session : Session) (run : Session → α × Session) : Option Service → α
  | none => (run session).1
  | some service => (session.inScope service run).1.1

variable {α : Type} {run : Session → α × Session} {computed : α × Array Event}

theorem captured_eq (session : Session) (delivers : Delivers run computed) (level : Level) :
    session.captured level run = latest (session.heard level computed.2.toList) := by
  have handed := noteAll_listening session level {} computed.2
  change EventLog.noteAll
    ((session.enlist (.inMemory level)).activate (some session.nextNumber)) computed.2 = _ at handed
  simp only [captured, inScope, within, delivers _, handed]
  change (((session.listening level _).service? session.nextNumber).getD _).kept.toList = _
  rw [service?_listening]
  exact MemoryLog.toList_recordAll {} _

theorem resultUnder_eq (session : Session) (delivers : Delivers run computed)
    (service : Option Service) : session.resultUnder run service = computed.1 := by
  cases service with
  | none => rw [resultUnder, delivers]
  | some service => simp only [resultUnder, inScope, within, delivers _]

end Session

end CssSelector
