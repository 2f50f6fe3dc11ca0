import CssSelector.Log.Program
import CssSelector.Proofs.Log.Capture

/-!
# Scopes nest

A session has one place for the service of the scope that is being run, which each scope takes and
gives back. `LogStep.account` says what a program does without this place: it goes through the
program with the scopes that are open around each operation. Running a program comes to the same,
`LogStep.runAll_eq`, so scopes nest like a stack, however they end: `LogStep.scopes_nest`.
-/

set_option autoImplicit false

namespace CssSelector

/-- What there is to know of a session to tell who listens. It does not change while a program
runs. -/
structure Audience where
  minLevel? : Nat → Option Level
  shared : Option Nat

/-- The service that events go to while scopes are open, the innermost first: that of the innermost
scope, or the shared one. -/
def Audience.listener? (audience : Audience) (opened : List Nat) : Option Nat :=
  opened.head?.or audience.shared

/-- Whether the level of an event is within that of a service. -/
def Audience.accepts (audience : Audience) (number : Nat) (event : Event) : Bool :=
  (audience.minLevel? number).any event.level.within

/-- Whether the service that events go to takes trace messages. -/
def Audience.wantsDebug (audience : Audience) (opened : List Nat) : Bool :=
  (audience.listener? opened).bind audience.minLevel? = some .debug

/-- Something that is done to the log. -/
inductive LogAct where
  /-- An event is handed over while scopes are open, the innermost first. -/
  | handed (opened : List Nat) (event : Event)
  /-- An error goes to the error stream. -/
  | printed (code : Code) (message : String)

namespace LogStep

mutual

/-- The result of an operation while scopes are open, and what it does to the log. -/
def account (audience : Audience) (opened : List Nat) :
    LogStep → (LogReply × Option Fault) × List LogAct
  | scope service steps =>
      match accountAll audience (service :: opened) steps with
      | ((replies, cause), acts) => ((.scope replies, cause), acts)
  | attempt steps =>
      match accountAll audience opened steps with
      | ((replies, cause), acts) => ((.attempt replies cause, none), acts)
  | debugEnabled => ((.flag (audience.wantsDebug opened), none), [])
  | abandon => ((.nothing, some .abandoned), [])
  | dispatch event => ((.nothing, none), [.handed opened event])
  | trace event =>
      ((.nothing, none), if audience.wantsDebug opened then [.handed opened event] else [])
  | report code message =>
      ((.nothing, none),
        match audience.listener? opened with
        | some _ => [.handed opened (.error code message)]
        | none => [.printed code message])

/-- The results of operations, one after the other until one gives up, and what they do to the
log. -/
def accountAll (audience : Audience) (opened : List Nat) :
    List LogStep → (List LogReply × Option Fault) × List LogAct
  | [] => (([], none), [])
  | step :: later =>
      match account audience opened step with
      | ((reply, some cause), acts) => (([reply], some cause), acts)
      | ((reply, none), acts) =>
          match accountAll audience opened later with
          | ((replies, cause), more) => ((reply :: replies, cause), acts ++ more)

end

end LogStep

namespace Session

/-- What a session tells about who listens. -/
def audience (session : Session) : Audience := ⟨session.minLevel?, session.shared⟩

/-- Has a service pass an event on, whatever its level. -/
def record (session : Session) (number : Nat) (event : Event) : Session :=
  session.update number fun service => service.take event

/-- Does something to the log. An event that is handed over is recorded by the service that listens,
if its level is within that of this service, and else by none. -/
def perform (session : Session) : LogAct → Session
  | .handed opened event =>
      match session.audience.listener? opened with
      | some number =>
          if session.audience.accepts number event then session.record number event else session
      | none => session
  | .printed code message => session.printError code message

/-- Does several things to the log. -/
def performAll (session : Session) (acts : List LogAct) : Session := acts.foldl perform session

theorem update_eq_self {session : Session} {number : Nat}
    {change : Service → Transcript → Service × Transcript}
    (idle : ∀ service, session.service? number = some service →
      change service session.transcript = (service, session.transcript)) :
    session.update number change = session := by
  unfold update
  split
  · rfl
  · next service found =>
      rw [idle service found]
      have same : session.services.setIfInBounds number service = session.services := by
        apply Array.ext_getElem?
        intro other
        have found : session.services[number]? = some service := found
        rw [Array.getElem?_setIfInBounds, if_pos (Array.getElem?_eq_some_iff.mp found).1]
        split
        · next equal => rw [← equal, found]
        · rfl
      simp only [same]

theorem accepts_eq (session : Session) (number : Nat) (event : Event) :
    session.audience.accepts number event =
      (session.service? number).any (·.accepts event.level) :=
  Option.any_map

/-- A service records what it accepts. -/
theorem deliver_eq_record (session : Session) (number : Nat) (event : Event) :
    session.deliver number event =
      if session.audience.accepts number event then session.record number event else session := by
  rw [accepts_eq]
  split
  · next accepted =>
      obtain ⟨service, found, accepts⟩ := (Option.any_eq_true _ _).mp accepted
      simp only [deliver, record, update, found, Service.log, if_pos accepts]
  · next refused =>
      apply update_eq_self
      intro service found
      apply if_neg
      intro accepts
      apply refused
      rw [found]
      exact accepts

/-! ## The place of the active service -/

theorem perform_activate (session : Session) (active : Option Nat) (act : LogAct) :
    (session.activate active).perform act = (session.perform act).activate active := by
  cases act with
  | printed code message => rfl
  | handed opened event =>
      change (match session.audience.listener? opened with
        | some number =>
            if session.audience.accepts number event then
              (session.activate active).record number event
            else session.activate active
        | none => session.activate active) = _
      rw [perform]
      split
      · split
        · exact session.update_activate _ _ active
        · rfl
      · rfl

theorem performAll_activate (session : Session) (active : Option Nat) (acts : List LogAct) :
    (session.activate active).performAll acts = (session.performAll acts).activate active := by
  induction acts generalizing session with
  | nil => rfl
  | cons act later ih =>
      rw [performAll, List.foldl_cons, perform_activate]
      exact ih (session.perform act)

/-- Handing an event over is recording it in one service, or nothing. -/
theorem perform_handed (session : Session) (opened : List Nat) (event : Event) :
    (∃ number, session.perform (.handed opened event) = session.record number event) ∨
      session.perform (.handed opened event) = session := by
  rw [perform]
  split
  · next number _ =>
      split
      · exact .inl ⟨number, rfl⟩
      · exact .inr rfl
  · exact .inr rfl

theorem performAll_keeps {α : Type} {view : Session → α}
    (keeps : ∀ session act, view (session.perform act) = view session) (session : Session)
    (acts : List LogAct) : view (session.performAll acts) = view session := by
  induction acts generalizing session with
  | nil => rfl
  | cons act later ih => exact (ih (session.perform act)).trans (keeps session act)

theorem active_perform (session : Session) (act : LogAct) :
    (session.perform act).active = session.active := by
  cases act with
  | printed code message => rfl
  | handed opened event =>
      rcases session.perform_handed opened event with ⟨number, recorded⟩ | idle
      · rw [recorded]
        exact session.active_update number _
      · rw [idle]

theorem active_performAll (session : Session) (acts : List LogAct) :
    (session.performAll acts).active = session.active :=
  performAll_keeps active_perform session acts

/-- What is done in a scope is all that is left of it. -/
theorem within_eq {α : Type} {body : Session → α × Session} {session : Session} {number : Nat}
    {result : α} {acts : List LogAct}
    (ran : body (session.activate (some number)) =
      (result, (session.activate (some number)).performAll acts)) :
    session.within number body = (result, session.performAll acts) := by
  have back : (session.performAll acts).activate session.active = session.performAll acts :=
    congrArg (session.performAll acts).activate (session.active_performAll acts).symm
  rw [within, ran, performAll_activate]
  exact Prod.ext rfl back

/-! ## Who listens -/

theorem audience_record (session : Session) (number : Nat) (event : Event) :
    (session.record number event).audience = session.audience := by
  have levels : (session.record number event).minLevel? = session.minLevel? := by
    funext other
    rw [minLevel?, minLevel?, record, service?_update]
    split
    · rw [Option.map_map]
      rfl
    · rfl
  rw [audience, levels, record, shared_update, audience]

theorem audience_perform (session : Session) (act : LogAct) :
    (session.perform act).audience = session.audience := by
  cases act with
  | printed code message => rfl
  | handed opened event =>
      rcases session.perform_handed opened event with ⟨number, recorded⟩ | idle
      · rw [recorded]
        exact session.audience_record number event
      · rw [idle]

theorem audience_performAll (session : Session) (acts : List LogAct) :
    (session.performAll acts).audience = session.audience :=
  performAll_keeps audience_perform session acts

/-! ## Operations that look at the place -/

section

variable {session : Session} {opened : List Nat}

theorem dispatch_eq_perform (inside : session.active = opened.head?) (event : Event) :
    session.dispatch event = session.perform (.handed opened event) := by
  rw [dispatch, perform, Audience.listener?, inside]
  simp only [← deliver_eq_record]
  cases opened with
  | cons innermost outer => rfl
  | nil =>
      change session.dispatchShared event = match session.shared with
        | some number => session.deliver number event
        | none => session
      rw [dispatchShared]
      cases session.shared <;> rfl

theorem debugEnabled_eq_wantsDebug (inside : session.active = opened.head?) :
    session.debugEnabled = session.audience.wantsDebug opened := by
  rw [debugEnabled, Audience.wantsDebug, Audience.listener?, inside]
  cases opened with
  | nil => rfl
  | cons innermost outer => rfl

theorem trace_eq_performAll (inside : session.active = opened.head?) (event : Event) :
    session.trace event = session.performAll
      (if session.audience.wantsDebug opened then [.handed opened event] else []) := by
  rw [trace, debugEnabled_eq_wantsDebug inside, dispatch_eq_perform inside]
  split <;> rfl

theorem reportError_eq_performAll (inside : session.active = opened.head?) (code : Code)
    (message : String) :
    session.reportError code message = session.performAll
      (match session.audience.listener? opened with
        | some _ => [.handed opened (.error code message)]
        | none => [.printed code message]) := by
  rw [reportError, dispatch_eq_perform inside, Audience.listener?, inside]
  cases opened with
  | cons innermost outer => rfl
  | nil =>
      simp only [List.head?_nil, Option.none_or, Option.isSome_none, Bool.false_or, audience]
      cases session.shared with
      | some number => rfl
      | none => rfl

end

end Session

namespace LogStep

mutual

/-- An operation does what its account says. -/
theorem run_eq (step : LogStep) (session : Session) (opened : List Nat)
    (inside : session.active = opened.head?) :
    step.run session = ((account session.audience opened step).1,
      session.performAll (account session.audience opened step).2) := by
  cases step with
  | debugEnabled =>
      rw [run, Session.debugEnabled_eq_wantsDebug inside]
      rfl
  | abandon => rfl
  | dispatch event =>
      rw [run, Session.dispatch_eq_perform inside]
      rfl
  | trace event =>
      rw [run, Session.trace_eq_performAll inside]
      rfl
  | report code message =>
      rw [run, Session.reportError_eq_performAll inside]
      rfl
  | attempt steps =>
      rw [run, account, runAll_eq steps session opened inside]
  | scope service steps =>
      have entered : runAll steps (session.activate (some service)) =
          ((accountAll session.audience (service :: opened) steps).1,
            (session.activate (some service)).performAll
              (accountAll session.audience (service :: opened) steps).2) :=
        runAll_eq steps (session.activate (some service)) (service :: opened) rfl
      rw [run, account, Session.within_eq entered]

/-- Operations do what their account says. -/
theorem runAll_eq (steps : List LogStep) (session : Session) (opened : List Nat)
    (inside : session.active = opened.head?) :
    runAll steps session = ((accountAll session.audience opened steps).1,
      session.performAll (accountAll session.audience opened steps).2) := by
  cases steps with
  | nil => rfl
  | cons step later =>
      rw [runAll, accountAll, run_eq step session opened inside]
      obtain ⟨⟨reply, cause⟩, acts⟩ := account session.audience opened step
      cases cause with
      | some cause => rfl
      | none =>
          have rest := runAll_eq later (session.performAll acts) opened
            ((session.active_performAll acts).trans inside)
          rw [session.audience_performAll acts] at rest
          dsimp only
          rw [rest]
          exact Prod.ext rfl List.foldl_append.symm

end

theorem active_eq_head? (session : Session) : session.active = session.active.toList.head? := by
  cases session.active <;> rfl

/-- Whatever an operation does, the service that was active before is active again. -/
theorem active_run (step : LogStep) (session : Session) :
    (step.run session).2.active = session.active := by
  rw [run_eq step session _ (active_eq_head? session)]
  exact session.active_performAll _

end LogStep

/-! ## What a service gets -/

/-- The event that is handed to a service, if this is what is done. -/
def LogAct.eventFor? (audience : Audience) (number : Nat) : LogAct → Option Event
  | handed opened event =>
      if audience.listener? opened = some number then some event else none
  | printed _ _ => none

/-- The events that are handed to a service. -/
def Audience.handedTo (audience : Audience) (number : Nat) (acts : List LogAct) : List Event :=
  acts.filterMap (·.eventFor? audience number)

/-- The events that a service records. -/
def Audience.recordedBy (audience : Audience) (number : Nat) (acts : List LogAct) : List Event :=
  (audience.handedTo number acts).filter (audience.accepts number)

theorem Audience.recordedBy_cons (audience : Audience) (number : Nat) (act : LogAct)
    (later : List LogAct) :
    audience.recordedBy number (act :: later) =
      audience.recordedBy number [act] ++ audience.recordedBy number later := by
  rw [recordedBy, recordedBy, recordedBy, ← List.filter_append, handedTo, handedTo, handedTo,
    ← List.filterMap_append, List.singleton_append]

theorem Audience.recordedBy_handed (audience : Audience) (number : Nat) (opened : List Nat)
    (event : Event) :
    audience.recordedBy number [.handed opened event] =
      if audience.listener? opened = some number then
        if audience.accepts number event then [event] else []
      else [] := by
  rw [recordedBy, handedTo, List.filterMap_cons, LogAct.eventFor?, List.filterMap_nil]
  by_cases listens : audience.listener? opened = some number
  · simp only [if_pos listens, List.filter_cons, List.filter_nil]
  · simp only [if_neg listens, List.filter_nil]

namespace Service

/-- Passes events on, whatever their level. -/
def takeAll (service : Service) (events : List Event) : Service :=
  events.foldl (fun service event => (service.take event {}).1) service

/-- What was written before does not matter to what is kept. -/
theorem fst_take (service : Service) (event : Event) (transcript : Transcript) :
    (service.take event transcript).1 = (service.take event {}).1 := by
  obtain ⟨minLevel, sink⟩ := service
  cases sink <;> rfl

theorem takeAll_memory (level : Level) (log : MemoryLog) (events : List Event) :
    takeAll ⟨level, .memory log⟩ events = ⟨level, .memory (log.recordAll events)⟩ := by
  induction events generalizing log with
  | nil => rfl
  | cons event later ih => exact ih (log.record event)

end Service

namespace Session

theorem service?_record (session : Session) (number other : Nat) (event : Event) :
    (session.record number event).service? other =
      (session.service? other).map (·.takeAll (if number = other then [event] else [])) := by
  rw [record, service?_update]
  split
  · congr 1
    funext service
    exact service.fst_take event session.transcript
  · exact Option.map_id'.symm

theorem service?_perform (session : Session) (act : LogAct) (number : Nat) :
    (session.perform act).service? number =
      (session.service? number).map (·.takeAll (session.audience.recordedBy number [act])) := by
  cases act with
  | printed code message => exact Option.map_id'.symm
  | handed opened event =>
      rw [perform, Audience.recordedBy_handed]
      cases session.audience.listener? opened with
      | none => exact Option.map_id'.symm
      | some listener =>
          by_cases same : listener = number
          · rw [same, if_pos rfl]
            dsimp only
            split
            · rw [service?_record, if_pos rfl]
            · exact Option.map_id'.symm
          · rw [if_neg (fun equal => same (Option.some.inj equal))]
            dsimp only
            split
            · rw [service?_record, if_neg same]
            · exact Option.map_id'.symm

theorem service?_performAll (session : Session) (acts : List LogAct) (number : Nat) :
    (session.performAll acts).service? number =
      (session.service? number).map (·.takeAll (session.audience.recordedBy number acts)) := by
  induction acts generalizing session with
  | nil => exact Option.map_id'.symm
  | cons act later ih =>
      have rest := ih (session.perform act)
      rw [audience_perform, service?_perform, Option.map_map] at rest
      rw [Audience.recordedBy_cons]
      simp only [Service.takeAll, List.foldl_append]
      exact rest

end Session

namespace LogStep

/-- Scopes nest like a stack. Whatever a program does, and however scopes end, it comes to what is
done where the open scopes are known: each event goes to the service of the innermost of them, to
the shared one if there is none, and nowhere if there is no shared one either; it is recorded if and
only if its level is within that of this service; and trace messages are wanted if and only if the
level of this very service is that of trace messages. At the end of a program, and of each scope in
it, the same service is active as before. A service gets the events that are handed to it in order,
and none that are handed to another one; its memory log keeps the last of them up to its level. -/
theorem scopes_nest (steps : List LogStep) (session : Session) :
    let told := accountAll session.audience session.active.toList steps
    let ran := runAll steps session
    ran = (told.1, session.performAll told.2) ∧
      ran.2.active = session.active ∧
      (∀ number body entered, ((scope number body).run entered).2.active = entered.active) ∧
      (∀ number, ran.2.service? number = (session.service? number).map
        (·.takeAll (session.audience.recordedBy number told.2))) ∧
      ∀ number level log, session.service? number = some ⟨level, .memory log⟩ →
        ∃ later, ran.2.service? number = some ⟨level, .memory later⟩ ∧
          later.toList = latest (log.toList ++
            (session.audience.handedTo number told.2).filter (·.level.within level)) := by
  intro told ran
  have same : ran = (told.1, session.performAll told.2) :=
    runAll_eq steps session _ (active_eq_head? session)
  have services : ∀ number, ran.2.service? number = (session.service? number).map
      (·.takeAll (session.audience.recordedBy number told.2)) := by
    intro number
    rw [same]
    exact session.service?_performAll told.2 number
  refine ⟨same, ?_, ?_, services, ?_⟩
  · rw [same]
    exact session.active_performAll told.2
  · intro number body entered
    exact active_run (scope number body) entered
  · intro number level log found
    refine ⟨log.recordAll (session.audience.recordedBy number told.2), ?_, ?_⟩
    · rw [services, found, Option.map_some, Service.takeAll_memory]
    · rw [MemoryLog.toList_recordAll, Audience.recordedBy]
      have accepted : session.audience.accepts number = fun event => event.level.within level := by
        funext event
        rw [Session.accepts_eq, found]
        rfl
      rw [accepted]

/-- Giving up leaves two scopes at once. The inner one takes no messages; what comes behind it in
the outer one is never run; and behind both the shared service listens again. -/
theorem scopes_nest_of_abandoned :
    let session : Session :=
      { services := #[.inMemory .info, .inMemory .debug, .inMemory .warning], shared := some 0 }
    let steps : List LogStep :=
      [.dispatch (.info "before"),
       .attempt
        [.scope 1
          [.dispatch (.debug "outer"),
           .scope 2 [.dispatch (.info "quiet"), .dispatch (.warning "inner"), .abandon],
           .dispatch (.info "never")]],
       .trace (.debug "unwanted"),
       .dispatch (.warning "behind")]
    (session.service? 0 = some (.inMemory .info) ∧
      session.service? 1 = some (.inMemory .debug) ∧
      session.service? 2 = some (.inMemory .warning)) ∧
    ∃ shared outer inner,
      (runAll steps session).2.service? 0 = some ⟨.info, .memory shared⟩ ∧
      (runAll steps session).2.service? 1 = some ⟨.debug, .memory outer⟩ ∧
      (runAll steps session).2.service? 2 = some ⟨.warning, .memory inner⟩ ∧
      shared.toList = [.info "before", .warning "behind"] ∧
      outer.toList = [.debug "outer"] ∧ inner.toList = [.warning "inner"] := by
  intro session steps
  obtain ⟨-, -, -, -, kept⟩ := scopes_nest steps session
  obtain ⟨shared, sharedFound, sharedKept⟩ := kept 0 .info {} rfl
  obtain ⟨outer, outerFound, outerKept⟩ := kept 1 .debug {} rfl
  obtain ⟨inner, innerFound, innerKept⟩ := kept 2 .warning {} rfl
  refine ⟨⟨rfl, rfl, rfl⟩, shared, outer, inner, sharedFound, outerFound, innerFound, ?_, ?_, ?_⟩
  · exact sharedKept.trans (latest_of_length_le (by decide))
  · exact outerKept.trans (latest_of_length_le (by decide))
  · exact innerKept.trans (latest_of_length_le (by decide))

end LogStep

end CssSelector
