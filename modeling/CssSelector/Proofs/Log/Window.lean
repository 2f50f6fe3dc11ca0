import CssSelector.Log.Recording
import CssSelector.Proofs.Log.Event
import Mathlib.Data.List.DropRight

/-!
# What a memory log keeps

However often a memory log is written to and cleared, it keeps a window: the last of the events up
to its level that were logged since it was last cleared, `MemoryStep.runAll_keeps_window`. Its lists
and its summary are about this window.
-/

set_option autoImplicit false

namespace CssSelector

/-! ## Events and their drafts -/

namespace Draft

theorem event_eq (draft : Draft) :
    draft.event =
      { level := draft.level, code := draft.code, message := cutMessage draft.message,
        span := draft.span, seconds := draft.seconds,
        details :=
          draft.details.foldl (fun details value => details.insert value.1 value.2) [] } := by
  obtain ⟨level, code, message, span, details, seconds⟩ := draft
  rw [event, Event.withDetails_eq]
  cases span <;> rfl

/-- A message of at most `maxMessageLength` characters is kept; a longer one is cut off there. -/
theorem message_event (draft : Draft) :
    draft.event.message =
      if draft.message.length ≤ maxMessageLength then draft.message
      else String.ofList (draft.message.toList.take maxMessageLength) ++ "..." := by
  have fits : (draft.message.toList.drop maxMessageLength).isEmpty = true ↔
      draft.message.length ≤ maxMessageLength := by
    rw [List.isEmpty_iff, List.drop_eq_nil_iff, String.length_toList]
  rw [event_eq, cutMessage]
  simp only [fits]

theorem level_event (draft : Draft) : draft.event.level = draft.level := by
  rw [event_eq]

theorem isError_event (draft : Draft) : draft.event.isError = decide (draft.level = .error) := by
  rw [Event.isError, level_event]

end Draft

/-! ## Summaries -/

namespace EventSummary

/-- The number of events of a level. -/
def ofLevel (summary : EventSummary) : Level → Nat
  | .error => summary.errors
  | .warning => summary.warnings
  | .info => summary.infos
  | .debug => summary.debugs

/-- A summary that counts the events of each level, none of them twice. -/
structure Counts (summary : EventSummary) (events : List Event) : Prop where
  levels : ∀ level, summary.ofLevel level = events.countP (·.level = level)
  total : summary.errors + summary.warnings + summary.infos + summary.debugs = summary.total
  all : summary.total = events.length
  critical : summary.critical ≤ summary.errors

end EventSummary

/-- Each event is of one level. -/
theorem length_eq_countP_levels (events : List Event) :
    events.countP (·.isError) + events.countP (·.level = .warning) +
      events.countP (·.level = .info) + events.countP (·.level = .debug) = events.length := by
  induction events with
  | nil => rfl
  | cons event rest ih =>
      simp only [List.countP_cons, List.length_cons, ← ih, Event.isError]
      cases event.level with
      | error | warning | info | debug => simp; omega

theorem MemoryLog.summary_counts (log : MemoryLog) : log.summary.Counts log.toList where
  levels level := by
    cases level with
    | error | warning | info | debug => rfl
  total := (length_eq_countP_levels log.toList).trans log.length_toList
  all := log.length_toList.symm
  critical := by
    apply List.countP_mono_left
    intro event _ critical
    exact (Bool.and_eq_true_iff.mp critical).1

/-! ## Runs -/

theorem map_rtake {α β : Type} (f : α → β) (list : List α) (count : Nat) :
    (list.rtake count).map f = (list.map f).rtake count := by
  rw [List.rtake, List.rtake, List.map_drop, List.length_map]

namespace MemoryStep

/-- What an operation logs. -/
def draft? : MemoryStep → Option Draft
  | log draft => some draft
  | clear => none

/-- What operations have logged since the last of them that cleared the log. -/
def sinceClear (steps : List MemoryStep) : List Draft :=
  (steps.rtakeWhile (·.draft?.isSome)).filterMap draft?

theorem sinceClear_concat_log (steps : List MemoryStep) (draft : Draft) :
    sinceClear (steps ++ [log draft]) = sinceClear steps ++ [draft] := by
  rw [sinceClear, List.rtakeWhile_concat_pos _ _ _ rfl, List.filterMap_append]
  rfl

theorem sinceClear_concat_clear (steps : List MemoryStep) :
    sinceClear (steps ++ [clear]) = [] := by
  rw [sinceClear, List.rtakeWhile_concat_neg _ _ _ Bool.false_ne_true, List.filterMap_nil]

/-- The drafts up to a level. -/
def accepted (minLevel : Level) (drafts : List Draft) : List Draft :=
  drafts.filter (·.level.within minLevel)

/-- A service keeps its level, and its log is as if nothing had happened before it was cleared. -/
theorem runAll_inMemory (minLevel : Level) (steps : List MemoryStep) :
    runAll steps (.inMemory minLevel) =
      ⟨minLevel, .memory
        (MemoryLog.recordAll {} ((accepted minLevel (sinceClear steps)).map Draft.event))⟩ := by
  induction steps using List.reverseRecOn with
  | nil => rfl
  | append_singleton steps step ih =>
      rw [runAll, List.foldl_concat]
      rw [runAll] at ih
      rw [ih]
      cases step with
      | clear =>
          rw [sinceClear_concat_clear]
          rfl
      | log draft =>
          rw [sinceClear_concat_log, run, Service.log_memory, Draft.level_event, accepted, accepted,
            List.filter_append, List.filter_cons]
          split
          · rw [List.map_append, MemoryLog.recordAll, MemoryLog.recordAll, List.foldl_append]
            rfl
          · rw [List.filter_nil, List.append_nil]

/-- The drafts whose events a memory log of a level keeps. -/
def window (minLevel : Level) (steps : List MemoryStep) : List Draft :=
  (accepted minLevel (sinceClear steps)).rtake logBufferSize

theorem toList_runAll (minLevel : Level) (steps : List MemoryStep) :
    (runAll steps (.inMemory minLevel)).kept.toList = (window minLevel steps).map Draft.event := by
  rw [runAll_inMemory, window, map_rtake]
  exact MemoryLog.toList_recordAll {} _

theorem errors_runAll (minLevel : Level) (steps : List MemoryStep) :
    (runAll steps (.inMemory minLevel)).kept.errors =
      (((window minLevel steps).filter (·.level = .error)).rtake maxErrorCollection).map
        Draft.event := by
  have found : (runAll steps (.inMemory minLevel)).kept.toList.filter (·.isError) =
      ((window minLevel steps).filter (·.level = .error)).map Draft.event := by
    rw [toList_runAll, List.filter_map]
    exact congrArg (List.map Draft.event) (List.filter_congr fun draft _ => draft.isError_event)
  rw [MemoryLog.errors, found, map_rtake, List.rtake]

/-- A memory log is a sliding window. After any operations on a service of a level it keeps the last
`logBufferSize` of the events up to that level that were logged since it was last cleared, in order
and with their messages, which are cut off if they are too long. It lists the last
`maxErrorCollection` errors among them. Its summary counts them all, each under its level, and there
are never more than `logBufferSize`. -/
theorem runAll_keeps_window (minLevel : Level) (steps : List MemoryStep) :
    let log := (runAll steps (.inMemory minLevel)).kept
    let logged := (sinceClear steps).filter (·.level.within minLevel)
    let window := logged.rtake logBufferSize
    log.toList = window.map Draft.event ∧
      (∀ draft : Draft, draft.event.message =
        if draft.message.length ≤ maxMessageLength then draft.message
        else String.ofList (draft.message.toList.take maxMessageLength) ++ "...") ∧
      log.errors =
        ((window.filter (·.level = .error)).rtake maxErrorCollection).map Draft.event ∧
      log.summary.Counts log.toList ∧ log.summary.total = log.count ∧
      log.count ≤ logBufferSize := by
  intro log logged window
  exact ⟨toList_runAll minLevel steps, Draft.message_event, errors_runAll minLevel steps,
    log.summary_counts, rfl, log.size_le⟩

end MemoryStep

end CssSelector
