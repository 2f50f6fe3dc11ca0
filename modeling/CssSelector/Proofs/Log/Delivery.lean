import CssSelector.Log.Session

/-!
# Events that are handed over later

Something that writes to a log may as well keep its events, which are written to the log when it is
done: the log ends up as if each event had been written when it happened. Between logs this is a
change that may be made before or after an event is written, `EventLog.Forwards`.
-/

set_option autoImplicit false

namespace CssSelector

namespace EventLog

variable {σ τ : Type} [EventLog σ] [EventLog τ]

/-- Writes events to a log, one after the other. -/
def noteAll (log : σ) (events : Array Event) : σ := events.foldl note log

/-- A change of logs that does not mind whether an event is written before it or after it. -/
def Forwards (change : σ → τ) : Prop :=
  ∀ log event, change (note log event) = note (change log) event

theorem forwards_noteAll (log : σ) : Forwards (noteAll log) :=
  fun _ _ => Array.foldl_push

theorem noteAll_array (kept events : Array Event) : noteAll kept events = kept ++ events := by
  have pushed := @Array.foldl_push_eq_append Event Event _ events kept id rfl
  rw [Array.map_id] at pushed
  exact pushed

end EventLog

end CssSelector
