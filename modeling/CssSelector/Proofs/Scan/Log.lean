import CssSelector.Proofs.Log.Event
import CssSelector.Proofs.Scan.Stack

/-!
# What a scan logs

Whatever the contexts answer, a scan logs nothing but trace messages while it runs, and one event
at its end: that it is done, or its error. A scan that breaks a contract does not come to its end.
-/

set_option autoImplicit false

namespace CssSelector

namespace Scanning

theorem traces_logTransition {progress : Progress} (traces : Traces progress.events)
    (preferences : ScanPreferences) (message name : String) (depth : Nat) :
    Traces (progress.logTransition preferences message name depth).events := by
  unfold logTransition
  split
  · exact traces.push (Event.level_withDetails _ _)
  · exact traces

theorem traces_enter {progress : Progress} (traces : Traces progress.events)
    (preferences : ScanPreferences) (name : String) (depth : Nat) :
    Traces (progress.enter preferences name depth).events := by
  unfold enter
  apply traces_logTransition
  split
  · exact traces
  · exact traces

end Scanning

/-- The event at the end of a scan that took a number of tokens. -/
inductive Concludes (count : Nat) : Verdict ScanError Nat → Array Event → Prop
  | done {cursor : Nat} {event : Event} :
      event.Tells .info .tokenized
        [("tokens", toString count), ("end_offset", toString cursor)] →
      Concludes count (.done cursor) #[event]
  | failed (error : ScanError) (name value : String) :
      Concludes count (.failed error) #[error.event name value]
  | fault (cause : Fault) : Concludes count (.fault cause) #[]

namespace ContextFamily

variable {κ : Type} (family : ContextFamily κ) (preferences : ScanPreferences) (source : Source)

/-- Opening and closing contexts is traced, however deep they are nested. -/
theorem traces_scanContext (levels : Nat) (context : κ) (progress : Progress)
    (traces : Traces progress.events) :
    Traces (family.scanContext preferences source levels context progress).1.events := by
  apply scanContext_keeps family preferences source fun reached => Traces reached.events
  · intro token reached before
    exact before
  · intro name depth reached before
    exact Scanning.traces_enter before preferences name depth
  · intro name depth reached before
    exact Scanning.traces_logTransition before preferences _ name depth
  · exact traces

theorem scanFrom_log (root : κ) (offset : Nat) :
    let outcome := family.scanFrom preferences root source offset
    ∃ traced last, Traces traced ∧ outcome.events = traced ++ last ∧
      Concludes outcome.tokens.size outcome.verdict last := by
  rw [scanFrom, scanInto]
  split
  · exact ⟨#[], _, .empty, (Array.empty_append).symm, .failed _ _ _⟩
  · dsimp only
    generalize begins : ({ offset := offset, events := _ } : Progress) = first
    have started : Traces first.events := by
      rw [← begins]
      exact Traces.empty.push (Event.level_withDetails _ _)
    have ran := family.traces_scanContext preferences source maxContextDepth root first started
    generalize family.scanContext preferences source maxContextDepth root first = step at ran ⊢
    obtain ⟨reached, verdict⟩ := step
    cases verdict with
    | done value =>
        have distinct : (["tokens", "end_offset"] : List String).Nodup := by decide
        have told := @Event.tells_withDetails
          [("tokens", toString reached.tokens.size), ("end_offset", toString reached.offset)]
          distinct (.success .tokenized "Selector tokenized")
        exact ⟨reached.events, _, ran, rfl, .done told⟩
    | failed error => exact ⟨reached.events, _, ran, rfl, .failed error _ _⟩
    | fault cause => exact ⟨reached.events, #[], ran, (Array.append_empty).symm, .fault cause⟩

end ContextFamily

end CssSelector
