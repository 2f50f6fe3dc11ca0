import CssSelector.Proofs.Log.Delivery
import CssSelector.Proofs.Scan.Stack

/-!
# Scans that write to a log

A scan does not look at its log. So a change of the log that does not mind events may be made before
the scan or after it, by induction over the contexts that may still be opened and the bytes that are
left: `scanContext_mapLog`. Writing the events of a scan to a log when they happen is keeping them
and writing them behind the scan, `scanInto_eq`.
-/

set_option autoImplicit false

namespace CssSelector

variable {σ τ : Type}

/-- Progress with another log. -/
def Scanning.mapLog (change : σ → τ) (progress : Scanning σ) : Scanning τ :=
  { progress with events := change progress.events }

/-- A result with another log. -/
def ScanResult.mapLog (change : σ → τ) (result : ScanResult σ) : ScanResult τ :=
  { result with events := change result.events }

variable [EventLog σ] [EventLog τ] {change : σ → τ} (forwards : EventLog.Forwards change)

namespace Scanning

include forwards

theorem logTransition_mapLog (preferences : ScanPreferences) (message name : String) (depth : Nat)
    (progress : Scanning σ) :
    (progress.mapLog change).logTransition preferences message name depth =
      (progress.logTransition preferences message name depth).mapLog change := by
  simp only [logTransition]
  split
  · simp only [mapLog, forwards _ _]
  · rfl

theorem enter_mapLog (preferences : ScanPreferences) (name : String) (depth : Nat)
    (progress : Scanning σ) :
    (progress.mapLog change).enter preferences name depth =
      (progress.enter preferences name depth).mapLog change := by
  simp only [enter, ← logTransition_mapLog forwards]
  split <;> rfl

end Scanning

namespace ContextFamily

variable {κ : Type} (family : ContextFamily κ) (preferences : ScanPreferences) (source : Source)

omit [EventLog σ] [EventLog τ] in
theorem runContext_mapLog {nested : κ → Scanning σ → Scanning σ × Verdict ScanError Unit}
    {also : κ → Scanning τ → Scanning τ × Verdict ScanError Unit}
    (inner : ∀ context progress, also context (progress.mapLog change) =
      (nested context progress).map (·.mapLog change) id)
    (context : κ) (fuel : Nat) (progress : Scanning σ) :
    family.runContext preferences source also context fuel (progress.mapLog change) =
      (family.runContext preferences source nested context fuel progress).map
        (·.mapLog change) id := by
  induction fuel generalizing progress with
  | zero => rfl
  | succ fuel ih =>
      have asked : family.next preferences source context (progress.mapLog change) =
          family.next preferences source context progress := rfl
      have place : (progress.mapLog change).offset = progress.offset := rfl
      rw [runContext, runContext, asked, place]
      split
      · cases family.next preferences source context progress with
        | failed error => rfl
        | fault cause => rfl
        | done token =>
            have accepted : (progress.mapLog change).accept preferences token =
                (progress.accept preferences token).mapLog change := rfl
            simp only [accepted]
            split
            · rfl
            · cases family.opens? context token with
              | none => exact ih _
              | some opened =>
                  simp only [inner]
                  generalize nested opened (progress.accept preferences token) = step
                  obtain ⟨reached, verdict⟩ := step
                  cases verdict with
                  | done value => exact ih reached
                  | failed error => rfl
                  | fault cause => rfl
      · rfl

include forwards in
theorem scanContext_mapLog (levels : Nat) (context : κ) (progress : Scanning σ) :
    family.scanContext preferences source levels context (progress.mapLog change) =
      (family.scanContext preferences source levels context progress).map (·.mapLog change) id := by
  induction levels generalizing context progress with
  | zero => rfl
  | succ levels ih =>
      rw [scanContext, scanContext]
      simp only [Scanning.enter_mapLog forwards]
      generalize progress.enter preferences (family.name context) (maxContextDepth - levels) =
        entered
      have place : (entered.mapLog change).offset = entered.offset := rfl
      rw [runContext_mapLog family preferences source ih context, place]
      generalize family.runContext preferences source _ context _ entered = step
      obtain ⟨reached, verdict⟩ := step
      cases verdict with
      | done value =>
          exact Prod.ext (Scanning.logTransition_mapLog forwards preferences _ _ _ reached) rfl
      | failed error => rfl
      | fault cause => rfl

include forwards in
theorem scanInto_mapLog (root : κ) (offset : Nat) (log : σ) :
    family.scanInto preferences root source offset (change log) =
      (family.scanInto preferences root source offset log).mapLog change := by
  simp only [scanInto, ← forwards log]
  split
  · rfl
  · generalize EventLog.note log _ = started
    have ran := scanContext_mapLog forwards family preferences source maxContextDepth root
      { offset := offset, events := started }
    rw [Scanning.mapLog] at ran
    simp only [ran]
    generalize family.scanContext preferences source maxContextDepth root (_ : Scanning σ) = step
    obtain ⟨reached, verdict⟩ := step
    cases verdict with
    | done value => simp only [Prod.map, id, ScanResult.mapLog, Scanning.mapLog, forwards _ _]
    | failed error => simp only [Prod.map, id, ScanResult.mapLog, Scanning.mapLog, forwards _ _]
    | fault cause => rfl

/-- A scan that writes to a log comes to what it comes to anyway, and its events are in the log. -/
theorem scanInto_eq (root : κ) (offset : Nat) (log : τ) :
    family.scanInto preferences root source offset log =
      (family.scanFrom preferences root source offset).mapLog (EventLog.noteAll log) :=
  scanInto_mapLog (EventLog.forwards_noteAll log) family preferences source root offset #[]

end ContextFamily

end CssSelector
