import CssSelector.Proofs.Scan.Refinement
import CssSelector.Proofs.Scan.Trace

/-!
# Statistics along a trace

The statistics of a scan are those that its tokens tell, counted from the outermost context on,
`metrics_scanFrom`. The source does not matter beyond the tokens.
-/

set_option autoImplicit false

namespace CssSelector

namespace ContextFamily

section

variable {κ : Type} (family : ContextFamily κ) (preferences : ScanPreferences)

/-- The statistics behind a token of the innermost context. The token counts, and so does a context
that it opens, unless that is one too many. -/
def metricsAfter (context : κ) (outer : List κ) (token : Token) (metrics : ScanMetrics) :
    ScanMetrics :=
  let depth := (family.contextsAfter context outer token).length
  if preferences.collectMetrics then
    if outer.length + 1 < depth ∧ depth ≤ maxContextDepth then
      (metrics.recordToken token).recordContext depth
    else metrics.recordToken token
  else metrics

/-- The statistics behind tokens, from given open contexts on. -/
def metricsAlong : List κ → List Token → ScanMetrics → ScanMetrics
  | context :: outer, token :: later, metrics =>
      metricsAlong (family.contextsAfter context outer token) later
        (family.metricsAfter preferences context outer token metrics)
  | _, _, metrics => metrics

end

variable {κ : Type} {family : ContextFamily κ} {preferences : ScanPreferences} {source : Source}

@[simp]
theorem metricsAlong_nil (opened : List κ) (metrics : ScanMetrics) :
    family.metricsAlong preferences opened [] metrics = metrics := by
  cases opened <;> rfl

theorem metrics_accept (token : Token) (progress : Progress) :
    (progress.accept preferences token).metrics =
      if preferences.collectMetrics then progress.metrics.recordToken token
      else progress.metrics := rfl

theorem metrics_openContext {context : κ} {outer opened : List κ} {progress entered : Progress}
    (opening : openContext preferences context outer progress = .ok (opened, entered)) :
    entered.metrics =
      if preferences.collectMetrics then progress.metrics.recordContext (outer.length + 1)
      else progress.metrics := by
  unfold openContext at opening
  split at opening
  · cases opening
  · cases opening
    split <;> rfl

theorem metrics_of_length_le {context : κ} {outer : List κ} {token : Token}
    (kept : (family.contextsAfter context outer token).length ≤ outer.length + 1)
    (progress : Progress) :
    (progress.accept preferences token).metrics =
      family.metricsAfter preferences context outer token progress.metrics := by
  have none : ¬(outer.length + 1 < (family.contextsAfter context outer token).length ∧
      (family.contextsAfter context outer token).length ≤ maxContextDepth) := by omega
  rw [metricsAfter, if_neg none, metrics_accept]

/-- A turn ends where it was, or takes a token; then the contexts, the tokens and the statistics
are those behind the token. -/
theorem turn_cases (context : κ) (outer : List κ) (progress : Progress) :
    (∃ verdict, family.turn preferences source (context :: outer) progress =
        .inr (progress, verdict)) ∨
      ∃ token reached, reached.tokens = progress.tokens.push token ∧
        reached.metrics = family.metricsAfter preferences context outer token progress.metrics ∧
        (family.turn preferences source (context :: outer) progress =
            .inl (family.contextsAfter context outer token, reached) ∨
          ∃ verdict, family.turn preferences source (context :: outer) progress =
            .inr (reached, verdict)) := by
  rw [turn]
  rcases move_cases context progress with ⟨verdict, moved⟩ | ⟨token, -, -, moved⟩
  · rw [moved]
    exact .inl ⟨verdict, rfl⟩
  · right
    rcases moved with ⟨closing, moved⟩ | ⟨going, plain, moved⟩ | ⟨inner, going, opening, moved⟩
    · have after : family.contextsAfter context outer token = outer :=
        contextsAfter_of_closes closing
      rw [moved]
      refine ⟨token, _, rfl, metrics_of_length_le ?_ progress, .inl ?_⟩ <;> rw [after]
      exact Nat.le_succ _
    · have after : family.contextsAfter context outer token = context :: outer :=
        contextsAfter_of_not_opens going plain
      rw [moved]
      refine ⟨token, _, rfl, metrics_of_length_le ?_ progress, .inl ?_⟩ <;> rw [after]
      exact Nat.le_refl _
    · have after : family.contextsAfter context outer token = inner :: context :: outer :=
        contextsAfter_of_opens going opening
      have depth : (family.contextsAfter context outer token).length = outer.length + 2 := by
        rw [after]
        rfl
      rw [moved]
      dsimp only
      split
      · next entered opened =>
          obtain ⟨contexts, reached⟩ := entered
          obtain ⟨room, rfl, -, taken⟩ := openContext_eq_ok opened
          rw [List.length_cons] at room
          have deeper : outer.length + 1 < outer.length + 2 ∧
              outer.length + 2 ≤ maxContextDepth := by omega
          refine ⟨token, reached, taken, ?_, .inl (by rw [after])⟩
          rw [metrics_openContext opened, metricsAfter, depth, if_pos deeper, metrics_accept]
          split <;> rfl
      · next error refused =>
          obtain ⟨full, -⟩ := openContext_eq_error refused
          rw [List.length_cons] at full
          have tooDeep : ¬(outer.length + 1 < outer.length + 2 ∧
              outer.length + 2 ≤ maxContextDepth) := by omega
          refine ⟨token, _, rfl, ?_, .inr ⟨_, rfl⟩⟩
          rw [metricsAfter, depth, if_neg tooDeep, metrics_accept]

/-! ## Whole scans -/

theorem metrics_runMachine (family : ContextFamily κ) (preferences : ScanPreferences)
    (source : Source) (fuel : Nat) (opened : List κ) (progress : Progress) :
    ∃ tokens,
      (family.runMachine preferences source fuel opened progress).1.tokens.toList =
          progress.tokens.toList ++ tokens ∧
        (family.runMachine preferences source fuel opened progress).1.metrics =
          family.metricsAlong preferences opened tokens progress.metrics := by
  induction fuel generalizing opened progress with
  | zero => exact ⟨[], by simp [runMachine]⟩
  | succ fuel ih =>
      cases opened with
      | nil => exact ⟨[], by simp [runMachine]⟩
      | cons context outer =>
          rw [runMachine_succ]
          rcases turn_cases context outer progress with
            ⟨verdict, turned⟩ | ⟨token, reached, taken, counted, turned | ⟨verdict, turned⟩⟩
          · rw [turned]
            exact ⟨[], by simp⟩
          · obtain ⟨tokens, appended, metrics⟩ :=
              ih (family.contextsAfter context outer token) reached
            rw [turned]
            refine ⟨token :: tokens, ?_, ?_⟩
            · rw [appended, taken]
              simp
            · rw [metrics, counted]
              rfl
          · rw [turned]
            refine ⟨[token], ?_, ?_⟩
            · simp [taken]
            · rw [counted, metricsAlong, metricsAlong_nil]

/-- The statistics of a scan are told by its tokens. -/
theorem metrics_scanFrom (family : ContextFamily κ) (preferences : ScanPreferences) (root : κ)
    (offset : Nat) (short : source.length ≤ maxSourceLength) :
    (family.scanFrom preferences root source offset).metrics =
      family.metricsAlong preferences [root]
        (family.scanFrom preferences root source offset).tokens.toList
        (if preferences.collectMetrics then ({} : ScanMetrics).recordContext 1 else {}) := by
  obtain ⟨tokensEq, metricsEq, -⟩ :=
    scanFrom_eq_of_length_le family preferences source short root offset
  rw [tokensEq, metricsEq, machine]
  cases opening : openContext preferences root [] { offset := offset, events := #[] } with
  | error error =>
      obtain ⟨full, -⟩ := openContext_eq_error opening
      cases full
  | ok entered =>
      obtain ⟨opened, progress⟩ := entered
      obtain ⟨-, rfl, -, taken⟩ := openContext_eq_ok opening
      have started := metrics_openContext opening
      have counted := metrics_runMachine family preferences source (source.length - offset) [root]
        progress
      rw [taken, started] at counted
      obtain ⟨tokens, appended, metrics⟩ := counted
      rw [metrics, appended]
      rfl

end ContextFamily

end CssSelector
