import CssSelector.Scan.Machine

/-!
# Nested contexts as a list of open contexts

The recursive scan keeps the open contexts in its calls, the machine keeps them in a list. Both
take the same tokens and stop for the same reason, whatever the contexts answer. The machine logs
nothing, so progress is compared without its log.
-/

set_option autoImplicit false

namespace CssSelector

namespace Scanning

variable {σ : Type}

/-- Progress without its log. -/
def unlogged (progress : Scanning σ) : Progress := { progress with events := #[] }

@[simp]
theorem offset_accept (preferences : ScanPreferences) (token : Token) (progress : Scanning σ) :
    (progress.accept preferences token).offset = progress.offset + token.length := rfl

@[simp]
theorem tokens_accept (preferences : ScanPreferences) (token : Token) (progress : Scanning σ) :
    (progress.accept preferences token).tokens = progress.tokens.push token := rfl

@[simp]
theorem offset_unlogged (progress : Scanning σ) : progress.unlogged.offset = progress.offset := rfl

@[simp]
theorem tokens_unlogged (progress : Scanning σ) : progress.unlogged.tokens = progress.tokens := rfl

theorem accept_unlogged (preferences : ScanPreferences) (token : Token) (progress : Scanning σ) :
    progress.unlogged.accept preferences token = (progress.accept preferences token).unlogged := rfl

variable [EventLog σ]

@[simp]
theorem unlogged_logTransition (preferences : ScanPreferences) (message name : String)
    (depth : Nat) (progress : Scanning σ) :
    (logTransition preferences message name depth progress).unlogged = progress.unlogged := by
  rw [logTransition]
  split <;> rfl

@[simp]
theorem unlogged_leave (preferences : ScanPreferences) (name : String) (depth : Nat)
    (progress : Scanning σ) :
    (progress.leave preferences name depth).unlogged = progress.unlogged :=
  unlogged_logTransition preferences _ name depth progress

@[simp]
theorem offset_logTransition (preferences : ScanPreferences) (message name : String)
    (depth : Nat) (progress : Scanning σ) :
    (logTransition preferences message name depth progress).offset = progress.offset := by
  rw [logTransition]
  split <;> rfl

@[simp]
theorem offset_leave (preferences : ScanPreferences) (name : String) (depth : Nat)
    (progress : Scanning σ) : (progress.leave preferences name depth).offset = progress.offset :=
  offset_logTransition preferences _ name depth progress

@[simp]
theorem offset_enter (preferences : ScanPreferences) (name : String) (depth : Nat)
    (progress : Scanning σ) : (progress.enter preferences name depth).offset = progress.offset := by
  rw [enter, offset_logTransition]
  split <;> rfl

theorem unlogged_enter (preferences : ScanPreferences) (name : String) (depth : Nat)
    (progress : Scanning σ) :
    (progress.enter preferences name depth).unlogged =
      if preferences.collectMetrics then
        { progress.unlogged with metrics := progress.unlogged.metrics.recordContext depth }
      else progress.unlogged := by
  rw [enter, unlogged_logTransition]
  split <;> rfl

end Scanning

/-- What a run comes to: the cursor if nothing stopped it. -/
def ScanStep.verdict : ScanStep → Verdict ScanError Nat
  | (progress, .done ()) => .done progress.offset
  | (_, .failed error) => .failed error
  | (_, .fault cause) => .fault cause

namespace ContextFamily

variable {κ : Type} {family : ContextFamily κ} {preferences : ScanPreferences} {source : Source}

/-! ## One token -/

/-- The checks pass exactly the tokens that start at the cursor, are not empty and are no
wildcard. -/
theorem defect?_eq_none_iff {context : κ} {offset : Nat} {token : Token} :
    family.defect? context offset token = none ↔
      token.kind ≠ .any ∧ token.offset = offset ∧ 0 < token.length := by
  unfold defect?
  by_cases wildcard : token.kind = .any
  · simp [TokenKind.isWildcard, wildcard]
  · by_cases start : token.offset = offset
    · by_cases empty : token.length = 0
      · simp [TokenKind.isWildcard, wildcard, start, empty]
      · simp [TokenKind.isWildcard, wildcard, start, empty, Nat.pos_of_ne_zero empty]
    · simp [TokenKind.isWildcard, wildcard, start]

theorem next_eq_done_iff {context : κ} {progress : Progress} {token : Token} :
    family.next preferences source context progress = .done token ↔
      family.token? context source progress.offset = .ok (some token) ∧
        family.defect? context progress.offset token = none ∧
          progress.tokens.size < maxTokenCount := by
  unfold next
  cases family.token? context source progress.offset with
  | error cause => simp
  | ok answer =>
      cases answer with
      | none => simp
      | some produced =>
          cases defect : family.defect? context progress.offset produced with
          | some error =>
              simp only [defect, reduceCtorEq, Except.ok.injEq, Option.some.injEq, false_iff]
              rintro ⟨rfl, sound, -⟩
              simp [defect] at sound
          | none =>
              by_cases full : maxTokenCount < progress.tokens.size + 1
              · simp only [defect, if_pos full, reduceCtorEq, false_iff]
                rintro ⟨-, -, room⟩
                omega
              · simp only [defect, if_neg full, Verdict.done.injEq, Except.ok.injEq,
                  Option.some.injEq]
                constructor
                · rintro rfl
                  exact ⟨rfl, defect, by omega⟩
                · rintro ⟨rfl, -, -⟩
                  rfl

theorem length_pos_of_next_eq_done {context : κ} {progress : Progress} {token : Token}
    (accepted : family.next preferences source context progress = .done token) :
    0 < token.length :=
  (defect?_eq_none_iff.mp (next_eq_done_iff.mp accepted).2.1).2.2

/-! ## Opening a context in the machine -/

theorem openContext_eq_ok {context : κ} {outer opened : List κ} {progress entered : Progress}
    (accepted : openContext preferences context outer progress = .ok (opened, entered)) :
    outer.length < maxContextDepth ∧ opened = context :: outer ∧
      entered.offset = progress.offset ∧ entered.tokens = progress.tokens := by
  unfold openContext at accepted
  split at accepted
  · cases accepted
  · next room =>
      cases accepted
      refine ⟨by omega, rfl, ?_, ?_⟩ <;> split <;> rfl

theorem openContext_eq_error {context : κ} {outer : List κ} {progress : Progress}
    {error : ScanError}
    (refused : openContext preferences context outer progress = .error error) :
    maxContextDepth ≤ outer.length ∧
      error = .contextTooDeep (outer.length + 1) progress.offset := by
  unfold openContext at refused
  split at refused
  · next full =>
      cases refused
      exact ⟨full, rfl⟩
  · cases refused

/-! ## Fuel of the machine -/

theorem runMachine_of_length_le {fuel : Nat} {opened : List κ} {progress : Progress}
    (ended : source.length ≤ progress.offset) :
    family.runMachine preferences source fuel opened progress = (progress, .done ()) := by
  cases fuel with
  | zero => rfl
  | succ fuel =>
      cases opened with
      | nil => rfl
      | cons context outer => rw [runMachine, if_neg (by omega)]

/-- The machine needs no more fuel than there are bytes left, and more fuel changes nothing. -/
theorem runMachine_eq_of_enough {fuel enough : Nat} {opened : List κ} {progress : Progress}
    (left : source.length - progress.offset ≤ fuel)
    (right : source.length - progress.offset ≤ enough) :
    family.runMachine preferences source fuel opened progress =
      family.runMachine preferences source enough opened progress := by
  induction fuel generalizing enough opened progress with
  | zero => rw [runMachine_of_length_le (by omega), runMachine_of_length_le (by omega)]
  | succ fuel ih =>
      cases enough with
      | zero => rw [runMachine_of_length_le (by omega), runMachine_of_length_le (by omega)]
      | succ enough =>
          cases opened with
          | nil => rfl
          | cons context outer =>
              rw [runMachine, runMachine]
              split
              · cases produced : family.next preferences source context progress with
                | failed error => rfl
                | fault cause => rfl
                | done token =>
                    have advanced := length_pos_of_next_eq_done produced
                    have remaining : ∀ opened, family.runMachine preferences source fuel opened
                        (progress.accept preferences token) =
                          family.runMachine preferences source enough opened
                            (progress.accept preferences token) := by
                      intro opened
                      exact ih (by simp; omega) (by simp; omega)
                    dsimp only
                    split
                    · exact remaining outer
                    · split
                      · exact remaining (context :: outer)
                      · next inner _ =>
                          cases opening : openContext preferences inner (context :: outer)
                              (progress.accept preferences token) with
                          | error error => rfl
                          | ok entered =>
                              obtain ⟨-, -, same, -⟩ := openContext_eq_ok opening
                              exact ih (by simp [same]; omega) (by simp [same]; omega)
              · rfl

/-! ## Calls as entries of the list -/

section

variable (family preferences source)

/-- How the machine goes on behind a context that was run inside others: where the context was
left it runs the others, what stopped the context stops it. -/
def resume (outer : List κ) : ScanStep → ScanStep
  | (progress, .done ()) =>
      family.runMachine preferences source (source.length - progress.offset) outer
        progress.unlogged
  | (progress, .failed error) => (progress.unlogged, .failed error)
  | (progress, .fault cause) => (progress.unlogged, .fault cause)

/-- How the machine goes on with one more context. -/
def runOpened (context : κ) (outer : List κ) (progress : Progress) : ScanStep :=
  match openContext preferences context outer progress with
  | .ok (opened, entered) =>
      family.runMachine preferences source (source.length - entered.offset) opened entered
  | .error error => (progress, .failed error)

variable {family preferences source} in
theorem runMachine_opened {fuel : Nat} {context : κ} {outer : List κ} {progress : Progress}
    (enough : source.length - progress.offset ≤ fuel) :
    (match openContext preferences context outer progress with
      | .ok (opened, entered) => family.runMachine preferences source fuel opened entered
      | .error error => (progress, .failed error)) =
      family.runOpened preferences source context outer progress := by
  unfold runOpened
  cases opening : openContext preferences context outer progress with
  | error error => rfl
  | ok entered =>
      obtain ⟨-, -, same, -⟩ := openContext_eq_ok opening
      exact runMachine_eq_of_enough (by rw [same]; exact enough) (Nat.le_refl _)

/-- What accepting tokens keeps, running a context keeps, if the contexts inside it do. -/
theorem runContext_keeps (holds : Progress → Prop)
    (accepts : ∀ token progress, holds progress → holds (progress.accept preferences token))
    {nested : κ → Progress → ScanStep}
    (inner : ∀ context progress, holds progress → holds (nested context progress).1)
    (context : κ) (fuel : Nat) {progress : Progress} (before : holds progress) :
    holds (family.runContext preferences source nested context fuel progress).1 := by
  induction fuel generalizing progress with
  | zero => exact before
  | succ fuel ih =>
      rw [runContext]
      split
      · cases family.next preferences source context progress with
        | failed error => exact before
        | fault cause => exact before
        | done token =>
            have accepted := accepts token progress before
            dsimp only
            split
            · exact accepted
            · split
              · exact ih accepted
              · next opened _ =>
                  have entered := inner opened _ accepted
                  split
                  · next reached returned =>
                      rw [returned] at entered
                      exact ih entered
                  · exact entered
      · exact before

/-- What accepting tokens and opening and closing contexts keep, a scan keeps. -/
theorem scanContext_keeps (holds : Progress → Prop)
    (accepts : ∀ token progress, holds progress → holds (progress.accept preferences token))
    (enters : ∀ name depth progress, holds progress →
      holds (progress.enter preferences name depth))
    (leaves : ∀ name depth progress, holds progress →
      holds (progress.leave preferences name depth))
    (levels : Nat) (context : κ) (progress : Progress) (before : holds progress) :
    holds (family.scanContext preferences source levels context progress).1 := by
  induction levels generalizing context progress with
  | zero => exact before
  | succ levels ih =>
      have entered := enters (family.name context) (maxContextDepth - levels) progress before
      have ran := runContext_keeps family preferences source holds accepts ih context
        (source.length -
          (progress.enter preferences (family.name context) (maxContextDepth - levels)).offset)
        entered
      rw [scanContext]
      split
      · next reached returned =>
          rw [returned] at ran
          exact leaves _ _ reached ran
      · exact ran

theorem offset_le_scanContext (levels : Nat) (context : κ) (progress : Progress) :
    progress.offset ≤
      (family.scanContext preferences source levels context progress).1.offset := by
  apply scanContext_keeps family preferences source fun reached => progress.offset ≤ reached.offset
  · intro token reached before
    exact Nat.le_trans before (Nat.le_add_right _ _)
  · intro name depth reached before
    rw [Scanning.offset_enter]
    exact before
  · intro name depth reached before
    rw [Scanning.offset_leave]
    exact before
  · exact Nat.le_refl _

/-- Running a context inside others: first the machine goes through the tokens of the context,
then it goes on with the others. The levels are the contexts that may still be opened. -/
theorem runMachine_eq_resume_runContext {levels : Nat} {context : κ} {outer : List κ}
    (nested : ∀ inner progress,
      family.runOpened preferences source inner (context :: outer) progress.unlogged =
        family.resume preferences source (context :: outer)
          (family.scanContext preferences source levels inner progress))
    {fuel : Nat} {progress : Progress} (enough : source.length - progress.offset ≤ fuel) :
    family.runMachine preferences source fuel (context :: outer) progress.unlogged =
      family.resume preferences source outer
        (family.runContext preferences source (family.scanContext preferences source levels)
          context fuel progress) := by
  induction fuel generalizing progress with
  | zero =>
      have ended : source.length ≤ progress.unlogged.offset := by simp; omega
      rw [runContext, resume, runMachine_of_length_le ended, runMachine_of_length_le ended]
  | succ fuel ih =>
      by_cases inside : progress.offset < source.length
      · have asked : family.next preferences source context progress.unlogged =
            family.next preferences source context progress := rfl
        rw [runMachine, runContext, if_pos inside,
          if_pos (show progress.unlogged.offset < source.length from inside), asked]
        cases produced : family.next preferences source context progress with
        | failed error => rfl
        | fault cause => rfl
        | done token =>
            have advanced := length_pos_of_next_eq_done produced
            simp only [Scanning.accept_unlogged]
            have left : source.length - (progress.accept preferences token).offset ≤ fuel := by
              simp; omega
            split
            · rw [resume]
              exact runMachine_eq_of_enough left (Nat.le_refl _)
            · cases family.opens? context token with
              | none => exact ih left
              | some inner =>
                  refine (runMachine_opened
                    (show source.length - (progress.accept preferences token).unlogged.offset ≤
                      fuel from left)).trans ?_
                  rw [nested]
                  have forward := offset_le_scanContext family preferences source levels inner
                    (progress.accept preferences token)
                  dsimp only
                  generalize family.scanContext preferences source levels inner
                    (progress.accept preferences token) = step at forward ⊢
                  obtain ⟨reached, verdict⟩ := step
                  cases verdict with
                  | failed error => rfl
                  | fault cause => rfl
                  | done value =>
                      have rest : source.length - reached.unlogged.offset ≤ fuel :=
                        Nat.le_trans (Nat.sub_le_sub_left forward _) left
                      refine (runMachine_eq_of_enough (Nat.le_refl _) rest).trans ?_
                      exact ih rest
      · have ended : source.length ≤ progress.unlogged.offset := Nat.le_of_not_lt inside
        rw [runMachine_of_length_le ended, runContext, if_neg inside, resume,
          runMachine_of_length_le ended]

/-- A context that is run inside others takes the tokens and stops as the machine does. -/
theorem runOpened_eq_resume_scanContext {levels : Nat} {context : κ} {outer : List κ}
    (depth : outer.length + levels = maxContextDepth) (progress : Progress) :
    family.runOpened preferences source context outer progress.unlogged =
      family.resume preferences source outer
        (family.scanContext preferences source levels context progress) := by
  induction levels generalizing context outer progress with
  | zero =>
      have full : outer.length = maxContextDepth := by omega
      rw [runOpened, openContext, if_pos (Nat.le_of_eq full.symm), full]
      rfl
  | succ levels ih =>
      have room : ¬maxContextDepth ≤ outer.length := by omega
      have place : maxContextDepth - levels = outer.length + 1 := by omega
      have entered :=
        Scanning.unlogged_enter preferences (family.name context) (outer.length + 1) progress
      rw [runOpened, openContext, if_neg room, scanContext, place]
      dsimp only
      rw [← entered]
      generalize progress.enter preferences (family.name context) (outer.length + 1) = started
      have deeper : (context :: outer).length + levels = maxContextDepth := by simp; omega
      have simulated := runMachine_eq_resume_runContext family preferences source
        (fun _ progress => ih deeper progress) (Nat.le_refl (source.length - started.offset))
      refine simulated.trans ?_
      generalize family.runContext preferences source _ context _ started = step
      obtain ⟨reached, verdict⟩ := step
      cases verdict with
      | failed error => rfl
      | fault cause => rfl
      | done value => simp only [resume, Scanning.unlogged_leave, Scanning.offset_leave]

/-! ## Whole scans -/

theorem machine_eq_runOpened (root : κ) (offset : Nat) :
    family.machine preferences source root offset =
      family.runOpened preferences source root [] { offset := offset, events := #[] } := by
  rw [machine, runOpened]
  cases opening : openContext preferences root [] { offset := offset, events := #[] } with
  | error error => rfl
  | ok entered =>
      obtain ⟨-, -, same, -⟩ := openContext_eq_ok opening
      simp only [same]

theorem machine_eq_scanContext (root : κ) {offset : Nat} {progress : Progress}
    (start : progress.unlogged = { offset := offset, events := #[] }) :
    family.machine preferences source root offset =
      ((family.scanContext preferences source maxContextDepth root progress).1.unlogged,
        (family.scanContext preferences source maxContextDepth root progress).2) := by
  rw [machine_eq_runOpened, ← start, runOpened_eq_resume_scanContext family preferences source
    (show ([] : List κ).length + maxContextDepth = maxContextDepth by simp)]
  obtain ⟨reached, verdict⟩ := family.scanContext preferences source maxContextDepth root progress
  cases verdict with
  | failed error => rfl
  | fault cause => rfl
  | done value =>
      rw [resume]
      cases source.length - reached.offset <;> rfl

/-- A scan of a source that is not too long takes the tokens of the machine and ends like it. -/
theorem scanFrom_eq_of_length_le (short : source.length ≤ maxSourceLength) (root : κ)
    (offset : Nat) :
    (family.scanFrom preferences root source offset).tokens =
        (family.machine preferences source root offset).1.tokens ∧
      (family.scanFrom preferences root source offset).metrics =
        (family.machine preferences source root offset).1.metrics ∧
      (family.scanFrom preferences root source offset).verdict =
        ScanStep.verdict (family.machine preferences source root offset) := by
  rw [scanFrom, scanInto, if_neg (Nat.not_lt.mpr short)]
  rw [machine_eq_scanContext family preferences source root
    (show Scanning.unlogged { offset := offset, events := _ } =
      { offset := offset, events := #[] } from rfl)]
  dsimp only
  generalize family.scanContext preferences source maxContextDepth root (_ : Progress) = step
  obtain ⟨reached, verdict⟩ := step
  cases verdict with
  | failed error => exact ⟨rfl, rfl, rfl⟩
  | fault cause => exact ⟨rfl, rfl, rfl⟩
  | done value => exact ⟨rfl, rfl, rfl⟩

end

end ContextFamily

end CssSelector
