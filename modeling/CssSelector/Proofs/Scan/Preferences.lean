import CssSelector.Proofs.Scan.Unique

/-!
# Scans under different preferences

Preferences do not change what a scan comes to. The tokens are the same, and so is the verdict, but
for the rest of the source in the error of a scan that is stuck: `scanFrom_preferences`.
-/

set_option autoImplicit false

namespace CssSelector

/-- A verdict with another form of its error. -/
def Verdict.mapError {ε δ α : Type} (change : ε → δ) : Verdict ε α → Verdict δ α
  | done value => done value
  | failed error => failed (change error)
  | fault cause => fault cause

/-- What an error at an offset tells about the rest of the source: all of it if that is asked for,
unless the offset is no place between characters. -/
def ScanPreferences.remainder (preferences : ScanPreferences) (source : Source) (offset : Nat) :
    String :=
  if preferences.includeRemainder then
    ((dropBytes? offset source.chars).map String.ofList).getD ""
  else ""

/-- An error as it is reported under given preferences. -/
def ScanError.reported (preferences : ScanPreferences) (source : Source) : ScanError → ScanError
  | stuck offset _ context => stuck offset (preferences.remainder source offset) context
  | error => error

theorem ScanPreferences.remainder_eq (preferences : ScanPreferences) (source : Source)
    (offset : Nat) :
    preferences.remainder source offset =
      if preferences.includeRemainder then source.textAfter offset else "" := by
  unfold remainder Source.textAfter
  rw [Source.after?_eq]
  cases dropBytes? offset source.chars with
  | none => rfl
  | some rest => rfl

namespace ContextFamily

variable {κ : Type} {family : ContextFamily κ} {source : Source}

theorem reported_defect? {preferences : ScanPreferences} {context : κ} {offset : Nat}
    {token : Token} {error : ScanError}
    (defect : family.defect? context offset token = some error) :
    error.reported preferences source = error := by
  rcases defect?_eq_some defect with same | same | same <;> rw [same] <;> rfl

/-- Where a scan ends under some preferences, it ends under others, and with the same verdict but
for what it reports. -/
theorem Ends.change {preferences : ScanPreferences} (other : ScanPreferences) {opened : List κ}
    {offset count : Nat} {verdict : Verdict ScanError Nat}
    (ends : family.Ends source preferences opened offset count verdict) :
    family.Ends source other opened offset count
      (verdict.mapError (ScanError.reported other source)) := by
  cases ends with
  | closed => exact .closed
  | exhausted ended depth => exact .exhausted ended depth
  | stuck inside depth answer =>
      simp only [Verdict.mapError, ScanError.reported, ScanPreferences.remainder_eq]
      exact .stuck inside depth answer
  | defective inside depth answer defect =>
      simp only [Verdict.mapError, reported_defect? defect]
      exact .defective inside depth answer defect
  | crowded depth accepted => exact .crowded depth accepted
  | tooDeep excess => exact .tooDeep excess
  | faulted inside depth answer => exact .faulted inside depth answer

/-- Two scans of one source under different preferences take the same tokens, and their verdicts
agree but for the rest of the source that their own preferences ask for. -/
theorem scanFrom_preferences (family : ContextFamily κ) (left right : ScanPreferences) (root : κ)
    (source : Source) (offset : Nat) :
    (family.scanFrom left root source offset).tokens =
        (family.scanFrom right root source offset).tokens ∧
      (family.scanFrom left root source offset).verdict =
        (family.scanFrom right root source offset).verdict.mapError
          (ScanError.reported left source) := by
  by_cases long : maxSourceLength < source.length
  · obtain ⟨tokens, -, verdict⟩ := scanFrom_of_too_long family left root offset long
    obtain ⟨same, -, refused⟩ := scanFrom_of_too_long family right root offset long
    rw [tokens, verdict, same, refused]
    exact ⟨rfl, rfl⟩
  · have short := Nat.le_of_not_lt long
    obtain ⟨final, stop, trace, room, ends⟩ := scanFrom_trace family right root offset short
    have same := scanFrom_eq_of_trace short trace room (ends.change left)
    exact ⟨Array.toList_inj.mp same.1, same.2⟩

end ContextFamily

end CssSelector
