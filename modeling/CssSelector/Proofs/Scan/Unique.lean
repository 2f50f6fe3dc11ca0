import CssSelector.Proofs.Scan.Trace

/-!
# Scans are determined by their traces

Contexts answer the same way when they are asked again. So of two traces from one place the one
goes on where the other stops, and what a scan comes to can be read off any trace with an end,
`scanFrom_eq_of_trace`.
-/

set_option autoImplicit false

namespace CssSelector

namespace ContextFamily

variable {κ : Type} {family : ContextFamily κ} {preferences : ScanPreferences} {source : Source}

theorem Accepts.unique {context : κ} {offset : Nat} {left right : Token}
    (first : family.Accepts source context offset left)
    (second : family.Accepts source context offset right) : left = right := by
  cases first.produced.symm.trans second.produced
  rfl

theorem Trace.append {opened between final : List κ} {offset place stop : Nat}
    {left right : List Token} (first : family.Trace source opened offset left between place)
    (second : family.Trace source between place right final stop) :
    family.Trace source opened offset (left ++ right) final stop := by
  induction first with
  | refl => exact second
  | step depth accepted _ ih => exact .step depth accepted (ih second)

/-- Of two traces from one place, the second goes on behind the first, or it stops where the first
takes one more token. -/
theorem Trace.comparable {opened between final : List κ} {offset place stop : Nat}
    {left right : List Token} (first : family.Trace source opened offset left between place)
    (second : family.Trace source opened offset right final stop) :
    (∃ rest, right = left ++ rest ∧ family.Trace source between place rest final stop) ∨
      ∃ context outer token rest, left = right ++ token :: rest ∧ final = context :: outer ∧
        outer.length < maxContextDepth ∧ family.Accepts source context stop token := by
  induction first generalizing right with
  | refl => exact .inl ⟨right, rfl, second⟩
  | @step context outer _ _ _ token tokens depth accepted _ ih =>
      cases second with
      | refl => exact .inr ⟨context, outer, token, tokens, rfl, rfl, depth, accepted⟩
      | step _ other later =>
          cases accepted.unique other
          rcases ih later with ⟨rest, rfl, behind⟩ | ⟨inner, others, next, rest, rfl, more⟩
          · exact .inl ⟨rest, rfl, behind⟩
          · exact .inr ⟨inner, others, next, rest, rfl, more⟩

/-! ## Ends -/

theorem Ends.unique {opened : List κ} {offset count : Nat} {left right : Verdict ScanError Nat}
    (first : family.Ends source preferences opened offset count left)
    (second : family.Ends source preferences opened offset count right) : left = right := by
  cases first with
  | closed =>
      cases second with
      | closed => rfl
      | exhausted _ _ => rfl
      | tooDeep excess => cases excess
  | exhausted ended depth =>
      cases second with
      | closed => rfl
      | exhausted _ _ => rfl
      | stuck inside _ _ => omega
      | defective inside _ _ _ => omega
      | crowded _ accepted => exact absurd accepted.inside (Nat.not_lt.mpr ended)
      | tooDeep excess => omega
      | faulted inside _ _ => omega
  | stuck inside depth answer =>
      cases second with
      | exhausted ended _ => omega
      | stuck _ _ _ => rfl
      | defective _ _ other _ => cases answer.symm.trans other
      | crowded _ accepted => cases answer.symm.trans accepted.produced
      | tooDeep excess => rw [List.length_cons] at excess; omega
      | faulted _ _ other => cases answer.symm.trans other
  | defective inside depth answer defect =>
      cases second with
      | exhausted ended _ => omega
      | stuck _ _ other => cases answer.symm.trans other
      | defective _ _ other same =>
          cases answer.symm.trans other
          cases defect.symm.trans same
          rfl
      | crowded _ accepted =>
          cases answer.symm.trans accepted.produced
          cases defect.symm.trans accepted.sound
      | tooDeep excess => rw [List.length_cons] at excess; omega
      | faulted _ _ other => cases answer.symm.trans other
  | crowded depth accepted =>
      cases second with
      | exhausted ended _ => exact absurd accepted.inside (Nat.not_lt.mpr ended)
      | stuck _ _ other => cases accepted.produced.symm.trans other
      | defective _ _ other defect =>
          cases accepted.produced.symm.trans other
          cases accepted.sound.symm.trans defect
      | crowded _ _ => rfl
      | tooDeep excess => rw [List.length_cons] at excess; omega
      | faulted _ _ other => cases accepted.produced.symm.trans other
  | tooDeep excess =>
      cases second with
      | closed => cases excess
      | exhausted _ depth => omega
      | stuck _ depth _ => rw [List.length_cons] at excess; omega
      | defective _ depth _ _ => rw [List.length_cons] at excess; omega
      | crowded depth _ => rw [List.length_cons] at excess; omega
      | tooDeep _ => rfl
      | faulted _ depth _ => rw [List.length_cons] at excess; omega
  | faulted inside depth answer =>
      cases second with
      | exhausted ended _ => omega
      | stuck _ _ other => cases answer.symm.trans other
      | defective _ _ other _ => cases answer.symm.trans other
      | crowded _ accepted => cases answer.symm.trans accepted.produced
      | tooDeep excess => rw [List.length_cons] at excess; omega
      | faulted _ _ other =>
          cases answer.symm.trans other
          rfl

/-- Where there is one more token, only the limit on tokens ends a scan. -/
theorem Ends.eq_of_accepts {context : κ} {outer : List κ} {offset count : Nat} {token : Token}
    {verdict : Verdict ScanError Nat}
    (ends : family.Ends source preferences (context :: outer) offset count verdict)
    (depth : outer.length < maxContextDepth)
    (accepted : family.Accepts source context offset token) :
    count = maxTokenCount ∧ verdict = .failed (.tooManyTokens (maxTokenCount + 1)) := by
  cases ends with
  | exhausted ended _ => exact absurd accepted.inside (Nat.not_lt.mpr ended)
  | stuck _ _ answer => cases answer.symm.trans accepted.produced
  | defective _ _ answer defect =>
      cases answer.symm.trans accepted.produced
      cases defect.symm.trans accepted.sound
  | crowded _ _ => exact ⟨rfl, rfl⟩
  | tooDeep excess => rw [List.length_cons] at excess; omega
  | faulted _ _ answer => cases answer.symm.trans accepted.produced

/-- No other end depends on how many tokens there were. -/
theorem Ends.recount {opened : List κ} {offset count other : Nat}
    {verdict : Verdict ScanError Nat}
    (ends : family.Ends source preferences opened offset count verdict)
    (free : verdict ≠ .failed (.tooManyTokens (maxTokenCount + 1))) :
    family.Ends source preferences opened offset other verdict := by
  cases ends with
  | closed => exact .closed
  | exhausted ended depth => exact .exhausted ended depth
  | stuck inside depth answer => exact .stuck inside depth answer
  | defective inside depth answer defect => exact .defective inside depth answer defect
  | crowded _ _ => exact absurd rfl free
  | tooDeep excess => exact .tooDeep excess
  | faulted inside depth answer => exact .faulted inside depth answer

/-! ## Whole scans -/

/-- A scan that no limit on tokens has ended goes along every trace from where it started. -/
theorem Trace.exists_rest {opened between final : List κ} {offset place stop count : Nat}
    {left tokens : List Token} {verdict : Verdict ScanError Nat}
    (first : family.Trace source opened offset left between place)
    (whole : family.Trace source opened offset tokens final stop)
    (ends : family.Ends source preferences final stop count verdict)
    (free : verdict ≠ .failed (.tooManyTokens (maxTokenCount + 1))) :
    ∃ rest, tokens = left ++ rest ∧ family.Trace source between place rest final stop := by
  rcases first.comparable whole with behind | ⟨context, outer, token, rest, -, rfl, depth, more⟩
  · exact behind
  · exact absurd (ends.eq_of_accepts depth more).2 free

/-- Two traces from one place that both come to an end are the same, unless the one goes on where
the limit on tokens has ended the other. -/
theorem Trace.unique {opened between final : List κ} {offset place stop : Nat}
    {left right : List Token} {verdict other : Verdict ScanError Nat}
    (first : family.Trace source opened offset left between place)
    (firstEnds : family.Ends source preferences between place left.length verdict)
    (second : family.Trace source opened offset right final stop)
    (secondEnds : family.Ends source preferences final stop right.length other)
    (firstRoom : left.length ≤ maxTokenCount) (secondRoom : right.length ≤ maxTokenCount) :
    left = right ∧ verdict = other := by
  rcases first.comparable second with ⟨rest, rfl, behind⟩ | ⟨context, outer, token, rest, rfl, more⟩
  · cases rest with
    | nil =>
        obtain ⟨rfl, rfl⟩ := behind.eq_of_no_tokens
        rw [List.append_nil] at secondEnds
        exact ⟨(List.append_nil left).symm, firstEnds.unique secondEnds⟩
    | cons token rest =>
        obtain ⟨context, outer, rfl, depth, accepted, -⟩ := behind.exists_accepts
        obtain ⟨full, -⟩ := firstEnds.eq_of_accepts depth accepted
        rw [List.length_append, List.length_cons] at secondRoom
        omega
  · obtain ⟨rfl, depth, accepted⟩ := more
    obtain ⟨full, -⟩ := secondEnds.eq_of_accepts depth accepted
    rw [List.length_append, List.length_cons] at firstRoom
    omega

/-- A trace from the outermost context with an end tells what a scan comes to. -/
theorem scanFrom_eq_of_trace {root : κ} {final : List κ} {offset stop : Nat}
    {tokens : List Token} {verdict : Verdict ScanError Nat}
    (short : source.length ≤ maxSourceLength)
    (trace : family.Trace source [root] offset tokens final stop)
    (room : tokens.length ≤ maxTokenCount)
    (ends : family.Ends source preferences final stop tokens.length verdict) :
    (family.scanFrom preferences root source offset).tokens.toList = tokens ∧
      (family.scanFrom preferences root source offset).verdict = verdict := by
  obtain ⟨last, place, whole, fits, settled⟩ :=
    scanFrom_trace family preferences root offset short
  rw [← Array.length_toList] at fits settled
  exact whole.unique settled trace ends fits room

/-- Where the limit on tokens ends neither, they need not be counted. -/
theorem scanFrom_eq_of_trace_of_ne {root : κ} {final : List κ} {offset stop count : Nat}
    {tokens : List Token} {verdict : Verdict ScanError Nat}
    (short : source.length ≤ maxSourceLength)
    (trace : family.Trace source [root] offset tokens final stop)
    (ends : family.Ends source preferences final stop count verdict)
    (settled : verdict ≠ .failed (.tooManyTokens (maxTokenCount + 1)))
    (free : (family.scanFrom preferences root source offset).verdict ≠
      .failed (.tooManyTokens (maxTokenCount + 1))) :
    (family.scanFrom preferences root source offset).tokens.toList = tokens ∧
      (family.scanFrom preferences root source offset).verdict = verdict := by
  obtain ⟨last, place, whole, -, stops⟩ := scanFrom_trace family preferences root offset short
  obtain ⟨rest, parts, further⟩ := trace.exists_rest whole stops free
  cases rest with
  | nil =>
      obtain ⟨rfl, rfl⟩ := further.eq_of_no_tokens
      rw [List.append_nil] at parts
      exact ⟨parts, stops.unique (ends.recount settled)⟩
  | cons token rest =>
      obtain ⟨context, outer, rfl, depth, accepted, -⟩ := further.exists_accepts
      exact absurd (ends.eq_of_accepts depth accepted).2 settled

end ContextFamily

end CssSelector
