import CssSelector.Proofs.Scan.Stack

/-!
# Traces of scans

A trace lists the tokens that a scan accepts, with the contexts that are open before the first and
behind the last of them. `Ends` lists why a scan stops where a trace has led it. Every scan has a
trace and an end, `scanFrom_trace`; what holds of all traces holds of all scans.
-/

set_option autoImplicit false

namespace CssSelector

namespace ContextFamily

variable {κ : Type} (family : ContextFamily κ) (source : Source)

/-- A token that a context produces at an offset and that passes the checks. -/
structure Accepts (context : κ) (offset : Nat) (token : Token) : Prop where
  inside : offset < source.length
  produced : family.token? context source offset = .ok (some token)
  sound : family.defect? context offset token = none

/-- The contexts that are open behind a token of the innermost one. -/
def contextsAfter (context : κ) (outer : List κ) (token : Token) : List κ :=
  if family.closes context token then outer
  else
    match family.opens? context token with
    | none => context :: outer
    | some inner => inner :: context :: outer

/-- Accepted tokens, from the open contexts and the offset before them to those behind them. Only
the last token may open one context too many. -/
inductive Trace : List κ → Nat → List Token → List κ → Nat → Prop where
  | refl {opened : List κ} {offset : Nat} : Trace opened offset [] opened offset
  | step {context : κ} {outer opened : List κ} {offset stop : Nat} {token : Token}
      {tokens : List Token} :
      outer.length < maxContextDepth → family.Accepts source context offset token →
      Trace (family.contextsAfter context outer token) (offset + token.length) tokens opened
        stop →
      Trace (context :: outer) offset (token :: tokens) opened stop

/-- Why a scan ends with given open contexts, at an offset and after a number of tokens. -/
inductive Ends (preferences : ScanPreferences) :
    List κ → Nat → Nat → Verdict ScanError Nat → Prop where
  /-- The outermost context was closed. -/
  | closed {offset count : Nat} : Ends preferences [] offset count (.done offset)
  /-- The source is at its end; contexts may still be open. -/
  | exhausted {opened : List κ} {offset count : Nat} :
      source.length ≤ offset → opened.length ≤ maxContextDepth →
      Ends preferences opened offset count (.done offset)
  /-- The innermost context has no token. -/
  | stuck {context : κ} {outer : List κ} {offset count : Nat} :
      offset < source.length → outer.length < maxContextDepth →
      family.token? context source offset = .ok none →
      Ends preferences (context :: outer) offset count
        (.failed (.stuck offset
          (if preferences.includeRemainder then source.textAfter offset else "")
          (family.name context)))
  /-- The token of the innermost context does not pass the checks. -/
  | defective {context : κ} {outer : List κ} {offset count : Nat} {token : Token}
      {error : ScanError} :
      offset < source.length → outer.length < maxContextDepth →
      family.token? context source offset = .ok (some token) →
      family.defect? context offset token = some error →
      Ends preferences (context :: outer) offset count (.failed error)
  /-- There is one token too many. -/
  | crowded {context : κ} {outer : List κ} {offset : Nat} {token : Token} :
      outer.length < maxContextDepth → family.Accepts source context offset token →
      Ends preferences (context :: outer) offset maxTokenCount
        (.failed (.tooManyTokens (maxTokenCount + 1)))
  /-- The last token opened one context too many. -/
  | tooDeep {opened : List κ} {offset count : Nat} :
      opened.length = maxContextDepth + 1 →
      Ends preferences opened offset count
        (.failed (.contextTooDeep (maxContextDepth + 1) offset))
  /-- The innermost context broke a contract. -/
  | faulted {context : κ} {outer : List κ} {offset count : Nat} {cause : Fault} :
      offset < source.length → outer.length < maxContextDepth →
      family.token? context source offset = .error cause →
      Ends preferences (context :: outer) offset count (.fault cause)

variable {family source}

theorem contextsAfter_of_closes {context : κ} {outer : List κ} {token : Token}
    (closing : family.closes context token = true) :
    family.contextsAfter context outer token = outer := if_pos closing

theorem contextsAfter_of_not_opens {context : κ} {outer : List κ} {token : Token}
    (going : ¬family.closes context token = true) (plain : family.opens? context token = none) :
    family.contextsAfter context outer token = context :: outer := by
  rw [contextsAfter, if_neg going, plain]

theorem contextsAfter_of_opens {context inner : κ} {outer : List κ} {token : Token}
    (going : ¬family.closes context token = true)
    (opening : family.opens? context token = some inner) :
    family.contextsAfter context outer token = inner :: context :: outer := by
  rw [contextsAfter, if_neg going, opening]

theorem Trace.cut {opened final : List κ} {offset stop : Nat} {left right : List Token}
    (trace : family.Trace source opened offset (left ++ right) final stop) :
    ∃ between place, family.Trace source opened offset left between place ∧
      family.Trace source between place right final stop := by
  induction left generalizing opened offset with
  | nil => exact ⟨opened, offset, .refl, trace⟩
  | cons token left ih =>
      cases trace with
      | step depth accepted later =>
          obtain ⟨between, place, first, second⟩ := ih later
          exact ⟨between, place, .step depth accepted first, second⟩

theorem Trace.exists_accepts {opened final : List κ} {offset stop : Nat} {token : Token}
    {tokens : List Token}
    (trace : family.Trace source opened offset (token :: tokens) final stop) :
    ∃ context outer, opened = context :: outer ∧ outer.length < maxContextDepth ∧
      family.Accepts source context offset token ∧
      family.Trace source (family.contextsAfter context outer token) (offset + token.length) tokens
        final stop := by
  cases trace with
  | step depth accepted later => exact ⟨_, _, rfl, depth, accepted, later⟩

theorem Trace.eq_of_no_tokens {opened final : List κ} {offset stop : Nat}
    (trace : family.Trace source opened offset [] final stop) : final = opened ∧ stop = offset := by
  generalize none : ([] : List Token) = tokens at trace
  cases trace with
  | refl => exact ⟨rfl, rfl⟩
  | step _ _ _ => cases none

theorem Trace.eq_nil_of_nil {final : List κ} {offset stop : Nat} {tokens : List Token}
    (trace : family.Trace source [] offset tokens final stop) : tokens = [] ∧ final = [] := by
  cases trace with
  | refl => exact ⟨rfl, rfl⟩

theorem getLast?_contextsAfter {root context : κ} {outer : List κ}
    (bottom : (context :: outer).getLast? = some root) (token : Token) :
    (family.contextsAfter context outer token).getLast? = some root ∨
      family.contextsAfter context outer token = [] ∧ family.closes root token = true := by
  by_cases closing : family.closes context token = true
  · rw [contextsAfter_of_closes closing]
    cases outer with
    | nil =>
        cases bottom
        exact .inr ⟨rfl, closing⟩
    | cons next outer => exact .inl (by rwa [List.getLast?_cons_cons] at bottom)
  · cases opening : family.opens? context token with
    | none =>
        rw [contextsAfter_of_not_opens closing opening]
        exact .inl bottom
    | some inner =>
        rw [contextsAfter_of_opens closing opening, List.getLast?_cons_cons]
        exact .inl bottom

/-- The outermost context stays open until a last token closes it. -/
theorem Trace.outermost {root : κ} {opened final : List κ} {offset stop : Nat}
    {tokens : List Token} (trace : family.Trace source opened offset tokens final stop)
    (bottom : opened.getLast? = some root) :
    final.getLast? = some root ∨
      final = [] ∧ ∃ last, tokens.getLast? = some last ∧ family.closes root last = true := by
  induction trace with
  | refl => exact .inl bottom
  | @step context outer _ _ _ token tokens _ _ later ih =>
      rcases getLast?_contextsAfter bottom token with stays | ⟨gone, closing⟩
      · rcases ih stays with stays | ⟨gone, last, found, closing⟩
        · exact .inl stays
        · exact .inr ⟨gone, last, by rw [List.getLast?_cons, found]; rfl, closing⟩
      · rw [gone] at later
        obtain ⟨rfl, rfl⟩ := later.eq_nil_of_nil
        exact .inr ⟨rfl, token, rfl, closing⟩

theorem defect?_eq_some {context : κ} {token : Token} {offset : Nat} {error : ScanError}
    (defect : family.defect? context offset token = some error) :
    error = .wildcardToken offset (family.name context) ∨
      error = .offsetMismatch offset token.offset (family.name context) ∨
        error = .zeroLengthToken offset token.kind (family.name context) := by
  unfold defect? at defect
  split at defect
  · exact .inl (Option.some.inj defect).symm
  · split at defect
    · exact .inr (.inl (Option.some.inj defect).symm)
    · split at defect
      · exact .inr (.inr (Option.some.inj defect).symm)
      · cases defect

theorem defect?_ne_contextTooDeep {context : κ} {token : Token} {offset depth place : Nat} :
    family.defect? context offset token ≠ some (.contextTooDeep depth place) := by
  intro defect
  rcases defect?_eq_some defect with same | same | same <;> cases same

/-- Only a scan that is stopped for it ends with more contexts open than allowed. -/
theorem Ends.length_opened {preferences : ScanPreferences} {opened : List κ}
    {offset count : Nat} {verdict : Verdict ScanError Nat}
    (ends : family.Ends source preferences opened offset count verdict) :
    (opened.length ≤ maxContextDepth ∧
        ∀ depth place, verdict ≠ .failed (.contextTooDeep depth place)) ∨
      opened.length = maxContextDepth + 1 ∧
        verdict = .failed (.contextTooDeep (maxContextDepth + 1) offset) := by
  cases ends with
  | closed => exact .inl ⟨Nat.zero_le _, nofun⟩
  | exhausted _ depth => exact .inl ⟨depth, nofun⟩
  | stuck _ depth _ => exact .inl ⟨depth, nofun⟩
  | defective _ depth _ defect =>
      refine .inl ⟨depth, ?_⟩
      rintro _ _ ⟨⟩
      exact absurd defect defect?_ne_contextTooDeep
  | crowded depth _ => exact .inl ⟨depth, nofun⟩
  | tooDeep excess => exact .inr ⟨excess, rfl⟩
  | faulted _ depth _ => exact .inl ⟨depth, nofun⟩

/-! ## The machine follows traces -/

theorem ends_of_next_eq_failed {preferences : ScanPreferences} {context : κ} {outer : List κ}
    {progress : Progress} {error : ScanError}
    (inside : progress.offset < source.length) (depth : outer.length < maxContextDepth)
    (room : progress.tokens.size ≤ maxTokenCount)
    (refused : family.next preferences source context progress = .failed error) :
    family.Ends source preferences (context :: outer) progress.offset progress.tokens.size
      (.failed error) := by
  unfold next at refused
  cases answer : family.token? context source progress.offset with
  | error cause => simp [answer] at refused
  | ok produced =>
      cases produced with
      | none =>
          simp only [answer, Verdict.failed.injEq] at refused
          rw [← refused]
          exact .stuck inside depth answer
      | some token =>
          cases checked : family.defect? context progress.offset token with
          | some defect =>
              simp only [answer, checked, Verdict.failed.injEq] at refused
              rw [← refused]
              exact .defective inside depth answer checked
          | none =>
              simp only [answer, checked] at refused
              split at refused
              · next full =>
                  have count : progress.tokens.size = maxTokenCount := by omega
                  simp only [count, Verdict.failed.injEq] at refused ⊢
                  rw [← refused]
                  exact .crowded depth ⟨inside, answer, checked⟩
              · cases refused

theorem ends_of_next_eq_fault {preferences : ScanPreferences} {context : κ} {outer : List κ}
    {progress : Progress} {cause : Fault}
    (inside : progress.offset < source.length) (depth : outer.length < maxContextDepth)
    (broken : family.next preferences source context progress = .fault cause) :
    family.Ends source preferences (context :: outer) progress.offset progress.tokens.size
      (.fault cause) := by
  unfold next at broken
  cases answer : family.token? context source progress.offset with
  | error found =>
      simp only [answer, Verdict.fault.injEq] at broken
      rw [← broken]
      exact .faulted inside depth answer
  | ok produced =>
      cases produced with
      | none => simp [answer] at broken
      | some token =>
          cases checked : family.defect? context progress.offset token with
          | some defect => simp [answer, checked] at broken
          | none =>
              simp only [answer, checked] at broken
              split at broken <;> cases broken

/-- A run from some progress goes along a trace and ends as `Ends` says. -/
def Follows (family : ContextFamily κ) (source : Source) (preferences : ScanPreferences)
    (opened : List κ) (progress : Progress) (step : ScanStep) : Prop :=
  ∃ tokens final,
    family.Trace source opened progress.offset tokens final step.1.offset ∧
      step.1.tokens.toList = progress.tokens.toList ++ tokens ∧
      step.1.tokens.size ≤ maxTokenCount ∧
      family.Ends source preferences final step.1.offset step.1.tokens.size
        (ScanStep.verdict step)

theorem Follows.halt {preferences : ScanPreferences} {opened : List κ} {progress : Progress}
    {verdict : Verdict ScanError Unit} (room : progress.tokens.size ≤ maxTokenCount)
    (ends : family.Ends source preferences opened progress.offset progress.tokens.size
      (ScanStep.verdict (progress, verdict))) :
    family.Follows source preferences opened progress (progress, verdict) :=
  ⟨[], opened, .refl, by simp, room, ends⟩

theorem Follows.accept {preferences : ScanPreferences} {context : κ} {outer : List κ}
    {progress reached : Progress} {token : Token} {step : ScanStep}
    (depth : outer.length < maxContextDepth)
    (accepted : family.Accepts source context progress.offset token)
    (cursor : reached.offset = progress.offset + token.length)
    (taken : reached.tokens = progress.tokens.push token)
    (later : family.Follows source preferences (family.contextsAfter context outer token)
      reached step) :
    family.Follows source preferences (context :: outer) progress step := by
  obtain ⟨tokens, final, trace, appended, room, ends⟩ := later
  rw [cursor] at trace
  refine ⟨token :: tokens, final, .step depth accepted trace, ?_, room, ends⟩
  rw [appended, taken]
  simp

theorem runMachine_follows {preferences : ScanPreferences} {fuel : Nat} {opened : List κ}
    {progress : Progress} (enough : source.length - progress.offset ≤ fuel)
    (depth : opened.length ≤ maxContextDepth) (room : progress.tokens.size ≤ maxTokenCount) :
    family.Follows source preferences opened progress
      (family.runMachine preferences source fuel opened progress) := by
  -- each token takes bytes of the source, so the fuel lasts for what is left of it
  induction fuel generalizing opened progress with
  | zero => exact .halt room (.exhausted (by omega) depth)
  | succ fuel ih =>
      cases opened with
      | nil => exact .halt room .closed
      | cons context outer =>
          have shallow : outer.length < maxContextDepth := depth
          rw [runMachine]
          split
          · next inside =>
              cases produced : family.next preferences source context progress with
              | failed error =>
                  exact .halt room (ends_of_next_eq_failed inside shallow room produced)
              | fault cause => exact .halt room (ends_of_next_eq_fault inside shallow produced)
              | done token =>
                  obtain ⟨answer, sound, free⟩ := next_eq_done_iff.mp produced
                  have advanced := length_pos_of_next_eq_done produced
                  have accepted : family.Accepts source context progress.offset token :=
                    ⟨inside, answer, sound⟩
                  have left : source.length - (progress.accept preferences token).offset ≤
                      fuel := by simp; omega
                  have fits : (progress.accept preferences token).tokens.size ≤
                      maxTokenCount := by simp; omega
                  have cursor := Scanning.offset_accept preferences token progress
                  have taken := Scanning.tokens_accept preferences token progress
                  dsimp only
                  split
                  · next closing =>
                      refine .accept shallow accepted cursor taken ?_
                      rw [contextsAfter_of_closes closing]
                      exact ih left (Nat.le_of_lt shallow) fits
                  · next going =>
                      cases opening : family.opens? context token with
                      | none =>
                          refine .accept shallow accepted cursor taken ?_
                          rw [contextsAfter_of_not_opens going opening]
                          exact ih left depth fits
                      | some inner =>
                          dsimp only
                          split
                          · next opened entered entering =>
                              obtain ⟨space, rfl, sameOffset, sameTokens⟩ :=
                                openContext_eq_ok entering
                              refine .accept shallow accepted (sameOffset.trans cursor)
                                (sameTokens.trans taken) ?_
                              rw [contextsAfter_of_opens going opening]
                              exact ih (by rw [sameOffset]; exact left) space
                                (by rw [sameTokens]; exact fits)
                          · next error refused =>
                              obtain ⟨full, rfl⟩ := openContext_eq_error refused
                              have limit : (context :: outer).length = maxContextDepth :=
                                Nat.le_antisymm depth full
                              rw [limit]
                              refine .accept shallow accepted cursor taken ?_
                              rw [contextsAfter_of_opens going opening]
                              exact .halt fits (.tooDeep (congrArg (· + 1) limit))
          · next ended => exact .halt room (.exhausted (Nat.le_of_not_lt ended) depth)

/-- Every scan of a source that is not too long follows a trace from its outermost context. -/
theorem scanFrom_trace (family : ContextFamily κ) (preferences : ScanPreferences) (root : κ)
    {source : Source} (offset : Nat) (short : source.length ≤ maxSourceLength) :
    ∃ final stop,
      family.Trace source [root] offset
          (family.scanFrom preferences root source offset).tokens.toList final stop ∧
        (family.scanFrom preferences root source offset).tokens.size ≤ maxTokenCount ∧
        family.Ends source preferences final stop
          (family.scanFrom preferences root source offset).tokens.size
          (family.scanFrom preferences root source offset).verdict := by
  obtain ⟨tokensEq, -, verdictEq⟩ :=
    scanFrom_eq_of_length_le family preferences source short root offset
  rw [tokensEq, verdictEq, machine]
  cases opening : openContext preferences root [] { offset := offset, events := #[] } with
  | error error =>
      obtain ⟨full, -⟩ := openContext_eq_error opening
      cases full
  | ok entered =>
      obtain ⟨opened, progress⟩ := entered
      obtain ⟨space, rfl, cursor, taken⟩ := openContext_eq_ok opening
      have follows : family.Follows source preferences [root] progress
          (family.runMachine preferences source (source.length - offset) [root] progress) :=
        runMachine_follows (Nat.le_of_eq (by rw [cursor])) space (by rw [taken]; simp)
      obtain ⟨tokens, final, trace, appended, room, ends⟩ := follows
      rw [taken] at appended
      rw [cursor] at trace
      refine ⟨final, _, ?_, room, ends⟩
      rw [appended]
      exact trace

theorem scanFrom_of_too_long (family : ContextFamily κ) (preferences : ScanPreferences) (root : κ)
    {source : Source} (offset : Nat) (long : maxSourceLength < source.length) :
    (family.scanFrom preferences root source offset).tokens = #[] ∧
      (family.scanFrom preferences root source offset).metrics = {} ∧
      (family.scanFrom preferences root source offset).verdict =
        .failed (.sourceTooLong source.length) := by
  rw [scanFrom, scanInto, if_pos long]
  exact ⟨rfl, rfl, rfl⟩

theorem too_long_of_scanFrom {preferences : ScanPreferences} {root : κ} {offset length : Nat}
    (refused : (family.scanFrom preferences root source offset).verdict =
      .failed (.sourceTooLong length)) : maxSourceLength < source.length := by
  apply Nat.lt_of_not_le
  intro short
  obtain ⟨final, stop, -, -, ends⟩ := scanFrom_trace family preferences root offset short
  rw [refused] at ends
  generalize (family.scanFrom preferences root source offset).tokens.size = count at ends
  cases ends with
  | defective _ _ _ defect => rcases defect?_eq_some defect with same | same | same <;> cases same

end ContextFamily

end CssSelector
