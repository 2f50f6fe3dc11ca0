import CssSelector.Proofs.Scan.Trace

/-!
# The contract of a scan

Contexts may answer anything. Whatever they answer, a scan only appends to the stream, what it
appends is contiguous and sound, and its verdict tells how far it came, `scanOnto_contract`.
-/

set_option autoImplicit false

namespace CssSelector

/-- Tokens one behind the other from an offset on, none of them a wildcard or without text. -/
def ContiguousFrom : Nat → List Token → Prop
  | _, [] => True
  | offset, token :: later =>
      (token.kind ≠ .any ∧ token.value ≠ "" ∧ token.offset = offset) ∧
        ContiguousFrom (offset + token.length) later

/-- The bytes that tokens take. -/
def totalLength : List Token → Nat
  | [] => 0
  | token :: later => token.length + totalLength later

@[simp]
theorem totalLength_nil : totalLength [] = 0 := rfl

@[simp]
theorem totalLength_cons (token : Token) (later : List Token) :
    totalLength (token :: later) = token.length + totalLength later := rfl

@[simp]
theorem totalLength_append (left right : List Token) :
    totalLength (left ++ right) = totalLength left + totalLength right := by
  induction left with
  | nil => simp
  | cons token later ih =>
      rw [List.cons_append, totalLength_cons, totalLength_cons, ih, Nat.add_assoc]

theorem ContiguousFrom.last {offset : Nat} {tokens : List Token} {token : Token}
    (contiguous : ContiguousFrom offset (tokens ++ [token])) :
    token.kind ≠ .any ∧ token.value ≠ "" ∧ token.offset = offset + totalLength tokens := by
  induction tokens generalizing offset with
  | nil => simpa [ContiguousFrom] using contiguous
  | cons first later ih =>
      obtain ⟨kind, text, start⟩ := ih contiguous.2
      refine ⟨kind, text, ?_⟩
      rw [start, totalLength_cons]
      omega

theorem Token.length_eq_zero_iff {token : Token} : token.length = 0 ↔ token.value = "" := by
  rw [Token.length, String.utf8ByteSize_eq_zero_iff]

namespace ContextFamily

variable {κ : Type} {family : ContextFamily κ} {source : Source}

/-! ## What every trace is like -/

theorem Trace.contiguousFrom {opened final : List κ} {offset stop : Nat} {tokens : List Token}
    (trace : family.Trace source opened offset tokens final stop) :
    ContiguousFrom offset tokens := by
  induction trace with
  | refl => exact True.intro
  | step _ accepted _ ih =>
      obtain ⟨kind, start, nonempty⟩ := defect?_eq_none_iff.mp accepted.sound
      have text := mt Token.length_eq_zero_iff.mpr (Nat.ne_of_gt nonempty)
      exact ⟨⟨kind, text, start⟩, ih⟩

theorem Trace.stop_eq {opened final : List κ} {offset stop : Nat} {tokens : List Token}
    (trace : family.Trace source opened offset tokens final stop) :
    stop = offset + totalLength tokens := by
  induction trace with
  | refl => rfl
  | step _ _ _ ih =>
      rw [ih, totalLength_cons]
      omega

theorem Trace.stop_of_getLast? {opened final : List κ} {offset stop : Nat} {tokens : List Token}
    {last : Token} (trace : family.Trace source opened offset tokens final stop)
    (found : tokens.getLast? = some last) : last.offset + last.length = stop := by
  obtain ⟨leading, rfl⟩ := List.getLast?_eq_some_iff.mp found
  obtain ⟨-, -, start⟩ := trace.contiguousFrom.last
  rw [trace.stop_eq, totalLength_append, totalLength_cons, totalLength_nil, start]
  omega

theorem Trace.length_le {opened final : List κ} {offset stop : Nat} {tokens : List Token}
    (trace : family.Trace source opened offset tokens final stop) :
    tokens.length ≤ source.length - offset := by
  induction trace with
  | refl => exact Nat.zero_le _
  | step _ accepted _ ih =>
      obtain ⟨-, -, nonempty⟩ := defect?_eq_none_iff.mp accepted.sound
      have inside := accepted.inside
      rw [List.length_cons]
      omega

/-- The cursor passes the end of the source by less than one token. -/
theorem Trace.stop_lt {opened final : List κ} {offset stop bound : Nat} {token : Token}
    {tokens : List Token}
    (trace : family.Trace source opened offset (token :: tokens) final stop)
    (bounded : ∀ context place produced,
      family.token? context source place = .ok (some produced) → produced.length < bound) :
    stop < source.length + bound := by
  induction tokens generalizing opened offset token with
  | nil =>
      cases trace with
      | step _ accepted later =>
          have short := bounded _ _ _ accepted.produced
          have inside := accepted.inside
          rw [later.stop_eq, totalLength_nil]
          omega
  | cons next tokens ih =>
      cases trace with
      | step _ _ later => exact ih later

/-- Lengths below 2^63 keep the cursor within 64 bits. -/
theorem Trace.stop_le_maxOffset {opened final : List κ} {offset stop : Nat} {tokens : List Token}
    (trace : family.Trace source opened offset tokens final stop)
    (representable : offset ≤ maxOffset) (short : source.length ≤ maxSourceLength)
    (bounded : ∀ context place produced,
      family.token? context source place = .ok (some produced) →
        produced.length < 9223372036854775808) :
    stop ≤ maxOffset := by
  cases tokens with
  | nil =>
      rw [trace.stop_eq, totalLength_nil]
      exact representable
  | cons token later =>
      have last := trace.stop_lt bounded
      have limit : maxSourceLength + 9223372036854775808 ≤ maxOffset := by decide
      omega

/-! ## What verdicts tell -/

/-- A context's answer that a scan rejects where its tokens end: the tokens are contiguous, and
would not be with it. -/
def RejectsAt (family : ContextFamily κ) (source : Source) (start : Nat) (tokens : List Token)
    (offset : Nat) (name : String) (defective : Token → Prop) : Prop :=
  offset = start + totalLength tokens ∧
    ∃ context rejected,
      family.name context = name ∧
        family.token? context source offset = .ok (some rejected) ∧ defective rejected ∧
          ¬ContiguousFrom start (tokens ++ [rejected])

/-- What a verdict says about the tokens of a scan from an offset on. -/
def VerdictFits (family : ContextFamily κ) (source : Source) (start : Nat) (tokens : List Token) :
    Verdict ScanError Nat → Prop
  | .done cursor => cursor = start + totalLength tokens
  | .failed (.stuck offset _ _) => offset = start + totalLength tokens
  | .failed (.zeroLengthToken offset kind name) =>
      family.RejectsAt source start tokens offset name fun rejected =>
        rejected.value = "" ∧ rejected.kind = kind
  | .failed (.wildcardToken offset name) =>
      family.RejectsAt source start tokens offset name fun rejected => rejected.kind = .any
  | .failed (.offsetMismatch expected actual name) =>
      family.RejectsAt source start tokens expected name fun rejected =>
        rejected.offset = actual ∧ actual ≠ expected
  | .failed (.contextTooDeep _ offset) => offset = start + totalLength tokens
  | .failed (.tooManyTokens count) => count = maxTokenCount + 1 ∧ tokens.length = maxTokenCount
  | .failed (.sourceTooLong length) => length = source.length ∧ tokens = []
  | .fault _ => True

theorem verdictFits_of_defect {context : κ} {start offset : Nat} {tokens : List Token}
    {token : Token} {error : ScanError} (place : offset = start + totalLength tokens)
    (produced : family.token? context source offset = .ok (some token))
    (defect : family.defect? context offset token = some error) :
    family.VerdictFits source start tokens (.failed error) := by
  -- a token that fails a check would break the row of tokens
  have rejects : ∀ defective : Token → Prop, defective token →
      (token.kind = .any ∨ token.value = "" ∨ token.offset ≠ offset) →
      family.RejectsAt source start tokens offset (family.name context) defective := by
    intro defective holds broken
    refine ⟨place, context, token, rfl, produced, holds, ?_⟩
    intro contiguous
    obtain ⟨kind, text, begins⟩ := contiguous.last
    rcases broken with wildcard | empty | elsewhere
    · exact kind wildcard
    · exact text empty
    · exact elsewhere (begins.trans place.symm)
  unfold defect? at defect
  split at defect
  · next wildcard =>
      cases defect
      have kind : token.kind = .any := by simpa [TokenKind.isWildcard] using wildcard
      exact rejects _ kind (.inl kind)
  · split at defect
    · next elsewhere =>
        cases defect
        exact rejects _ ⟨rfl, elsewhere⟩ (.inr (.inr elsewhere))
    · split at defect
      · next empty =>
          cases defect
          have text := Token.length_eq_zero_iff.mp empty
          exact rejects _ ⟨text, rfl⟩ (.inr (.inl text))
      · cases defect

theorem Ends.verdictFits {preferences : ScanPreferences} {opened final : List κ}
    {start stop : Nat} {tokens : List Token} {verdict : Verdict ScanError Nat}
    (trace : family.Trace source opened start tokens final stop)
    (ends : family.Ends source preferences final stop tokens.length verdict) :
    family.VerdictFits source start tokens verdict := by
  have place := trace.stop_eq
  generalize counted : tokens.length = count at ends
  cases ends with
  | closed => exact place
  | exhausted _ _ => exact place
  | stuck _ _ _ => exact place
  | defective _ _ produced defect => exact verdictFits_of_defect place produced defect
  | crowded _ _ => exact ⟨rfl, counted⟩
  | tooDeep _ => exact place
  | faulted _ _ _ => exact True.intro

/-! ## Every scan -/

/-- The contract of a scan. For every family of contexts, source, offset and stream: the stream
gets new tokens at its back and changes nowhere else; the new tokens are contiguous from the
offset on, none of them a wildcard or without text; there are no more of them than allowed and no
more than bytes from the offset on; the verdict fits them; and as long as the contexts' tokens are
shorter than 2^63 bytes, so that lengths are 64-bit numbers, no offset leaves the 64-bit range. -/
theorem scanOnto_contract {κ : Type} (family : ContextFamily κ) (preferences : ScanPreferences)
    (root : κ) (source : Source) (offset : Nat) (stream : TokenStream) :
    ∃ tokens,
      (family.scanOnto preferences root source offset stream).1.toList = stream.toList ++ tokens ∧
        ContiguousFrom offset tokens ∧
        tokens.length ≤ min maxTokenCount (source.length - offset) ∧
        family.VerdictFits source offset tokens
          (family.scanOnto preferences root source offset stream).2.verdict ∧
        (offset ≤ maxOffset →
          (∀ context place token, family.token? context source place = .ok (some token) →
            token.length < 9223372036854775808) →
          offset + totalLength tokens ≤ maxOffset) := by
  refine ⟨(family.scanFrom preferences root source offset).tokens.toList, ?_⟩
  have appended : (family.scanOnto preferences root source offset stream).1.toList =
      stream.toList ++ (family.scanFrom preferences root source offset).tokens.toList :=
    TokenStream.toList_append stream _
  refine ⟨appended, ?_⟩
  rw [scanOnto]
  by_cases long : maxSourceLength < source.length
  · obtain ⟨none, -, refused⟩ := family.scanFrom_of_too_long preferences root offset long
    rw [refused, none]
    exact ⟨True.intro, Nat.zero_le _, ⟨rfl, rfl⟩, fun representable _ => representable⟩
  · obtain ⟨final, stop, trace, room, ends⟩ :=
      scanFrom_trace family preferences root offset (Nat.le_of_not_lt long)
    refine ⟨trace.contiguousFrom, Nat.le_min.mpr ⟨room, trace.length_le⟩, ?_, ?_⟩
    · exact Ends.verdictFits trace ends
    · intro representable short
      rw [← trace.stop_eq]
      exact trace.stop_le_maxOffset representable (Nat.le_of_not_lt long) short

end ContextFamily

end CssSelector
