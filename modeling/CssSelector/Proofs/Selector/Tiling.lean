import CssSelector.Proofs.Scan.Contract
import CssSelector.Proofs.Selector.Token

/-!
# Tokens of selectors tile the source

Scanned with the contexts of selectors, from any place between characters on, a source is taken
apart without loss: the values of the tokens, put together, are the source up to where the scan
stopped, `scanFrom_tiling`.
-/

set_option autoImplicit false

namespace CssSelector

/-- Where the tokens of a scan end: at the cursor, or where it was stopped. A limit on the number
of tokens has no place of its own, so there it is the end of the last token. -/
def ScanOutcome.reached? (outcome : ScanOutcome) : Option Nat :=
  match outcome.verdict with
  | .done cursor => some cursor
  | .failed (.stuck offset _ _) => some offset
  | .failed (.contextTooDeep _ offset) => some offset
  | .failed (.tooManyTokens _) => outcome.tokens.back?.bind fun last => last.stop.toOption
  | _ => none

namespace SelectorContext

variable {source : Source}

theorem exists_span_of_mem_trace {opened final : List SelectorContext} {start stop : Nat}
    {tokens : List Token} {before after : List Char} {token : Token}
    (short : source.length ≤ maxSourceLength)
    (trace : family.Trace source opened start tokens final stop)
    (split : source.SplitAt start before after) (member : token ∈ tokens) :
    ∃ span, token.span = .ok span ∧ span.slice? source.text = some token.value := by
  obtain ⟨left, right, rfl⟩ := List.append_of_mem member
  obtain ⟨rest, reached⟩ := splitAt_of_mem_trace trace split
  refine ⟨_, Token.span_of_splitAt short reached, ?_⟩
  calc
    _ = source.slice? token.offset (token.offset + token.length) :=
      (Source.slice?_eq source _ _).symm
    _ = some (String.ofList token.value.toList) := by
      rw [← Token.byteLength_value]
      exact reached.slice?_eq
    _ = some token.value := by rw [String.ofList_toList]

theorem reached?_eq_some {opened final : List SelectorContext} {start stop : Nat}
    {preferences : ScanPreferences} {outcome : ScanOutcome}
    (representable : stop ≤ maxOffset)
    (trace : family.Trace source opened start outcome.tokens.toList final stop)
    (ends : family.Ends source preferences final stop outcome.tokens.size outcome.verdict) :
    outcome.reached? = some stop := by
  unfold ScanOutcome.reached?
  generalize counted : outcome.tokens.size = count at ends
  generalize outcome.verdict = verdict at ends ⊢
  cases ends with
  | closed => rfl
  | exhausted _ _ => rfl
  | stuck _ _ _ => rfl
  | defective _ _ produced defect => exact absurd defect (defect?_ne_some produced)
  | crowded _ _ =>
      have some : outcome.tokens.toList ≠ [] := by
        intro none
        rw [← Array.length_toList, none] at counted
        cases counted
      have found := List.getLast?_eq_some_getLast some
      have place := trace.stop_of_getLast? found
      rw [← Array.getLast?_toList, found]
      simp only [Option.bind_some]
      rw [Token.stop_eq_ok (by rw [place]; exact representable), place]
      rfl
  | tooDeep _ => rfl
  | faulted _ _ broken => cases broken

/-- A scan succeeds at the end of the source or behind the token that closes its outermost
context. -/
theorem cursor_of_ends {root : SelectorContext} {final : List SelectorContext}
    {start stop count cursor : Nat} {tokens : List Token} {preferences : ScanPreferences}
    (inside : stop ≤ source.length)
    (trace : family.Trace source [root] start tokens final stop)
    (ends : family.Ends source preferences final stop count (.done cursor)) :
    cursor = source.length ∨
      ∃ last, tokens.getLast? = some last ∧ root.endKind? = some last.kind := by
  cases ends with
  | closed =>
      rcases trace.outermost rfl with stays | ⟨-, last, found, closing⟩
      · cases stays
      · exact .inr ⟨last, found, of_decide_eq_true closing⟩
  | exhausted ended _ => exact .inl (Nat.le_antisymm inside ended)

/-- The contexts of selectors take a source apart without loss, wherever the scan starts and
however it ends. The tokens lie one behind the other, each covers its own value, and together they
are the source up to where the scan stopped. A scan that succeeds has come to the end of the
source, or its last token has closed the outermost context; nothing closes a selector. -/
theorem scanFrom_tiling (preferences : ScanPreferences) (root : SelectorContext) (source : Source)
    (start : Nat) (short : source.length ≤ maxSourceLength)
    (boundary : (source.after? start).isSome = true) :
    let outcome := family.scanFrom preferences root source start
    ContiguousFrom start outcome.tokens.toList ∧
      (∀ token ∈ outcome.tokens.toList,
        ∃ span, token.span = .ok span ∧ span.slice? source.text = some token.value) ∧
      (∃ stop, outcome.reached? = some stop ∧
        source.slice? start stop = some (joinedValues outcome.tokens.toList)) ∧
      ∀ cursor, outcome.verdict = .done cursor →
        (root = .selector → cursor = source.length) ∧
          (cursor = source.length ∨
            ∃ last, outcome.tokens.back? = some last ∧ root.endKind? = some last.kind) := by
  intro outcome
  obtain ⟨before, after, split⟩ := Source.exists_splitAt boundary
  obtain ⟨final, stop, trace, -, ends⟩ := family.scanFrom_trace preferences root start short
  obtain ⟨later, afterEq, reached⟩ := splitAt_of_trace trace split
  have limit := maxSourceLength_lt_maxOffset
  have bound := reached.length_eq
  refine ⟨trace.contiguousFrom, ?_, ⟨stop, ?_, ?_⟩, ?_⟩
  · intro token member
    exact exists_span_of_mem_trace short trace split member
  · exact reached?_eq_some (by omega) trace ends
  · rw [afterEq] at split
    rw [split.slice?_to_eq reached, String.ofList_toList]
  · intro cursor succeeded
    rw [show (family.scanFrom preferences root source start).verdict = .done cursor from
      succeeded] at ends
    rw [← Array.getLast?_toList]
    have settled := cursor_of_ends (by omega) trace ends
    refine ⟨?_, settled⟩
    rintro rfl
    rcases settled with atEnd | ⟨last, -, endKind⟩
    · exact atEnd
    · cases endKind

/-- The tokens behind a first, two-byte character, up to an unclosed string in brackets. -/
theorem tiling_of_unclosed_string :
    (Source.ofString "é(['ü").length ≤ maxSourceLength ∧
      ((Source.ofString "é(['ü").after? 2).isSome = true ∧
      (family.scanFrom {} .selector (.ofString "é(['ü") 2).verdict = .done 7 ∧
      (family.scanFrom {} .selector (.ofString "é(['ü") 2).tokens.size = 4 ∧
      (family.scanFrom {} .selector (.ofString "é(['ü") 2).reached? = some 7 ∧
      (Source.ofString "é(['ü").slice? 2 7 =
        some (joinedValues
          (family.scanFrom {} .selector (.ofString "é(['ü") 2).tokens.toList) := by
  have short : (Source.ofString "é(['ü").length ≤ maxSourceLength := by decide
  have boundary : ((Source.ofString "é(['ü").after? 2).isSome = true := by decide +kernel
  have verdict : (family.scanFrom {} .selector (.ofString "é(['ü") 2).verdict = .done 7 := by
    decide +kernel
  have count : (family.scanFrom {} .selector (.ofString "é(['ü") 2).tokens.size = 4 := by
    decide +kernel
  have cursor : (family.scanFrom {} .selector (.ofString "é(['ü") 2).reached? = some 7 := by
    rw [ScanOutcome.reached?, verdict]
  obtain ⟨-, -, ⟨stop, reached, sliced⟩, -⟩ :=
    scanFrom_tiling {} .selector (.ofString "é(['ü") 2 short boundary
  cases reached.symm.trans cursor
  exact ⟨short, boundary, verdict, count, cursor, sliced⟩

end SelectorContext

end CssSelector
