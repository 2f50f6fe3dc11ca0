import CssSelector.Proofs.Scan.Contract
import CssSelector.Proofs.Selector.Token

/-!
# Nesting of the contexts of selectors

The tokens of a selector tell by themselves which contexts are open: `replay` reads it off their
kinds, without looking at the source. A scan is in the context that the tokens tell at each of its
steps and where it stops, `scanFrom_nesting`.
-/

set_option autoImplicit false

namespace CssSelector

namespace SelectorContext

/-- The context that a kind of opening token starts. -/
def startedBy? : TokenKind → Option SelectorContext
  | .parametersStart => some parameters
  | .attributeStart => some attributes
  | .singleQuoteStart => some (string .single)
  | .doubleQuoteStart => some (string .double)
  | _ => none

/-- The context that a kind of closing token ends. -/
def endedBy? : TokenKind → Option SelectorContext
  | .parametersEnd => some parameters
  | .attributeEnd => some attributes
  | .singleQuoteEnd => some (string .single)
  | .doubleQuoteEnd => some (string .double)
  | _ => none

/-- Opening tokens put their context in front, closing tokens take the front one away, whichever
it is. -/
def replayToken (opened : List SelectorContext) (token : Token) : List SelectorContext :=
  match startedBy? token.kind with
  | some context => context :: opened
  | none => if (endedBy? token.kind).isSome then opened.tail else opened

/-- The contexts that are open behind the tokens of a selector, the innermost first. -/
def replay (tokens : List Token) : List SelectorContext := tokens.foldl replayToken [selector]

theorem replay_concat (before : List Token) (last : Token) :
    replay (before ++ [last]) = replayToken (replay before) last := by
  simp [replay]

/-- Each token is one that the innermost of the contexts open before it can give, no more contexts
are open than allowed, and a closing token closes the context that its own kind of opening token
started; so it never closes the outermost one. -/
def WellNested (tokens : List Token) : Prop :=
  ∀ before token after, tokens = before ++ token :: after →
    ∃ context outer,
      replay before = context :: outer ∧ (context :: outer).length ≤ maxContextDepth ∧
        token.kind ∈ context.kinds ∧
          ∀ ended, endedBy? token.kind = some ended → context = ended ∧ outer ≠ []

/-! ## What kinds tell -/

/-- Texts with which the tokens of the contexts begin. -/
def samples : List String :=
  [">", ",", " ", "a", ".a", "#a", "::a", ":a", "(", "[", "'", "\"", ")", "1", "]", "=", "\\a"]

theorem mem_all (context : SelectorContext) : context ∈ all := by
  cases context with
  | selector => decide
  | parameters => decide
  | attributes => decide
  | string quote => cases quote <;> decide

/-- No kind is listed that a context cannot give. -/
theorem mem_kinds_iff {context : SelectorContext} {kind : TokenKind} :
    kind ∈ context.kinds ↔
      ∃ source offset token, context.token? source offset = some token ∧ token.kind = kind := by
  have occurs : ∀ context ∈ all, ∀ kind ∈ context.kinds, ∃ text ∈ samples,
      (context.token? (.ofString text) 0).map Token.kind = some kind := by decide +kernel
  constructor
  · intro member
    obtain ⟨text, -, found⟩ := occurs context (mem_all context) kind member
    obtain ⟨token, produced, same⟩ := Option.map_eq_some_iff.mp found
    exact ⟨.ofString text, 0, token, produced, same⟩
  · rintro ⟨source, offset, token, produced, rfl⟩
    exact kind_mem_kinds produced

/-- Among the kinds that a context can give, opening kinds open it and only its own closing kind
closes it. -/
theorem opened_and_ended_of_mem_kinds {context : SelectorContext} {kind : TokenKind}
    (member : kind ∈ context.kinds) :
    context.openedBy? kind = startedBy? kind ∧
      (context.endKind? = some kind → startedBy? kind = none) ∧
      endedBy? kind = if context.endKind? = some kind then some context else none := by
  have table : ∀ context ∈ all, ∀ kind ∈ context.kinds,
      context.openedBy? kind = startedBy? kind ∧
        (context.endKind? = some kind → startedBy? kind = none) ∧
        endedBy? kind = if context.endKind? = some kind then some context else none := by decide
  exact table context (mem_all context) kind member

theorem contextsAfter_eq_replayToken {context : SelectorContext} {token : Token}
    (member : token.kind ∈ context.kinds) (outer : List SelectorContext) :
    family.contextsAfter context outer token = replayToken (context :: outer) token := by
  obtain ⟨opened, apart, ended⟩ := opened_and_ended_of_mem_kinds member
  by_cases closing : context.endKind? = some token.kind
  · rw [ContextFamily.contextsAfter_of_closes (decide_eq_true closing), replayToken,
      apart closing, ended, if_pos closing]
    rfl
  · rw [if_neg closing] at ended
    have going : ¬family.closes context token = true := by simpa [family] using closing
    cases opening : startedBy? token.kind with
    | none =>
        rw [ContextFamily.contextsAfter_of_not_opens going (opened.trans opening), replayToken,
          opening, ended]
        rfl
    | some inner =>
        rw [ContextFamily.contextsAfter_of_opens going (opened.trans opening), replayToken,
          opening]

/-! ## What traces tell -/

variable {source : Source} {start stop : Nat}

theorem final_eq_foldl {opened final : List SelectorContext} {tokens : List Token}
    (trace : family.Trace source opened start tokens final stop) :
    final = tokens.foldl replayToken opened := by
  induction trace with
  | refl => rfl
  | step _ accepted _ ih =>
      have member := kind_mem_kinds (token?_eq_some_of_accepts accepted)
      rw [ih, List.foldl_cons, contextsAfter_eq_replayToken member]

theorem final_eq_replay {final : List SelectorContext} {tokens : List Token}
    (trace : family.Trace source [selector] start tokens final stop) : final = replay tokens :=
  final_eq_foldl trace

/-- Nothing closes a selector, so it is open behind all tokens. -/
theorem getLast?_of_trace {final : List SelectorContext} {tokens : List Token}
    (trace : family.Trace source [selector] start tokens final stop) :
    final.getLast? = some selector := by
  have bottom : [selector].getLast? = some selector := rfl
  rcases trace.outermost bottom with stays | ⟨-, last, -, closing⟩
  · exact stays
  · have ended : selector.endKind? = some last.kind := of_decide_eq_true closing
    cases ended

theorem wellNested_of_trace {final : List SelectorContext} {tokens : List Token}
    (trace : family.Trace source [selector] start tokens final stop) : WellNested tokens := by
  rintro before token after rfl
  obtain ⟨between, place, first, second⟩ := trace.cut
  have bottom := getLast?_of_trace first
  have told := final_eq_replay first
  cases second with
  | @step context outer _ _ _ _ _ depth accepted later =>
      have member := kind_mem_kinds (token?_eq_some_of_accepts accepted)
      refine ⟨context, outer, told.symm, depth, member, ?_⟩
      intro ended found
      obtain ⟨-, -, own⟩ := opened_and_ended_of_mem_kinds member
      rw [own] at found
      split at found
      · next closing =>
          cases found
          refine ⟨rfl, ?_⟩
          rintro rfl
          cases bottom
          cases closing
      · cases found

theorem stop_le_of_trace {opened final : List SelectorContext} {tokens : List Token}
    (trace : family.Trace source opened start tokens final stop) (some : tokens ≠ []) :
    stop ≤ source.length := by
  cases trace with
  | refl => exact absurd rfl some
  | step depth accepted later =>
      obtain ⟨before, after, split⟩ := exists_splitAt (token?_eq_some_of_accepts accepted)
      obtain ⟨rest, -, advanced⟩ := splitAt_of_accepts accepted split
      obtain ⟨_, -, reached⟩ := splitAt_of_trace later advanced
      rw [reached.length_eq]
      exact Nat.le_add_right _ _

theorem length_replayToken_le (opened : List SelectorContext) {token : Token}
    (plain : startedBy? token.kind = none) :
    (replayToken opened token).length ≤ opened.length := by
  rw [replayToken, plain]
  dsimp only
  split
  · rw [List.length_tail]
    exact Nat.sub_le _ _
  · exact Nat.le_refl _

/-- One context too many is open only if the last token has opened it. -/
theorem exists_opening_of_length_replay {tokens : List Token} (nested : WellNested tokens)
    (excess : (replay tokens).length = maxContextDepth + 1) :
    ∃ before last, tokens = before ++ [last] ∧ (startedBy? last.kind).isSome = true := by
  rcases tokens.eq_nil_or_concat with rfl | ⟨before, last, rfl⟩
  · cases excess
  · rw [List.concat_eq_append] at nested excess ⊢
    obtain ⟨context, outer, told, depth, -, -⟩ := nested before last [] rfl
    refine ⟨before, last, rfl, ?_⟩
    cases opening : startedBy? last.kind with
    | some inner => rfl
    | none =>
        have kept := length_replayToken_le (replay before) opening
        rw [← told] at depth
        rw [replay_concat] at excess
        omega

theorem exists_stop_of_length_replay {final : List SelectorContext} {tokens : List Token}
    (short : source.length ≤ maxSourceLength)
    (trace : family.Trace source [selector] start tokens final stop)
    (excess : (replay tokens).length = maxContextDepth + 1) :
    ∃ last, tokens.getLast? = some last ∧ last.stop = .ok stop := by
  obtain ⟨before, last, parts, -⟩ :=
    exists_opening_of_length_replay (wellNested_of_trace trace) excess
  have found : tokens.getLast? = some last := by rw [parts, List.getLast?_concat]
  have place := trace.stop_of_getLast? found
  have inside := stop_le_of_trace trace (by simp [parts])
  have limit := maxSourceLength_lt_maxOffset
  refine ⟨last, found, ?_⟩
  rw [Token.stop_eq_ok (by omega), place]

theorem name_of_ends_stuck {preferences : ScanPreferences} {opened : List SelectorContext}
    {offset count : Nat} {remainder name : String}
    (ends : family.Ends source preferences opened stop count
      (.failed (.stuck offset remainder name))) :
    ∃ context outer, opened = context :: outer ∧ context.name = name := by
  cases ends with
  | @stuck context outer _ _ _ _ _ => exact ⟨context, outer, rfl, rfl⟩
  | defective _ _ produced defect => exact absurd defect (defect?_ne_some produced)

/-! ## Every scan -/

/-- The contexts of a scan of selectors are those that its tokens tell. The tokens are well nested,
so that each closing token closes what its own kind of opening token has opened and a selector is
never closed; a scan that is stuck names the innermost of the contexts that its tokens leave open;
and one context too many is open exactly if the scan was stopped for it, behind the token that
opened it. -/
theorem scanFrom_nesting (preferences : ScanPreferences) (source : Source) (start : Nat) :
    let outcome := family.scanFrom preferences selector source start
    let tokens := outcome.tokens.toList
    WellNested tokens ∧
      (replay tokens).getLast? = some selector ∧
      (∀ offset remainder name, outcome.verdict = .failed (.stuck offset remainder name) →
        ∃ context outer, replay tokens = context :: outer ∧ context.name = name) ∧
      ((∃ depth offset, outcome.verdict = .failed (.contextTooDeep depth offset)) ↔
        ∃ before last, tokens = before ++ [last] ∧ (startedBy? last.kind).isSome = true ∧
          (replay tokens).length = maxContextDepth + 1) ∧
      (∀ depth offset, outcome.verdict = .failed (.contextTooDeep depth offset) →
        depth = maxContextDepth + 1 ∧
          ∃ last, tokens.getLast? = some last ∧ last.stop = .ok offset) ∧
      ((∀ depth offset, outcome.verdict ≠ .failed (.contextTooDeep depth offset)) →
        (replay tokens).length ≤ maxContextDepth) := by
  intro outcome tokens
  by_cases long : maxSourceLength < source.length
  · obtain ⟨none, -, verdict⟩ := family.scanFrom_of_too_long preferences selector start long
    have empty : tokens = [] := congrArg Array.toList none
    rw [empty, verdict]
    refine ⟨?_, rfl, ?_, ⟨?_, ?_⟩, ?_, ?_⟩
    · rintro before token after parts
      simp at parts
    · intro offset remainder name stuck
      cases stuck
    · rintro ⟨level, offset, stopped⟩
      cases stopped
    · rintro ⟨before, last, -, -, excess⟩
      cases excess
    · intro level offset stopped
      cases stopped
    · intro _
      decide
  · obtain ⟨final, stop, trace, -, ends⟩ :=
      family.scanFrom_trace preferences selector start (Nat.le_of_not_lt long)
    have nested : WellNested tokens := wellNested_of_trace trace
    have told : final = replay tokens := final_eq_replay trace
    have depth := ends.length_opened
    rw [told] at ends depth
    refine ⟨nested, told ▸ getLast?_of_trace trace, ?_, ⟨?_, ?_⟩, ?_, ?_⟩
    · intro offset remainder name stuck
      exact name_of_ends_stuck (stuck ▸ ends)
    · rintro ⟨level, offset, stopped⟩
      rcases depth with ⟨-, other⟩ | ⟨excess, -⟩
      · exact absurd stopped (other level offset)
      · obtain ⟨before, last, parts, opening⟩ := exists_opening_of_length_replay nested excess
        exact ⟨before, last, parts, opening, excess⟩
    · rintro ⟨before, last, -, -, excess⟩
      rcases depth with ⟨within, -⟩ | ⟨-, stopped⟩
      · omega
      · exact ⟨_, _, stopped⟩
    · intro level offset stopped
      rcases depth with ⟨-, other⟩ | ⟨excess, same⟩
      · exact absurd stopped (other level offset)
      · cases stopped.symm.trans same
        exact ⟨rfl, exists_stop_of_length_replay (Nat.le_of_not_lt long) trace excess⟩
    · intro other
      rcases depth with ⟨within, -⟩ | ⟨-, stopped⟩
      · exact within
      · exact absurd stopped (other _ _)

end SelectorContext

end CssSelector
