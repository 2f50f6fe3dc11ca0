import CssSelector.Proofs.Compile.Render
import CssSelector.Proofs.Grammar.Failure
import CssSelector.Proofs.Selector.Tiling

/-!
# Errors of parsing point at the tokens that are left

With rules that stop at errors, an error of parsing tells what the last question found among the
tokens that are left behind, through any number of delegations. In a text, a token that is not
expected is found again at the span of the error, `parse_failure_accuracy`.
-/

set_option autoImplicit false

namespace CssSelector

open SelectorContext in
theorem exists_span_of_mem_scanSelector {preferences : ScanPreferences} {text : String}
    {token : Token} (member : token ∈ (scanSelector preferences text).tokens.toList) :
    ∃ span, token.span = .ok span ∧ span.slice? text = some token.value := by
  rcases Nat.lt_or_ge maxSourceLength text.utf8ByteSize with long | short
  · rw [(scanSelector_of_too_long long).1] at member
    cases member
  · obtain ⟨final, stop, -, trace, -, -⟩ := scanSelector_trace preferences short
    have bounded : (Source.ofString text).length ≤ maxSourceLength := short
    obtain ⟨span, covered, slice⟩ :=
      exists_span_of_mem_trace bounded trace (Source.splitAt_zero _) member
    exact ⟨span, covered, slice⟩

theorem mem_of_left {ν : Type} {grammar : Grammar ν} {preferences : ParsePreferences}
    {production : ν} {stream : TokenStream} {place : Nat} {token : Token}
    (left : (grammar.parse preferences production stream).stream.toList[place]? = some token) :
    token ∈ stream.toList := by
  obtain ⟨path, -⟩ := grammar.delegate_path preferences production (.start stream)
  have parts := path.conserves
  rw [← Grammar.stream_parse] at parts
  have member := List.mem_append_right
    (removedTokens (grammar.delegateSteps preferences production (.start stream)))
    (List.mem_of_getElem? left)
  rw [parts] at member
  exact member

/-- Errors of parsing are accurate where the parse stopped, for rules that stop at errors. The last
question of the parse has failed, and behind it rules have only ended. If a token was not expected,
it is the token at the place of that question among the tokens that are left, and it is none of the
expected ones; if a token was missing, there are no more tokens left than up to that place. For a
text, the token that was not expected is what the span of the error covers. -/
theorem parse_failure_accuracy {ν : Type} (grammar : Grammar ν) (productions : ν → Prop)
    (stops : grammar.StopsAtErrors productions) (preferences : ParsePreferences) (production : ν)
    (known : productions production) :
    (∀ stream error, (grammar.parse preferences production stream).verdict = .failed error →
        let left := (grammar.parse preferences production stream).stream
        let steps := grammar.delegateSteps preferences production (.start stream)
        (∀ actual expected, error = .tokenMismatch actual expected →
          expected.accepts actual = false ∧
            ∃ place, FailsAt place error steps ∧ left.toList[place]? = some actual) ∧
        ∀ expected, error = .unexpectedEnd expected →
          ∃ place, FailsAt place error steps ∧ left.length ≤ place) ∧
      ∀ scanning duration text actual expected,
        (compileSelector grammar scanning preferences duration production text).1 =
          .failed (.parse (.tokenMismatch actual expected)) →
        ∃ span, (SelectorError.parse (.tokenMismatch actual expected)).span = .ok (some span) ∧
          span.slice? text = some actual.value := by
  have accurate := @Grammar.failsOn_of_parse _ grammar preferences _ stops _ known
  constructor
  · intro stream error failed
    refine ⟨?_, ?_⟩
    · rintro actual expected rfl
      obtain ⟨place, fails, found, refused⟩ := accurate (by simp [ParseError.expected?]) failed
      exact ⟨refused, place, fails, found⟩
    · rintro expected rfl
      obtain ⟨place, fails, ended⟩ := accurate (by simp [ParseError.expected?]) failed
      rw [ParseError.FailsOn, TokenStream.length_toList] at ended
      exact ⟨place, fails, ended⟩
  · intro scanning duration text actual expected failed
    rcases compileSelector_eq_failed failed with ⟨found, same, -⟩ | ⟨found, same, refused⟩
    · cases same
    · cases same
      obtain ⟨place, -, found, -⟩ := accurate (by simp [ParseError.expected?]) refused
      have member := mem_of_left found
      rw [TokenStream.toList_ofArray] at member
      obtain ⟨span, covered, slice⟩ := exists_span_of_mem_scanSelector member
      refine ⟨span, ?_, slice⟩
      change some <$> actual.span = _
      rw [covered]
      rfl

/-- A script reads a type selector inside another script and then looks for a class selector behind
the combinator. -/
theorem parse_failure_accuracy_of_nested :
    scriptGrammar.StopsAtErrors ScriptProduction.Strict ∧
      ScriptProduction.Strict (.script "outer" [.script "inner"
        [.read (.only .typeSelector), .look (.only .classSelector) 1 false]]) ∧
      (compileSelector scriptGrammar {} {} 0 (.script "outer" [.script "inner"
          [.read (.only .typeSelector), .look (.only .classSelector) 1 false]]) "a > b").1 =
        .failed (.parse (.tokenMismatch ⟨.typeSelector, 4, "b"⟩ (.only .classSelector))) ∧
      (Expected.only .classSelector).accepts ⟨.typeSelector, 4, "b"⟩ = false ∧
      ∃ span,
        (SelectorError.parse
            (.tokenMismatch ⟨.typeSelector, 4, "b"⟩ (.only .classSelector))).span =
          .ok (some span) ∧
        span.slice? "a > b" = some "b" := by
  have strict : ScriptProduction.Strict (.script "outer" [.script "inner"
      [.read (.only .typeSelector), .look (.only .classSelector) 1 false]]) := by
    simp [ScriptProduction.Strict, ScriptStep.AllStrict, ScriptStep.Strict]
  obtain ⟨streams, texts⟩ := parse_failure_accuracy scriptGrammar ScriptProduction.Strict
    stopsAtErrors_scriptGrammar {} _ strict
  have tokens : (scanSelector {} "a > b").tokens =
      #[⟨.typeSelector, 0, "a"⟩, ⟨.combinator, 1, " > "⟩, ⟨.typeSelector, 4, "b"⟩] :=
    Array.toList_inj.mp (by decide +kernel)
  have verdict : (scanSelector {} "a > b").verdict = .done 5 := by decide +kernel
  have refused : (scriptGrammar.parse {} (.script "outer" [.script "inner"
        [.read (.only .typeSelector), .look (.only .classSelector) 1 false]])
        (.ofArray #[⟨.typeSelector, 0, "a"⟩, ⟨.combinator, 1, " > "⟩,
          ⟨.typeSelector, 4, "b"⟩])).verdict =
      .failed (.tokenMismatch ⟨.typeSelector, 4, "b"⟩ (.only .classSelector)) := rfl
  have failed : (compileSelector scriptGrammar {} {} 0 (.script "outer" [.script "inner"
        [.read (.only .typeSelector), .look (.only .classSelector) 1 false]]) "a > b").1 =
      .failed (.parse (.tokenMismatch ⟨.typeSelector, 4, "b"⟩ (.only .classSelector))) := by
    rw [compileSelector_eq]
    simp only [verdict, tokens, refused]
  exact ⟨stopsAtErrors_scriptGrammar, strict, failed,
    ((streams _ _ refused).1 _ _ rfl).1, texts _ _ _ _ _ failed⟩

end CssSelector
