import CssSelector.Proofs.Compile.Diagnostic
import CssSelector.Proofs.Grammar.Honest

/-!
# Errors that cannot be shown

An error of either stage is shown with an excerpt of its source. All that honest grammars and the
contexts of selectors give can be shown, except errors about characters of a string that begin
with a line end behind an escaped carriage return, `compileSelector_render`.
-/

set_option autoImplicit false

namespace CssSelector

theorem render_scan_eq_ok {text : String} {preferences : ScanPreferences} {error : ScanError}
    (short : text.utf8ByteSize ≤ maxSourceLength)
    (failed : (scanSelector preferences text).verdict = .failed error) :
    ∃ rendered, (SelectorError.scan error).render text = .ok rendered := by
  obtain ⟨before, after, width, -, shown, -⟩ :=
    exists_shownAt_of_failed (Nat.lt_of_le_of_lt short maxSourceLength_lt_maxOffset) failed
  exact shown.exists_rendered

/-! ## Errors of parsing -/

/-- An error about characters of a string that begin with a line end, behind an escaped carriage
return. -/
def SelectorError.SplitsLineEnd (tokens : List Token) (error : SelectorError) : Prop :=
  ∃ earlier escaped token later,
    tokens = earlier ++ escaped :: token :: later ∧
      escaped.kind = .escapedCharacter ∧ escaped.value = "\\\r" ∧
        token.kind = .characters ∧ beginsWithLineEnd token.value.toList = true ∧
          error.span = some <$> token.span

section

variable {text : String} {preferences : ScanPreferences} {error : SelectorError} {token : Token}

open SelectorContext in
theorem render_of_token {earlier later : List Token}
    (short : text.utf8ByteSize ≤ maxSourceLength)
    (parts : (scanSelector preferences text).tokens.toList = earlier ++ token :: later)
    (covered : error.span = some <$> token.span) :
    if overhangs (joinedValues earlier).toList token.value.toList then
      error.render text = .error .columnUnderflow
    else ∃ rendered, error.render text = .ok rendered := by
  obtain ⟨final, stop, -, trace, -, -⟩ := scanSelector_trace preferences short
  rw [parts] at trace
  obtain ⟨rest, split⟩ := splitAt_of_mem_trace trace (Source.splitAt_zero _)
  rw [List.nil_append] at split
  have bounded : (Source.ofString text).length ≤ maxSourceLength := short
  have span := Token.span_of_splitAt bounded split
  have fits : byteLength ((joinedValues earlier).toList ++ token.value.toList) ≤ maxOffset := by
    have length := split.length_eq
    have limit := maxSourceLength_lt_maxOffset
    rw [byteLength_append] at length ⊢
    rw [split.offset_eq]
    omega
  rw [span, ← split.offset_eq, ← Token.byteLength_value] at covered
  have shown := SelectorError.render_of_chars split.chars_eq fits covered
  split
  · next hidden => rwa [if_pos hidden] at shown
  · next visible =>
      rw [if_neg visible] at shown
      exact ⟨_, shown⟩

theorem render_of_splitsLineEnd (short : text.utf8ByteSize ≤ maxSourceLength)
    (splits : error.SplitsLineEnd (scanSelector preferences text).tokens.toList) :
    error.render text = .error .columnUnderflow := by
  obtain ⟨earlier, escaped, token, later, parts, -, value, -, begins, covered⟩ := splits
  have hidden : overhangs (joinedValues (earlier ++ [escaped])).toList token.value.toList =
      true := by
    have last : (joinedValues (earlier ++ [escaped])).toList.getLast? = some '\r' := by
      simp [value]
    rw [overhangs, last, begins]
    rfl
  rw [← List.singleton_append, ← List.append_assoc] at parts
  have shown := render_of_token short parts covered
  rwa [if_pos hidden] at shown

open SelectorContext in
theorem render_of_mem (short : text.utf8ByteSize ≤ maxSourceLength)
    (whole : ¬error.SplitsLineEnd (scanSelector preferences text).tokens.toList)
    (member : token ∈ (scanSelector preferences text).tokens.toList)
    (covered : error.span = some <$> token.span) :
    ∃ rendered, error.render text = .ok rendered := by
  obtain ⟨earlier, later, parts⟩ := List.append_of_mem member
  have shown := render_of_token short parts covered
  split at shown
  · next hidden =>
      -- the token starts inside a line end, and only an escaped carriage return splits one
      obtain ⟨last, c, head, ending⟩ := exists_isLineEnd_of_overhangs [] hidden
      rw [List.append_nil] at head
      obtain ⟨final, stop, -, trace, -, -⟩ := scanSelector_trace preferences short
      rw [parts] at trace
      obtain ⟨kind, first, escaped, rfl, escapedKind, value⟩ :=
        exists_escaped_of_trace trace (Source.splitAt_zero _) last head ending
      refine absurd ⟨first, escaped, token, later, ?_, escapedKind, value, kind, ?_, covered⟩ whole
      · rw [parts, List.append_assoc, List.singleton_append]
      · rw [overhangs, Bool.and_eq_true] at hidden
        exact hidden.2
  · exact shown

/-- An error about the place behind the last token is shown at the front. -/
theorem render_of_endOfTokens (covered : error.span = some <$> Token.endOfTokens.span) :
    ∃ rendered, error.render text = .ok rendered := by
  have fits : byteLength ([] ++ []) ≤ maxOffset := Nat.zero_le _
  have front : text.toList = [] ++ ([] ++ text.toList) := rfl
  have shown := SelectorError.render_of_chars front fits covered
  rw [overhangs_eq_false text.toList (by simp), if_neg Bool.false_ne_true] at shown
  exact ⟨_, shown⟩

theorem render_parse_eq_ok {error : ParseError} (short : text.utf8ByteSize ≤ maxSourceLength)
    (whole : ¬(SelectorError.parse error).SplitsLineEnd
      (scanSelector preferences text).tokens.toList)
    (about : error.About fun token =>
      token ∈ (scanSelector preferences text).tokens.toList ∨ token = .endOfTokens) :
    ∃ rendered, (SelectorError.parse error).render text = .ok rendered := by
  have shown : ∀ token : Token,
      (token ∈ (scanSelector preferences text).tokens.toList ∨ token = .endOfTokens) →
      (SelectorError.parse error).span = some <$> token.span →
      ∃ rendered, (SelectorError.parse error).render text = .ok rendered := by
    rintro token (member | rfl) covered
    · exact render_of_mem short whole member covered
    · exact render_of_endOfTokens covered
  have fits : text.utf8ByteSize ≤ maxOffset :=
    Nat.le_trans short (Nat.le_of_lt maxSourceLength_lt_maxOffset)
  cases error with
  | tokenMismatch actual expected => exact shown actual about rfl
  | grammarViolation reason span =>
      obtain ⟨token, known, covered⟩ := about
      exact shown token known (by rw [covered]; rfl)
  | unexpectedEnd expected => exact (SelectorError.shownAt_of_no_span fits rfl).exists_rendered
  | delegationTooDeep depth => exact (SelectorError.shownAt_of_no_span fits rfl).exists_rendered

end

/-! ## Every error -/

theorem compileSelector_eq_failed {ν : Type} {grammar : Grammar ν} {scanning : ScanPreferences}
    {parsing : ParsePreferences} {duration : Nat} {production : ν} {text : String}
    {error : SelectorError}
    (failed : (compileSelector grammar scanning parsing duration production text).1 =
      .failed error) :
    (∃ found, error = .scan found ∧ (scanSelector scanning text).verdict = .failed found) ∨
      ∃ found, error = .parse found ∧
        (grammar.parse parsing production
          (.ofArray (scanSelector scanning text).tokens)).verdict = .failed found := by
  rw [compileSelector_eq] at failed
  dsimp only at failed
  split at failed
  · next found stopped =>
      cases failed
      exact .inl ⟨found, rfl, stopped⟩
  · cases failed
  · split at failed
    · next found refused =>
        cases failed
        exact .inr ⟨found, rfl, refused⟩
    · cases failed
    · cases failed

/-- Whether the error of a selector can be shown. For every honest grammar and every text that is
not too long, an error about characters of a string that begin with a line end, behind an escaped
carriage return, would be underlined from a column on that the shown line does not reach; every
other error is shown. -/
theorem compileSelector_render {ν : Type} (grammar : Grammar ν) (honest : grammar.Honest)
    (scanning : ScanPreferences) (parsing : ParsePreferences) (duration : Nat) (production : ν)
    (text : String) (short : text.utf8ByteSize ≤ maxSourceLength) (error : SelectorError)
    (failed : (compileSelector grammar scanning parsing duration production text).1 =
      .failed error) :
    (error.SplitsLineEnd (scanSelector scanning text).tokens.toList →
        error.render text = .error .columnUnderflow) ∧
      (¬error.SplitsLineEnd (scanSelector scanning text).tokens.toList →
        ∃ rendered, error.render text = .ok rendered) := by
  refine ⟨render_of_splitsLineEnd short, ?_⟩
  intro whole
  rcases compileSelector_eq_failed failed with ⟨found, rfl, stopped⟩ | ⟨found, rfl, refused⟩
  · exact render_scan_eq_ok short stopped
  · have about := Grammar.about_of_parse_eq_failed honest refused
    rw [TokenStream.toList_ofArray] at about
    exact render_parse_eq_ok short whole about

/-- The characters of a string that goes on in the next line are shown. -/
theorem compileSelector_render_of_break :
    scriptGrammar.Honest ∧ "'y\r\nz".utf8ByteSize ≤ maxSourceLength ∧
      (compileSelector scriptGrammar {} {} 0
          (.script "script" [.look (.only .typeSelector) 1 false]) "'y\r\nz").1 =
        .failed (.parse (.tokenMismatch ⟨.characters, 1, "y\r\nz"⟩ (.only .typeSelector))) ∧
      ∃ rendered,
        (SelectorError.parse (.tokenMismatch ⟨.characters, 1, "y\r\nz"⟩
          (.only .typeSelector))).render "'y\r\nz" = .ok rendered := by
  have tokens : (scanSelector {} "'y\r\nz").tokens =
      #[⟨.singleQuoteStart, 0, "'"⟩, ⟨.characters, 1, "y\r\nz"⟩] := by decide +kernel
  have verdict : (scanSelector {} "'y\r\nz").verdict = .done 5 := by decide +kernel
  have short : "'y\r\nz".utf8ByteSize ≤ maxSourceLength := by decide
  have failed : (compileSelector scriptGrammar {} {} 0
      (.script "script" [.look (.only .typeSelector) 1 false]) "'y\r\nz").1 =
      .failed (.parse (.tokenMismatch ⟨.characters, 1, "y\r\nz"⟩ (.only .typeSelector))) := by
    rw [compileSelector_eq]
    simp only [verdict, tokens]
    rfl
  refine ⟨honest_scriptGrammar, short, failed, ?_⟩
  refine (compileSelector_render scriptGrammar honest_scriptGrammar {} {} 0 _ _ short _ failed).2 ?_
  rintro ⟨earlier, escaped, token, later, parts, kind, -⟩
  have member : escaped ∈ (scanSelector {} "'y\r\nz").tokens.toList := by
    rw [parts]
    exact List.mem_append_right _ List.mem_cons_self
  rw [tokens, List.mem_cons, List.mem_singleton] at member
  rcases member with rfl | rfl
  · cases kind
  · cases kind

/-- A line feed behind an escaped carriage return is not shown. -/
theorem render_of_escaped_return :
    scriptGrammar.Honest ∧ "'\\\r\n".utf8ByteSize ≤ maxSourceLength ∧
      (compileSelector scriptGrammar {} {} 0
          (.script "script" [.look (.only .typeSelector) 2 false]) "'\\\r\n").1 =
        .failed (.parse (.tokenMismatch ⟨.characters, 3, "\n"⟩ (.only .typeSelector))) ∧
      (SelectorError.parse (.tokenMismatch ⟨.characters, 3, "\n"⟩
        (.only .typeSelector))).render "'\\\r\n" = .error .columnUnderflow := by
  have tokens : (scanSelector {} "'\\\r\n").tokens =
      #[⟨.singleQuoteStart, 0, "'"⟩, ⟨.escapedCharacter, 1, "\\\r"⟩,
        ⟨.characters, 3, "\n"⟩] := by decide +kernel
  have verdict : (scanSelector {} "'\\\r\n").verdict = .done 4 := by decide +kernel
  refine ⟨honest_scriptGrammar, by decide, ?_, by decide +kernel⟩
  rw [compileSelector_eq]
  simp only [verdict, tokens]
  rfl

end CssSelector
