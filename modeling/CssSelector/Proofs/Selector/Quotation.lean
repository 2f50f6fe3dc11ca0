import CssSelector.Proofs.Selector.Extension

/-!
# Quotations

What stands inside a string does not matter to a scan. It goes through the string up to the closing
quote, whatever the characters, and from there on it does the same for all of them,
`scanSelector_quotation`.
-/

set_option autoImplicit false

namespace CssSelector

/-- A character that stands for itself in a string. -/
def Quote.isPlain (quote : Quote) (c : Char) : Bool := c ≠ quote.char && c ≠ '\\'

/-- The text of a string without its quotes: plain characters and pairs of a backslash and any
character. -/
def Quote.isBody (quote : Quote) : List Char → Bool
  | [] => true
  | [c] => quote.isPlain c
  | c :: d :: rest =>
      if c = '\\' then quote.isBody rest else quote.isPlain c && quote.isBody (d :: rest)

/-- Whether the source was too long or had too many tokens. -/
def ScanOutcome.exceedsSize (outcome : ScanOutcome) : Bool :=
  match outcome.verdict with
  | .failed (.sourceTooLong _) => true
  | .failed (.tooManyTokens _) => true
  | _ => false

/-- A token inside a string, in front of what is left of the string: a backslash with the character
behind it, or plain characters, as many as there are. -/
inductive Quote.Piece (quote : Quote) : TokenKind → List Char → List Char → Prop where
  | escaped (c : Char) (later : List Char) : Piece quote .escapedCharacter ['\\', c] later
  | run {run later : List Char} :
      run ≠ [] → (∀ c ∈ run, quote.isPlain c = true) → EndsRun quote.isPlain later →
      Piece quote .characters run later

/-- The tokens of a text inside a string that starts at an offset. -/
inductive Quote.Spells (quote : Quote) : Nat → List Char → List Token → Prop where
  | nil {offset : Nat} : Spells quote offset [] []
  | cons {offset : Nat} {kind : TokenKind} {lexeme later : List Char} {tokens : List Token} :
      quote.Piece kind lexeme later →
      Spells quote (offset + byteLength lexeme) later tokens →
      Spells quote offset (lexeme ++ later) (⟨kind, offset, String.ofList lexeme⟩ :: tokens)

namespace Quote

variable {quote : Quote} {c : Char} {body : List Char}

theorem Piece.ne_nil {kind : TokenKind} {lexeme later : List Char}
    (piece : quote.Piece kind lexeme later) : lexeme ≠ [] := by
  cases piece with
  | escaped c later => exact List.cons_ne_nil _ _
  | run full _ _ => exact full

theorem Piece.ne_endKind {kind : TokenKind} {lexeme later : List Char}
    (piece : quote.Piece kind lexeme later) : kind ≠ quote.endKind := by
  cases piece with
  | escaped c later => cases quote <;> decide
  | run _ _ _ => cases quote <;> decide

theorem Spells.joinedValues_eq {offset : Nat} {tokens : List Token}
    (spelled : quote.Spells offset body tokens) : joinedValues tokens = String.ofList body := by
  induction spelled with
  | nil => rw [joinedValues_nil, String.ofList_nil]
  | cons _ _ ih => rw [joinedValues_cons, ih, String.ofList_append]

theorem isPlain_char (quote : Quote) : quote.isPlain quote.char = false := by
  simp [isPlain]

theorem isPlain_of_isBody (valid : quote.isBody (c :: body) = true) (other : c ≠ '\\') :
    quote.isPlain c = true ∧ quote.isBody body = true := by
  cases body with
  | nil => exact ⟨valid, rfl⟩
  | cons d rest =>
      rw [isBody, if_neg other, Bool.and_eq_true] at valid
      exact valid

theorem exists_escaped_of_isBody (valid : quote.isBody ('\\' :: body) = true) :
    ∃ c rest, body = c :: rest ∧ quote.isBody rest = true := by
  cases body with
  | nil => simp [isBody, isPlain] at valid
  | cons c rest =>
      rw [isBody, if_pos rfl] at valid
      exact ⟨c, rest, rfl, valid⟩

theorem isBody_dropWhile (valid : quote.isBody body = true) :
    quote.isBody (body.dropWhile quote.isPlain) = true := by
  induction body with
  | nil => rfl
  | cons c rest ih =>
      cases plain : quote.isPlain c with
      | false => rwa [List.dropWhile_cons_of_neg (by simp [plain])]
      | true =>
          rw [List.dropWhile_cons_of_pos plain]
          have other : c ≠ '\\' := by
            rintro rfl
            simp [isPlain] at plain
          exact ih (isPlain_of_isBody valid other).2

end Quote

namespace SelectorContext

variable {quote : Quote} {source : Source} {offset : Nat} {before rest : List Char}

/-! ## The tokens of a string -/

theorem firstLexeme?_of_quote (quote : Quote) (rest : List Char) :
    LexicalRule.firstLexeme? (string quote).rules (quote.char :: rest) =
      some (quote.endKind, [quote.char]) := by
  rw [rules, stringRules, LexicalRule.firstLexeme?_cons]
  simp [Lexeme.literal, Lexeme.nonempty]

theorem firstLexeme?_of_backslash (quote : Quote) (c : Char) (rest : List Char) :
    LexicalRule.firstLexeme? (string quote).rules ('\\' :: c :: rest) =
      some (.escapedCharacter, ['\\', c]) := by
  have other : quote.char ≠ '\\' := by cases quote <;> decide
  rw [rules, stringRules, LexicalRule.firstLexeme?_cons, LexicalRule.firstLexeme?_cons]
  simp [Lexeme.literal, Lexeme.escapedCharacter, other]

theorem firstLexeme?_of_isPlain {c : Char} (plain : quote.isPlain c = true) (rest : List Char) :
    LexicalRule.firstLexeme? (string quote).rules (c :: rest) =
      some (.characters, (c :: rest).takeWhile quote.isPlain) := by
  obtain ⟨other, escape⟩ : c ≠ quote.char ∧ c ≠ '\\' := by simpa [Quote.isPlain] using plain
  have full : (c :: rest).takeWhile quote.isPlain ≠ [] := by simp [plain]
  have recognized : Lexeme.stringCharacters quote.char (c :: rest) =
      some ((c :: rest).takeWhile quote.isPlain) := Lexeme.nonempty_eq_some_iff.mpr ⟨full, rfl⟩
  rw [rules, stringRules, LexicalRule.firstLexeme?_cons, LexicalRule.firstLexeme?_cons,
    LexicalRule.firstLexeme?_cons]
  dsimp only
  rw [recognized]
  simp [Lexeme.literal, Lexeme.escapedCharacter, other.symm, escape]

/-- A string goes on with an escaped character or with a run of plain ones, and so does a scan,
where no plain character is behind the string. -/
theorem exists_lexeme_of_isBody {body : List Char} (valid : quote.isBody body = true)
    (goesOn : body ≠ []) (ends : EndsRun quote.isPlain rest) :
    ∃ kind lexeme later, body = lexeme ++ later ∧ quote.Piece kind lexeme later ∧
      quote.isBody later = true ∧
      LexicalRule.firstLexeme? (string quote).rules (body ++ rest) = some (kind, lexeme) := by
  obtain ⟨c, body, rfl⟩ := List.exists_cons_of_ne_nil goesOn
  by_cases escape : c = '\\'
  · subst escape
    obtain ⟨d, later, rfl, remaining⟩ := Quote.exists_escaped_of_isBody valid
    exact ⟨.escapedCharacter, ['\\', d], later, rfl, .escaped d later, remaining,
      firstLexeme?_of_backslash quote d _⟩
  · obtain ⟨plain, -⟩ := Quote.isPlain_of_isBody valid escape
    refine ⟨.characters, (c :: body).takeWhile quote.isPlain, (c :: body).dropWhile quote.isPlain,
      List.takeWhile_append_dropWhile.symm, ?_, Quote.isBody_dropWhile valid, ?_⟩
    · refine .run (by simp [plain]) ?_ (EndsRun.dropWhile _ _)
      exact fun d member => List.mem_takeWhile_imp member
    · rw [← ends.takeWhile_append (c :: body)]
      exact firstLexeme?_of_isPlain plain _

/-- A scan goes through the body of a string and stays in the string. -/
theorem exists_trace_of_isBody {body : List Char} {outer : List SelectorContext}
    (valid : quote.isBody body = true) (ends : EndsRun quote.isPlain rest)
    (depth : outer.length < maxContextDepth)
    (split : source.SplitAt offset before (body ++ rest)) :
    ∃ tokens, family.Trace source (string quote :: outer) offset tokens (string quote :: outer)
        (offset + byteLength body) ∧ quote.Spells offset body tokens := by
  -- plain characters are taken in runs, so the induction is on the length of the body
  generalize size : body.length = count
  induction count using Nat.strongRecOn generalizing body offset before with
  | ind count ih =>
      by_cases goesOn : body = []
      · subst goesOn
        exact ⟨[], .refl, .nil⟩
      · obtain ⟨kind, lexeme, later, rfl, piece, remaining, first⟩ :=
          exists_lexeme_of_isBody valid goesOn ends
        have shorter : later.length < count := by
          have positive := List.length_pos_iff.mpr piece.ne_nil
          rw [List.length_append] at size
          omega
        have accepted := (accepts_iff split.after?_eq).mpr ⟨kind, lexeme, first, rfl⟩
        rw [List.append_assoc] at split
        obtain ⟨tokens, trace, spelled⟩ := ih later.length shorter remaining split.advance rfl
        refine ⟨⟨kind, offset, String.ofList lexeme⟩ :: tokens, .step depth accepted ?_,
          .cons piece spelled⟩
        rw [contextsAfter_string piece.ne_endKind, Token.length_ofList, byteLength_append,
          ← Nat.add_assoc]
        exact trace

theorem accepts_quote (split : source.SplitAt offset before (quote.char :: rest)) :
    family.Accepts source (string quote) offset
      ⟨quote.endKind, offset, String.ofList [quote.char]⟩ :=
  (accepts_iff split.after?_eq).mpr ⟨_, _, firstLexeme?_of_quote quote rest, rfl⟩

/-! ## Behind an opening quote -/

/-- Every context reads an opening quote as that one character. -/
theorem value_of_startKind {context : SelectorContext} {token : Token}
    (accepted : family.Accepts source context offset token)
    (kind : token.kind = quote.startKind) : token.value.toList = [quote.char] := by
  have produced := token?_eq_some_of_accepts accepted
  obtain ⟨before, after, split⟩ := exists_splitAt produced
  obtain ⟨rule, member, lexeme, later, recognized, -, -, rfl⟩ := token?_eq_some split produced
  have only : ∀ rule ∈ context.rules.filter (fun rule => rule.kind = quote.startKind),
      rule = ⟨quote.startKind, Lexeme.literal [quote.char]⟩ := by
    cases context with
    | selector => cases quote <;> exact fun _ => List.mem_singleton.mp
    | parameters => cases quote <;> exact fun _ => List.mem_singleton.mp
    | attributes => cases quote <;> exact fun _ => List.mem_singleton.mp
    | string other => cases quote <;> cases other <;> exact fun _ => (absurd · List.not_mem_nil)
  obtain rfl := only rule (List.mem_filter.mpr ⟨member, decide_eq_true kind⟩)
  rw [String.toList_ofList]
  dsimp only [Lexeme.literal] at recognized
  split at recognized
  · exact (Option.some.inj recognized).symm
  · cases recognized

/-- A text whose last token is an opening quote ends with it. -/
theorem exists_chars_of_startKind {tokens : List Token} {last : Token}
    (completed : Completed source (tokens ++ [last])) (kind : last.kind = quote.startKind) :
    ∃ front, source.chars = front ++ [quote.char] := by
  obtain ⟨between, place, leading, final⟩ := completed.trace.cut
  obtain ⟨context, outer, rfl, -, accepted, -⟩ := final.exists_accepts
  obtain ⟨later, chars, reached⟩ := splitAt_of_trace completed.trace source.splitAt_zero
  have ended : later = [] := by
    have length := reached.length_eq
    cases later with
    | nil => rfl
    | cons c later =>
        have positive := c.utf8Size_pos
        rw [byteLength_cons] at length
        omega
  refine ⟨(joinedValues tokens).toList, ?_⟩
  rw [chars, ended, joinedValues_append, joinedValues_cons, joinedValues_nil,
    String.append_empty, String.toList_append, value_of_startKind accepted kind, List.append_nil]

theorem exists_replay_of_startKind {tokens : List Token} {last : Token}
    (completed : Completed source tokens) (found : tokens.getLast? = some last)
    (kind : last.kind = quote.startKind) :
    ∃ outer, replay tokens = string quote :: outer ∧ outer.length < maxContextDepth := by
  obtain ⟨leading, rfl⟩ := List.getLast?_eq_some_iff.mp found
  have opened : replay (leading ++ [last]) = string quote :: replay leading := by
    rw [replay_concat, replayToken, kind]
    cases quote <;> rfl
  have depth := completed.depth
  rw [opened, List.length_cons] at depth
  exact ⟨replay leading, opened, depth⟩

/-- A text that ends with an opening quote keeps its tokens, however it goes on. -/
theorem trace_of_startKind {whole : Source} {later : List Char} {tokens : List Token}
    {last : Token} (completed : Completed source tokens)
    (found : tokens.getLast? = some last) (kind : last.kind = quote.startKind)
    (chars : whole.chars = source.chars ++ later) :
    family.Trace whole [selector] 0 tokens (replay tokens) source.length := by
  refine trace_of_extends chars ?_ completed.trace source.splitAt_zero ?_
  · intro rest full suffix
    obtain ⟨leading, rfl⟩ := List.getLast?_eq_some_iff.mp found
    obtain ⟨front, frontEq⟩ := exists_chars_of_startKind completed kind
    rw [frontEq] at suffix
    obtain ⟨initial, rfl, -⟩ := (List.suffix_concat_iff.mp suffix).resolve_left full
    exact .quote initial quote later
  · intro other same
    cases found.symm.trans same
    rw [kind]
    cases quote <;> decide

/-! ## Scans of quotations -/

theorem verdict_ne_of_exceedsSize {outcome : ScanOutcome} (fits : outcome.exceedsSize = false) :
    (∀ length, outcome.verdict ≠ .failed (.sourceTooLong length)) ∧
      ∀ count, outcome.verdict ≠ .failed (.tooManyTokens count) := by
  constructor
  · intro length long
    rw [ScanOutcome.exceedsSize, long] at fits
    cases fits
  · intro count crowded
    rw [ScanOutcome.exceedsSize, crowded] at fits
    cases fits

/-- A scan of a text with a string in it has the tokens up to the opening quote, those of the body,
the closing quote, and those of a scan that goes on behind it in the contexts around the string. -/
theorem exists_tokens_of_quotation {preferences : ScanPreferences} {whole : Source}
    {body after : List Char} {tokens : List Token} {last : Token} {outer : List SelectorContext}
    (completed : Completed source tokens) (found : tokens.getLast? = some last)
    (kind : last.kind = quote.startKind) (opened : replay tokens = string quote :: outer)
    (depth : outer.length < maxContextDepth) (valid : quote.isBody body = true)
    (chars : whole.chars = source.chars ++ (body ++ quote.char :: after))
    (fits : (family.scan preferences selector whole).exceedsSize = false) :
    ∃ inner rest final stop,
      (family.scan preferences selector whole).tokens.toList =
        tokens ++ (inner ++ ⟨quote.endKind, source.length + byteLength body,
          String.ofList [quote.char]⟩ :: rest) ∧
      joinedValues inner = String.ofList body ∧
      whole.after? (source.length + byteLength body + 1) = some after ∧
      family.Trace whole outer (source.length + byteLength body + 1) rest final stop ∧
      family.Ends whole preferences final stop
        (family.scan preferences selector whole).tokens.size
        (family.scan preferences selector whole).verdict := by
  have inside : whole.SplitAt source.length source.chars (body ++ quote.char :: after) :=
    ⟨chars, source.length_eq.symm⟩
  have closing : whole.SplitAt (source.length + byteLength body) (source.chars ++ body)
      ([quote.char] ++ after) := inside.advance
  have size : byteLength [quote.char] = 1 := by cases quote <;> rfl
  have behind := closing.advance
  rw [size] at behind
  have leading := trace_of_startKind completed found kind chars
  rw [opened] at leading
  have closes : EndsRun quote.isPlain (quote.char :: after) := .cons quote.isPlain_char after
  obtain ⟨inner, through, spelled⟩ := exists_trace_of_isBody valid closes depth inside
  have closed : family.Trace whole (string quote :: outer) (source.length + byteLength body)
      [⟨quote.endKind, source.length + byteLength body, String.ofList [quote.char]⟩] outer
      (source.length + byteLength body + 1) := by
    refine .step depth (accepts_quote closing) ?_
    rw [ContextFamily.contextsAfter_of_closes (decide_eq_true rfl), Token.length_ofList, size]
    exact .refl
  obtain ⟨short, room⟩ := verdict_ne_of_exceedsSize fits
  obtain ⟨final, stop, trace, -, ends⟩ :=
    family.scanFrom_trace preferences selector 0 (length_le_of_verdict_ne (short _))
  obtain ⟨rest, parts, further⟩ :=
    (leading.append (through.append closed)).exists_rest trace ends (room _)
  refine ⟨inner, rest, final, stop, ?_, spelled.joinedValues_eq, behind.after?_eq, further, ends⟩
  rw [ContextFamily.scan, parts, List.append_assoc, List.append_assoc]
  rfl

/-- What stands inside a string is opaque. Of two texts that differ only in the bodies of a string,
behind an opening quote that any successful scan has come to, both have the tokens up to that quote.
Then come the tokens of the bodies and the closing quotes. The tokens behind them and the verdicts
are the same up to the difference in the lengths of the bodies. -/
theorem scanSelector_quotation (preferences : ScanPreferences) (quote : Quote)
    (before first second after : String) {cursor : Nat} {last : Token}
    (done : (scanSelector preferences before).verdict = .done cursor)
    (found : (scanSelector preferences before).tokens.back? = some last)
    (kind : last.kind = quote.startKind)
    (firstBody : quote.isBody first.toList = true)
    (secondBody : quote.isBody second.toList = true)
    (firstFits : (scanSelector preferences
      (before ++ first ++ String.singleton quote.char ++ after)).exceedsSize = false)
    (secondFits : (scanSelector preferences
      (before ++ second ++ String.singleton quote.char ++ after)).exceedsSize = false) :
    let left := scanSelector preferences
      (before ++ first ++ String.singleton quote.char ++ after)
    let right := scanSelector preferences
      (before ++ second ++ String.singleton quote.char ++ after)
    left.verdict.shift second.utf8ByteSize = right.verdict.shift first.utf8ByteSize ∧
      ∃ leftInner leftRest rightInner rightRest,
        left.tokens.toList = (scanSelector preferences before).tokens.toList ++
          (leftInner ++ ⟨quote.endKind, before.utf8ByteSize + first.utf8ByteSize,
            String.singleton quote.char⟩ :: leftRest) ∧
        right.tokens.toList = (scanSelector preferences before).tokens.toList ++
          (rightInner ++ ⟨quote.endKind, before.utf8ByteSize + second.utf8ByteSize,
            String.singleton quote.char⟩ :: rightRest) ∧
        joinedValues leftInner = first ∧ joinedValues rightInner = second ∧
        leftRest.map (Token.shift second.utf8ByteSize) =
          rightRest.map (Token.shift first.utf8ByteSize) := by
  intro left right
  have chars : ∀ body : String,
      (Source.ofString (before ++ body ++ String.singleton quote.char ++ after)).chars =
        (Source.ofString before).chars ++ (body.toList ++ quote.char :: after.toList) := by
    intro body
    show (before ++ body ++ String.singleton quote.char ++ after).toList = before.toList ++ _
    simp
  rw [← Array.getLast?_toList] at found
  obtain ⟨completed, -⟩ := completed_of_done done
  obtain ⟨outer, opened, depth⟩ := exists_replay_of_startKind completed found kind
  obtain ⟨leftInner, leftRest, _, _, leftTokens, leftJoined, leftAfter, leftTrace, leftEnds⟩ :=
    exists_tokens_of_quotation completed found kind opened depth firstBody (chars first) firstFits
  obtain ⟨rightInner, rightRest, _, _, rightTokens, rightJoined, rightAfter, rightTrace,
      rightEnds⟩ :=
    exists_tokens_of_quotation completed found kind opened depth secondBody (chars second)
      secondFits
  obtain ⟨rest, verdict⟩ := shift_eq_of_sameRest leftTrace leftEnds rightTrace rightEnds
    ((verdict_ne_of_exceedsSize firstFits).2 _) ((verdict_ne_of_exceedsSize secondFits).2 _)
    ⟨after.toList, leftAfter, rightAfter⟩
    (show _ + second.utf8ByteSize = _ + first.utf8ByteSize by
      rw [byteLength_toList, byteLength_toList]
      omega)
  refine ⟨verdict, leftInner, leftRest, rightInner, rightRest, ?_, ?_, ?_, ?_, rest⟩
  · rw [← byteLength_toList first]
    exact leftTokens
  · rw [← byteLength_toList second]
    exact rightTokens
  · rw [leftJoined, String.ofList_toList]
  · rw [rightJoined, String.ofList_toList]

/-- Behind `a['`, the bodies `x` and `\'é]` are followed by the same error, four bytes apart. -/
theorem quotation_of_escaped_quote :
    ∃ left right leftInner leftRest rightInner rightRest,
      left = scanSelector {} ("a['" ++ "x" ++ String.singleton Quote.single.char ++ "]!") ∧
      right = scanSelector {} ("a['" ++ "\\'é]" ++ String.singleton Quote.single.char ++ "]!") ∧
      left.verdict = .failed (.stuck 6 "!" "selector") ∧
      right.verdict = .failed (.stuck 10 "!" "selector") ∧
      left.verdict.shift 5 = right.verdict.shift 1 ∧
      left.tokens.toList = (scanSelector {} "a['").tokens.toList ++
        (leftInner ++ ⟨.singleQuoteEnd, 4, String.singleton Quote.single.char⟩ :: leftRest) ∧
      right.tokens.toList = (scanSelector {} "a['").tokens.toList ++
        (rightInner ++ ⟨.singleQuoteEnd, 8, String.singleton Quote.single.char⟩ :: rightRest) ∧
      joinedValues leftInner = "x" ∧ joinedValues rightInner = "\\'é]" ∧
      leftRest.map (Token.shift 5) = rightRest.map (Token.shift 1) := by
  have done : (scanSelector {} "a['").verdict = .done 3 := by decide +kernel
  have found : (scanSelector {} "a['").tokens.back? = some ⟨.singleQuoteStart, 2, "'"⟩ := by
    decide +kernel
  have first : (scanSelector {} ("a['" ++ "x" ++ String.singleton Quote.single.char ++
      "]!")).verdict = .failed (.stuck 6 "!" "selector") := by decide +kernel
  have second : (scanSelector {} ("a['" ++ "\\'é]" ++ String.singleton Quote.single.char ++
      "]!")).verdict = .failed (.stuck 10 "!" "selector") := by decide +kernel
  obtain ⟨verdict, leftInner, leftRest, rightInner, rightRest, parts⟩ :=
    scanSelector_quotation {} .single "a['" "x" "\\'é]" "]!" done found rfl (by decide)
      (by decide) (by rw [ScanOutcome.exceedsSize, first]) (by rw [ScanOutcome.exceedsSize, second])
  refine ⟨_, _, leftInner, leftRest, rightInner, rightRest, rfl, rfl, first, second, ?_⟩
  generalize scanSelector {} ("a['" ++ "x" ++ String.singleton Quote.single.char ++ "]!") = left
    at *
  generalize scanSelector {} ("a['" ++ "\\'é]" ++ String.singleton Quote.single.char ++ "]!") =
    right at *
  generalize scanSelector {} "a['" = opening at *
  exact ⟨verdict, parts⟩

end SelectorContext

end CssSelector
