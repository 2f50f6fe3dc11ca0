import CssSelector.Proofs.Selector.Extension

/-!
# Lists of selectors

Scanning takes a comma between two selectors to a separator between their tokens,
`scanSelector_append_comma`.
-/

set_option autoImplicit false

namespace CssSelector

namespace SelectorContext

variable {source : Source} {tokens : List Token}

/-- Tokens that close all that they open do not end with a position or with plain characters. -/
theorem kind_not_mem_openEnded (completed : Completed source tokens)
    (closed : replay tokens = [selector])
    (visible : ∀ last, tokens.getLast? = some last → last.kind ≠ .whitespace) :
    ∀ last, tokens.getLast? = some last → last.kind ∉ openEnded := by
  intro last found member
  have inner : last.kind = .position ∨ last.kind = .characters := by
    have other := visible last found
    simpa [openEnded, other] using member
  obtain ⟨leading, rfl⟩ := List.getLast?_eq_some_iff.mp found
  obtain ⟨context, outer, told, -, listed, -⟩ :=
    wellNested_of_trace completed.trace leading last [] rfl
  rw [replay_concat, told] at closed
  have kept : replayToken (context :: outer) last = context :: outer := by
    rcases inner with kind | kind <;> rw [replayToken, kind] <;> rfl
  cases kept.symm.trans closed
  rcases inner with kind | kind <;> rw [kind] at listed <;> exact absurd listed (by decide)

theorem accepts_separator {offset : Nat} {before rest : List Char}
    (split : source.SplitAt offset before (',' :: rest))
    (visible : ∀ c, rest.head? = some c → isSpace c = false) :
    family.Accepts source selector offset ⟨.separator, offset, ","⟩ := by
  have tight : rest.takeWhile isSpace = [] := by
    cases rest with
    | nil => rfl
    | cons c rest => simp [visible c rfl]
  have blank : isSpace ',' = false := Lexeme.isSpace_of_isBarrier rfl
  refine (accepts_iff split.after?_eq).mpr ⟨.separator, [','], ?_, rfl⟩
  rw [rules, selectorRules, List.cons_append, List.cons_append,
    LexicalRule.firstLexeme?_cons, LexicalRule.firstLexeme?_cons]
  simp [Lexeme.combinator, Lexeme.separator, Lexeme.spacedMark, Lexeme.isCombinator, blank, tight]

/-- The tokens of two selectors with a comma between them. -/
theorem completed_append_comma {left right whole : Source} {first second : List Token}
    (chars : whole.chars = left.chars ++ ',' :: right.chars)
    (leftDone : Completed left first) (rightDone : Completed right second)
    (closed : replay first = [selector])
    (visible : ∀ last, first.getLast? = some last → last.kind ≠ .whitespace)
    (begins : ∀ c, right.chars.head? = some c → isSpace c = false)
    (short : whole.length ≤ maxSourceLength)
    (room : first.length + 1 + second.length ≤ maxTokenCount) :
    Completed whole (first ++ ⟨.separator, left.length, ","⟩ ::
      second.map (Token.shift (left.length + 1))) := by
  have between : whole.SplitAt left.length left.chars ([','] ++ right.chars) :=
    ⟨chars, left.length_eq.symm⟩
  have behind : whole.SplitAt (left.length + 1) (left.chars ++ [',']) right.chars :=
    between.advance
  have leading : family.Trace whole [selector] 0 first [selector] left.length := by
    have trace := leftDone.trace
    rw [closed] at trace
    exact trace_of_extends chars (fun rest _ _ => .comma rest right.chars) trace
      left.splitAt_zero (kind_not_mem_openEnded leftDone closed visible)
  obtain ⟨following, -⟩ := trace_shift_of_sameRest rightDone.trace
    ⟨right.chars, right.splitAt_zero.after?_eq, behind.after?_eq⟩ (Nat.zero_add _)
  have ended : right.length + (left.length + 1) = whole.length := by
    rw [behind.length_eq, ← right.length_eq, Nat.add_comm]
  rw [ended] at following
  have trace := leading.append (.step (Nat.zero_lt_succ _) (accepts_separator between begins)
    following)
  have told := final_eq_replay trace
  refine ⟨short, ?_, told ▸ rightDone.depth, told ▸ trace⟩
  rw [List.length_append, List.length_cons, List.length_map]
  omega

/-- A comma joins two selectors whose scans succeed. If the first one has closed all that it has
opened and does not end with white space, and the second one does not begin with it, then both keep
their tokens, the second ones behind the comma, which is a separator of its own. -/
theorem scanSelector_append_comma (preferences : ScanPreferences) (left right : String)
    {leftCursor rightCursor : Nat}
    (leftDone : (scanSelector preferences left).verdict = .done leftCursor)
    (rightDone : (scanSelector preferences right).verdict = .done rightCursor)
    (closed : replay (scanSelector preferences left).tokens.toList = [selector])
    (visible : ∀ last, (scanSelector preferences left).tokens.back? = some last →
      last.kind ≠ .whitespace)
    (begins : ∀ c, right.toList.head? = some c → isSpace c = false)
    (short : left.utf8ByteSize + 1 + right.utf8ByteSize ≤ maxSourceLength)
    (room : (scanSelector preferences left).tokens.size + 1 +
      (scanSelector preferences right).tokens.size ≤ maxTokenCount) :
    let joined := scanSelector preferences (left ++ "," ++ right)
    joined.verdict = .done (left.utf8ByteSize + 1 + right.utf8ByteSize) ∧
      joined.tokens.toList =
        (scanSelector preferences left).tokens.toList ++
          ⟨.separator, left.utf8ByteSize, ","⟩ ::
            (scanSelector preferences right).tokens.toList.map
              (Token.shift (left.utf8ByteSize + 1)) := by
  intro joined
  obtain ⟨first, -⟩ := completed_of_done leftDone
  obtain ⟨second, -⟩ := completed_of_done rightDone
  have length : (Source.ofString (left ++ "," ++ right)).length =
      left.utf8ByteSize + 1 + right.utf8ByteSize := by
    show (left ++ "," ++ right).utf8ByteSize = _
    rw [String.utf8ByteSize_append, String.utf8ByteSize_append]
    rfl
  have chars : (Source.ofString (left ++ "," ++ right)).chars =
      (Source.ofString left).chars ++ ',' :: (Source.ofString right).chars := by
    show (left ++ "," ++ right).toList = left.toList ++ ',' :: right.toList
    simp
  rw [← Array.getLast?_toList] at visible
  rw [← Array.length_toList, ← Array.length_toList] at room
  have completed := completed_append_comma chars first second closed visible begins
    (length ▸ short) room
  obtain ⟨tokens, verdict⟩ := completed.scan_eq preferences
  exact ⟨length ▸ verdict, tokens⟩

/-- A comma between `é(2n)`, which ends behind a position, and `b['`, which leaves a string open. -/
theorem append_comma_of_parameters :
    (scanSelector {} "é(2n)").verdict = .done 6 ∧ (scanSelector {} "b['").verdict = .done 3 ∧
      replay (scanSelector {} "é(2n)").tokens.toList = [selector] ∧
      (scanSelector {} ("é(2n)" ++ "," ++ "b['")).verdict = .done 10 ∧
      (scanSelector {} ("é(2n)" ++ "," ++ "b['")).tokens.toList =
        [⟨.typeSelector, 0, "é"⟩, ⟨.parametersStart, 2, "("⟩, ⟨.position, 3, "2n"⟩,
          ⟨.parametersEnd, 5, ")"⟩, ⟨.separator, 6, ","⟩, ⟨.typeSelector, 7, "b"⟩,
          ⟨.attributeStart, 8, "["⟩, ⟨.singleQuoteStart, 9, "'"⟩] := by
  have leftDone : (scanSelector {} "é(2n)").verdict = .done 6 := by decide +kernel
  have rightDone : (scanSelector {} "b['").verdict = .done 3 := by decide +kernel
  have leftTokens : (scanSelector {} "é(2n)").tokens =
      #[⟨.typeSelector, 0, "é"⟩, ⟨.parametersStart, 2, "("⟩, ⟨.position, 3, "2n"⟩,
        ⟨.parametersEnd, 5, ")"⟩] := by decide +kernel
  have rightTokens : (scanSelector {} "b['").tokens =
      #[⟨.typeSelector, 0, "b"⟩, ⟨.attributeStart, 1, "["⟩, ⟨.singleQuoteStart, 2, "'"⟩] := by
    decide +kernel
  have closed : replay (scanSelector {} "é(2n)").tokens.toList = [selector] := by
    rw [leftTokens]
    rfl
  have visible : ∀ last, (scanSelector {} "é(2n)").tokens.back? = some last →
      last.kind ≠ .whitespace := by
    rw [leftTokens]
    rintro _ ⟨⟩
    decide
  have begins : ∀ c, "b['".toList.head? = some c → isSpace c = false := by
    rintro _ ⟨⟩
    decide +kernel
  obtain ⟨verdict, tokens⟩ := scanSelector_append_comma {} "é(2n)" "b['" leftDone rightDone
    closed visible begins (by decide) (by rw [leftTokens, rightTokens]; decide)
  refine ⟨leftDone, rightDone, closed, verdict, ?_⟩
  rw [tokens, leftTokens, rightTokens]
  rfl

end SelectorContext

end CssSelector
