import CssSelector.Proofs.Selector.Token
import Mathlib.Data.List.Basic
import Mathlib.Data.List.TakeWhile

/-!
# Line ends in tokens

Tokens end inside a line end, between a carriage return and what follows it, only where a string
escapes the carriage return. So there is one way for a token to start with the rest of a line end,
`exists_escaped_of_trace`; and no scan is stuck at one, `token?_ne_none_of_lineEnd`.
-/

set_option autoImplicit false

namespace CssSelector

/-- The characters of line ends. -/
def isLineEnd (c : Char) : Bool := c = '\r' || c = '\n'

theorem eq_of_isLineEnd {c : Char} (ending : isLineEnd c = true) : c = '\r' ∨ c = '\n' := by
  simpa [isLineEnd] using ending

theorem isSpace_of_isLineEnd {c : Char} (ending : isLineEnd c = true) : isSpace c = true := by
  rcases eq_of_isLineEnd ending with rfl | rfl <;> decide

theorem ordinary_of_isLineEnd (quote : Quote) {c : Char} (ending : isLineEnd c = true) :
    (c ≠ quote.char && c ≠ '\\') = true := by
  rcases eq_of_isLineEnd ending with rfl | rfl <;> cases quote <;> decide

namespace Lexeme

/-- A recognizer that never stops inside a line end: behind a carriage return at the end of a
lexeme no line end goes on. -/
def KeepsLineEnds (recognize : Recognizer) : Prop :=
  ∀ ⦃lexeme later : List Char⦄, recognize (lexeme ++ later) = some lexeme →
    lexeme.getLast? = some '\r' → ∀ c, later.head? = some c → isLineEnd c = false

/-- A recognizer whose lexemes have no carriage return. -/
def AvoidsReturn (recognize : Recognizer) : Prop :=
  ∀ ⦃input lexeme : List Char⦄, recognize input = some lexeme → '\r' ∉ lexeme

theorem AvoidsReturn.keepsLineEnds {recognize : Recognizer} (avoids : AvoidsReturn recognize) :
    KeepsLineEnds recognize := by
  intro lexeme later found last
  exact absurd (List.mem_of_getLast? last) (avoids found)

/-! ## Lexemes without carriage returns -/

theorem avoidsReturn_literal {text : List Char} (none : '\r' ∉ text) :
    AvoidsReturn (literal text) := by
  intro input lexeme found
  unfold literal at found
  split at found
  · obtain ⟨-, rfl⟩ := nonempty_eq_some_iff.mp found
    exact none
  · cases found

theorem avoidsReturn_run {belongs : Char → Bool} (other : belongs '\r' = false) :
    AvoidsReturn (run belongs) := by
  intro input lexeme found member
  obtain ⟨-, rfl⟩ := nonempty_eq_some_iff.mp found
  have inside := List.mem_takeWhile_imp member
  rw [other] at inside
  cases inside

theorem not_mem_cons_of_map {recognize : Recognizer} (avoids : AvoidsReturn recognize) {c : Char}
    (other : c ≠ '\r') {input lexeme : List Char}
    (found : (recognize input).map (c :: ·) = some lexeme) : '\r' ∉ lexeme := by
  obtain ⟨tail, tailFound, rfl⟩ := Option.map_eq_some_iff.mp found
  rw [List.mem_cons, not_or]
  exact ⟨Ne.symm other, avoids tailFound⟩

theorem isWord_return : isWord '\r' = false := by decide +kernel

theorem continuesName_return : continuesName '\r' = false := by
  simp [continuesName, isWord_return]

theorem avoidsReturn_bareIdentifier : AvoidsReturn bareIdentifier := by
  intro input lexeme found
  cases input with
  | nil => cases found
  | cons c rest =>
      rw [bareIdentifier] at found
      split at found
      · next starts =>
          cases found
          rw [List.mem_cons, not_or]
          constructor
          · rintro rfl
            simp [startsName, isWord_return] at starts
          · intro member
            have inside := List.mem_takeWhile_imp member
            rw [continuesName_return] at inside
            cases inside
      · cases found

theorem avoidsReturn_identifier : AvoidsReturn identifier := by
  intro input lexeme found
  unfold identifier at found
  split at found
  · exact not_mem_cons_of_map avoidsReturn_bareIdentifier (by decide) found
  · exact avoidsReturn_bareIdentifier found

theorem avoidsReturn_typeSelector : AvoidsReturn typeSelector := by
  intro input lexeme found
  unfold typeSelector at found
  split at found
  · cases found
    decide
  · exact avoidsReturn_identifier found

theorem avoidsReturn_classSelector : AvoidsReturn classSelector := by
  intro input lexeme found
  unfold classSelector at found
  split at found
  · exact not_mem_cons_of_map avoidsReturn_identifier (by decide) found
  · cases found

theorem avoidsReturn_idSelector : AvoidsReturn idSelector := by
  intro input lexeme found
  unfold idSelector at found
  split at found
  · exact not_mem_cons_of_map (avoidsReturn_run continuesName_return) (by decide) found
  · cases found

theorem avoidsReturn_pseudoElement : AvoidsReturn pseudoElement := by
  intro input lexeme found
  unfold pseudoElement at found
  split at found
  · obtain ⟨name, nameFound, rfl⟩ := Option.map_eq_some_iff.mp found
    simpa using avoidsReturn_identifier nameFound
  · cases found

theorem avoidsReturn_pseudoClass : AvoidsReturn pseudoClass := by
  intro input lexeme found
  unfold pseudoClass at found
  split at found
  · exact not_mem_cons_of_map avoidsReturn_identifier (by decide) found
  · cases found

theorem avoidsReturn_attributeOperator : AvoidsReturn attributeOperator := by
  intro input lexeme found
  unfold attributeOperator at found
  split at found
  · cases found
    decide
  · split at found
    · next modifies =>
        cases found
        rw [List.mem_cons, not_or]
        refine ⟨?_, by decide⟩
        rintro rfl
        exact absurd modifies (by decide)
    · cases found
  · cases found

/-! ## Lexemes that take as much as they can -/

theorem belongs_of_head?_dropWhile {belongs : Char → Bool} {input : List Char} {c : Char}
    (head : (input.dropWhile belongs).head? = some c) : belongs c = false := by
  have stop := List.head?_dropWhile_not belongs input
  rw [head] at stop
  exact stop

theorem isLineEnd_of_not {belongs : Char → Bool}
    (whole : ∀ c, isLineEnd c = true → belongs c = true) {c : Char} (other : belongs c = false) :
    isLineEnd c = false := by
  cases ending : isLineEnd c with
  | false => rfl
  | true =>
      rw [whole c ending] at other
      cases other

theorem keepsLineEnds_run {belongs : Char → Bool}
    (whole : ∀ c, isLineEnd c = true → belongs c = true) : KeepsLineEnds (run belongs) := by
  intro lexeme later found _ c head
  obtain ⟨-, taken⟩ := nonempty_eq_some_iff.mp found
  have left : (lexeme ++ later).dropWhile belongs = later := by
    have parts := List.takeWhile_append_dropWhile (p := belongs) (l := lexeme ++ later)
    rw [taken] at parts
    exact List.append_cancel_left parts
  rw [← left] at head
  exact isLineEnd_of_not whole (belongs_of_head?_dropWhile head)

theorem keepsLineEnds_spacedMark (isMark : Char → Bool) : KeepsLineEnds (spacedMark isMark) := by
  intro lexeme later found _ c head
  unfold spacedMark at found
  generalize whole : lexeme ++ later = input at found
  split at found
  · cases found
  · next mark rest behind =>
      split at found
      · have taken := Option.some.inj found
        have parts := List.takeWhile_append_dropWhile (p := isSpace) (l := input)
        have left : lexeme ++ rest.dropWhile isSpace = lexeme ++ later := by
          rw [whole, ← parts, behind, ← taken, List.append_assoc, List.cons_append,
            List.takeWhile_append_dropWhile]
        rw [← List.append_cancel_left left] at head
        exact isLineEnd_of_not (fun _ => isSpace_of_isLineEnd) (belongs_of_head?_dropWhile head)
      · cases found

/-! ## Positions -/

theorem getLast?_append_digits {left input : List Char}
    (full : ¬(input.takeWhile isDigit).isEmpty = true) :
    (left ++ input.takeWhile isDigit).getLast? ≠ some '\r' := by
  intro last
  rw [List.getLast?_append_of_ne_nil _ (mt List.isEmpty_iff.mpr full)] at last
  have digit := List.mem_takeWhile_imp (List.mem_of_getLast? last)
  exact absurd digit (by decide)

theorem getLast?_positionConstant (input : List Char) :
    (positionConstant input).getLast? ≠ some '\r' := by
  unfold positionConstant
  dsimp only
  split
  · simp
  · next sign rest _ =>
      split
      · simp
      · next digits => exact getLast?_append_digits digits

theorem getLast?_position {input lexeme : List Char} (found : position input = some lexeme) :
    lexeme.getLast? ≠ some '\r' := by
  unfold position at found
  dsimp only at found
  split at found
  · next rest behind =>
      cases found
      rw [List.getLast?_append_of_ne_nil _ (List.cons_ne_nil _ _), List.getLast?_cons]
      have constant := getLast?_positionConstant rest
      cases last : (positionConstant rest).getLast? with
      | none => decide
      | some c =>
          rw [last] at constant
          simpa using constant
  · split at found
    · unfold parity at found
      split at found
      · cases found
        decide
      · cases found
        decide
      · cases found
    · next digits =>
        cases found
        exact getLast?_append_digits digits

theorem keepsLineEnds_delimitedPosition : KeepsLineEnds delimitedPosition := by
  intro lexeme later found last
  unfold delimitedPosition at found
  split at found
  · next candidate recognized =>
      split at found
      · cases found
        exact absurd last (getLast?_position recognized)
      · cases found
  · cases found

end Lexeme

namespace SelectorContext

open Lexeme in
/-- Only escaped characters may end inside a line end. -/
theorem keepsLineEnds_rules (context : SelectorContext) :
    ∀ rule ∈ context.rules, rule.kind ≠ .escapedCharacter → KeepsLineEnds rule.recognize := by
  have mark : ∀ c, c ≠ '\r' → KeepsLineEnds (literal [c]) := fun c other =>
    (avoidsReturn_literal (by simpa using Ne.symm other)).keepsLineEnds
  have spaces : KeepsLineEnds whitespace := keepsLineEnds_run fun _ => isSpace_of_isLineEnd
  have quotes : ∀ rule ∈ quoteRules, rule.kind ≠ .escapedCharacter →
      KeepsLineEnds rule.recognize := by
    simp only [quoteRules, List.forall_mem_cons]
    exact ⟨fun _ => mark _ (by decide), fun _ => mark _ (by decide), by simp⟩
  have ofSelector : ∀ rule ∈ selectorRules, rule.kind ≠ .escapedCharacter →
      KeepsLineEnds rule.recognize := by
    simp only [selectorRules, List.forall_mem_append, List.forall_mem_cons]
    exact ⟨⟨fun _ => keepsLineEnds_spacedMark _, fun _ => keepsLineEnds_spacedMark _,
      fun _ => spaces, fun _ => avoidsReturn_typeSelector.keepsLineEnds,
      fun _ => avoidsReturn_classSelector.keepsLineEnds,
      fun _ => avoidsReturn_idSelector.keepsLineEnds,
      fun _ => avoidsReturn_pseudoElement.keepsLineEnds,
      fun _ => avoidsReturn_pseudoClass.keepsLineEnds,
      fun _ => mark _ (by decide), fun _ => mark _ (by decide), by simp⟩, quotes⟩
  cases context with
  | selector => exact ofSelector
  | parameters =>
      simp only [rules, parameterRules, List.forall_mem_append, List.forall_mem_cons]
      exact ⟨⟨fun _ => mark _ (by decide), fun _ => keepsLineEnds_delimitedPosition, by simp⟩,
        ofSelector⟩
  | attributes =>
      simp only [rules, attributeRules, List.forall_mem_append, List.forall_mem_cons]
      exact ⟨⟨fun _ => mark _ (by decide), fun _ => spaces,
        fun _ => avoidsReturn_attributeOperator.keepsLineEnds,
        fun _ => (avoidsReturn_run continuesName_return).keepsLineEnds, by simp⟩, quotes⟩
  | string quote =>
      simp only [rules, stringRules, List.forall_mem_cons]
      refine ⟨fun _ => mark _ ?_, fun other => absurd rfl other,
        fun _ => keepsLineEnds_run ?_, by simp⟩
      · cases quote <;> decide
      · exact fun _ => ordinary_of_isLineEnd quote

variable {source : Source} {context : SelectorContext} {offset : Nat} {before after : List Char}
  {token : Token}

theorem string_of_escapedCharacter (accepted : family.Accepts source context offset token)
    (split : source.SplitAt offset before after) (kind : token.kind = .escapedCharacter) :
    ∃ quote c, context = string quote ∧ token.value.toList = ['\\', c] := by
  have produced := token?_eq_some_of_accepts accepted
  have listed := kind_mem_kinds produced
  obtain ⟨rule, member, lexeme, later, recognized, -, -, rfl⟩ := token?_eq_some split produced
  rw [kind] at listed
  cases context with
  | selector => exact absurd listed (by decide)
  | parameters => exact absurd listed (by decide)
  | attributes => exact absurd listed (by decide)
  | string quote =>
      simp only [rules, stringRules, List.mem_cons, List.not_mem_nil, or_false] at member
      rcases member with rfl | rfl | rfl
      · cases quote <;> cases kind
      · dsimp only at recognized
        unfold Lexeme.escapedCharacter at recognized
        split at recognized
        · next c rest =>
            cases recognized
            exact ⟨quote, c, rfl, String.toList_ofList⟩
        · cases recognized
      · cases kind

theorem characters_of_isLineEnd {quote : Quote} {c : Char}
    (accepted : family.Accepts source (string quote) offset token)
    (split : source.SplitAt offset before after) (head : token.value.toList.head? = some c)
    (ending : isLineEnd c = true) : token.kind = .characters := by
  have ordinary := ordinary_of_isLineEnd quote ending
  obtain ⟨rule, member, lexeme, later, recognized, -, -, rfl⟩ :=
    token?_eq_some split (token?_eq_some_of_accepts accepted)
  rw [String.toList_ofList] at head
  simp only [rules, stringRules, List.mem_cons, List.not_mem_nil, or_false] at member
  rcases member with rfl | rfl | rfl
  · dsimp only at recognized
    unfold Lexeme.literal at recognized
    split at recognized
    · cases recognized
      cases head
      simp at ordinary
    · cases recognized
  · dsimp only at recognized
    unfold Lexeme.escapedCharacter at recognized
    split at recognized
    · cases recognized
      cases head
      simp at ordinary
    · cases recognized
  · rfl

theorem contextsAfter_of_escapedCharacter {quote : Quote} (kind : token.kind = .escapedCharacter)
    (outer : List SelectorContext) :
    family.contextsAfter (string quote) outer token = string quote :: outer := by
  apply contextsAfter_string
  rw [kind]
  cases quote <;> decide

theorem escapedCharacter_of_lineEnd {c : Char}
    (accepted : family.Accepts source context offset token)
    (split : source.SplitAt offset before (token.value.toList ++ after))
    (last : token.value.toList.getLast? = some '\r') (head : after.head? = some c)
    (ending : isLineEnd c = true) : token.kind = .escapedCharacter := by
  obtain ⟨rule, member, lexeme, later, recognized, -, -, rfl⟩ :=
    token?_eq_some split (token?_eq_some_of_accepts accepted)
  rw [String.toList_ofList] at last recognized
  by_contra other
  have settled := keepsLineEnds_rules context rule member other recognized last c head
  rw [ending] at settled
  cases settled

/-- A trace that stops inside a line end has just escaped its carriage return, in a string that is
still open. -/
theorem escaped_of_trace {opened final : List SelectorContext} {stop : Nat} {tokens : List Token}
    {reached rest : List Char} {c : Char}
    (trace : family.Trace source opened offset tokens final stop)
    (split : source.SplitAt offset before after) (behind : source.SplitAt stop reached rest)
    (last : (joinedValues tokens).toList.getLast? = some '\r') (head : rest.head? = some c)
    (ending : isLineEnd c = true) :
    ∃ first escaped quote outer, tokens = first ++ [escaped] ∧
      escaped.kind = .escapedCharacter ∧ escaped.value = "\\\r" ∧
        final = string quote :: outer ∧ outer.length < maxContextDepth := by
  rcases tokens.eq_nil_or_concat' with rfl | ⟨first, escaped, rfl⟩
  · simp at last
  · obtain ⟨between, place, leading, final⟩ := trace.cut
    obtain ⟨left, -, reached⟩ := splitAt_of_trace leading split
    obtain ⟨context, outer, rfl, depth, accepted, done⟩ := final.exists_accepts
    obtain ⟨remaining, leftEq, advanced⟩ := splitAt_of_accepts accepted reached
    obtain ⟨rfl, rfl⟩ := done.eq_of_no_tokens
    cases advanced.after_unique behind
    rw [joinedValues_append, joinedValues_cons, joinedValues_nil, String.append_empty,
      String.toList_append, List.getLast?_append_of_ne_nil _ (toList_value_ne_nil accepted)]
      at last
    rw [leftEq] at reached
    have kind := escapedCharacter_of_lineEnd accepted reached last head ending
    obtain ⟨quote, second, rfl, value⟩ := string_of_escapedCharacter accepted reached kind
    rw [value] at last
    cases last
    exact ⟨first, escaped, quote, outer, rfl, kind, String.toList_inj.mp value,
      contextsAfter_of_escapedCharacter kind outer, depth⟩

/-- A token that starts with the rest of a line end, behind a carriage return, is in a string and
comes after an escaped carriage return. -/
theorem exists_escaped_of_trace {opened final : List SelectorContext} {stop : Nat}
    {earlier later : List Token} {c : Char}
    (trace : family.Trace source opened offset (earlier ++ token :: later) final stop)
    (split : source.SplitAt offset before after)
    (last : (joinedValues earlier).toList.getLast? = some '\r')
    (head : token.value.toList.head? = some c) (ending : isLineEnd c = true) :
    token.kind = .characters ∧
      ∃ first escaped, earlier = first ++ [escaped] ∧ escaped.kind = .escapedCharacter ∧
        escaped.value = "\\\r" := by
  -- the tokens before it stop inside the line end with whose rest it starts
  obtain ⟨between, place, leading, behind⟩ := trace.cut
  obtain ⟨rest, -, reached⟩ := splitAt_of_trace leading split
  obtain ⟨context, _, rfl, -, accepted, -⟩ := behind.exists_accepts
  obtain ⟨_, restEq, -⟩ := splitAt_of_accepts accepted reached
  have begins : rest.head? = some c := by
    rw [restEq, List.head?_append, head]
    rfl
  obtain ⟨first, escaped, quote, _, parts, kind, value, opened, -⟩ :=
    escaped_of_trace leading split reached last begins ending
  cases opened
  exact ⟨characters_of_isLineEnd accepted reached head ending, first, escaped, parts, kind, value⟩

theorem isLineEnd_eq_false_of_length {opened final : List SelectorContext} {stop : Nat}
    {tokens : List Token} {reached rest : List Char} {c : Char}
    (trace : family.Trace source opened offset tokens final stop)
    (split : source.SplitAt offset before after) (behind : source.SplitAt stop reached rest)
    (excess : final.length = maxContextDepth + 1)
    (last : (joinedValues tokens).toList.getLast? = some '\r') (head : rest.head? = some c) :
    isLineEnd c = false := by
  cases ending : isLineEnd c with
  | false => rfl
  | true =>
      obtain ⟨-, -, quote, outer, -, -, -, rfl, depth⟩ :=
        escaped_of_trace trace split behind last head ending
      rw [List.length_cons] at excess
      omega

/-! ## Where contexts have tokens -/

theorem token?_ne_none (rule : LexicalRule) {lexeme : List Char}
    (split : source.SplitAt offset before after) (member : rule ∈ context.rules)
    (recognized : rule.recognize after = some lexeme) : context.token? source offset ≠ none := by
  intro missing
  have refused := List.findSome?_eq_none_iff.mp missing rule member
  rw [LexicalRule.token?, split.after?_eq] at refused
  simp [recognized] at refused

theorem token?_ne_none_of_isLineEnd {c : Char} {rest : List Char}
    (split : source.SplitAt offset before (c :: rest)) (ending : isLineEnd c = true) :
    context.token? source offset ≠ none := by
  have runs : ∀ belongs : Char → Bool, belongs c = true →
      Lexeme.run belongs (c :: rest) = some (c :: rest.takeWhile belongs) := by
    intro belongs member
    rw [Lexeme.run, List.takeWhile_cons_of_pos member]
    rfl
  have spaces := runs isSpace (isSpace_of_isLineEnd ending)
  have listed : ⟨.whitespace, Lexeme.whitespace⟩ ∈ selectorRules := by simp [selectorRules]
  cases context with
  | selector => exact token?_ne_none ⟨.whitespace, Lexeme.whitespace⟩ split listed spaces
  | parameters =>
      exact token?_ne_none ⟨.whitespace, Lexeme.whitespace⟩ split
        (List.mem_append_right _ listed) spaces
  | attributes =>
      exact token?_ne_none ⟨.whitespace, Lexeme.whitespace⟩ split
        (by simp [rules, attributeRules]) spaces
  | string quote =>
      exact token?_ne_none ⟨.characters, Lexeme.stringCharacters quote.char⟩ split
        (by simp [rules, stringRules]) (runs _ (ordinary_of_isLineEnd quote ending))

end SelectorContext

end CssSelector
