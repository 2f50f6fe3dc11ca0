import CssSelector.Proofs.Selector.Barrier
import CssSelector.Proofs.Selector.Translation

/-!
# Texts that go on

When a text goes on behind its end, its tokens may change. They do not if the text goes on with a
comma or has ended with a quote, unless the last token was one of those whose end is open: white
space, a position or plain characters, `trace_of_extends`.
-/

set_option autoImplicit false

namespace CssSelector

/-- A text and a longer one, which goes on with a comma or behind a quote at the end of the text. -/
inductive Extends : List Char → List Char → Prop where
  | comma (input later : List Char) : Extends input (input ++ ',' :: later)
  | quote (before : List Char) (quote : Quote) (later : List Char) :
      Extends (before ++ [quote.char]) (before ++ [quote.char] ++ later)

/-- The kinds of tokens whose end is not seen at the end of a text. -/
def openEnded : List TokenKind := [.whitespace, .position, .characters]

namespace Extends

variable {input longer : List Char}

theorem exists_append (extension : Extends input longer) : ∃ later, longer = input ++ later := by
  cases extension with
  | comma _ later => exact ⟨_, rfl⟩
  | quote before quote later => exact ⟨later, rfl⟩

open Lexeme in
theorem recognize_eq {recognize : Recognizer} (extension : Extends input longer)
    (stops : ∀ stop, isBarrier stop = true → StopsAt stop recognize) :
    recognize longer = recognize input := by
  cases extension with
  | comma _ later => exact stops ',' rfl input later
  | quote before quote later =>
      have barrier : isBarrier quote.char = true := by cases quote <;> rfl
      rw [List.append_assoc, List.singleton_append, stops _ barrier, stops _ barrier]

end Extends

/-! ## First lexemes of longer texts -/

/-- The first lexeme of a text is that of a longer one, unless its end is open. -/
def Settles (rules : List LexicalRule) (input longer : List Char) : Prop :=
  ∀ kind lexeme, LexicalRule.firstLexeme? rules input = some (kind, lexeme) →
    (lexeme = input → kind ∉ openEnded) →
    LexicalRule.firstLexeme? rules longer = some (kind, lexeme)

theorem LexicalRule.firstLexeme?_cons (rule : LexicalRule) (rules : List LexicalRule)
    (input : List Char) :
    firstLexeme? (rule :: rules) input =
      match rule.recognize input with
      | some lexeme => some (rule.kind, lexeme)
      | none => firstLexeme? rules input := by
  rw [firstLexeme?, List.findSome?_cons]
  cases rule.recognize input <;> rfl

namespace Settles

variable {rule : LexicalRule} {rules : List LexicalRule} {input longer : List Char}

theorem nil : Settles [] input longer := by
  intro kind lexeme found
  cases found

theorem cons (agrees : rule.recognize longer = rule.recognize input)
    (settles : Settles rules input longer) : Settles (rule :: rules) input longer := by
  intro kind lexeme found ended
  rw [LexicalRule.firstLexeme?_cons] at found ⊢
  rw [agrees]
  cases recognized : rule.recognize input with
  | some first => rwa [recognized] at found
  | none =>
      rw [recognized] at found
      exact settles kind lexeme found ended

theorem cons_of_openEnded (kept : rule.kind ∈ openEnded)
    (agrees : rule.recognize input ≠ some input → rule.recognize longer = rule.recognize input)
    (settles : Settles rules input longer) : Settles (rule :: rules) input longer := by
  by_cases whole : rule.recognize input = some input
  · intro kind lexeme found ended
    rw [LexicalRule.firstLexeme?_cons, whole] at found
    cases found
    exact absurd kept (ended rfl)
  · exact cons (agrees whole) settles

end Settles

namespace SelectorContext

open Lexeme

variable {input longer : List Char}

theorem settles_quoteRules (full : input ≠ []) (extension : Extends input longer) :
    Settles quoteRules input longer := by
  obtain ⟨later, rfl⟩ := extension.exists_append
  exact .cons (literal_singleton_append full _ later)
    (.cons (literal_singleton_append full _ later) .nil)

/-- A separator is not affected by a comma, unless there is only white space before it. -/
theorem separator_eq_of_extends {c : Char} {rest : List Char} (extension : Extends input longer)
    (visible : input.dropWhile isSpace = c :: rest) : separator longer = separator input := by
  cases extension with
  | comma _ later =>
      have blank : isSpace ',' = false := isSpace_of_isBarrier rfl
      rw [separator, spacedMark, spacedMark, dropWhile_append_stop blank,
        takeWhile_append_stop blank, visible]
      simp [takeWhile_append_stop blank]
  | quote before quote later =>
      have barrier : isBarrier quote.char = true := by cases quote <;> rfl
      have stops : StopsAt quote.char separator :=
        stopsAt_spacedMark barrier (by cases quote <;> rfl)
      rw [List.append_assoc, List.singleton_append, stops, stops]

theorem firstLexeme?_selectorRules_of_white (full : input ≠ [])
    (white : input.dropWhile isSpace = []) :
    LexicalRule.firstLexeme? selectorRules input = some (.whitespace, input) := by
  have mark : ∀ isMark, spacedMark isMark input = none := by
    intro isMark
    rw [spacedMark, white]
  have all : input.takeWhile isSpace = input := by
    have parts := List.takeWhile_append_dropWhile (p := isSpace) (l := input)
    rwa [white, List.append_nil] at parts
  have spaces : whitespace input = some input := by
    rw [whitespace, run, all]
    exact nonempty_eq_some_iff.mpr ⟨full, rfl⟩
  rw [selectorRules, List.cons_append, List.cons_append, List.cons_append,
    LexicalRule.firstLexeme?_cons, LexicalRule.firstLexeme?_cons,
    LexicalRule.firstLexeme?_cons]
  dsimp only
  rw [combinator, separator, mark, mark, spaces]

theorem settles_selectorRules (full : input ≠ []) (extension : Extends input longer) :
    Settles selectorRules input longer := by
  cases visible : input.dropWhile isSpace with
  | nil =>
      intro kind lexeme found ended
      rw [firstLexeme?_selectorRules_of_white full visible] at found
      cases found
      exact absurd (by decide) (ended rfl)
  | cons c rest =>
      have mark : ∀ c, literal [c] longer = literal [c] input := by
        obtain ⟨later, rfl⟩ := extension.exists_append
        exact fun c => literal_singleton_append full c later
      refine .cons ?_ (.cons ?_ (.cons ?_ (.cons ?_ (.cons ?_ (.cons ?_ (.cons ?_ (.cons ?_
        (.cons (mark _) (.cons (mark _) (settles_quoteRules full extension))))))))))
      · exact extension.recognize_eq fun _ barrier =>
          stopsAt_spacedMark barrier (isCombinator_of_isBarrier barrier)
      · exact separator_eq_of_extends extension visible
      · exact extension.recognize_eq fun _ barrier => stopsAt_run (isSpace_of_isBarrier barrier)
      · exact extension.recognize_eq fun _ barrier => stopsAt_typeSelector barrier
      · exact extension.recognize_eq fun _ barrier => stopsAt_classSelector barrier
      · exact extension.recognize_eq fun _ barrier => stopsAt_idSelector barrier
      · exact extension.recognize_eq fun _ barrier => stopsAt_pseudoElement barrier
      · exact extension.recognize_eq fun _ barrier => stopsAt_pseudoClass barrier

theorem settles_parameterRules (full : input ≠ []) (extension : Extends input longer) :
    Settles parameterRules input longer := by
  have same : position longer = position input :=
    extension.recognize_eq fun _ barrier => stopsAt_position barrier
  obtain ⟨later, rfl⟩ := extension.exists_append
  refine .cons (literal_singleton_append full _ later)
    (.cons_of_openEnded (by decide) ?_ (settles_selectorRules full extension))
  intro partly
  apply delimitedPosition_append same
  -- a position that is the whole text is followed by its end
  intro whole
  apply partly
  show delimitedPosition input = some input
  rw [delimitedPosition, whole]
  dsimp only
  rw [List.drop_length]
  rfl

theorem settles_attributeRules (full : input ≠ []) (extension : Extends input longer) :
    Settles attributeRules input longer := by
  refine .cons ?_ (.cons ?_ (.cons ?_ (.cons ?_ (settles_quoteRules full extension))))
  · obtain ⟨later, rfl⟩ := extension.exists_append
    exact literal_singleton_append full _ later
  · exact extension.recognize_eq fun _ barrier => stopsAt_run (isSpace_of_isBarrier barrier)
  · exact extension.recognize_eq fun _ barrier => stopsAt_attributeOperator barrier
  · exact extension.recognize_eq fun _ barrier =>
      stopsAt_run (continuesName_of_isBarrier barrier)

theorem settles_stringRules (quote : Quote) (full : input ≠ []) (later : List Char) :
    Settles (stringRules quote) input (input ++ later) := by
  by_cases escape : input = ['\\']
  · intro kind lexeme found
    have none : LexicalRule.firstLexeme? (stringRules quote) ['\\'] = none := by
      cases quote <;> decide
    rw [escape, none] at found
    cases found
  · exact .cons (literal_singleton_append full _ later)
      (.cons (escapedCharacter_append full escape later)
        (.cons_of_openEnded (by simp [openEnded]) (fun partly => run_append_of_ne full partly later)
          .nil))

theorem settles_rules (context : SelectorContext) (full : input ≠ [])
    (extension : Extends input longer) : Settles context.rules input longer := by
  cases context with
  | selector => exact settles_selectorRules full extension
  | parameters => exact settles_parameterRules full extension
  | attributes => exact settles_attributeRules full extension
  | string quote =>
      obtain ⟨later, rfl⟩ := extension.exists_append
      exact settles_stringRules quote full later

/-! ## Traces of longer texts -/

variable {source whole : Source} {offset stop : Nat} {before after later : List Char}

/-- A text that goes on keeps its trace if the end of its last token is not open. -/
theorem trace_of_extends {opened final : List SelectorContext} {tokens : List Token}
    (chars : whole.chars = source.chars ++ later)
    (extension : ∀ rest, rest ≠ [] → rest <:+ source.chars → Extends rest (rest ++ later))
    (trace : family.Trace source opened offset tokens final stop)
    (split : source.SplitAt offset before after)
    (settled : ∀ last, tokens.getLast? = some last → last.kind ∉ openEnded) :
    family.Trace whole opened offset tokens final stop := by
  induction trace generalizing before after with
  | refl => exact .refl
  | @step context outer _ offset _ token tokens depth accepted behind ih =>
      obtain ⟨rest, afterEq, advanced⟩ := splitAt_of_accepts accepted split
      have full : after ≠ [] := by
        rw [afterEq]
        exact List.append_ne_nil_of_left_ne_nil (toList_value_ne_nil accepted) rest
      have longer : whole.SplitAt offset before (after ++ later) :=
        ⟨by rw [chars, split.chars_eq, List.append_assoc], split.offset_eq⟩
      -- a token that takes all of the text is its last one
      have ended : token.value.toList = after → token.kind ∉ openEnded := by
        intro all
        rw [all, List.self_eq_append_right] at afterEq
        subst afterEq
        cases tokens with
        | nil => exact settled token rfl
        | cons next tokens =>
            obtain ⟨_, _, -, -, further, -⟩ := behind.exists_accepts
            have inside := further.inside
            rw [advanced.length_eq, byteLength_nil] at inside
            exact absurd inside (Nat.lt_irrefl _)
      refine .step depth ?_ (ih advanced ?_)
      · obtain ⟨kind, lexeme, first, rfl⟩ := (accepts_iff split.after?_eq).mp accepted
        refine (accepts_iff longer.after?_eq).mpr ⟨kind, lexeme, ?_, rfl⟩
        refine settles_rules context full (extension after full ⟨before, split.chars_eq.symm⟩)
          kind lexeme first ?_
        intro all
        exact ended (by rw [String.toList_ofList, all])
      · intro last found
        apply settled
        rw [List.getLast?_cons, found]
        rfl

end SelectorContext

end CssSelector
