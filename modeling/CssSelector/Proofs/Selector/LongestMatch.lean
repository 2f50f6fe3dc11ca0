import CssSelector.Proofs.Selector.Expression

/-!
# Tokens are longest

The expressions of the kinds of tokens are greedy. So every token is the longest text of its kind at
its place, and a position is found wherever the longest one is properly followed,
`token?_isLongest`.
-/

set_option autoImplicit false

namespace CssSelector

namespace Expression

open Lexeme

/-! ## The expressions are greedy -/

theorem greedy_identifier : identifier.Greedy :=
  greedy_seq_optional refuses_hyphen (greedy_seq_char (greedy_many _))

theorem greedy_spacedMark {isMark : Char → Bool}
    (visible : ∀ c, isSpace c = true → isMark c = false) : (spacedMark isMark).Greedy :=
  greedy_seq_many (refuses_space visible) (greedy_seq_char (greedy_many _))

theorem greedy_typeSelector : (either (mark '*') identifier).Greedy := by
  apply greedy_either_of_apart (greedy_char _) greedy_identifier
  intro input
  cases input with
  | nil => exact .inl rfl
  | cons c rest =>
      by_cases asterisk : c = '*'
      · right
        have refuses : identifier.Refuses (· = '*') := by
          apply refuses_seq_optional _ refuses_hyphen
          · apply refuses_seq_char
            intro d same
            rw [of_decide_eq_true same]
            exact startsName_of_ascii (by decide)
          · intro d same
            rw [of_decide_eq_true same]
            rfl
        exact refuses c rest (decide_eq_true asterisk)
      · left
        simp [choices, asterisk]

theorem greedy_linear : linear.Greedy := by
  have constantGreedy : constant.Greedy :=
    greedy_seq_many (refuses_seq_char fun _ => isSign_of_isSpace)
      (greedy_seq_char (greedy_seq_many refuses_blank_digits (greedy_run _)))
  apply greedy_seq_optional refuses_sign_linear
  exact greedy_seq_many (refuses_digit_unknown _) (greedy_seq_char (greedy_optional constantGreedy))

theorem greedy_integer : integer.Greedy := greedy_seq_optional refuses_sign_digits (greedy_run _)

/-- The characters with which `odd` and `even` begin. -/
def startsParity (c : Char) : Bool := c = 'o' || c = 'e'

theorem startsParity_apart {belongs : Char → Bool} (odd : belongs 'o' = false)
    (even : belongs 'e' = false) : ∀ c, startsParity c = true → belongs c = false := by
  intro c starts
  rw [startsParity, Bool.or_eq_true, decide_eq_true_eq, decide_eq_true_eq] at starts
  rcases starts with rfl | rfl
  · exact odd
  · exact even

theorem apart_parity {part : Expression} (refuses : part.Refuses startsParity)
    (input : List Char) : part.choices input = [] ∨ parity.choices input = [] := by
  cases input with
  | nil => exact .inr rfl
  | cons c rest =>
      cases starts : startsParity c with
      | true => exact .inl (refuses c rest starts)
      | false =>
          right
          simp only [startsParity, Bool.or_eq_false_iff, decide_eq_false_iff_not] at starts
          simp [parity, choices, Ne.symm starts.1, Ne.symm starts.2]

theorem greedy_parity : parity.Greedy := by
  apply greedy_either_of_apart (greedy_word _) (greedy_word _)
  intro input
  cases input with
  | nil => exact .inl rfl
  | cons c rest =>
      by_cases odd : c = 'o'
      · right
        simp [choices, odd]
      · left
        simp [choices, Ne.symm odd]

section

variable {belongs : Char → Bool} (sign : ∀ c, belongs c = true → isSign c = false)
  (digit : ∀ c, belongs c = true → isDigit c = false)

include sign digit

theorem refuses_linear (unknown : belongs 'n' = false) : linear.Refuses belongs :=
  refuses_seq_optional sign refuses_sign_linear
    (refuses_seq_many digit (refuses_digit_unknown _) (refuses_unknown unknown _))

theorem refuses_integer : integer.Refuses belongs :=
  refuses_seq_optional sign refuses_sign_digits (refuses_seq_char digit)

end

theorem isDigit_of_startsParity : ∀ c, startsParity c = true → isDigit c = false :=
  startsParity_apart (isDigit_of_ascii (by decide)) (isDigit_of_ascii (by decide))

theorem refuses_parity_linear : linear.Refuses startsParity :=
  refuses_linear (startsParity_apart rfl rfl) isDigit_of_startsParity rfl

theorem refuses_parity_integer : integer.Refuses startsParity :=
  refuses_integer (startsParity_apart rfl rfl) isDigit_of_startsParity

/-- A position with an `n` is longer than an integer at the same place. -/
theorem linear_covers_integer {input left right : List Char} (leading : left ∈ linear.choices input)
    (following : right ∈ integer.choices input) : right.length ≤ left.length := by
  rw [linear, choices_signed refuses_sign_linear, choices_seq_many (refuses_digit_unknown _),
    List.map_map] at leading
  rw [integer, choices_signed refuses_sign_digits] at following
  obtain ⟨more, -, rfl⟩ := List.mem_map.mp leading
  obtain ⟨digits, choice, rfl⟩ := List.mem_map.mp following
  have bound := length_le_of_mem_choices_run choice
  simp only [Function.comp_apply, List.length_append]
  omega

theorem greedy_position : position.Greedy := by
  have numbers := greedy_either_of_apart greedy_integer greedy_parity
    (apart_parity refuses_parity_integer)
  apply greedy_either greedy_linear numbers
  intro input left leading right following
  rcases List.mem_append.mp following with integral | word
  · exact linear_covers_integer leading integral
  · rcases apart_parity refuses_parity_linear input with none | none
    · rw [none] at leading
      exact absurd leading List.not_mem_nil
    · rw [none] at word
      exact absurd word List.not_mem_nil

end Expression

namespace Lexeme

theorem isCombinator_of_isSpace {c : Char} (space : isSpace c = true) : isCombinator c = false := by
  have greater : c ≠ '>' := ne_of_isSpace space (by decide) rfl
  have plus : c ≠ '+' := ne_of_isSpace space (by decide) rfl
  have tilde : c ≠ '~' := ne_of_isSpace space (by decide) rfl
  simp [isCombinator, greater, plus, tilde]

theorem ne_comma_of_isSpace {c : Char} (space : isSpace c = true) : decide (c = ',') = false :=
  decide_eq_false (ne_of_isSpace space (by decide) rfl)

theorem delimitedPosition_eq_some_iff {input lexeme : List Char} :
    delimitedPosition input = some lexeme ↔
      position input = some lexeme ∧ endsPosition (input.drop lexeme.length) = true := by
  rw [delimitedPosition]
  cases position input with
  | none => simp
  | some found =>
      simp only [Option.ite_none_right_eq_some, Option.some.injEq]
      constructor
      · rintro ⟨ends, rfl⟩
        exact ⟨rfl, ends⟩
      · rintro ⟨rfl, ends⟩
        exact ⟨ends, rfl⟩

theorem endsPosition_iff {rest : List Char} :
    endsPosition rest = true ↔ ∀ c, rest.head? = some c → isSpace c = true ∨ c = ')' := by
  cases rest with
  | nil => simp [endsPosition]
  | cons c rest => simp [endsPosition]

/-- A position is found if the longest one is properly followed. -/
theorem delimitedPosition_append_iff {text later : List Char} :
    delimitedPosition (text ++ later) = some text ↔
      IsLongest Expression.position.language (text ++ later) text ∧
        ∀ c, later.head? = some c → isSpace c = true ∨ c = ')' := by
  rw [delimitedPosition_eq_some_iff, List.drop_left, endsPosition_iff, matches_position,
    Expression.greedy_position.firstMatch?_eq_some_iff]

theorem position_of_closing (rest : List Char) : position (')' :: rest) = none := by
  have digit : isDigit ')' = false := isDigit_of_ascii (by decide)
  simp [position, splitSign, digit, parity]

end Lexeme

namespace SelectorContext

open Lexeme

/-! ## Tokens are longest -/

theorem greedy_expression (context : SelectorContext) (kind : TokenKind) :
    (context.expression kind).Greedy := by
  open Expression in
  cases kind with
  | any => exact greedy_char _
  | whitespace => exact greedy_run _
  | typeSelector => exact greedy_typeSelector
  | classSelector => exact greedy_seq_char greedy_identifier
  | idSelector => exact greedy_seq_char (greedy_run _)
  | attributeStart => exact greedy_word _
  | attributeOperator => exact greedy_seq_optional refuses_modifier (greedy_char _)
  | attributeEnd => exact greedy_word _
  | singleQuoteStart => exact greedy_word _
  | singleQuoteEnd => exact greedy_word _
  | doubleQuoteStart => exact greedy_word _
  | doubleQuoteEnd => exact greedy_word _
  | characters => cases context <;> exact greedy_run _
  | escapedCharacter => exact greedy_seq_char (greedy_char _)
  | pseudoClass => exact greedy_seq_char greedy_identifier
  | parametersStart => exact greedy_word _
  | parametersEnd => exact greedy_word _
  | position => exact greedy_position
  | pseudoElement => exact greedy_seq_char (greedy_seq_char greedy_identifier)
  | combinator => exact greedy_spacedMark fun _ => isCombinator_of_isSpace
  | separator => exact greedy_spacedMark fun _ => ne_comma_of_isSpace

/-- Every rule but the one for positions finds what the expression of its kind matches. -/
theorem matches_rules (context : SelectorContext) : ∀ rule ∈ context.rules,
    rule.kind ≠ .position → Matches rule.recognize (context.expression rule.kind) := by
  have quotes : ∀ rule ∈ quoteRules, Matches rule.recognize (context.expression rule.kind) := by
    simp only [quoteRules, List.forall_mem_cons]
    exact ⟨matches_literal (List.cons_ne_nil _ _), matches_literal (List.cons_ne_nil _ _), by simp⟩
  have ofSelector :
      ∀ rule ∈ selectorRules, Matches rule.recognize (context.expression rule.kind) := by
    simp only [selectorRules, List.forall_mem_append, List.forall_mem_cons]
    exact ⟨⟨matches_spacedMark fun _ => isCombinator_of_isSpace,
      matches_spacedMark fun _ => ne_comma_of_isSpace, matches_run _, matches_typeSelector,
      classSelector_eq ▸ matches_marked '.' matches_identifier,
      idSelector_eq ▸ matches_marked '#' (matches_run _),
      pseudoElement_eq ▸ matches_marked ':' (matches_marked ':' matches_identifier),
      pseudoClass_eq ▸ matches_marked ':' matches_identifier,
      matches_literal (List.cons_ne_nil _ _), matches_literal (List.cons_ne_nil _ _), by simp⟩,
      quotes⟩
  cases context with
  | selector => exact fun rule member _ => ofSelector rule member
  | parameters =>
      simp only [rules, parameterRules, List.forall_mem_append, List.forall_mem_cons]
      exact ⟨⟨fun _ => matches_literal (List.cons_ne_nil _ _), fun other => absurd rfl other,
        by simp⟩, fun rule member _ => ofSelector rule member⟩
  | attributes =>
      simp only [rules, attributeRules, List.forall_mem_append, List.forall_mem_cons]
      exact ⟨⟨fun _ => matches_literal (List.cons_ne_nil _ _), fun _ => matches_run _,
        fun _ => matches_attributeOperator, fun _ => matches_run _, by simp⟩,
        fun rule member _ => quotes rule member⟩
  | string quote =>
      simp only [rules, stringRules, List.forall_mem_cons]
      refine ⟨fun _ => ?_, fun _ => matches_escapedCharacter, fun _ => matches_run _, by simp⟩
      cases quote <;> exact matches_literal (List.cons_ne_nil _ _)

theorem rule_of_position {context : SelectorContext} {rule : LexicalRule}
    (member : rule ∈ context.rules) (kind : rule.kind = .position) :
    rule = ⟨.position, delimitedPosition⟩ := by
  have only : ∀ rule ∈ context.rules.filter (fun rule => rule.kind = .position),
      rule = ⟨.position, delimitedPosition⟩ := by
    cases context with
    | selector => exact fun _ => (absurd · List.not_mem_nil)
    | parameters => exact fun _ => List.mem_singleton.mp
    | attributes => exact fun _ => (absurd · List.not_mem_nil)
    | string quote => cases quote <;> exact fun _ => (absurd · List.not_mem_nil)
  exact only rule (List.mem_filter.mpr ⟨member, decide_eq_true kind⟩)

theorem firstMatch?_of_recognize {context : SelectorContext} {rule : LexicalRule}
    {input lexeme : List Char} (member : rule ∈ context.rules)
    (recognized : rule.recognize input = some lexeme) :
    (context.expression rule.kind).firstMatch? input = some lexeme := by
  by_cases kind : rule.kind = .position
  · have rulePosition := rule_of_position member kind
    subst rulePosition
    rw [expression, ← matches_position]
    exact (delimitedPosition_eq_some_iff.mp recognized).1
  · rw [← matches_rules context rule member kind]
    exact recognized

variable {source : Source} {offset : Nat}

theorem exists_isLongest {context : SelectorContext} {token : Token}
    (found : context.token? source offset = some token) :
    ∃ rest, source.after? offset = some rest ∧
      IsLongest (context.expression token.kind).language rest token.value.toList := by
  obtain ⟨before, after, split⟩ := exists_splitAt found
  obtain ⟨rule, member, lexeme, later, recognized, -, -, rfl⟩ := token?_eq_some split found
  refine ⟨after, split.after?_eq, ?_⟩
  rw [String.toList_ofList]
  apply (greedy_expression context rule.kind).isLongest
  exact firstMatch?_of_recognize member recognized

theorem firstLexeme?_of_delimitedPosition {input lexeme : List Char}
    (recognized : delimitedPosition input = some lexeme) :
    LexicalRule.firstLexeme? parameters.rules input = some (.position, lexeme) := by
  obtain ⟨found, -⟩ := delimitedPosition_eq_some_iff.mp recognized
  have inside : literal [')'] input = none := by
    cases input with
    | nil => rfl
    | cons c rest =>
        by_cases closing : c = ')'
        · rw [closing, position_of_closing] at found
          cases found
        · simp [literal, Ne.symm closing]
  rw [rules, parameterRules, List.cons_append, List.cons_append, LexicalRule.firstLexeme?_cons,
    LexicalRule.firstLexeme?_cons]
  dsimp only
  rw [inside, recognized]

theorem exists_position_iff :
    (∃ token, parameters.token? source offset = some token ∧ token.kind = .position) ↔
      ∃ text later, source.after? offset = some (text ++ later) ∧
        IsLongest Expression.position.language (text ++ later) text ∧
          ∀ c, later.head? = some c → isSpace c = true ∨ c = ')' := by
  constructor
  · rintro ⟨token, found, kind⟩
    obtain ⟨before, after, split⟩ := exists_splitAt found
    obtain ⟨rule, member, lexeme, later, recognized, -, rfl, rfl⟩ := token?_eq_some split found
    have rulePosition := rule_of_position member kind
    subst rulePosition
    exact ⟨lexeme, later, split.after?_eq, delimitedPosition_append_iff.mp recognized⟩
  · rintro ⟨text, later, found, longest⟩
    have recognized := delimitedPosition_append_iff.mpr longest
    refine ⟨⟨.position, offset, String.ofList text⟩, ?_, rfl⟩
    rw [token?_eq_map found, firstLexeme?_of_delimitedPosition recognized]
    rfl

/-- For the expressions of all kinds of tokens a backtracking matcher finds the longest match. The
tokens of the contexts are such matches; and inside parentheses there is a position wherever the
longest one ends at white space, at a closing parenthesis or at the end of the source. -/
theorem token?_isLongest :
    (∀ (context : SelectorContext) (kind : TokenKind) (input text : List Char),
        (context.expression kind).firstMatch? input = some text ↔
          IsLongest (context.expression kind).language input text) ∧
      (∀ (context : SelectorContext) (source : Source) (offset : Nat) (token : Token),
        context.token? source offset = some token →
          ∃ rest, source.after? offset = some rest ∧
            IsLongest (context.expression token.kind).language rest token.value.toList) ∧
      ∀ (source : Source) (offset : Nat),
        (∃ token, parameters.token? source offset = some token ∧ token.kind = .position) ↔
          ∃ text later, source.after? offset = some (text ++ later) ∧
            IsLongest Expression.position.language (text ++ later) text ∧
              ∀ c, later.head? = some c → isSpace c = true ∨ c = ')' := by
  refine ⟨?_, ?_, ?_⟩
  · intro context kind input text
    exact (greedy_expression context kind).firstMatch?_eq_some_iff
  · intro context source offset token found
    exact exists_isLongest found
  · intro source offset
    exact exists_position_iff

theorem isLongest_of_linear_position :
    ∃ rest, (Source.ofString "(2n + 1)").after? 1 = some rest ∧
      IsLongest (parameters.expression .position).language rest "2n + 1".toList := by
  obtain ⟨-, tokens, -⟩ := token?_isLongest
  exact tokens parameters (.ofString "(2n + 1)") 1 ⟨.position, 1, "2n + 1"⟩ (by decide +kernel)

end SelectorContext

end CssSelector
