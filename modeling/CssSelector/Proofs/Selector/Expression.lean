import CssSelector.Proofs.Selector.Quotation
import CssSelector.Proofs.Text.Expression

/-!
# The lexemes of selectors as regular expressions

Each kind of token has a regular expression in each context, `SelectorContext.expression`. The
recognizers find what a backtracking matcher finds for these expressions.
-/

set_option autoImplicit false

namespace CssSelector

namespace Expression

/-- The given character. -/
def mark (c : Char) : Expression := char (· = c)

def identifier : Expression :=
  seq (optional (mark '-')) (seq (char Lexeme.startsName) (many Lexeme.continuesName))

/-- One of the given marks, with the white space around it. -/
def spacedMark (isMark : Char → Bool) : Expression :=
  seq (many isSpace) (seq (char isMark) (many isSpace))

def isSign (c : Char) : Bool := c = '+' || c = '-'

def signed (part : Expression) : Expression := seq (optional (char isSign)) part

/-- What is behind the `n` of a position. -/
def constant : Expression :=
  seq (many isSpace) (seq (char isSign) (seq (many isSpace) (run isDigit)))

/-- A position with an `n`. -/
def linear : Expression :=
  signed (seq (many isDigit) (seq (mark 'n') (optional constant)))

def integer : Expression := signed (run isDigit)

def parity : Expression := either (word ['o', 'd', 'd']) (word ['e', 'v', 'e', 'n'])

def position : Expression := either linear (either integer parity)

end Expression

open Expression in
/-- The expression of the tokens of a kind. Only words are something else in a string. -/
def SelectorContext.expression (context : SelectorContext) : TokenKind → Expression
  | .any => char fun _ => false
  | .whitespace => run isSpace
  | .typeSelector => either (mark '*') identifier
  | .classSelector => seq (mark '.') identifier
  | .idSelector => seq (mark '#') (run Lexeme.continuesName)
  | .attributeStart => word ['[']
  | .attributeOperator => seq (optional (char Lexeme.modifiesOperator)) (mark '=')
  | .attributeEnd => word [']']
  | .singleQuoteStart | .singleQuoteEnd => word ['\'']
  | .doubleQuoteStart | .doubleQuoteEnd => word ['"']
  | .characters =>
      match context with
      | string quote => run quote.isPlain
      | _ => run Lexeme.continuesName
  | .escapedCharacter => seq (mark '\\') (char fun _ => true)
  | .pseudoClass => seq (mark ':') identifier
  | .parametersStart => word ['(']
  | .parametersEnd => word [')']
  | .position => position
  | .pseudoElement => seq (mark ':') (seq (mark ':') identifier)
  | .combinator => spacedMark Lexeme.isCombinator
  | .separator => spacedMark (· = ',')

namespace Lexeme

/-- A recognizer finds what a backtracking matcher finds. -/
def Matches (recognize : Recognizer) (expression : Expression) : Prop :=
  ∀ input, recognize input = expression.firstMatch? input

open Expression (firstMatch?_seq_char firstMatch?_seq_many firstMatch?_seq_optional)

/-! ## Runs, marks and names -/

theorem matches_literal {text : List Char} (full : text ≠ []) :
    Matches (literal text) (.word text) := by
  intro input
  rw [Expression.firstMatch?_word, literal, nonempty, if_neg (mt List.isEmpty_iff.mp full)]

theorem matches_run (belongs : Char → Bool) : Matches (run belongs) (.run belongs) := by
  intro input
  rw [Expression.firstMatch?_run]
  rfl

theorem matches_marked {recognize : Recognizer} {expression : Expression} (c : Char)
    (parts : Matches recognize expression) :
    Matches (marked c recognize) (.seq (.mark c) expression) := by
  intro input
  cases input with
  | nil => rfl
  | cons d rest =>
      rw [Expression.mark, firstMatch?_seq_char, marked, parts]
      by_cases same : d = c <;> simp [same]

theorem matches_bareIdentifier :
    Matches bareIdentifier (.seq (.char startsName) (.many continuesName)) := by
  intro input
  cases input with
  | nil => rfl
  | cons c rest =>
      rw [firstMatch?_seq_char, bareIdentifier, Expression.firstMatch?_many, Option.map_some]

theorem refuses_hyphen :
    (Expression.seq (.char startsName) (.many continuesName)).Refuses (· = '-') := by
  apply Expression.refuses_seq_char
  intro c hyphen
  rw [of_decide_eq_true hyphen]
  exact startsName_of_ascii (by decide)

theorem matches_identifier : Matches identifier .identifier := by
  intro input
  cases input with
  | nil => rfl
  | cons c rest =>
      rw [Expression.identifier, Expression.mark, firstMatch?_seq_optional refuses_hyphen,
        ← matches_bareIdentifier, ← matches_bareIdentifier]
      by_cases hyphen : c = '-'
      · simp [identifier, hyphen]
      · rw [identifier_of_ne hyphen]
        simp [hyphen]

theorem matches_typeSelector : Matches typeSelector (.either (.mark '*') .identifier) := by
  intro input
  rw [Expression.firstMatch?_either, ← matches_identifier]
  cases input with
  | nil => rfl
  | cons c rest =>
      rw [Expression.mark, Expression.firstMatch?_char]
      by_cases asterisk : c = '*'
      · simp [typeSelector, asterisk]
      · rw [typeSelector_of_ne asterisk]
        simp [asterisk]

/-! ## Marks and operators -/

theorem refuses_space {isMark : Char → Bool} (visible : ∀ c, isSpace c = true → isMark c = false) :
    (Expression.seq (.char isMark) (.many isSpace)).Refuses isSpace :=
  Expression.refuses_seq_char visible

theorem matches_spacedMark {isMark : Char → Bool}
    (visible : ∀ c, isSpace c = true → isMark c = false) :
    Matches (spacedMark isMark) (.spacedMark isMark) := by
  intro input
  rw [Expression.spacedMark, firstMatch?_seq_many (refuses_space visible), spacedMark]
  cases input.dropWhile isSpace with
  | nil => rfl
  | cons c rest =>
      rw [firstMatch?_seq_char, Expression.firstMatch?_many]
      cases marked : isMark c <;> simp [marked]

theorem refuses_modifier : (Expression.mark '=').Refuses modifiesOperator := by
  apply Expression.refuses_char
  intro c modifies
  apply decide_eq_false
  rintro rfl
  cases modifies

theorem matches_attributeOperator :
    Matches attributeOperator (.seq (.optional (.char modifiesOperator)) (.mark '=')) := by
  intro input
  cases input with
  | nil => rfl
  | cons c rest =>
      rw [attributeOperator_cons, firstMatch?_seq_optional refuses_modifier, Expression.mark,
        Expression.firstMatch?_char]
      by_cases plain : c = '='
      · simp [plain, modifiesOperator]
      · cases rest with
        | nil => simp [plain, Expression.firstMatch?, Expression.choices]
        | cons d rest =>
            rw [Expression.firstMatch?_char]
            by_cases equals : d = '=' <;> simp [plain, equals]

theorem matches_escapedCharacter :
    Matches escapedCharacter (.seq (.mark '\\') (.char fun _ => true)) := by
  intro input
  rcases input with _ | ⟨c, _ | ⟨d, rest⟩⟩
  · rfl
  · by_cases backslash : c = '\\' <;>
      simp [escapedCharacter, Expression.mark, backslash, Expression.firstMatch?,
        Expression.choices]
  · by_cases backslash : c = '\\' <;>
      simp [escapedCharacter, Expression.mark, firstMatch?_seq_char, backslash,
        Expression.firstMatch?_char]

/-! ## Positions -/

open Expression (isSign signed constant)

theorem splitSign_cons (c : Char) (rest : List Char) :
    splitSign (c :: rest) = if isSign c then ([c], rest) else ([], c :: rest) := by
  by_cases plus : c = '+'
  · simp [splitSign, isSign, plus]
  · by_cases minus : c = '-' <;> simp [splitSign, isSign, plus, minus]

theorem choices_signed {part : Expression} (refuses : part.Refuses isSign) (input : List Char) :
    (signed part).choices input =
      (part.choices (splitSign input).2).map ((splitSign input).1 ++ ·) := by
  cases input with
  | nil =>
      rw [signed, Expression.choices_seq_optional_nil]
      exact (List.map_id _).symm
  | cons c rest =>
      rw [signed, Expression.choices_seq_optional refuses, splitSign_cons]
      split
      · rfl
      · exact (List.map_id _).symm

theorem firstMatch?_signed {part : Expression} (refuses : part.Refuses isSign)
    (input : List Char) :
    (signed part).firstMatch? input =
      (part.firstMatch? (splitSign input).2).map ((splitSign input).1 ++ ·) := by
  rw [Expression.firstMatch?, choices_signed refuses]
  exact List.head?_map

theorem isSign_of_isSpace {c : Char} (space : isSpace c = true) : isSign c = false := by
  have plus : c ≠ '+' := ne_of_isSpace space (by decide) rfl
  have minus : c ≠ '-' := ne_of_isSpace space (by decide) rfl
  simp [isSign, plus, minus]

theorem isDigit_of_isSign {c : Char} (sign : isSign c = true) : isDigit c = false := by
  rw [isSign, Bool.or_eq_true, decide_eq_true_eq, decide_eq_true_eq] at sign
  rcases sign with rfl | rfl <;> exact isDigit_of_ascii (by decide)

theorem refuses_blank_digits : (Expression.run isDigit).Refuses isSpace :=
  Expression.refuses_seq_char fun _ => isDigit_of_isSpace

theorem positionConstant_eq (input : List Char) :
    positionConstant input = (constant.firstMatch? input).getD [] := by
  rw [constant, firstMatch?_seq_many (Expression.refuses_seq_char fun _ => isSign_of_isSpace),
    positionConstant]
  cases input.dropWhile isSpace with
  | nil => rfl
  | cons c rest =>
      rw [splitSign_cons, firstMatch?_seq_char, firstMatch?_seq_many refuses_blank_digits,
        Expression.firstMatch?_run]
      cases isSign c with
      | false => rfl
      | true =>
          simp only [if_true]
          split <;> simp

theorem refuses_unknown {belongs : Char → Bool} (other : belongs 'n' = false)
    (behind : Expression) : (Expression.seq (.mark 'n') behind).Refuses belongs := by
  apply Expression.refuses_seq_char
  intro c member
  apply decide_eq_false
  rintro rfl
  rw [other] at member
  cases member

theorem refuses_digit_unknown (behind : Expression) :
    (Expression.seq (.mark 'n') behind).Refuses isDigit :=
  refuses_unknown (isDigit_of_ascii (by decide)) behind

theorem refuses_sign_linear :
    (Expression.seq (.many isDigit) (.seq (.mark 'n') (.optional constant))).Refuses isSign :=
  Expression.refuses_seq_many (fun _ => isDigit_of_isSign) (refuses_digit_unknown _)
    (refuses_unknown (by decide) _)

theorem refuses_sign_digits : (Expression.run isDigit).Refuses isSign :=
  Expression.refuses_seq_char fun _ => isDigit_of_isSign

theorem matches_parity : Matches parity .parity := by
  intro input
  rw [Expression.parity, Expression.firstMatch?_either, Expression.firstMatch?_word,
    Expression.firstMatch?_word, parity_eq]
  split
  · rfl
  · exact Option.none_or.symm

theorem matches_position : Matches position .position := by
  intro input
  rw [Expression.position, Expression.firstMatch?_either, Expression.firstMatch?_either,
    Expression.linear, Expression.integer, firstMatch?_signed refuses_sign_linear,
    firstMatch?_signed refuses_sign_digits, firstMatch?_seq_many (refuses_digit_unknown _),
    Expression.firstMatch?_run, ← matches_parity]
  unfold position
  obtain ⟨sign, unsigned⟩ := splitSign input
  dsimp only
  generalize unsigned.takeWhile isDigit = digits
  have unlike : (if digits.isEmpty then parity input else some (sign ++ digits)) =
      ((if digits.isEmpty then none else some digits).map (sign ++ ·)).or (parity input) := by
    split <;> rfl
  cases unsigned.dropWhile isDigit with
  | nil => exact unlike
  | cons c rest =>
      rw [Expression.mark, firstMatch?_seq_char, Expression.firstMatch?_optional,
        ← positionConstant_eq]
      by_cases unknown : c = 'n'
      · simp [unknown]
      · simpa [unknown] using unlike

end Lexeme

end CssSelector
