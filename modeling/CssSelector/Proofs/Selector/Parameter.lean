import CssSelector.Proofs.Selector.LongestMatch
import CssSelector.Proofs.Selector.Reading

/-!
# Positions in parentheses

A position may have white space on both sides. It is found as a whole, unless there is white space
in front of its plus sign: then white space and sign are read as a combinator,
`scanSelector_parenthesized`.
-/

set_option autoImplicit false

namespace CssSelector

namespace Expression

open Lexeme

/-! ## How positions begin and end -/

variable {part : Expression} {text : List Char}

theorem mem_signed_iff :
    text ∈ (signed part).language ↔
      text ∈ part.language ∨
        ∃ c rest, isSign c = true ∧ text = c :: rest ∧ rest ∈ part.language := by
  rw [signed, language, Language.mem_mul]
  constructor
  · rintro ⟨_, rfl | ⟨c, sign, rfl⟩, rest, member, rfl⟩
    · exact .inl member
    · exact .inr ⟨c, rest, sign, rfl, member⟩
  · rintro (member | ⟨c, rest, sign, rfl, member⟩)
    · exact ⟨[], .inl rfl, text, member, rfl⟩
    · exact ⟨[c], .inr ⟨c, sign, rfl⟩, rest, member, rfl⟩

theorem refuses_position {belongs : Char → Bool} (sign : ∀ c, belongs c = true → isSign c = false)
    (digit : ∀ c, belongs c = true → isDigit c = false) (unknown : belongs 'n' = false)
    (word : ∀ c, belongs c = true → startsParity c = false) : position.Refuses belongs := by
  have parityRefuses : parity.Refuses belongs := by
    intro c rest begins
    have other := word c begins
    simp only [startsParity, Bool.or_eq_false_iff, decide_eq_false_iff_not] at other
    simp [parity, choices, Ne.symm other.1, Ne.symm other.2]
  exact refuses_either (refuses_linear sign digit unknown)
    (refuses_either (refuses_integer sign digit) parityRefuses)

/-- Every text of a language ends with a character of a class. -/
def EndsIn (language : Language Char) (belongs : Char → Bool) : Prop :=
  ∀ text ∈ language, ∃ c, text.getLast? = some c ∧ belongs c = true

theorem EndsIn.mul {second : Language Char} {belongs : Char → Bool}
    (ends : EndsIn second belongs) (first : Language Char) : EndsIn (first * second) belongs := by
  intro text member
  obtain ⟨left, -, right, behind, rfl⟩ := Language.mem_mul.mp member
  obtain ⟨c, last, inside⟩ := ends right behind
  exact ⟨c, by rw [List.getLast?_append, last, Option.some_or], inside⟩

/-- The characters with which positions end. -/
def endsWord (c : Char) : Bool := isDigit c || c = 'n' || c = 'd'

theorem endsIn_digits : EndsIn (run isDigit).language endsWord := by
  intro text member
  obtain ⟨full, digits⟩ := mem_language_run_iff.mp member
  have digit := digits _ (List.getLast_mem full)
  exact ⟨_, List.getLast?_eq_some_getLast full, by simp [endsWord, digit]⟩

theorem endsIn_position : EndsIn position.language endsWord := by
  have constantEnds : EndsIn constant.language endsWord :=
    ((endsIn_digits.mul _).mul _).mul _
  have unknownEnds : EndsIn (seq (mark 'n') (optional constant)).language endsWord := by
    intro text member
    obtain ⟨_, ⟨c, same, rfl⟩, behind, rfl | more, rfl⟩ := Language.mem_mul.mp member
    · exact ⟨c, rfl, by simp [endsWord, of_decide_eq_true same]⟩
    · obtain ⟨last, found, ends⟩ := constantEnds behind more
      exact ⟨last, by rw [List.getLast?_append, found, Option.some_or], ends⟩
  intro text member
  rcases member with linear | integer | rfl | rfl
  · exact (unknownEnds.mul _).mul _ text linear
  · exact endsIn_digits.mul _ text integer
  · exact ⟨'d', rfl, rfl⟩
  · exact ⟨'n', rfl, rfl⟩

/-- The characters that come in front of a position or behind it, and the marks of selectors. -/
def surrounds (c : Char) : Bool := isSpace c || c = ')' || c = ',' || c = '>' || c = '~'

theorem surrounds_iff {c : Char} :
    surrounds c = true ↔ isSpace c = true ∨ c = ')' ∨ c = ',' ∨ c = '>' ∨ c = '~' := by
  simp [surrounds, or_assoc]

theorem refuses_surrounds : position.Refuses surrounds := by
  apply refuses_position
  · intro c around
    rcases surrounds_iff.mp around with space | rfl | rfl | rfl | rfl
    · exact isSign_of_isSpace space
    all_goals rfl
  · intro c around
    rcases surrounds_iff.mp around with space | rfl | rfl | rfl | rfl
    · exact isDigit_of_isSpace space
    all_goals exact isDigit_of_ascii (by decide)
  · simp [surrounds, isSpace_of_ascii, isAsciiSpace]
  · intro c around
    rcases surrounds_iff.mp around with space | rfl | rfl | rfl | rfl
    · rw [Bool.eq_false_iff]
      intro starts
      have visible : isSpace c = false :=
        startsParity_apart (isSpace_of_ascii (by decide)) (isSpace_of_ascii (by decide)) c starts
      rw [visible] at space
      cases space
    all_goals rfl

theorem surrounds_of_endsWord {c : Char} (ends : endsWord c = true) : surrounds c = false := by
  rw [Bool.eq_false_iff]
  intro around
  simp only [endsWord, Bool.or_eq_true, decide_eq_true_eq, or_assoc] at ends
  rcases surrounds_iff.mp around with space | rfl | rfl | rfl | rfl
  · rcases ends with digit | rfl | rfl
    · rw [isDigit_of_isSpace space] at digit
      cases digit
    · exact ne_of_isSpace space (by decide) rfl rfl
    · exact ne_of_isSpace space (by decide) rfl rfl
  all_goals
    rw [isDigit_of_ascii (by decide)] at ends
    revert ends
    decide

/-- In front of white space and a closing parenthesis, a position is found as a whole. -/
theorem delimitedPosition_of_mem {text rest : List Char} (member : text ∈ position.language)
    (closers : ∀ c ∈ rest, isSpace c = true ∨ c = ')') :
    delimitedPosition (text ++ rest) = some text := by
  have longest : IsLongest position.language (text ++ rest) text := by
    refine ⟨member, List.prefix_append text rest, ?_⟩
    intro other otherMember front
    apply Nat.le_of_not_lt
    intro longer
    -- the last character of a longer position would be one of those behind this one
    obtain ⟨more, rfl⟩ :=
      List.prefix_of_prefix_length_le (List.prefix_append text rest) front (Nat.le_of_lt longer)
    obtain ⟨c, last, ends⟩ := endsIn_position _ otherMember
    have full : more ≠ [] := by
      rintro rfl
      rw [List.append_nil] at longer
      exact Nat.lt_irrefl _ longer
    rw [List.getLast?_append_of_ne_nil _ full] at last
    have behind := ((List.prefix_append_right_inj text).mp front).subset (List.mem_of_getLast? last)
    have closing := surrounds_iff.mpr ((closers c behind).imp_right Or.inl)
    rw [surrounds_of_endsWord ends] at closing
    cases closing
  apply delimitedPosition_eq_some_iff.mpr
  rw [List.drop_left, matches_position, greedy_position.firstMatch?_eq_some_iff, endsPosition_iff]
  exact ⟨longest, fun c first => closers c (List.mem_of_head? first)⟩

/-- A position begins with a character that is not around it. -/
theorem exists_cons_of_mem_position {text : List Char} (member : text ∈ position.language) :
    ∃ c rest, text = c :: rest ∧ surrounds c = false := by
  cases text with
  | nil =>
      obtain ⟨c, last, -⟩ := endsIn_position _ member
      cases last
  | cons c rest => exact ⟨c, rest, rfl, refuses_surrounds.eq_false_of_mem member⟩

/-- Behind a plus sign there is a position again. -/
theorem mem_position_of_plus {rest : List Char} (member : '+' :: rest ∈ position.language) :
    rest ∈ position.language := by
  have plus : isSign '+' = true := rfl
  rcases member with linear | integer | odd | even
  · rcases mem_signed_iff.mp linear with unsigned | ⟨c, behind, -, parts, unsigned⟩
    · have signed := refuses_sign_linear.eq_false_of_mem unsigned
      rw [plus] at signed
      cases signed
    · cases parts
      exact .inl (mem_signed_iff.mpr (.inl unsigned))
  · rcases mem_signed_iff.mp integer with unsigned | ⟨c, behind, -, parts, unsigned⟩
    · have signed := refuses_sign_digits.eq_false_of_mem unsigned
      rw [plus] at signed
      cases signed
    · cases parts
      exact .inr (.inl (mem_signed_iff.mpr (.inl unsigned)))
  · cases odd
  · cases even

end Expression

namespace SelectorContext

open Lexeme
open Expression (surrounds surrounds_iff refuses_surrounds delimitedPosition_of_mem)

/-! ## What stands in parentheses -/

variable {outer final : List SelectorContext} {blank rest left : List Char} {later : List Piece}

theorem delimitedPosition_of_surrounds {c : Char} (around : surrounds c = true)
    (rest : List Char) : delimitedPosition (c :: rest) = none := by
  rw [delimitedPosition, matches_position, Expression.firstMatch?, refuses_surrounds c rest around]
  rfl

theorem literal_closing_of_isSpace {c : Char} (space : isSpace c = true) (rest : List Char) :
    literal [')'] (c :: rest) = none := by
  have other : c ≠ ')' := ne_of_isSpace space (by decide) rfl
  simp [literal, Ne.symm other]

/-- White space goes with the mark behind it, if there is one. -/
theorem firstLexeme?_of_blank (full : blank ≠ []) (spaces : ∀ c ∈ blank, isSpace c = true)
    {c : Char} (visible : isSpace c = false) :
    LexicalRule.firstLexeme? parameters.rules (blank ++ c :: rest) =
      if isCombinator c then some (.combinator, blank ++ c :: rest.takeWhile isSpace)
      else if c = ',' then some (.separator, blank ++ c :: rest.takeWhile isSpace)
      else some (.whitespace, blank) := by
  have ends : EndsRun isSpace (c :: rest) := .cons visible rest
  have inside : literal [')'] (blank ++ c :: rest) = none := by
    obtain ⟨d, more, rfl⟩ := List.exists_cons_of_ne_nil full
    exact literal_closing_of_isSpace (spaces d List.mem_cons_self) _
  have noPosition : delimitedPosition (blank ++ c :: rest) = none := by
    obtain ⟨d, more, rfl⟩ := List.exists_cons_of_ne_nil full
    exact delimitedPosition_of_surrounds (surrounds_iff.mpr (.inl (spaces d List.mem_cons_self))) _
  have marks : ∀ isMark : Char → Bool, Lexeme.spacedMark isMark (blank ++ c :: rest) =
      if isMark c then some (blank ++ c :: rest.takeWhile isSpace) else none := by
    intro isMark
    rw [Lexeme.spacedMark, ends.dropWhile_run spaces, ends.takeWhile_run spaces]
  have white : Lexeme.whitespace (blank ++ c :: rest) = some blank := by
    rw [Lexeme.whitespace, Lexeme.run, ends.takeWhile_run spaces]
    exact nonempty_eq_some_iff.mpr ⟨full, rfl⟩
  rw [rules, parameterRules, selectorRules]
  simp only [List.cons_append, List.nil_append, LexicalRule.firstLexeme?_cons, inside, noPosition,
    combinator, separator, marks, white, decide_eq_true_eq]
  cases isCombinator c with
  | true => rfl
  | false => by_cases comma : c = ',' <;> simp [comma]

/-- The piece of white space, if there is some. -/
def blankPiece (blank : List Char) : List Piece :=
  if blank = [] then [] else [(.whitespace, blank)]

/-- The pieces behind a position, up to the closing parenthesis. -/
def closingPieces (blank : List Char) : List Piece :=
  blankPiece blank ++ [(.parametersEnd, [')'])]

theorem length_blankPiece_le (blank : List Char) : (blankPiece blank).length ≤ 1 := by
  rw [blankPiece]
  split
  · exact Nat.zero_le 1
  · exact Nat.le_refl 1

theorem length_closingPieces_le (blank : List Char) : (closingPieces blank).length ≤ 2 := by
  rw [closingPieces, List.length_append]
  exact Nat.succ_le_succ (length_blankPiece_le blank)

theorem Reads.spaced (spaces : ∀ c ∈ blank, isSpace c = true)
    (depth : outer.length < maxContextDepth) {c : Char} (visible : isSpace c = false)
    (single : isCombinator c = false) (listed : c ≠ ',')
    (reads : Reads (parameters :: outer) (c :: rest) later final left) :
    Reads (parameters :: outer) (blank ++ c :: rest) (blankPiece blank ++ later) final left := by
  rw [blankPiece]
  split
  · next empty =>
      subst empty
      exact reads
  · next full =>
      refine .step depth ?_ reads
      rw [firstLexeme?_of_blank full spaces visible, single, if_neg Bool.false_ne_true,
        if_neg listed]

theorem Reads.closing (depth : outer.length < maxContextDepth) :
    Reads (parameters :: outer) [')'] [(.parametersEnd, [')'])] outer [] := by
  have first : LexicalRule.firstLexeme? parameters.rules ([')'] ++ []) =
      some (.parametersEnd, [')']) := rfl
  exact .step depth first .refl

theorem Reads.position {text : List Char} (member : text ∈ Expression.position.language)
    (closers : ∀ c ∈ rest, isSpace c = true ∨ c = ')') (depth : outer.length < maxContextDepth)
    (reads : Reads (parameters :: outer) rest later final left) :
    Reads (parameters :: outer) (text ++ rest) ((.position, text) :: later) final left :=
  .step depth (firstLexeme?_of_delimitedPosition (delimitedPosition_of_mem member closers)) reads

theorem firstLexeme?_of_opening (rest : List Char) :
    LexicalRule.firstLexeme? selector.rules ('(' :: rest) = some (.parametersStart, ['(']) := by
  have visible : isSpace '(' = false := isSpace_of_ascii (by decide)
  have name : startsName '(' = false := startsName_of_ascii (by decide)
  simp [rules, selectorRules, LexicalRule.firstLexeme?_cons, combinator, separator,
    Lexeme.spacedMark, visible, Lexeme.whitespace, Lexeme.run, nonempty, typeSelector,
    Lexeme.identifier, bareIdentifier, name, classSelector, idSelector, pseudoElement, pseudoClass,
    literal, isCombinator]

theorem Reads.opening (depth : outer.length + 1 ≤ maxContextDepth)
    (reads : Reads (parameters :: selector :: outer) rest later final left) :
    Reads (selector :: outer) ('(' :: rest) ((.parametersStart, ['(']) :: later) final left := by
  have first : LexicalRule.firstLexeme? selector.rules (['('] ++ rest) =
      some (.parametersStart, ['(']) := firstLexeme?_of_opening rest
  exact .step depth first reads

/-- A position up to the closing parenthesis. -/
theorem reads_position {text behind : List Char} (member : text ∈ Expression.position.language)
    (spaces : ∀ c ∈ behind, isSpace c = true) (depth : outer.length < maxContextDepth) :
    Reads (parameters :: outer) (text ++ (behind ++ [')']))
      ((.position, text) :: closingPieces behind) outer [] := by
  apply Reads.position member _ depth
  · exact .spaced spaces depth (isSpace_of_ascii (by decide)) rfl (by decide) (.closing depth)
  · intro c inside
    rcases List.mem_append.mp inside with space | closing
    · exact .inl (spaces c space)
    · exact .inr (List.mem_singleton.mp closing)

/-- White space in front of a position, if there is no plus sign that takes it. -/
theorem reads_spaced_position {text behind : List Char}
    (spaces : ∀ c ∈ blank, isSpace c = true) (member : text ∈ Expression.position.language)
    (free : blank = [] ∨ text.head? ≠ some '+') (spacesBehind : ∀ c ∈ behind, isSpace c = true)
    (depth : outer.length < maxContextDepth) :
    Reads (parameters :: outer) (blank ++ (text ++ (behind ++ [')'])))
      (blankPiece blank ++ (.position, text) :: closingPieces behind) outer [] := by
  have reads := reads_position member spacesBehind depth
  rcases free with rfl | unsigned
  · exact reads
  · obtain ⟨c, rest, rfl, apart⟩ := Expression.exists_cons_of_mem_position member
    have other : ¬(isSpace c = true ∨ c = ')' ∨ c = ',' ∨ c = '>' ∨ c = '~') := by
      rw [← surrounds_iff, apart]
      exact Bool.false_ne_true
    have plus : c ≠ '+' := fun same => unsigned (congrArg some same)
    simp only [not_or, Bool.not_eq_true] at other
    exact .spaced spaces depth other.1 (by simp [isCombinator, plus, other.2]) other.2.2.1 reads

/-- White space in front of a plus sign makes a combinator with it. -/
theorem reads_plus_position {unsigned behind : List Char} (full : blank ≠ [])
    (spaces : ∀ c ∈ blank, isSpace c = true)
    (member : '+' :: unsigned ∈ Expression.position.language)
    (spacesBehind : ∀ c ∈ behind, isSpace c = true) (depth : outer.length < maxContextDepth) :
    Reads (parameters :: outer) (blank ++ ('+' :: unsigned ++ (behind ++ [')'])))
      ((.combinator, blank ++ ['+']) :: (.position, unsigned) :: closingPieces behind) outer
      [] := by
  have unsignedMember := Expression.mem_position_of_plus member
  have reads := reads_position unsignedMember spacesBehind depth
  obtain ⟨c, rest, rfl, apart⟩ := Expression.exists_cons_of_mem_position unsignedMember
  have visible : isSpace c = false := by
    rw [Bool.eq_false_iff]
    intro space
    rw [surrounds_iff.mpr (.inl space)] at apart
    cases apart
  have plus : isSpace '+' = false := isSpace_of_ascii (by decide)
  have first := @firstLexeme?_of_blank _ (c :: (rest ++ (behind ++ [')']))) full spaces _ plus
  rw [List.takeWhile_cons_of_neg (by simp [visible])] at first
  have parts : blank ++ ('+' :: c :: rest ++ (behind ++ [')'])) =
      (blank ++ ['+']) ++ (c :: rest ++ (behind ++ [')'])) := by simp
  rw [parts]
  refine .step depth ?_ reads
  rw [List.append_assoc]
  exact first

/-- What a scan of a text in parentheses comes to. -/
theorem scanSelector_of_reads (preferences : ScanPreferences) {text : String} {inside : List Char}
    {pieces : List Piece} (chars : text.toList = '(' :: inside)
    (short : text.utf8ByteSize ≤ maxSourceLength)
    (reads : Reads [parameters, selector] inside pieces [selector] [])
    (few : pieces.length ≤ 4) :
    (scanSelector preferences text).tokens.toList = placed 0 ((.parametersStart, ['(']) :: pieces) ∧
      (scanSelector preferences text).verdict = .done text.utf8ByteSize := by
  have whole : (Source.ofString text).chars = '(' :: inside := chars
  have room : ((TokenKind.parametersStart, ['(']) :: pieces).length ≤ maxTokenCount := by
    rw [List.length_cons]
    exact (Nat.succ_le_succ few).trans (by decide)
  have opened : Reads [selector] (Source.ofString text).chars
      ((.parametersStart, ['(']) :: pieces) [selector] [] := by
    rw [whole]
    exact .opening (by decide) reads
  exact opened.scan_eq short room (by decide)

/-- White space around a position in parentheses is white space, and the position is one token. Only
white space in front of a plus sign is not: it is a combinator together with the sign, and the
position is what is left. -/
theorem scanSelector_parenthesized (preferences : ScanPreferences) {space word later : String}
    (spaces : ∀ c ∈ space.toList, isSpace c = true)
    (member : word.toList ∈ Expression.position.language)
    (spacesBehind : ∀ c ∈ later.toList, isSpace c = true)
    (short : ("(" ++ space ++ word ++ later ++ ")").utf8ByteSize ≤ maxSourceLength) :
    let text := "(" ++ space ++ word ++ later ++ ")"
    let outcome := scanSelector preferences text
    outcome.verdict = .done text.utf8ByteSize ∧
      (space = "" ∨ word.toList.head? ≠ some '+' →
        outcome.tokens.toList = placed 0
          ((.parametersStart, ['(']) ::
            (blankPiece space.toList ++ (.position, word.toList) :: closingPieces later.toList))) ∧
      ∀ unsigned, space ≠ "" → word.toList = '+' :: unsigned →
        outcome.tokens.toList = placed 0
          ((.parametersStart, ['(']) :: (.combinator, space.toList ++ ['+']) ::
            (.position, unsigned) :: closingPieces later.toList) := by
  intro text outcome
  have chars : text.toList =
      '(' :: (space.toList ++ (word.toList ++ (later.toList ++ [')']))) := by
    simp [text]
  have depth : [selector].length < maxContextDepth := by decide
  have few := length_closingPieces_le later.toList
  have plain (free : space = "" ∨ word.toList.head? ≠ some '+') :
      outcome.tokens.toList = placed 0 ((.parametersStart, ['(']) ::
          (blankPiece space.toList ++ (.position, word.toList) :: closingPieces later.toList)) ∧
        outcome.verdict = .done text.utf8ByteSize := by
    have reads := reads_spaced_position spaces member (free.imp_left String.toList_eq_nil_iff.mpr)
      spacesBehind depth
    apply scanSelector_of_reads preferences chars short reads
    have front := length_blankPiece_le space.toList
    rw [List.length_append, List.length_cons]
    omega
  have signed (unsigned : List Char) (full : space ≠ "") (parts : word.toList = '+' :: unsigned) :
      outcome.tokens.toList = placed 0
          ((.parametersStart, ['(']) :: (.combinator, space.toList ++ ['+']) ::
            (.position, unsigned) :: closingPieces later.toList) ∧
        outcome.verdict = .done text.utf8ByteSize := by
    rw [parts] at chars member
    have reads := reads_plus_position (mt String.toList_eq_nil_iff.mp full) spaces member
      spacesBehind depth
    apply scanSelector_of_reads preferences chars short reads
    rw [List.length_cons, List.length_cons]
    omega
  refine ⟨?_, fun free => (plain free).1, fun unsigned full parts => (signed unsigned full parts).1⟩
  by_cases free : space = "" ∨ word.toList.head? ≠ some '+'
  · exact (plain free).2
  · rw [not_or, not_not] at free
    obtain ⟨unsigned, parts⟩ := List.head?_eq_some_iff.mp free.2
    exact (signed unsigned free.1 parts).2

theorem parenthesized_of_sign :
    (scanSelector {} ("(" ++ "\t\u3000" ++ "-2n + 1" ++ " " ++ ")")).tokens.toList =
        [⟨.parametersStart, 0, "("⟩, ⟨.whitespace, 1, "\t\u3000"⟩, ⟨.position, 5, "-2n + 1"⟩,
          ⟨.whitespace, 12, " "⟩, ⟨.parametersEnd, 13, ")"⟩] ∧
      (scanSelector {} ("(" ++ " " ++ "+n" ++ "" ++ ")")).tokens.toList =
        [⟨.parametersStart, 0, "("⟩, ⟨.combinator, 1, " +"⟩, ⟨.position, 3, "n"⟩,
          ⟨.parametersEnd, 4, ")"⟩] := by
  have minus : "-2n + 1".toList ∈ Expression.position.choices "-2n + 1".toList := by
    decide +kernel
  have plus : "+n".toList ∈ Expression.position.choices "+n".toList := by decide +kernel
  have wide : "\t\u3000".toList.all isSpace = true := by decide +kernel
  have blank : " ".toList.all isSpace = true := by decide +kernel
  have none : "".toList.all isSpace = true := rfl
  obtain ⟨-, plain, -⟩ := scanSelector_parenthesized {} (List.all_eq_true.mp wide)
    (Expression.mem_choices_iff.mp minus).1 (List.all_eq_true.mp blank) (by decide +kernel)
  obtain ⟨-, -, signed⟩ := scanSelector_parenthesized {} (List.all_eq_true.mp blank)
    (Expression.mem_choices_iff.mp plus).1 (List.all_eq_true.mp none) (by decide +kernel)
  constructor
  · exact plain (.inr (by decide +kernel))
  · exact signed ['n'] (by decide) rfl

/-- Between a space and three, a plus sign is not part of the position. -/
theorem parenthesized_of_spaced_plus :
    "+3".toList ∈ Expression.position.language ∧
      (scanSelector {} ("(" ++ " " ++ "+3" ++ "" ++ ")")).tokens.toList ≠
        placed 0 ((.parametersStart, ['(']) ::
          (blankPiece " ".toList ++ (.position, "+3".toList) :: closingPieces "".toList)) := by
  have plus : "+3".toList ∈ Expression.position.choices "+3".toList := by decide +kernel
  exact ⟨(Expression.mem_choices_iff.mp plus).1, by decide +kernel⟩

end SelectorContext

end CssSelector
