import CssSelector.Proofs.Selector.Lexeme
import CssSelector.Proofs.Text.Ranges
import CssSelector.Proofs.Text.Run

/-!
# Characters at which lexemes stop

A comma or a quote is part of few lexemes. To most recognizers it is like the end of the text:
they find the same lexeme whether such a character comes next or nothing does, and whatever comes
behind it.
-/

set_option autoImplicit false

namespace CssSelector

namespace Lexeme

/-- A recognizer to which a character is like the end of the text. -/
def StopsAt (stop : Char) (recognize : Recognizer) : Prop :=
  ∀ input later, recognize (input ++ stop :: later) = recognize input

/-- The comma and the quotes. -/
def isBarrier (c : Char) : Bool := c = ',' || c = '\'' || c = '"'

section

variable {stop : Char}

theorem eq_of_isBarrier (barrier : isBarrier stop = true) :
    stop = ',' ∨ stop = '\'' ∨ stop = '"' := by
  simpa [isBarrier, or_assoc] using barrier

theorem isSpace_of_isBarrier (barrier : isBarrier stop = true) : isSpace stop = false := by
  rcases eq_of_isBarrier barrier with rfl | rfl | rfl <;> exact isSpace_of_ascii (by decide)

theorem isDigit_of_isBarrier (barrier : isBarrier stop = true) : isDigit stop = false := by
  rcases eq_of_isBarrier barrier with rfl | rfl | rfl <;> exact isDigit_of_ascii (by decide)

theorem continuesName_of_isBarrier (barrier : isBarrier stop = true) :
    continuesName stop = false := by
  rcases eq_of_isBarrier barrier with rfl | rfl | rfl <;> exact continuesName_of_ascii (by decide)

theorem startsName_of_isBarrier (barrier : isBarrier stop = true) : startsName stop = false := by
  rcases eq_of_isBarrier barrier with rfl | rfl | rfl <;> exact startsName_of_ascii (by decide)

theorem isCombinator_of_isBarrier (barrier : isBarrier stop = true) :
    isCombinator stop = false := by
  rcases eq_of_isBarrier barrier with rfl | rfl | rfl <;> decide

theorem ne_of_isBarrier {c : Char} (barrier : isBarrier stop = true) (other : isBarrier c = false) :
    stop ≠ c := by
  rintro rfl
  rw [barrier] at other
  cases other

end

/-! ## Runs and names -/

variable {stop : Char} {belongs : Char → Bool}

theorem takeWhile_append_stop (out : belongs stop = false) (input later : List Char) :
    (input ++ stop :: later).takeWhile belongs = input.takeWhile belongs :=
  (EndsRun.cons out later).takeWhile_append input

theorem dropWhile_append_stop (out : belongs stop = false) (input later : List Char) :
    (input ++ stop :: later).dropWhile belongs = input.dropWhile belongs ++ stop :: later :=
  (EndsRun.cons out later).dropWhile_append input

theorem stopsAt_run (out : belongs stop = false) : StopsAt stop (run belongs) := by
  intro input later
  rw [run, run, takeWhile_append_stop out]

theorem stopsAt_bareIdentifier (barrier : isBarrier stop = true) :
    StopsAt stop bareIdentifier := by
  intro input later
  cases input with
  | nil => simp [bareIdentifier, startsName_of_isBarrier barrier]
  | cons c rest =>
      rw [List.cons_append, bareIdentifier, bareIdentifier,
        takeWhile_append_stop (continuesName_of_isBarrier barrier)]

theorem identifier_of_ne {c : Char} (other : c ≠ '-') (rest : List Char) :
    identifier (c :: rest) = bareIdentifier (c :: rest) := by
  simp [identifier, other]

theorem stopsAt_identifier (barrier : isBarrier stop = true) : StopsAt stop identifier := by
  intro input later
  have bare := stopsAt_bareIdentifier barrier
  cases input with
  | nil =>
      rw [List.nil_append, identifier_of_ne (ne_of_isBarrier barrier (by decide))]
      exact bare [] later
  | cons c rest =>
      by_cases hyphen : c = '-'
      · subst hyphen
        exact congrArg (Option.map ('-' :: ·)) (bare rest later)
      · rw [List.cons_append, identifier_of_ne hyphen, identifier_of_ne hyphen]
        exact bare (c :: rest) later

theorem typeSelector_of_ne {c : Char} (other : c ≠ '*') (rest : List Char) :
    typeSelector (c :: rest) = identifier (c :: rest) := by
  simp [typeSelector, other]

theorem stopsAt_typeSelector (barrier : isBarrier stop = true) : StopsAt stop typeSelector := by
  intro input later
  have name := stopsAt_identifier barrier
  cases input with
  | nil =>
      rw [List.nil_append, typeSelector_of_ne (ne_of_isBarrier barrier (by decide))]
      exact name [] later
  | cons c rest =>
      by_cases asterisk : c = '*'
      · subst asterisk
        rfl
      · rw [List.cons_append, typeSelector_of_ne asterisk, typeSelector_of_ne asterisk]
        exact name (c :: rest) later

/-- A mark and a lexeme behind it. -/
def marked (mark : Char) (recognize : Recognizer) : Recognizer
  | [] => none
  | c :: rest => if c = mark then (recognize rest).map (mark :: ·) else none

theorem stopsAt_marked {mark : Char} {recognize : Recognizer} (other : stop ≠ mark)
    (stops : StopsAt stop recognize) : StopsAt stop (marked mark recognize) := by
  intro input later
  cases input with
  | nil => exact if_neg other
  | cons c rest => rw [List.cons_append, marked, marked, stops]

theorem classSelector_eq : classSelector = marked '.' identifier := by
  funext input
  cases input with
  | nil => rfl
  | cons c rest => by_cases mark : c = '.' <;> simp [classSelector, marked, mark]

theorem idSelector_eq : idSelector = marked '#' (run continuesName) := by
  funext input
  cases input with
  | nil => rfl
  | cons c rest => by_cases mark : c = '#' <;> simp [idSelector, marked, mark]

theorem pseudoClass_eq : pseudoClass = marked ':' identifier := by
  funext input
  cases input with
  | nil => rfl
  | cons c rest => by_cases mark : c = ':' <;> simp [pseudoClass, marked, mark]

theorem pseudoElement_eq : pseudoElement = marked ':' (marked ':' identifier) := by
  funext input
  rcases input with _ | ⟨c, _ | ⟨d, rest⟩⟩
  · rfl
  · by_cases mark : c = ':' <;> simp [pseudoElement, marked, mark]
  · by_cases mark : c = ':'
    · by_cases second : d = ':' <;>
        simp [pseudoElement, marked, mark, second, Function.comp_def]
    · simp [pseudoElement, marked, mark]

theorem stopsAt_classSelector (barrier : isBarrier stop = true) : StopsAt stop classSelector := by
  rw [classSelector_eq]
  exact stopsAt_marked (ne_of_isBarrier barrier rfl) (stopsAt_identifier barrier)

theorem stopsAt_idSelector (barrier : isBarrier stop = true) : StopsAt stop idSelector := by
  rw [idSelector_eq]
  exact stopsAt_marked (ne_of_isBarrier barrier rfl)
    (stopsAt_run (continuesName_of_isBarrier barrier))

theorem stopsAt_pseudoClass (barrier : isBarrier stop = true) : StopsAt stop pseudoClass := by
  rw [pseudoClass_eq]
  exact stopsAt_marked (ne_of_isBarrier barrier rfl) (stopsAt_identifier barrier)

theorem stopsAt_pseudoElement (barrier : isBarrier stop = true) : StopsAt stop pseudoElement := by
  have other : stop ≠ ':' := ne_of_isBarrier barrier rfl
  rw [pseudoElement_eq]
  exact stopsAt_marked other (stopsAt_marked other (stopsAt_identifier barrier))

/-! ## Marks and operators -/

theorem stopsAt_spacedMark {isMark : Char → Bool} (barrier : isBarrier stop = true)
    (other : isMark stop = false) : StopsAt stop (spacedMark isMark) := by
  intro input later
  have blank := isSpace_of_isBarrier barrier
  rw [spacedMark, spacedMark, dropWhile_append_stop blank, takeWhile_append_stop blank]
  cases input.dropWhile isSpace with
  | nil => simp [other]
  | cons c rest => simp [takeWhile_append_stop blank]

theorem attributeOperator_cons (c : Char) (rest : List Char) :
    attributeOperator (c :: rest) =
      if c = '=' then some ['=']
      else if rest.head? = some '=' ∧ modifiesOperator c then some [c, '='] else none := by
  by_cases plain : c = '='
  · simp [attributeOperator, plain]
  · cases rest with
    | nil => simp [attributeOperator, plain]
    | cons d rest => by_cases equals : d = '=' <;> simp [attributeOperator, plain, equals]

theorem stopsAt_attributeOperator (barrier : isBarrier stop = true) :
    StopsAt stop attributeOperator := by
  intro input later
  have plain : stop ≠ '=' := ne_of_isBarrier barrier (by decide)
  cases input with
  | nil =>
      have plainMark : modifiesOperator stop = false := by
        rcases eq_of_isBarrier barrier with rfl | rfl | rfl <;> decide
      rw [List.nil_append, attributeOperator_cons, if_neg plain, plainMark]
      simp [attributeOperator]
  | cons c rest =>
      rw [List.cons_append, attributeOperator_cons, attributeOperator_cons]
      cases rest <;> simp [plain]

theorem literal_singleton_append {input : List Char} (some : input ≠ []) (c : Char)
    (later : List Char) : literal [c] (input ++ later) = literal [c] input := by
  cases input with
  | nil => exact absurd rfl some
  | cons d rest => simp [literal]

/-! ## Positions -/

theorem splitSign_append_stop (barrier : isBarrier stop = true) (input later : List Char) :
    splitSign (input ++ stop :: later) =
      ((splitSign input).1, (splitSign input).2 ++ stop :: later) := by
  cases input with
  | nil =>
      have plus : stop ≠ '+' := ne_of_isBarrier barrier (by decide)
      have minus : stop ≠ '-' := ne_of_isBarrier barrier (by decide)
      simp [splitSign, plus, minus]
  | cons c rest =>
      by_cases plus : c = '+'
      · simp [splitSign, plus]
      · by_cases minus : c = '-' <;> simp [splitSign, plus, minus]

theorem positionConstant_append_stop (barrier : isBarrier stop = true) (input later : List Char) :
    positionConstant (input ++ stop :: later) = positionConstant input := by
  have blank := isSpace_of_isBarrier barrier
  have digit := isDigit_of_isBarrier barrier
  rw [positionConstant, positionConstant, dropWhile_append_stop blank,
    takeWhile_append_stop blank, splitSign_append_stop barrier]
  obtain ⟨sign, rest⟩ := splitSign (input.dropWhile isSpace)
  cases sign with
  | nil => rfl
  | cons c signs =>
      dsimp only
      rw [dropWhile_append_stop blank, takeWhile_append_stop digit, takeWhile_append_stop blank]

theorem parity_eq (input : List Char) :
    parity input =
      if ['o', 'd', 'd'].isPrefixOf input then some ['o', 'd', 'd']
      else if ['e', 'v', 'e', 'n'].isPrefixOf input then some ['e', 'v', 'e', 'n']
      else none := by
  unfold parity
  split
  · rfl
  · rfl
  · next notOdd notEven =>
      rw [if_neg, if_neg]
      · intro begins
        obtain ⟨tail, rfl⟩ := List.isPrefixOf_iff_prefix.mp begins
        exact notEven tail rfl
      · intro begins
        obtain ⟨tail, rfl⟩ := List.isPrefixOf_iff_prefix.mp begins
        exact notOdd tail rfl

theorem isPrefixOf_append_stop {word : List Char} (absent : stop ∉ word)
    (input later : List Char) :
    word.isPrefixOf (input ++ stop :: later) = word.isPrefixOf input := by
  induction word generalizing input with
  | nil => rfl
  | cons c word ih =>
      rw [List.mem_cons, not_or] at absent
      cases input with
      | nil => simp [List.isPrefixOf, Ne.symm absent.1]
      | cons d rest => simp [List.isPrefixOf, ih absent.2]

theorem stopsAt_parity (barrier : isBarrier stop = true) : StopsAt stop parity := by
  intro input later
  rw [parity_eq, parity_eq, isPrefixOf_append_stop, isPrefixOf_append_stop]
  all_goals rcases eq_of_isBarrier barrier with rfl | rfl | rfl <;> decide

theorem stopsAt_position (barrier : isBarrier stop = true) : StopsAt stop position := by
  intro input later
  have digit := isDigit_of_isBarrier barrier
  have letter : stop ≠ 'n' := ne_of_isBarrier barrier (by decide)
  unfold position
  rw [splitSign_append_stop barrier]
  dsimp only
  rw [takeWhile_append_stop digit, dropWhile_append_stop digit, stopsAt_parity barrier]
  cases (splitSign input).2.dropWhile isDigit with
  | nil => simp [letter]
  | cons c rest =>
      by_cases unknown : c = 'n'
      · simp [unknown, positionConstant_append_stop barrier]
      · simp [unknown]

theorem endsPosition_append {rest : List Char} (some : rest ≠ []) (later : List Char) :
    endsPosition (rest ++ later) = endsPosition rest := by
  cases rest with
  | nil => exact absurd rfl some
  | cons c rest => rfl

/-- Where a position ends is seen in a text that goes on behind it. -/
theorem delimitedPosition_append {input later : List Char}
    (same : position (input ++ later) = position input)
    (partly : position input ≠ some input) :
    delimitedPosition (input ++ later) = delimitedPosition input := by
  rw [delimitedPosition, delimitedPosition, same]
  cases recognized : position input with
  | none => rfl
  | some lexeme =>
      obtain ⟨-, tail, rfl⟩ := leads_position recognized
      have goesOn : tail ≠ [] := by
        rintro rfl
        rw [List.append_nil] at partly recognized
        exact partly recognized
      dsimp only
      rw [List.append_assoc, List.drop_left, List.drop_left, endsPosition_append goesOn]

/-! ## Strings -/

theorem run_append_of_ne {input : List Char} (some : input ≠ [])
    (partly : run belongs input ≠ Option.some input) (later : List Char) :
    run belongs (input ++ later) = run belongs input := by
  have stops : (input.takeWhile belongs).length ≠ input.length := by
    intro whole
    have all := (List.takeWhile_prefix belongs).eq_of_length whole
    apply partly
    rw [run, all]
    exact nonempty_eq_some_iff.mpr ⟨some, rfl⟩
  rw [run, run, List.takeWhile_append, if_neg stops]

theorem escapedCharacter_append {input : List Char} (some : input ≠ [])
    (full : input ≠ ['\\']) (later : List Char) :
    escapedCharacter (input ++ later) = escapedCharacter input := by
  rcases input with _ | ⟨c, _ | ⟨d, rest⟩⟩
  · exact absurd rfl some
  · have other : c ≠ '\\' := by
      rintro rfl
      exact full rfl
    simp [escapedCharacter, other]
  · by_cases backslash : c = '\\' <;> simp [escapedCharacter, backslash]

end Lexeme

end CssSelector
