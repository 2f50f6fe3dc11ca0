import CssSelector.Proofs.Selector.LongestMatch

/-!
# How tokens of selectors begin

Whether a context has a token is seen at the first characters of the text ahead. `Begins` tells for
each kind of token how such a text begins; the rule for the kind finds a lexeme at these texts and
at no others. A context is stuck where no rule does, `token?_isSome_iff`.
-/

set_option autoImplicit false

namespace CssSelector

/-- A name is at the front: a word character that is no digit, possibly behind a hyphen. -/
inductive BeginsName : List Char → Prop where
  | plain {c : Char} {rest : List Char} :
      isWord c = true → isDigit c = false → BeginsName (c :: rest)
  | hyphenated {c : Char} {rest : List Char} :
      isWord c = true → isDigit c = false → BeginsName ('-' :: c :: rest)

/-- The longest position at the front is followed by white space, a closing parenthesis or the end
of the text. -/
def BeginsPosition (input : List Char) : Prop :=
  ∃ text later, input = text ++ later ∧ IsLongest Expression.position.language input text ∧
    ∀ c, later.head? = some c → isSpace c = true ∨ c = ')'

/-! ## One recognizer at a time -/

namespace Lexeme

variable {input : List Char}

theorem isSome_literal_iff (c : Char) :
    (literal [c] input).isSome = true ↔ BeginsWith (· = c) input := by
  cases input with
  | nil => simp [literal]
  | cons d rest =>
      by_cases same : d = c
      · simp [literal, nonempty, same]
      · simp [literal, same, Ne.symm same]

theorem isSome_run_iff (belongs : Char → Bool) :
    (run belongs input).isSome = true ↔ BeginsWith belongs input := by
  cases input with
  | nil => simp [run, nonempty]
  | cons c rest => cases member : belongs c <;> simp [run, nonempty, member]

theorem isSome_spacedMark_iff (isMark : Char → Bool) :
    (spacedMark isMark input).isSome = true ↔ BeginsWith isMark (input.dropWhile isSpace) := by
  unfold spacedMark
  split
  · next spaces => simp [spaces]
  · next c rest mark => cases member : isMark c <;> simp [mark, member]

theorem startsName_iff {c : Char} :
    startsName c = true ↔ isWord c = true ∧ isDigit c = false := by
  simp [startsName]

theorem not_startsName_hyphen : startsName '-' = false := startsName_of_ascii (by decide)

theorem isSome_bareIdentifier_iff :
    (bareIdentifier input).isSome = true ↔ BeginsWith startsName input := by
  cases input with
  | nil => simp [bareIdentifier]
  | cons c rest => cases starts : startsName c <;> simp [bareIdentifier, starts]

theorem beginsName_cons_iff {c : Char} {rest : List Char} :
    BeginsName (c :: rest) ↔ startsName c = true ∨ c = '-' ∧ BeginsWith startsName rest := by
  constructor
  · intro begins
    cases begins with
    | plain word digit => exact .inl (startsName_iff.mpr ⟨word, digit⟩)
    | hyphenated word digit =>
        exact .inr ⟨rfl, beginsWith_cons.mpr (startsName_iff.mpr ⟨word, digit⟩)⟩
  · intro starts
    rcases starts with starts | ⟨rfl, begins⟩
    · obtain ⟨word, digit⟩ := startsName_iff.mp starts
      exact .plain word digit
    · obtain ⟨d, tail, rfl, starts⟩ := begins.exists_cons
      obtain ⟨word, digit⟩ := startsName_iff.mp starts
      exact .hyphenated word digit

theorem isSome_identifier_iff : (identifier input).isSome = true ↔ BeginsName input := by
  cases input with
  | nil =>
      constructor
      · intro none
        cases none
      · intro begins
        cases begins
  | cons c rest =>
      by_cases hyphen : c = '-'
      · subst hyphen
        simp [identifier, beginsName_cons_iff, not_startsName_hyphen, isSome_bareIdentifier_iff]
      · simp [identifier_of_ne hyphen, beginsName_cons_iff, hyphen, isSome_bareIdentifier_iff]

theorem isSome_marked_iff {mark : Char} {recognize : Recognizer} :
    (marked mark recognize input).isSome = true ↔
      ∃ rest, input = mark :: rest ∧ (recognize rest).isSome = true := by
  cases input with
  | nil => simp [marked]
  | cons c rest => by_cases same : c = mark <;> simp [marked, same]

theorem isSome_typeSelector_iff :
    (typeSelector input).isSome = true ↔ BeginsWith (· = '*') input ∨ BeginsName input := by
  cases input with
  | nil => simp [← isSome_identifier_iff, typeSelector]
  | cons c rest =>
      by_cases asterisk : c = '*'
      · simp [typeSelector, asterisk]
      · simp [typeSelector_of_ne asterisk, asterisk, isSome_identifier_iff]

theorem isSome_attributeOperator_iff :
    (attributeOperator input).isSome = true ↔
      BeginsWith (· = '=') input ∨
        ∃ c rest, input = c :: '=' :: rest ∧ modifiesOperator c = true := by
  cases input with
  | nil => simp [attributeOperator]
  | cons c rest =>
      rw [attributeOperator_cons]
      by_cases plain : c = '='
      · simp [plain]
      · cases rest with
        | nil => simp [plain]
        | cons d rest => by_cases equals : d = '=' <;> simp [plain, equals]

theorem isSome_escapedCharacter_iff :
    (escapedCharacter input).isSome = true ↔ ∃ c rest, input = '\\' :: c :: rest := by
  unfold escapedCharacter
  split
  · simp
  · next other =>
      simp only [Option.isSome_none, Bool.false_eq_true, false_iff]
      intro ⟨c, rest, same⟩
      exact other c rest same

theorem isSome_delimitedPosition_iff :
    (delimitedPosition input).isSome = true ↔ BeginsPosition input := by
  rw [Option.isSome_iff_exists]
  constructor
  · intro ⟨text, recognized⟩
    obtain ⟨-, later, rfl⟩ := leads_delimitedPosition recognized
    exact ⟨text, later, rfl, delimitedPosition_append_iff.mp recognized⟩
  · intro ⟨text, later, inputEq, longest⟩
    subst inputEq
    exact ⟨text, delimitedPosition_append_iff.mpr longest⟩

end Lexeme

namespace SelectorContext

/-! ## One kind at a time -/

/-- How a text begins at whose front a context has a lexeme of a kind. -/
def Begins (context : SelectorContext) (input : List Char) : TokenKind → Prop
  | .any => False
  | .whitespace => BeginsWith isSpace input
  | .typeSelector => BeginsWith (· = '*') input ∨ BeginsName input
  | .classSelector => ∃ rest, input = '.' :: rest ∧ BeginsName rest
  | .idSelector => ∃ rest, input = '#' :: rest ∧ BeginsWith Lexeme.continuesName rest
  | .attributeStart => BeginsWith (· = '[') input
  | .attributeOperator =>
      BeginsWith (· = '=') input ∨
        ∃ c rest, input = c :: '=' :: rest ∧ Lexeme.modifiesOperator c = true
  | .attributeEnd => BeginsWith (· = ']') input
  | .singleQuoteStart | .singleQuoteEnd => BeginsWith (· = '\'') input
  | .doubleQuoteStart | .doubleQuoteEnd => BeginsWith (· = '"') input
  | .characters =>
      match context with
      | string quote => BeginsWith quote.isPlain input
      | _ => BeginsWith Lexeme.continuesName input
  | .escapedCharacter => ∃ c rest, input = '\\' :: c :: rest
  | .pseudoClass => ∃ rest, input = ':' :: rest ∧ BeginsName rest
  | .parametersStart => BeginsWith (· = '(') input
  | .parametersEnd => BeginsWith (· = ')') input
  | .position => BeginsPosition input
  | .pseudoElement => ∃ rest, input = ':' :: ':' :: rest ∧ BeginsName rest
  | .combinator => BeginsWith Lexeme.isCombinator (input.dropWhile isSpace)
  | .separator => BeginsWith (· = ',') (input.dropWhile isSpace)

open Lexeme

/-- A rule finds a lexeme exactly where a text begins as one of its kind. -/
theorem isSome_recognize_iff (context : SelectorContext) (input : List Char) :
    ∀ rule ∈ context.rules,
      (rule.recognize input).isSome = true ↔ context.Begins input rule.kind := by
  have quotes : ∀ rule ∈ quoteRules,
      (rule.recognize input).isSome = true ↔ context.Begins input rule.kind := by
    simp only [quoteRules, List.forall_mem_cons]
    exact ⟨isSome_literal_iff _, isSome_literal_iff _, by simp⟩
  have named (mark : Char) : (marked mark identifier input).isSome = true ↔
      ∃ rest, input = mark :: rest ∧ BeginsName rest := by
    simp only [isSome_marked_iff, isSome_identifier_iff]
  have ofSelector : ∀ rule ∈ selectorRules,
      (rule.recognize input).isSome = true ↔ context.Begins input rule.kind := by
    simp only [selectorRules, List.forall_mem_append, List.forall_mem_cons]
    refine ⟨⟨isSome_spacedMark_iff _, isSome_spacedMark_iff _, isSome_run_iff _,
      isSome_typeSelector_iff, ?_, ?_, ?_, ?_, isSome_literal_iff _, isSome_literal_iff _, by simp⟩,
      quotes⟩
    · rw [classSelector_eq]
      exact named '.'
    · rw [idSelector_eq]
      simp only [isSome_marked_iff, isSome_run_iff, Begins]
    · rw [pseudoElement_eq]
      simp only [isSome_marked_iff, isSome_identifier_iff, Begins]
      constructor
      · rintro ⟨_, first, rest, second, begins⟩
        exact ⟨rest, first.trans (congrArg (':' :: ·) second), begins⟩
      · rintro ⟨rest, both, begins⟩
        exact ⟨':' :: rest, both, rest, rfl, begins⟩
    · rw [pseudoClass_eq]
      exact named ':'
  cases context with
  | selector => exact ofSelector
  | parameters =>
      simp only [rules, parameterRules, List.forall_mem_append, List.forall_mem_cons]
      exact ⟨⟨isSome_literal_iff _, isSome_delimitedPosition_iff, by simp⟩, ofSelector⟩
  | attributes =>
      simp only [rules, attributeRules, List.forall_mem_append, List.forall_mem_cons]
      exact ⟨⟨isSome_literal_iff _, isSome_run_iff _, isSome_attributeOperator_iff,
        isSome_run_iff _, by simp⟩, quotes⟩
  | string quote =>
      simp only [rules, stringRules, List.forall_mem_cons]
      refine ⟨?_, isSome_escapedCharacter_iff, isSome_run_iff _, by simp⟩
      cases quote <;> exact isSome_literal_iff _

/-! ## Where a context has a token -/

/-- How a text begins at which a selector has a token. -/
inductive BeginsSelector : List Char → Prop where
  | space {c : Char} {rest : List Char} : isSpace c = true → BeginsSelector (c :: rest)
  | mark {c : Char} {rest : List Char} :
      c ∈ ['>', '+', '~', ',', '*', '(', '[', '\'', '"'] → BeginsSelector (c :: rest)
  | typeSelector {rest : List Char} : BeginsName rest → BeginsSelector rest
  | classSelector {rest : List Char} : BeginsName rest → BeginsSelector ('.' :: rest)
  | pseudoClass {rest : List Char} : BeginsName rest → BeginsSelector (':' :: rest)
  | pseudoElement {rest : List Char} : BeginsName rest → BeginsSelector (':' :: ':' :: rest)
  | idSelector {c : Char} {rest : List Char} :
      isWord c = true ∨ c = '-' → BeginsSelector ('#' :: c :: rest)

/-- How a text begins at which an attribute selector has a token behind its bracket. -/
inductive BeginsAttribute : List Char → Prop where
  | space {c : Char} {rest : List Char} : isSpace c = true → BeginsAttribute (c :: rest)
  | word {c : Char} {rest : List Char} : isWord c = true → BeginsAttribute (c :: rest)
  | mark {c : Char} {rest : List Char} :
      c ∈ [']', '-', '\'', '"', '='] → BeginsAttribute (c :: rest)
  | operator {c : Char} {rest : List Char} :
      c ∈ ['~', '^', '$', '*', '|'] → BeginsAttribute (c :: '=' :: rest)

variable {source : Source} {offset : Nat} {rest : List Char}

theorem isSome_token?_iff (context : SelectorContext) (found : source.after? offset = some rest) :
    (context.token? source offset).isSome = true ↔
      ∃ kind ∈ context.kinds, context.Begins rest kind := by
  rw [token?_eq_map found, Option.isSome_map, LexicalRule.firstLexeme?, List.findSome?_isSome_iff]
  constructor
  · rintro ⟨rule, member, recognized⟩
    rw [Option.isSome_map] at recognized
    exact ⟨rule.kind, List.mem_map_of_mem member,
      (isSome_recognize_iff context rest rule member).mp recognized⟩
  · rintro ⟨kind, listed, begins⟩
    obtain ⟨rule, member, rfl⟩ := List.mem_map.mp listed
    refine ⟨rule, member, ?_⟩
    rw [Option.isSome_map]
    exact (isSome_recognize_iff context rest rule member).mpr begins

/-- The text at a token begins as one of its kind. -/
theorem begins_of_token? {context : SelectorContext} {token : Token}
    (found : source.after? offset = some rest)
    (produced : context.token? source offset = some token) : context.Begins rest token.kind := by
  obtain ⟨before, split⟩ := Source.after?_eq_some_iff.mp found
  obtain ⟨rule, member, lexeme, later, recognized, -, -, rfl⟩ := token?_eq_some split produced
  exact (isSome_recognize_iff context rest rule member).mp (Option.isSome_of_eq_some recognized)

/-! ## Which texts these are -/

theorem BeginsSelector.of_mark {mark : Char}
    (listed : mark ∈ ['>', '+', '~', ',', '*', '(', '[', '\'', '"'])
    (begins : BeginsWith (· = mark) rest) : BeginsSelector rest := by
  obtain ⟨c, later, rfl, same⟩ := begins.exists_cons
  rw [of_decide_eq_true same]
  exact .mark listed

theorem beginsWith_spacedMark {isMark : Char → Bool} {c : Char} {later : List Char}
    (visible : isSpace c = false) (mark : isMark c = true) :
    BeginsWith isMark ((c :: later).dropWhile isSpace) := by
  rw [List.dropWhile_cons_of_neg (by simp [visible])]
  exact beginsWith_cons.mpr mark

/-- A mark with white space around it begins with the mark or with white space. -/
theorem BeginsSelector.of_spacedMark {isMark : Char → Bool}
    (listed : ∀ c, isMark c = true → c ∈ ['>', '+', '~', ',', '*', '(', '[', '\'', '"'])
    (begins : BeginsWith isMark (rest.dropWhile isSpace)) : BeginsSelector rest := by
  cases rest with
  | nil => exact absurd begins (not_beginsWith_nil isMark)
  | cons c later =>
      cases space : isSpace c with
      | true => exact .space space
      | false =>
          rw [List.dropWhile_cons_of_neg (by simp [space]), beginsWith_cons] at begins
          exact .mark (listed c begins)

theorem exists_begins_selector_iff :
    (∃ kind ∈ selector.kinds, selector.Begins rest kind) ↔ BeginsSelector rest := by
  constructor
  · intro ⟨kind, member, begins⟩
    cases kind with
    | combinator =>
        refine .of_spacedMark (fun c combines => ?_) begins
        simp only [isCombinator, Bool.or_eq_true, decide_eq_true_eq] at combines
        rcases combines with (rfl | rfl) | rfl <;> decide
    | separator =>
        refine .of_spacedMark (fun c comma => ?_) begins
        rw [of_decide_eq_true comma]
        decide
    | whitespace =>
        obtain ⟨c, later, rfl, space⟩ := begins.exists_cons
        exact .space space
    | typeSelector =>
        rcases begins with asterisk | name
        · exact .of_mark (by decide) asterisk
        · exact .typeSelector name
    | classSelector =>
        obtain ⟨name, rfl, begins⟩ := begins
        exact .classSelector begins
    | idSelector =>
        obtain ⟨name, rfl, begins⟩ := begins
        obtain ⟨c, later, rfl, continues⟩ := begins.exists_cons
        simp only [continuesName, Bool.or_eq_true, decide_eq_true_eq] at continues
        exact .idSelector continues
    | pseudoElement =>
        obtain ⟨name, rfl, begins⟩ := begins
        exact .pseudoElement begins
    | pseudoClass =>
        obtain ⟨name, rfl, begins⟩ := begins
        exact .pseudoClass begins
    | parametersStart => exact .of_mark (by decide) begins
    | attributeStart => exact .of_mark (by decide) begins
    | singleQuoteStart => exact .of_mark (by decide) begins
    | doubleQuoteStart => exact .of_mark (by decide) begins
    | _ => exact absurd member (by decide)
  · intro begins
    cases begins with
    | space space => exact ⟨.whitespace, by decide, beginsWith_cons.mpr space⟩
    | @mark c later listed =>
        simp only [List.mem_cons, List.not_mem_nil, or_false] at listed
        rcases listed with rfl | rfl | rfl | rfl | rfl | rfl | rfl | rfl | rfl
        · exact ⟨.combinator, by decide, beginsWith_spacedMark (isSpace_of_ascii (by decide)) rfl⟩
        · exact ⟨.combinator, by decide, beginsWith_spacedMark (isSpace_of_ascii (by decide)) rfl⟩
        · exact ⟨.combinator, by decide, beginsWith_spacedMark (isSpace_of_ascii (by decide)) rfl⟩
        · exact ⟨.separator, by decide, beginsWith_spacedMark (isSpace_of_ascii (by decide)) rfl⟩
        · exact ⟨.typeSelector, by decide, .inl (beginsWith_cons.mpr rfl)⟩
        · exact ⟨.parametersStart, by decide, beginsWith_cons.mpr rfl⟩
        · exact ⟨.attributeStart, by decide, beginsWith_cons.mpr rfl⟩
        · exact ⟨.singleQuoteStart, by decide, beginsWith_cons.mpr rfl⟩
        · exact ⟨.doubleQuoteStart, by decide, beginsWith_cons.mpr rfl⟩
    | typeSelector name => exact ⟨.typeSelector, by decide, .inr name⟩
    | classSelector name => exact ⟨.classSelector, by decide, _, rfl, name⟩
    | pseudoClass name => exact ⟨.pseudoClass, by decide, _, rfl, name⟩
    | pseudoElement name => exact ⟨.pseudoElement, by decide, _, rfl, name⟩
    | @idSelector c later continues =>
        refine ⟨.idSelector, by decide, _, rfl, beginsWith_cons.mpr ?_⟩
        simpa [continuesName] using continues

theorem exists_begins_parameters_iff :
    (∃ kind ∈ parameters.kinds, parameters.Begins rest kind) ↔
      BeginsSelector rest ∨ BeginsWith (· = ')') rest ∨ BeginsPosition rest := by
  have table : parameters.kinds = .parametersEnd :: .position :: selector.kinds := rfl
  have shared : ∀ kind ∈ selector.kinds,
      parameters.Begins rest kind ↔ selector.Begins rest kind := by
    intro kind member
    cases kind with
    | characters => exact absurd member (by decide)
    | _ => exact Iff.rfl
  constructor
  · intro ⟨kind, member, begins⟩
    simp only [table, List.mem_cons] at member
    rcases member with rfl | rfl | member
    · exact .inr (.inl begins)
    · exact .inr (.inr begins)
    · exact .inl (exists_begins_selector_iff.mp ⟨kind, member, (shared kind member).mp begins⟩)
  · intro begins
    rcases begins with begins | closing | position
    · obtain ⟨kind, member, begins⟩ := exists_begins_selector_iff.mpr begins
      exact ⟨kind, by simp [table, member], (shared kind member).mpr begins⟩
    · exact ⟨.parametersEnd, by decide, closing⟩
    · exact ⟨.position, by decide, position⟩

theorem BeginsAttribute.of_mark {mark : Char} (listed : mark ∈ [']', '-', '\'', '"', '='])
    (begins : BeginsWith (· = mark) rest) : BeginsAttribute rest := by
  obtain ⟨c, later, rfl, same⟩ := begins.exists_cons
  rw [of_decide_eq_true same]
  exact .mark listed

theorem modifiesOperator_iff {c : Char} :
    modifiesOperator c = true ↔ c ∈ ['~', '^', '$', '*', '|'] := by
  simp [modifiesOperator, or_assoc]

theorem exists_begins_attributes_iff :
    (∃ kind ∈ attributes.kinds, attributes.Begins rest kind) ↔ BeginsAttribute rest := by
  constructor
  · intro ⟨kind, member, begins⟩
    cases kind with
    | attributeEnd => exact .of_mark (by decide) begins
    | whitespace =>
        obtain ⟨c, later, rfl, space⟩ := begins.exists_cons
        exact .space space
    | attributeOperator =>
        rcases begins with equals | ⟨c, later, rfl, modifies⟩
        · exact .of_mark (by decide) equals
        · exact .operator (modifiesOperator_iff.mp modifies)
    | characters =>
        obtain ⟨c, later, rfl, continues⟩ := begins.exists_cons
        simp only [continuesName, Bool.or_eq_true, decide_eq_true_eq] at continues
        rcases continues with word | rfl
        · exact .word word
        · exact .mark (by decide)
    | singleQuoteStart => exact .of_mark (by decide) begins
    | doubleQuoteStart => exact .of_mark (by decide) begins
    | _ => exact absurd member (by decide)
  · intro begins
    cases begins with
    | space space => exact ⟨.whitespace, by decide, beginsWith_cons.mpr space⟩
    | word word =>
        exact ⟨.characters, by decide, beginsWith_cons.mpr (by simp [continuesName, word])⟩
    | mark listed =>
        simp only [List.mem_cons, List.not_mem_nil, or_false] at listed
        rcases listed with rfl | rfl | rfl | rfl | rfl
        · exact ⟨.attributeEnd, by decide, beginsWith_cons.mpr rfl⟩
        · exact ⟨.characters, by decide, beginsWith_cons.mpr (by simp [continuesName])⟩
        · exact ⟨.singleQuoteStart, by decide, beginsWith_cons.mpr rfl⟩
        · exact ⟨.doubleQuoteStart, by decide, beginsWith_cons.mpr rfl⟩
        · exact ⟨.attributeOperator, by decide, .inl (beginsWith_cons.mpr rfl)⟩
    | operator listed =>
        exact ⟨.attributeOperator, by decide, .inr ⟨_, _, rfl, modifiesOperator_iff.mpr listed⟩⟩

theorem begins_endKind_iff {quote : Quote} :
    (string quote).Begins rest quote.endKind ↔ BeginsWith (· = quote.char) rest := by
  cases quote <;> exact Iff.rfl

/-- A string has a token at every text but a single backslash. -/
theorem exists_begins_string_iff {quote : Quote} (ahead : rest ≠ []) :
    (∃ kind ∈ (string quote).kinds, (string quote).Begins rest kind) ↔ rest ≠ ['\\'] := by
  have table : (string quote).kinds = [quote.endKind, .escapedCharacter, .characters] := rfl
  have escape : (string quote).Begins rest .escapedCharacter ↔
      ∃ c later, rest = '\\' :: c :: later := Iff.rfl
  have plain : (string quote).Begins rest .characters ↔ BeginsWith quote.isPlain rest := Iff.rfl
  simp only [table, List.exists_mem_cons_iff, begins_endKind_iff, escape, plain,
    List.not_mem_nil, false_and, exists_false, or_false]
  obtain ⟨c, later, rfl⟩ := List.exists_cons_of_ne_nil ahead
  by_cases backslash : c = '\\'
  · have other : '\\' ≠ quote.char := by cases quote <;> decide
    subst backslash
    cases later <;> simp [Quote.isPlain, other]
  · by_cases quoted : c = quote.char
    · have other : quote.char ≠ '\\' := by cases quote <;> decide
      simp [quoted, other]
    · simp [Quote.isPlain, backslash, quoted]

theorem ne_nil_of_inside (found : source.after? offset = some rest)
    (inside : offset < source.length) : rest ≠ [] := by
  obtain ⟨before, split⟩ := Source.after?_eq_some_iff.mp found
  have bound := split.length_eq
  intro none
  rw [none, byteLength_nil] at bound
  omega

/-- Where the contexts of selectors have a token, for every place between two characters of a
source: it is told by how the text ahead begins. Elsewhere a scan in that context is stuck. -/
theorem token?_isSome_iff (found : source.after? offset = some rest)
    (inside : offset < source.length) :
    ((selector.token? source offset).isSome = true ↔ BeginsSelector rest) ∧
      ((parameters.token? source offset).isSome = true ↔
        (selector.token? source offset).isSome = true ∨ BeginsWith (· = ')') rest ∨
          BeginsPosition rest) ∧
      ((attributes.token? source offset).isSome = true ↔ BeginsAttribute rest) ∧
      ∀ quote, (string quote).token? source offset = none ↔ rest = ['\\'] := by
  have ofSelector : (selector.token? source offset).isSome = true ↔ BeginsSelector rest :=
    (isSome_token?_iff selector found).trans exists_begins_selector_iff
  refine ⟨ofSelector, ?_, ?_, ?_⟩
  · rw [ofSelector]
    exact (isSome_token?_iff parameters found).trans exists_begins_parameters_iff
  · exact (isSome_token?_iff attributes found).trans exists_begins_attributes_iff
  · intro quote
    have ahead := ne_nil_of_inside found inside
    have some := (isSome_token?_iff (string quote) found).trans (exists_begins_string_iff ahead)
    rw [← Option.not_isSome_iff_eq_none, some, not_not]

/-- Behind a character of two bytes: two colons and a hyphenated name. In brackets this is no
token, inside a string it is one. -/
theorem token?_isSome_of_hyphenated :
    (Source.ofString "é::-a").after? 2 = some [':', ':', '-', 'a'] ∧
      2 < (Source.ofString "é::-a").length ∧
      (selector.token? (.ofString "é::-a") 2).isSome = true ∧
      attributes.token? (.ofString "é::-a") 2 = none ∧
      (string .single).token? (.ofString "é::-a") 2 ≠ none := by
  have found : (Source.ofString "é::-a").after? 2 = some [':', ':', '-', 'a'] := by
    decide +kernel
  have inside : 2 < (Source.ofString "é::-a").length := by decide
  obtain ⟨ofSelector, -, ofAttributes, ofString⟩ := token?_isSome_iff found inside
  have name : BeginsName ['-', 'a'] := .hyphenated (by decide +kernel) (by decide +kernel)
  have colon : ¬BeginsAttribute [':', ':', '-', 'a'] := by
    intro begins
    cases begins with
    | space space => exact absurd space (by decide +kernel)
    | word word => exact absurd word (by decide +kernel)
    | mark listed => exact absurd listed (by decide)
  refine ⟨found, inside, ofSelector.mpr (.pseudoElement name), ?_, ?_⟩
  · exact Option.not_isSome_iff_eq_none.mp fun some => colon (ofAttributes.mp some)
  · intro none
    exact absurd ((ofString .single).mp none) (by decide)

end SelectorContext

end CssSelector
