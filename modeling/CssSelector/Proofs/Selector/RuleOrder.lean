import CssSelector.Proofs.Selector.Beginning

/-!
# The order of the rules of a context

The first characters ahead tell the kind of the token, `leadingKind`. So at most one rule of a
context finds a token, whatever their order is. Only white space in front of a combinator or a
separator is found by two rules, and only there it matters which of them is tried first,
`firstToken?_of_perm`. Inside parentheses the order matters more: a position may also be a name.
-/

set_option autoImplicit false

namespace CssSelector

namespace Lexeme

variable {c : Char}

theorem isSpace_of_continuesName (continues : continuesName c = true) : isSpace c = false := by
  cases space : isSpace c with
  | false => rfl
  | true => exact absurd continues (by simp [continuesName_of_isSpace space])

theorem ne_of_continuesName {mark : Char} (continues : continuesName c = true)
    (ascii : mark.toNat < 128) (other : (isAsciiWord mark || mark = '-') = false) : c ≠ mark := by
  intro same
  rw [same, continuesName_of_ascii ascii, other] at continues
  cases continues

theorem continuesName_of_startsName (starts : startsName c = true) : continuesName c = true := by
  simp [continuesName, (startsName_iff.mp starts).1]

end Lexeme

theorem BeginsName.exists_cons {input : List Char} (begins : BeginsName input) :
    ∃ c rest, input = c :: rest ∧ Lexeme.continuesName c = true := by
  cases begins with
  | plain word _ => exact ⟨_, _, rfl, by simp [Lexeme.continuesName, word]⟩
  | hyphenated _ _ => exact ⟨'-', _, rfl, by simp [Lexeme.continuesName]⟩

namespace SelectorContext

open Lexeme

/-! ## The kind that the first characters tell -/

/-- The kinds of tokens that take the white space in front of them. -/
def spacedKinds : List TokenKind := [.combinator, .separator]

/-- The kind of token of a selector that a character other than white space begins. Two colons are
told from one by `selectorKind`. -/
def markKind (c : Char) : TokenKind :=
  if isCombinator c then .combinator
  else match c with
    | ',' => .separator
    | '.' => .classSelector
    | '#' => .idSelector
    | ':' => .pseudoClass
    | '(' => .parametersStart
    | '[' => .attributeStart
    | '\'' => .singleQuoteStart
    | '"' => .doubleQuoteStart
    | _ => .typeSelector

/-- The kind of the token at the front of a selector. White space is a token of its own unless it
belongs to the mark behind it. -/
def selectorKind (input : List Char) : TokenKind :=
  match input.dropWhile isSpace with
  | [] => .whitespace
  | c :: rest =>
      if input.head?.any isSpace && markKind c ∉ spacedKinds then .whitespace
      else if c = ':' && rest.head? = some ':' then .pseudoElement
      else markKind c

/-- The kind of the token in brackets that a mark begins. -/
def bracketKind : Char → TokenKind
  | ']' => .attributeEnd
  | '\'' => .singleQuoteStart
  | '"' => .doubleQuoteStart
  | _ => .attributeOperator

/-- The kind of the token in brackets that a character begins. -/
def attributeKind (c : Char) : TokenKind :=
  if isSpace c then .whitespace
  else if continuesName c then .characters
  else bracketKind c

/-- The kind of the token in a string that a character begins. -/
def stringKind (quote : Quote) (c : Char) : TokenKind :=
  if c = quote.char then quote.endKind
  else if c = '\\' then .escapedCharacter
  else .characters

/-! ## Selectors -/

variable {input rest : List Char} {c : Char} {kind : TokenKind}

theorem markKind_of_continuesName (continues : continuesName c = true) :
    markKind c = .typeSelector := by
  have other {mark : Char} : mark.toNat < 128 → (isAsciiWord mark || mark = '-') = false →
      c ≠ mark := ne_of_continuesName continues
  have single : isCombinator c = false := by
    simp [isCombinator, @other '>' (by decide) rfl, @other '+' (by decide) rfl,
      @other '~' (by decide) rfl]
  simp [markKind, single, @other ',' (by decide) rfl, @other '.' (by decide) rfl,
    @other '#' (by decide) rfl, @other ':' (by decide) rfl, @other '(' (by decide) rfl,
    @other '[' (by decide) rfl, @other '\'' (by decide) rfl, @other '"' (by decide) rfl]

theorem selectorKind_of_visible (visible : isSpace c = false) :
    selectorKind (c :: rest) =
      if c = ':' && rest.head? = some ':' then .pseudoElement else markKind c := by
  simp [selectorKind, visible]

theorem selectorKind_of_mark (visible : isSpace c = false) (other : c ≠ ':') :
    selectorKind (c :: rest) = markKind c := by
  simp [selectorKind_of_visible visible, other]

theorem selectorKind_of_beginsName (begins : BeginsName input) :
    selectorKind input = .typeSelector := by
  obtain ⟨c, rest, rfl, continues⟩ := begins.exists_cons
  have other : c ≠ ':' := ne_of_continuesName continues (by decide) rfl
  rw [selectorKind_of_mark (isSpace_of_continuesName continues) other,
    markKind_of_continuesName continues]

theorem selectorKind_of_spaced (ahead : input.dropWhile isSpace = c :: rest)
    (spaced : markKind c ∈ spacedKinds) : selectorKind input = markKind c := by
  have other : c ≠ ':' := by
    intro colon
    rw [colon] at spaced
    revert spaced
    decide
  simp [selectorKind, ahead, spaced, other]

/-- White space at the front tells its kind, or it is part of a combinator or a separator. -/
theorem selectorKind_of_space (begins : BeginsWith isSpace input) :
    selectorKind input = .whitespace ∨ selectorKind input ∈ spacedKinds := by
  obtain ⟨c, rest, rfl, space⟩ := begins.exists_cons
  cases ahead : (c :: rest).dropWhile isSpace with
  | nil => exact .inl (by rw [selectorKind, ahead])
  | cons mark later =>
      by_cases spaced : markKind mark ∈ spacedKinds
      · exact .inr (by rwa [selectorKind_of_spaced ahead spaced])
      · left
        rw [selectorKind, ahead]
        exact if_pos (by simp [space, spaced])

/-- A text at whose front there is a token of a kind tells this kind, but for white space in front
of a combinator or a separator. -/
theorem eq_selectorKind_of_begins (member : kind ∈ selector.kinds)
    (begins : selector.Begins input kind) :
    kind = selectorKind input ∨ kind = .whitespace ∧ selectorKind input ∈ spacedKinds := by
  have single {mark : Char} (visible : isSpace mark = false) (other : mark ≠ ':')
      (marked : BeginsWith (· = mark) input) : markKind mark = selectorKind input := by
    obtain ⟨c, rest, rfl, same⟩ := marked.exists_cons
    rw [of_decide_eq_true same, selectorKind_of_mark visible other]
  cases kind with
  | combinator =>
      obtain ⟨c, rest, ahead, combines⟩ := BeginsWith.exists_cons begins
      have kind : markKind c = .combinator := if_pos combines
      rw [selectorKind_of_spaced ahead (by simp [kind, spacedKinds]), kind]
      exact .inl rfl
  | separator =>
      obtain ⟨c, rest, ahead, comma⟩ := BeginsWith.exists_cons begins
      have kind : markKind c = .separator := by
        rw [of_decide_eq_true comma]
        rfl
      rw [selectorKind_of_spaced ahead (by simp [kind, spacedKinds]), kind]
      exact .inl rfl
  | whitespace =>
      rcases selectorKind_of_space begins with same | spaced
      · exact .inl same.symm
      · exact .inr ⟨rfl, spaced⟩
  | typeSelector =>
      rcases begins with asterisk | name
      · exact .inl (single (isSpace_of_ascii (by decide)) (by decide) asterisk)
      · exact .inl (selectorKind_of_beginsName name).symm
  | classSelector =>
      obtain ⟨name, rfl, -⟩ := begins
      exact .inl (@single '.' (isSpace_of_ascii (by decide)) (by decide) (beginsWith_cons.mpr rfl))
  | idSelector =>
      obtain ⟨name, rfl, -⟩ := begins
      exact .inl (@single '#' (isSpace_of_ascii (by decide)) (by decide) (beginsWith_cons.mpr rfl))
  | pseudoElement =>
      obtain ⟨name, rfl, -⟩ := begins
      left
      rw [selectorKind_of_visible (isSpace_of_ascii (by decide))]
      rfl
  | pseudoClass =>
      obtain ⟨name, rfl, begins⟩ := begins
      obtain ⟨c, rest, rfl, continues⟩ := begins.exists_cons
      have other : c ≠ ':' := ne_of_continuesName continues (by decide) rfl
      left
      rw [selectorKind_of_visible (isSpace_of_ascii (by decide))]
      simp [other, markKind, isCombinator]
  | parametersStart =>
      exact .inl (single (isSpace_of_ascii (by decide)) (by decide) begins)
  | attributeStart =>
      exact .inl (single (isSpace_of_ascii (by decide)) (by decide) begins)
  | singleQuoteStart =>
      exact .inl (single (isSpace_of_ascii (by decide)) (by decide) begins)
  | doubleQuoteStart =>
      exact .inl (single (isSpace_of_ascii (by decide)) (by decide) begins)
  | _ => exact absurd member (by decide)

/-! ## Brackets and strings -/

theorem attributeKind_of_mark {mark : Char} (ascii : mark.toNat < 128)
    (plain : (isAsciiSpace mark || isAsciiWord mark || mark = '-') = false) :
    attributeKind mark = bracketKind mark := by
  simp only [Bool.or_eq_false_iff] at plain
  have visible : isSpace mark = false := (isSpace_of_ascii ascii).trans plain.1.1
  have other : continuesName mark = false := by
    rw [continuesName_of_ascii ascii, plain.1.2, plain.2]
    rfl
  simp [attributeKind, visible, other]

theorem attributeKind_of_operator (begins : attributes.Begins (c :: rest) .attributeOperator) :
    attributeKind c = .attributeOperator := by
  have listed : c ∈ ['=', '~', '^', '$', '*', '|'] := by
    rcases begins with equals | ⟨d, later, same, modifies⟩
    · rw [of_decide_eq_true (beginsWith_cons.mp equals)]
      exact List.mem_cons_self
    · cases same
      exact List.mem_cons_of_mem _ (modifiesOperator_iff.mp modifies)
  simp only [List.mem_cons, List.not_mem_nil, or_false] at listed
  rcases listed with rfl | rfl | rfl | rfl | rfl | rfl <;>
    exact attributeKind_of_mark (by decide) rfl

theorem eq_attributeKind_of_begins (member : kind ∈ attributes.kinds)
    (begins : attributes.Begins (c :: rest) kind) : kind = attributeKind c := by
  have single {mark : Char} (ascii : mark.toNat < 128)
      (plain : (isAsciiSpace mark || isAsciiWord mark || mark = '-') = false)
      (marked : BeginsWith (· = mark) (c :: rest)) : bracketKind mark = attributeKind c := by
    rw [of_decide_eq_true (beginsWith_cons.mp marked), attributeKind_of_mark ascii plain]
  cases kind with
  | attributeEnd => exact single (by decide) rfl begins
  | whitespace => exact (if_pos (beginsWith_cons.mp begins)).symm
  | attributeOperator => exact (attributeKind_of_operator begins).symm
  | characters =>
      have continues : continuesName c = true := beginsWith_cons.mp begins
      simp [attributeKind, isSpace_of_continuesName continues, continues]
  | singleQuoteStart => exact single (by decide) rfl begins
  | doubleQuoteStart => exact single (by decide) rfl begins
  | _ => exact absurd member (by decide)

theorem eq_stringKind_of_begins {quote : Quote} (member : kind ∈ (string quote).kinds)
    (begins : (string quote).Begins (c :: rest) kind) : kind = stringKind quote c := by
  have table : (string quote).kinds = [quote.endKind, .escapedCharacter, .characters] := rfl
  simp only [table, List.mem_cons, List.not_mem_nil, or_false] at member
  rcases member with rfl | rfl | rfl
  · have quoted := beginsWith_cons.mp (begins_endKind_iff.mp begins)
    simp [stringKind, of_decide_eq_true quoted]
  · obtain ⟨d, later, same⟩ := begins
    cases same
    have other : '\\' ≠ quote.char := by cases quote <;> decide
    simp [stringKind, other]
  · have plain : quote.isPlain c = true := beginsWith_cons.mp begins
    simp only [Quote.isPlain, Bool.and_eq_true, decide_eq_true_eq] at plain
    simp [stringKind, plain]

/-! ## Rules exclude each other -/

/-- The kind of token that the first characters tell, outside of parentheses. -/
def leadingKind : SelectorContext → List Char → TokenKind
  | attributes, c :: _ => attributeKind c
  | string quote, c :: _ => stringKind quote c
  | _, input => selectorKind input

variable {context : SelectorContext}

theorem kind_eq_leadingKind {rule : LexicalRule} (outside : context ≠ parameters)
    (member : rule ∈ context.rules) (found : (rule.recognize input).isSome = true) :
    rule.kind = context.leadingKind input ∨
      context = selector ∧ rule.kind = .whitespace ∧ selectorKind input ∈ spacedKinds := by
  have begins := (isSome_recognize_iff context input rule member).mp found
  have listed : rule.kind ∈ context.kinds := List.mem_map_of_mem member
  obtain ⟨lexeme, recognized⟩ := Option.isSome_iff_exists.mp found
  obtain ⟨full, later, inputEq⟩ := leads_rules context rule member recognized
  obtain ⟨c, rest, rfl⟩ : ∃ c rest, input = c :: rest := by
    cases input with
    | nil => exact absurd (List.append_eq_nil_iff.mp inputEq).1 full
    | cons c rest => exact ⟨c, rest, rfl⟩
  cases context with
  | selector =>
      rcases eq_selectorKind_of_begins listed begins with same | spaced
      · exact .inl same
      · exact .inr ⟨rfl, spaced⟩
  | parameters => exact absurd rfl outside
  | attributes => exact .inl (eq_attributeKind_of_begins listed begins)
  | string quote => exact .inl (eq_stringKind_of_begins listed begins)

/-- Two rules of a context that both find a lexeme are the same, or one is for white space and the
other for a mark that takes it. -/
theorem kinds_of_both {left right : LexicalRule} (outside : context ≠ parameters)
    (leftMember : left ∈ context.rules) (rightMember : right ∈ context.rules)
    (leftFound : (left.recognize input).isSome = true)
    (rightFound : (right.recognize input).isSome = true) :
    left.kind = right.kind ∨
      context = selector ∧ (left.kind ∈ spacedKinds ∧ right.kind = .whitespace ∨
        left.kind = .whitespace ∧ right.kind ∈ spacedKinds) := by
  rcases kind_eq_leadingKind outside leftMember leftFound with leftKind | ⟨rfl, leftKind, spaced⟩
  · rcases kind_eq_leadingKind outside rightMember rightFound with
      rightKind | ⟨rfl, rightKind, spaced⟩
    · exact .inl (leftKind.trans rightKind.symm)
    · exact .inr ⟨rfl, .inl ⟨leftKind ▸ spaced, rightKind⟩⟩
  · rcases kind_eq_leadingKind outside rightMember rightFound with rightKind | ⟨-, rightKind, -⟩
    · exact .inr ⟨rfl, .inr ⟨leftKind, rightKind ▸ spaced⟩⟩
    · exact .inl (leftKind.trans rightKind.symm)

/-! ## Rules in another order -/

/-- Combinators and separators are tried before white space. -/
def TriesMarksFirst (rules : List LexicalRule) : Prop :=
  ∀ kind ∈ spacedKinds,
    (rules.map LexicalRule.kind).idxOf kind < (rules.map LexicalRule.kind).idxOf .whitespace

instance (rules : List LexicalRule) : Decidable (TriesMarksFirst rules) :=
  inferInstanceAs (Decidable (∀ kind ∈ spacedKinds, _))

theorem mem_of_idxOf_lt {before after : List TokenKind} {first second : TokenKind}
    (order : (before ++ second :: after).idxOf first < (before ++ second :: after).idxOf second) :
    first ∈ before := by
  by_contra absent
  rw [List.idxOf_append_of_notMem absent] at order
  have bound : (before ++ second :: after).idxOf second ≤ before.length := by
    by_cases earlier : second ∈ before
    · rw [List.idxOf_append_of_mem earlier]
      exact List.idxOf_le_length
    · rw [List.idxOf_append_of_notMem earlier, List.idxOf_cons_self]
      exact Nat.le_refl _
  omega

/-- The rules of a context are for different kinds, and those for marks come before white space. -/
theorem kinds_pairwise (context : SelectorContext) :
    context.kinds.Pairwise fun first second =>
      first ≠ second ∧ ¬(first = .whitespace ∧ second ∈ spacedKinds) := by
  cases context with
  | selector => decide
  | parameters => decide
  | attributes => decide
  | string quote => cases quote <;> decide

theorem rule_eq_of_kind_eq {left right : LexicalRule} (leftMember : left ∈ context.rules)
    (rightMember : right ∈ context.rules) (same : left.kind = right.kind) : left = right := by
  have distinct : (context.rules.map LexicalRule.kind).Nodup :=
    context.kinds_pairwise.imp fun apart => apart.1
  exact List.inj_on_of_nodup_map distinct leftMember rightMember same

variable {source : Source} {offset : Nat} {token : Token}

theorem isSome_recognize_of_token? {rule : LexicalRule} (found : source.after? offset = some rest)
    (matched : (rule.token? source offset).isSome = true) :
    (rule.recognize rest).isSome = true := by
  obtain ⟨before, split⟩ := Source.after?_eq_some_iff.mp found
  obtain ⟨token, produced⟩ := Option.isSome_iff_exists.mp matched
  obtain ⟨lexeme, recognized, -⟩ := rule.token?_eq_some split produced
  exact Option.isSome_of_eq_some recognized

theorem isSome_token?_of_recognize {rule : LexicalRule} (found : source.after? offset = some rest)
    (recognized : (rule.recognize rest).isSome = true) :
    (rule.token? source offset).isSome = true := by
  obtain ⟨lexeme, same⟩ := Option.isSome_iff_exists.mp recognized
  simp [LexicalRule.token?, found, same]

/-- A rule finds a token and, if it is for white space, no mark takes this white space. -/
structure Prevails (context : SelectorContext) (source : Source) (offset : Nat)
    (rule : LexicalRule) (token : Token) : Prop where
  matched : rule.token? source offset = some token
  marks : context = selector → rule.kind = .whitespace →
    ∀ mark ∈ selectorRules, mark.kind ∈ spacedKinds → mark.token? source offset = none

/-- The rules that are tried before the one that gives the token find none. -/
theorem exists_unmatched {rules : List LexicalRule} {kind : TokenKind}
    (first : LexicalRule.firstToken? rules source offset = some token)
    (order : (rules.map LexicalRule.kind).idxOf kind <
      (rules.map LexicalRule.kind).idxOf token.kind) :
    ∃ rule ∈ rules, rule.kind = kind ∧ rule.token? source offset = none := by
  obtain ⟨before, matching, after, rfl, matched, earlier⟩ := List.findSome?_eq_some_iff.mp first
  obtain ⟨left, rest, split⟩ := matching.exists_splitAt matched
  obtain ⟨lexeme, -, rfl⟩ := matching.token?_eq_some split matched
  rw [List.map_append, List.map_cons] at order
  obtain ⟨rule, member, same⟩ := List.mem_map.mp (mem_of_idxOf_lt order)
  exact ⟨rule, List.mem_append_left _ member, same, earlier rule member⟩

theorem exists_prevails {reordered : List LexicalRule} (same : reordered.Perm context.rules)
    (marksFirst : context = selector → TriesMarksFirst reordered)
    (first : LexicalRule.firstToken? reordered source offset = some token) :
    ∃ rule ∈ context.rules, context.Prevails source offset rule token := by
  obtain ⟨rule, member, matched⟩ := List.exists_of_findSome?_eq_some first
  refine ⟨rule, same.mem_iff.mp member, matched, ?_⟩
  intro inSelector white mark markMember spaced
  subst inSelector
  obtain ⟨before, rest, split⟩ := rule.exists_splitAt matched
  obtain ⟨lexeme, -, rfl⟩ := rule.token?_eq_some split matched
  have order := marksFirst rfl mark.kind spaced
  rw [← white] at order
  obtain ⟨other, otherMember, kind, unmatched⟩ := exists_unmatched first order
  rwa [rule_eq_of_kind_eq (same.mem_iff.mp otherMember) markMember kind] at unmatched

theorem Prevails.unique {left right : LexicalRule} {other : Token}
    (outside : context ≠ parameters) (leftMember : left ∈ context.rules)
    (rightMember : right ∈ context.rules) (one : context.Prevails source offset left token)
    (another : context.Prevails source offset right other) : token = other := by
  obtain ⟨before, rest, split⟩ := left.exists_splitAt one.matched
  have leftFound :=
    isSome_recognize_of_token? split.after?_eq (Option.isSome_of_eq_some one.matched)
  have rightFound :=
    isSome_recognize_of_token? split.after?_eq (Option.isSome_of_eq_some another.matched)
  rcases kinds_of_both outside leftMember rightMember leftFound rightFound with
    kind | ⟨inSelector, ⟨spaced, white⟩ | ⟨white, spaced⟩⟩
  · have rule := rule_eq_of_kind_eq leftMember rightMember kind
    exact Option.some.inj (one.matched.symm.trans (rule ▸ another.matched))
  · subst inSelector
    cases one.matched.symm.trans (another.marks rfl white left leftMember spaced)
  · subst inSelector
    cases another.matched.symm.trans (one.marks rfl white right rightMember spaced)

/-- In every order that puts marks first, the token is that of the rule that prevails. -/
theorem firstToken?_eq_some_iff {reordered : List LexicalRule} (outside : context ≠ parameters)
    (same : reordered.Perm context.rules)
    (marksFirst : context = selector → TriesMarksFirst reordered) :
    LexicalRule.firstToken? reordered source offset = some token ↔
      ∃ rule ∈ context.rules, context.Prevails source offset rule token := by
  constructor
  · exact exists_prevails same marksFirst
  · intro ⟨rule, member, prevails⟩
    have some : (LexicalRule.firstToken? reordered source offset).isSome = true :=
      List.findSome?_isSome_iff.mpr
        ⟨rule, same.mem_iff.mpr member, Option.isSome_of_eq_some prevails.matched⟩
    obtain ⟨other, first⟩ := Option.isSome_iff_exists.mp some
    obtain ⟨otherRule, otherMember, otherPrevails⟩ := exists_prevails same marksFirst first
    rw [first, prevails.unique outside member otherMember otherPrevails]

/-- Two rules of a context never find a token at the same place, except that in a selector white
space in front of a combinator or a separator is also found by its own rule, as all white space
is. So the rules may be put in any order, as long as in a selector those two are tried before
white space. Only inside parentheses this does not hold. -/
theorem firstToken?_of_perm (outside : context ≠ parameters) (source : Source) (offset : Nat) :
    (context.rules.Pairwise fun first second =>
        (first.token? source offset).isSome = true → (second.token? source offset).isSome = true →
          context = selector ∧ first.kind ∈ spacedKinds ∧ second.kind = .whitespace ∧
            ∃ rest, source.after? offset = some rest ∧ BeginsWith isSpace rest) ∧
      (∀ rest, source.after? offset = some rest → BeginsWith isSpace rest →
        ∀ white ∈ selectorRules, white.kind = .whitespace →
          (white.token? source offset).isSome = true) ∧
      ∀ reordered : List LexicalRule, reordered.Perm context.rules →
        (context = selector → TriesMarksFirst reordered) →
        LexicalRule.firstToken? reordered source offset = context.token? source offset := by
  refine ⟨?_, ?_, ?_⟩
  · have apart := List.pairwise_map.mp context.kinds_pairwise
    refine apart.imp_of_mem ?_
    intro first second firstMember secondMember different firstMatched secondMatched
    obtain ⟨token, produced⟩ := Option.isSome_iff_exists.mp firstMatched
    obtain ⟨before, rest, split⟩ := first.exists_splitAt produced
    have found := split.after?_eq
    have recognized := isSome_recognize_of_token? found secondMatched
    rcases kinds_of_both outside firstMember secondMember
        (isSome_recognize_of_token? found firstMatched) recognized with
      same | ⟨inSelector, ⟨spaced, white⟩ | swapped⟩
    · exact absurd same different.1
    · have begins := (isSome_recognize_iff context rest second secondMember).mp recognized
      rw [white] at begins
      exact ⟨inSelector, spaced, white, rest, found, begins⟩
    · exact absurd swapped different.2
  · intro rest found space white member kind
    have begins : selector.Begins rest white.kind := by
      rw [kind]
      exact space
    exact isSome_token?_of_recognize found
      ((isSome_recognize_iff selector rest white member).mpr begins)
  · intro reordered same marksFirst
    have standard : context = selector → TriesMarksFirst context.rules := by
      intro inSelector
      subst inSelector
      decide
    ext token
    rw [firstToken?_eq_some_iff outside same marksFirst]
    exact (firstToken?_eq_some_iff outside (List.Perm.refl _) standard).symm

/-- The first three rules, which are for marks and for white space, may as well be the last. -/
theorem firstToken?_of_rotation :
    selector ≠ parameters ∧
      (selectorRules.drop 3 ++ selectorRules.take 3).Perm selector.rules ∧
      TriesMarksFirst (selectorRules.drop 3 ++ selectorRules.take 3) ∧
      LexicalRule.firstToken? (selectorRules.drop 3 ++ selectorRules.take 3)
        (.ofString "a , b") 1 = some ⟨.separator, 1, " , "⟩ := by
  have rotated : (selectorRules.drop 3 ++ selectorRules.take 3).Perm selector.rules := by
    have swapped := @List.perm_append_comm _ (selectorRules.drop 3) (selectorRules.take 3)
    rwa [List.take_append_drop] at swapped
  have order : TriesMarksFirst (selectorRules.drop 3 ++ selectorRules.take 3) := by decide
  have outside : selector ≠ parameters := by decide
  obtain ⟨-, -, reorder⟩ := firstToken?_of_perm outside (.ofString "a , b") 1
  refine ⟨outside, rotated, order, (reorder _ rotated fun _ => order).trans ?_⟩
  decide +kernel

end SelectorContext

end CssSelector
