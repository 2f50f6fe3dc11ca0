import CssSelector.Grammar.Selector
import Mathlib.Computability.Language
import Mathlib.Logic.Relation

/-!
# How tokens spell lists of selectors

`SelectorList.Spelled` relates tokens to the list of sequences at their front and to the tokens
behind it. Each of the three levels is one or more values with gaps between them: nothing between
the parts of a compound, white space between compounds, a separator between sequences. The tokens
that spell a list of selectors are told by their kinds alone, `spans_selectorList`.
-/

set_option autoImplicit false

namespace CssSelector

/-! ## Spelling -/

/-- A single token of a kind in front of the rest. -/
def Single (kind : TokenKind) (tokens rest : List Token) : Prop :=
  ∃ token, tokens = token :: rest ∧ token.kind = kind

/-- Values one after the other, each of them behind a gap. -/
inductive Followed {α : Type} (gap : List Token → List Token → Prop)
    (item : List Token → α → List Token → Prop) : List Token → List α → List Token → Prop where
  | nil {tokens : List Token} : Followed gap item tokens [] tokens
  | cons {tokens between later rest : List Token} {value : α} {values : List α} :
      gap tokens between → item between value later → Followed gap item later values rest →
      Followed gap item tokens (value :: values) rest

/-- One or more values with gaps between them. -/
inductive Separated {α : Type} (gap : List Token → List Token → Prop)
    (item : List Token → α → List Token → Prop) : List Token → List α → List Token → Prop where
  | intro {tokens later rest : List Token} {value : α} {values : List α} :
      item tokens value later → Followed gap item later values rest →
      Separated gap item tokens (value :: values) rest

inductive SimpleSelector.Spelled : List Token → SimpleSelector → List Token → Prop where
  | element {token : Token} {rest : List Token} :
      token.kind = .typeSelector → Spelled (token :: rest) (.element token.value) rest
  | className {token : Token} {rest : List Token} :
      token.kind = .classSelector → Spelled (token :: rest) (.className token.value) rest
  | identifier {token : Token} {rest : List Token} :
      token.kind = .idSelector → Spelled (token :: rest) (.identifier token.value) rest
  | attributeName {opening name closing : Token} {rest : List Token} :
      opening.kind = .attributeStart → name.kind = .characters → closing.kind = .attributeEnd →
      Spelled (opening :: name :: closing :: rest) (.attributeName name.value) rest

def Compound.Spelled : List Token → Compound → List Token → Prop :=
  Separated Eq SimpleSelector.Spelled

def CompoundSequence.Spelled : List Token → CompoundSequence → List Token → Prop :=
  Separated (Relation.TransGen (Single .whitespace)) Compound.Spelled

def SelectorList.Spelled : List Token → List CompoundSequence → List Token → Prop :=
  Separated (Single .separator) CompoundSequence.Spelled

/-! ## The names that tokens carry -/

def SimpleSelector.name : SimpleSelector → String
  | element name => name
  | className name => name
  | identifier name => name
  | attributeName name => name

/-- The texts of the tokens that name something, in order. -/
def carriedNames (tokens : List Token) : List String :=
  (tokens.filter fun token =>
    token.kind ∈ [.typeSelector, .classSelector, .idSelector, .characters]).map (·.value)

theorem carriedNames_of_single {kind : TokenKind}
    (silent : kind ∉ [.typeSelector, .classSelector, .idSelector, .characters])
    {tokens rest : List Token} (single : Single kind tokens rest) :
    carriedNames tokens = carriedNames rest := by
  obtain ⟨token, rfl, rfl⟩ := single
  rw [carriedNames, List.filter_cons_of_neg (by simpa using silent), carriedNames]

section

variable {α : Type} {gap : List Token → List Token → Prop}
  {item : List Token → α → List Token → Prop} {names : α → List String}

theorem carriedNames_of_followed
    (gaps : ∀ tokens rest, gap tokens rest → carriedNames tokens = carriedNames rest)
    (items : ∀ tokens value rest, item tokens value rest →
      carriedNames tokens = names value ++ carriedNames rest)
    {tokens rest : List Token} {values : List α} (followed : Followed gap item tokens values rest) :
    carriedNames tokens = values.flatMap names ++ carriedNames rest := by
  induction followed with
  | nil => rfl
  | cons isGap isItem _ ih =>
      rw [gaps _ _ isGap, items _ _ _ isItem, ih, List.flatMap_cons, List.append_assoc]

theorem carriedNames_of_separated
    (gaps : ∀ tokens rest, gap tokens rest → carriedNames tokens = carriedNames rest)
    (items : ∀ tokens value rest, item tokens value rest →
      carriedNames tokens = names value ++ carriedNames rest)
    {tokens rest : List Token} {values : List α}
    (separated : Separated gap item tokens values rest) :
    carriedNames tokens = values.flatMap names ++ carriedNames rest := by
  obtain ⟨isItem, followed⟩ := separated
  rw [items _ _ _ isItem, carriedNames_of_followed gaps items followed, List.flatMap_cons,
    List.append_assoc]

end

theorem carriedNames_of_simpleSelector (tokens : List Token) (part : SimpleSelector)
    (rest : List Token) (spelled : part.Spelled tokens rest) :
    carriedNames tokens = [part.name] ++ carriedNames rest := by
  cases spelled with
  | element kind | className kind | identifier kind =>
      simp [carriedNames, SimpleSelector.name, kind]
  | attributeName opening name closing =>
      simp [carriedNames, SimpleSelector.name, opening, name, closing]

theorem carriedNames_of_compound (tokens : List Token) (compound : Compound) (rest : List Token)
    (spelled : Compound.Spelled tokens compound rest) :
    carriedNames tokens = compound.map (·.name) ++ carriedNames rest := by
  rw [List.map_eq_flatMap]
  exact carriedNames_of_separated (fun _ _ same => congrArg carriedNames same)
    carriedNames_of_simpleSelector spelled

theorem carriedNames_of_compoundSequence (tokens : List Token) (sequence : CompoundSequence)
    (rest : List Token) (spelled : CompoundSequence.Spelled tokens sequence rest) :
    carriedNames tokens = sequence.flatMap (·.map (·.name)) ++ carriedNames rest := by
  refine carriedNames_of_separated (fun tokens between blanks => ?_) carriedNames_of_compound
    spelled
  induction blanks using Relation.TransGen.head_induction_on with
  | single blank => exact carriedNames_of_single (by decide) blank
  | head blank _ ih => exact (carriedNames_of_single (by decide) blank).trans ih

theorem carriedNames_of_selectorList {tokens rest : List Token} {list : List CompoundSequence}
    (spelled : SelectorList.Spelled tokens list rest) :
    carriedNames tokens = list.flatten.flatten.map (·.name) ++ carriedNames rest := by
  have names := carriedNames_of_separated
    (fun _ _ separator => carriedNames_of_single (by decide) separator)
    carriedNames_of_compoundSequence spelled
  rw [names, List.map_flatten, List.map_flatten, List.flatten_flatten, List.map_map]
  rfl

/-! ## The language of kinds -/

namespace TokenKind

open scoped Computability

/-- One or more words of a language. -/
def oneOrMore (language : Language TokenKind) : Language TokenKind := language * language∗

/-- One or more words of a language with words of another one between them. -/
def separated (gap language : Language TokenKind) : Language TokenKind :=
  language * (gap * language)∗

def simpleLanguage : Language TokenKind :=
  {[typeSelector]} + {[classSelector]} + {[idSelector]} +
    {[attributeStart, characters, attributeEnd]}

def compoundLanguage : Language TokenKind := oneOrMore simpleLanguage

def sequenceLanguage : Language TokenKind :=
  separated (oneOrMore {[whitespace]}) compoundLanguage

/-- The kinds of the tokens of a list of selectors. -/
def listLanguage : Language TokenKind := separated {[separator]} sequenceLanguage

end TokenKind

/-- Between tokens and the rest behind them: the kinds of the tokens in front of the rest are a word
of the language. -/
def Spans (reach : List Token → List Token → Prop) (language : Language TokenKind) : Prop :=
  ∀ tokens rest, reach tokens rest ↔
    ∃ front, tokens = front ++ rest ∧ front.map (·.kind) ∈ language

namespace Spans

open scoped Computability
open TokenKind

variable {reach further : List Token → List Token → Prop} {first second : Language TokenKind}

theorem congr (spans : Spans reach first)
    (same : ∀ tokens rest, further tokens rest ↔ reach tokens rest) : Spans further first :=
  fun tokens rest => (same tokens rest).trans (spans tokens rest)

theorem length_le (spans : Spans reach first) {tokens rest : List Token}
    (reached : reach tokens rest) : rest.length ≤ tokens.length := by
  obtain ⟨front, rfl, -⟩ := (spans tokens rest).mp reached
  exact List.length_append ▸ Nat.le_add_left _ _

theorem eq : Spans Eq 1 := by
  intro tokens rest
  constructor
  · rintro rfl
    exact ⟨[], rfl, rfl⟩
  · rintro ⟨front, rfl, empty⟩
    rw [Language.mem_one, List.map_eq_nil_iff] at empty
    rw [empty, List.nil_append]

theorem single (kind : TokenKind) : Spans (Single kind) {[kind]} := by
  intro tokens rest
  constructor
  · rintro ⟨token, rfl, rfl⟩
    exact ⟨[token], rfl, rfl⟩
  · rintro ⟨front, rfl, word⟩
    obtain ⟨token, later, rfl, same, nothing⟩ := List.map_eq_cons_iff.mp word
    rw [List.map_eq_nil_iff.mp nothing]
    exact ⟨token, rfl, same⟩

theorem comp (spans : Spans reach first) (behind : Spans further second) :
    Spans (Relation.Comp reach further) (first * second) := by
  intro tokens rest
  constructor
  · rintro ⟨between, reached, last⟩
    obtain ⟨front, rfl, word⟩ := (spans tokens between).mp reached
    obtain ⟨middle, rfl, other⟩ := (behind between rest).mp last
    refine ⟨front ++ middle, (List.append_assoc ..).symm, ?_⟩
    rw [List.map_append]
    exact Language.append_mem_mul word other
  · rintro ⟨front, rfl, word⟩
    obtain ⟨left, isFirst, right, isSecond, parts⟩ := Language.mem_mul.mp word
    obtain ⟨front, middle, rfl, rfl, rfl⟩ := List.map_eq_append_iff.mp parts.symm
    refine ⟨middle ++ rest, (spans _ _).mpr ⟨front, List.append_assoc .., isFirst⟩, ?_⟩
    exact (behind _ _).mpr ⟨middle, rfl, isSecond⟩

theorem star (spans : Spans reach first) : Spans (Relation.ReflTransGen reach) first∗ := by
  intro tokens rest
  constructor
  · intro reached
    induction reached using Relation.ReflTransGen.head_induction_on with
    | refl => exact ⟨[], rfl, Language.nil_mem_kstar first⟩
    | head step _ ih =>
        obtain ⟨front, rfl, word⟩ := (spans _ _).mp step
        obtain ⟨later, rfl, words⟩ := ih
        refine ⟨front ++ later, (List.append_assoc ..).symm, ?_⟩
        rw [List.map_append]
        exact mul_kstar_le_kstar (a := first) (Language.append_mem_mul word words)
  · rintro ⟨front, rfl, word⟩
    obtain ⟨words, parts, members⟩ := Language.mem_kstar.mp word
    induction words generalizing front with
    | nil =>
        rw [List.map_eq_nil_iff.mp parts]
        exact .refl
    | cons word words ih =>
        obtain ⟨front, later, rfl, rfl, rest⟩ := List.map_eq_append_iff.mp parts
        have others := fun word member => members word (List.mem_cons_of_mem _ member)
        have member := members _ List.mem_cons_self
        refine .head ((spans _ _).mpr ⟨front, List.append_assoc .., member⟩) ?_
        exact ih later (rest ▸ Language.join_mem_kstar others) rest others

theorem trans (spans : Spans reach first) :
    Spans (Relation.TransGen reach) (oneOrMore first) := by
  refine (spans.comp spans.star).congr fun tokens rest => ?_
  exact Relation.TransGen.head'_iff

variable {α : Type} {gap : List Token → List Token → Prop}
  {item : List Token → α → List Token → Prop} {gapLanguage language : Language TokenKind}

theorem followed (gaps : Spans gap gapLanguage)
    (items : Spans (fun tokens rest => ∃ value, item tokens value rest) language) :
    Spans (fun tokens rest => ∃ values, Followed gap item tokens values rest)
      (gapLanguage * language)∗ := by
  refine (gaps.comp items).star.congr fun tokens rest => ?_
  constructor
  · rintro ⟨values, followed⟩
    induction followed with
    | nil => exact .refl
    | cons isGap isItem _ ih => exact .head ⟨_, isGap, _, isItem⟩ ih
  · intro reached
    induction reached using Relation.ReflTransGen.head_induction_on with
    | refl => exact ⟨[], .nil⟩
    | head step _ ih =>
        obtain ⟨between, isGap, value, isItem⟩ := step
        obtain ⟨values, followed⟩ := ih
        exact ⟨value :: values, .cons isGap isItem followed⟩

theorem separated (gaps : Spans gap gapLanguage)
    (items : Spans (fun tokens rest => ∃ value, item tokens value rest) language) :
    Spans (fun tokens rest => ∃ values, Separated gap item tokens values rest)
      (separated gapLanguage language) := by
  refine (items.comp (followed gaps items)).congr fun tokens rest => ?_
  constructor
  · rintro ⟨values, ⟨isItem, followed⟩⟩
    exact ⟨_, ⟨_, isItem⟩, _, followed⟩
  · rintro ⟨later, ⟨value, isItem⟩, values, followed⟩
    exact ⟨value :: values, .intro isItem followed⟩

theorem simpleSelector :
    Spans (fun tokens rest => ∃ part, SimpleSelector.Spelled tokens part rest) simpleLanguage := by
  intro tokens rest
  rw [simpleLanguage]
  constructor
  · rintro ⟨part, spelled⟩
    cases spelled with
    | @element token _ kind =>
        exact ⟨[token], rfl, .inl (.inl (.inl (congrArg List.singleton kind)))⟩
    | @className token _ kind =>
        exact ⟨[token], rfl, .inl (.inl (.inr (congrArg List.singleton kind)))⟩
    | @identifier token _ kind => exact ⟨[token], rfl, .inl (.inr (congrArg List.singleton kind))⟩
    | @attributeName opening name closing _ isOpening isName isClosing =>
        refine ⟨[opening, name, closing], rfl, .inr ?_⟩
        change [opening.kind, name.kind, closing.kind] = _
        rw [isOpening, isName, isClosing]
  · rintro ⟨front, rfl, ((word | word) | word) | word⟩
    · obtain ⟨token, parts, kind⟩ := (single .typeSelector _ _).mpr ⟨front, rfl, word⟩
      exact ⟨.element token.value, parts ▸ .element kind⟩
    · obtain ⟨token, parts, kind⟩ := (single .classSelector _ _).mpr ⟨front, rfl, word⟩
      exact ⟨.className token.value, parts ▸ .className kind⟩
    · obtain ⟨token, parts, kind⟩ := (single .idSelector _ _).mpr ⟨front, rfl, word⟩
      exact ⟨.identifier token.value, parts ▸ .identifier kind⟩
    · obtain ⟨opening, later, rfl, isOpening, word⟩ := List.map_eq_cons_iff.mp word
      obtain ⟨name, later, rfl, isName, word⟩ := List.map_eq_cons_iff.mp word
      obtain ⟨closing, later, rfl, isClosing, word⟩ := List.map_eq_cons_iff.mp word
      rw [List.map_eq_nil_iff.mp word]
      exact ⟨.attributeName name.value, .attributeName isOpening isName isClosing⟩

theorem compound :
    Spans (fun tokens rest => ∃ value, Compound.Spelled tokens value rest) compoundLanguage := by
  have spans := separated eq simpleSelector
  rwa [TokenKind.separated, one_mul] at spans

theorem compoundSequence :
    Spans (fun tokens rest => ∃ value, CompoundSequence.Spelled tokens value rest)
      sequenceLanguage :=
  separated (single .whitespace).trans compound

theorem selectorList :
    Spans (fun tokens rest => ∃ value, SelectorList.Spelled tokens value rest) listLanguage :=
  separated (single .separator) compoundSequence

end Spans

end CssSelector
