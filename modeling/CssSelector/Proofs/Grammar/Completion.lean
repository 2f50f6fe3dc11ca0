import CssSelector.Proofs.Grammar.Spelling
import CssSelector.Proofs.Parse.Recognition

/-!
# Spelling from left to right

How much of the tokens spells a part, a compound or a sequence is told by the token behind it: a
compound ends where no part starts, a sequence where there is no white space either. So what is
still to come, `Completes`, is found token by token, behind what is already there.
-/

set_option autoImplicit false

namespace CssSelector

/-! ## Single tokens -/

theorem Single.not_starts {kind : TokenKind} {kinds : List TokenKind} {tokens rest : List Token}
    (single : Single kind tokens rest) (specific : .any ∉ kinds) (other : kind ∉ kinds) :
    ¬(Expected.ofKinds kinds).Starts tokens := by
  obtain ⟨token, rfl, rfl⟩ := single
  intro starts
  exact other ((Expected.accepts_ofKinds specific token).mp starts)

theorem single_of_starts {kind : TokenKind} (specific : kind ≠ .any) {tokens : List Token}
    (starts : (Expected.only kind).Starts tokens) : ∃ rest, Single kind tokens rest := by
  obtain ⟨token, later, rfl, accepted⟩ := Expected.exists_cons_of_starts starts
  exact ⟨later, token, rfl, (Expected.accepts_only specific token).mp accepted⟩

theorem reflTransGen_dropWhile {kind : TokenKind} (specific : kind ≠ .any) (tokens : List Token) :
    Relation.ReflTransGen (Single kind) tokens
      (tokens.dropWhile (Expected.only kind).accepts) := by
  induction tokens with
  | nil => exact .refl
  | cons token later ih =>
      by_cases accepted : (Expected.only kind).accepts token = true
      · rw [List.dropWhile_cons_of_pos accepted]
        exact .head ⟨token, rfl, (Expected.accepts_only specific token).mp accepted⟩ ih
      · rw [List.dropWhile_cons_of_neg accepted]

theorem dropWhile_eq_of_reflTransGen {kind : TokenKind} (specific : kind ≠ .any)
    {tokens between : List Token} (reached : Relation.ReflTransGen (Single kind) tokens between)
    (stops : ¬(Expected.only kind).Starts between) :
    tokens.dropWhile (Expected.only kind).accepts = between := by
  induction reached using Relation.ReflTransGen.head_induction_on with
  | refl =>
      cases between with
      | nil => rfl
      | cons token later => exact List.dropWhile_cons_of_neg stops
  | head step _ ih =>
      obtain ⟨token, rfl, isKind⟩ := step
      rw [List.dropWhile_cons_of_pos ((Expected.accepts_only specific token).mpr isKind), ih]

/-! ## Values behind others -/

/-- Values behind those already there, each of them behind a gap. -/
def Continued {α : Type} (gap : List Token → List Token → Prop)
    (item : List Token → α → List Token → Prop) (reversed : List α) (tokens : List Token)
    (values : List α) (rest : List Token) : Prop :=
  ∃ more, values = reversed.reverse ++ more ∧ Followed gap item tokens more rest

theorem continued_iff {α : Type} {gap : List Token → List Token → Prop}
    {item : List Token → α → List Token → Prop} {reversed values : List α}
    {tokens rest : List Token} :
    Continued gap item reversed tokens values rest ↔
      values = reversed.reverse ∧ rest = tokens ∨
        ∃ between value later, gap tokens between ∧ item between value later ∧
          Continued gap item (value :: reversed) later values rest := by
  constructor
  · rintro ⟨more, rfl, followed⟩
    cases followed with
    | nil => exact .inl ⟨List.append_nil _, rfl⟩
    | @cons _ between later _ value more isGap isItem followed =>
        refine .inr ⟨between, value, later, isGap, isItem, more, ?_, followed⟩
        rw [List.reverse_cons, List.append_assoc, List.singleton_append]
  · rintro (⟨rfl, rfl⟩ | ⟨between, value, later, isGap, isItem, more, rfl, followed⟩)
    · exact ⟨[], (List.append_nil _).symm, .nil⟩
    · refine ⟨value :: more, ?_, .cons isGap isItem followed⟩
      rw [List.reverse_cons, List.append_assoc, List.singleton_append]

/-! ## Parts and compounds -/

namespace SelectorProduction

theorem accepts_partStarts (token : Token) :
    partStarts.accepts token = true ↔ token.kind = .typeSelector ∨ token.kind = .classSelector ∨
      token.kind = .idSelector ∨ token.kind = .attributeStart := by
  rw [partStarts, Expected.accepts_ofKinds (by decide)]
  simp only [List.mem_cons, List.not_mem_nil, or_false]

end SelectorProduction

open SelectorProduction

theorem SimpleSelector.Spelled.starts {tokens rest : List Token} {part : SimpleSelector}
    (spelled : Spelled tokens part rest) : partStarts.Starts tokens := by
  cases spelled with
  | element kind => exact (accepts_partStarts _).mpr (.inl kind)
  | className kind => exact (accepts_partStarts _).mpr (.inr (.inl kind))
  | identifier kind => exact (accepts_partStarts _).mpr (.inr (.inr (.inl kind)))
  | attributeName opening _ _ => exact (accepts_partStarts _).mpr (.inr (.inr (.inr opening)))

theorem SimpleSelector.Spelled.shorter {tokens rest : List Token} {part : SimpleSelector}
    (spelled : Spelled tokens part rest) : rest.length < tokens.length := by
  cases spelled <;> simp only [List.length_cons] <;> omega

theorem SimpleSelector.spelled_bracketed {opening : Token} {later rest : List Token}
    {part : SimpleSelector} (kind : opening.kind = .attributeStart) :
    Spelled (opening :: later) part rest ↔
      ∃ name closing, later = name :: closing :: rest ∧ name.kind = .characters ∧
        closing.kind = .attributeEnd ∧ part = .attributeName name.value := by
  constructor
  · intro spelled
    cases spelled with
    | attributeName _ isName isClosing => exact ⟨_, _, rfl, isName, isClosing, rfl⟩
    | element other | className other | identifier other => cases kind.symm.trans other
  · rintro ⟨name, closing, rfl, isName, isClosing, rfl⟩
    exact .attributeName kind isName isClosing

theorem SimpleSelector.spelled_plain {token : Token} {later rest : List Token}
    {part : SimpleSelector} (starts : partStarts.accepts token = true)
    (plain : token.kind ≠ .attributeStart) :
    Spelled (token :: later) part rest ↔
      part = plainPart token.kind token.value ∧ rest = later := by
  constructor
  · intro spelled
    cases spelled with
    | element kind | className kind | identifier kind =>
        rw [kind]
        exact ⟨rfl, rfl⟩
    | attributeName opening _ _ => exact absurd opening plain
  · rintro ⟨rfl, rfl⟩
    rcases (accepts_partStarts token).mp starts with kind | kind | kind | kind
    · rw [kind]
      exact .element kind
    · rw [kind]
      exact .className kind
    · rw [kind]
      exact .identifier kind
    · exact absurd kind plain

theorem Compound.Spelled.starts {tokens rest : List Token} {compound : Compound}
    (spelled : Spelled tokens compound rest) : partStarts.Starts tokens := by
  obtain ⟨part, -⟩ := spelled
  exact part.starts

theorem Compound.Spelled.shorter {tokens rest : List Token} {compound : Compound}
    (spelled : Spelled tokens compound rest) : rest.length < tokens.length := by
  obtain ⟨part, followed⟩ := spelled
  have kept := (Spans.eq.followed .simpleSelector).length_le ⟨_, followed⟩
  exact Nat.lt_of_le_of_lt kept part.shorter

/-- All the parts there are behind those already there; there has to be one. -/
def Compound.Completes (reversed : Compound) (tokens : List Token) (compound : Compound)
    (rest : List Token) : Prop :=
  compound ≠ [] ∧ ¬partStarts.Starts rest ∧
    Continued Eq SimpleSelector.Spelled reversed tokens compound rest

theorem Compound.completes_of_starts {reversed compound : Compound} {tokens rest : List Token}
    (starts : partStarts.Starts tokens) :
    Completes reversed tokens compound rest ↔
      ∃ part between, SimpleSelector.Spelled tokens part between ∧
        Completes (part :: reversed) between compound rest := by
  unfold Completes
  rw [continued_iff]
  constructor
  · rintro ⟨present, stops, ⟨-, rfl⟩ | ⟨_, part, between, rfl, spelled, continued⟩⟩
    · exact absurd starts stops
    · exact ⟨part, between, spelled, present, stops, continued⟩
  · rintro ⟨part, between, spelled, present, stops, continued⟩
    exact ⟨present, stops, .inr ⟨tokens, part, between, rfl, spelled, continued⟩⟩

theorem Compound.completes_of_not_starts {reversed compound : Compound} {tokens rest : List Token}
    (ended : ¬partStarts.Starts tokens) :
    Completes reversed tokens compound rest ↔
      reversed ≠ [] ∧ compound = reversed.reverse ∧ rest = tokens := by
  unfold Completes
  rw [continued_iff]
  constructor
  · rintro ⟨present, -, ⟨rfl, rfl⟩ | ⟨_, part, between, rfl, spelled, -⟩⟩
    · exact ⟨fun nothing => present (congrArg List.reverse nothing), rfl, rfl⟩
    · exact absurd spelled.starts ended
  · rintro ⟨present, rfl, rfl⟩
    exact ⟨fun nothing => present (List.reverse_eq_nil_iff.mp nothing), ended, .inl ⟨rfl, rfl⟩⟩

theorem Compound.completes_plain {reversed compound : Compound} {token : Token}
    {later rest : List Token} (starts : partStarts.accepts token = true)
    (plain : token.kind ≠ .attributeStart) :
    Completes reversed (token :: later) compound rest ↔
      Completes (plainPart token.kind token.value :: reversed) later compound rest := by
  refine (@completes_of_starts reversed compound (token :: later) rest starts).trans ?_
  constructor
  · rintro ⟨part, between, spelled, completes⟩
    obtain ⟨rfl, rfl⟩ := (SimpleSelector.spelled_plain starts plain).mp spelled
    exact completes
  · intro completes
    exact ⟨_, later, (SimpleSelector.spelled_plain starts plain).mpr ⟨rfl, rfl⟩, completes⟩

theorem Compound.completes_nil {compound : Compound} {tokens rest : List Token} :
    Completes [] tokens compound rest ↔
      Spelled tokens compound rest ∧ ¬partStarts.Starts rest := by
  constructor
  · rintro ⟨present, stops, parts, rfl, followed⟩
    cases followed with
    | nil => exact absurd rfl present
    | cons same spelled followed =>
        subst same
        exact ⟨.intro spelled followed, stops⟩
  · rintro ⟨⟨spelled, followed⟩, stops⟩
    exact ⟨List.cons_ne_nil _ _, stops, _, rfl, .cons rfl spelled followed⟩

/-! ## Sequences -/

/-- All the compounds there are behind those already there. -/
def CompoundSequence.Completes (reversed : CompoundSequence) (tokens : List Token)
    (sequence : CompoundSequence) (rest : List Token) : Prop :=
  (¬(Expected.only .whitespace).Starts rest ∧ ¬partStarts.Starts rest) ∧
    Continued (Relation.TransGen (Single .whitespace)) Compound.Spelled reversed tokens sequence
      rest

theorem CompoundSequence.Completes.length_le {reversed sequence : CompoundSequence}
    {tokens rest : List Token} (completes : Completes reversed tokens sequence rest) :
    rest.length ≤ tokens.length := by
  obtain ⟨-, compounds, -, followed⟩ := completes
  exact ((Spans.single .whitespace).trans.followed .compound).length_le ⟨compounds, followed⟩

theorem CompoundSequence.not_starts_of_continued {reversed sequence : CompoundSequence}
    {tokens rest : List Token} (complete : ¬partStarts.Starts rest)
    (continued : Continued (Relation.TransGen (Single .whitespace)) Compound.Spelled reversed tokens
      sequence rest) : ¬partStarts.Starts tokens := by
  rcases continued_iff.mp continued with ⟨-, rfl⟩ | ⟨_, _, _, blanks, -⟩
  · exact complete
  · obtain ⟨_, blank, -⟩ := Relation.TransGen.head'_iff.mp blanks
    exact blank.not_starts (by decide) (by decide)

theorem CompoundSequence.completes_of_not_starts {reversed sequence : CompoundSequence}
    {tokens rest : List Token} (ended : ¬(Expected.only .whitespace).Starts tokens)
    (complete : ¬partStarts.Starts tokens) :
    Completes reversed tokens sequence rest ↔ sequence = reversed.reverse ∧ rest = tokens := by
  unfold Completes
  rw [continued_iff]
  constructor
  · rintro ⟨-, same | ⟨_, _, _, blanks, -⟩⟩
    · exact same
    · obtain ⟨_, ⟨token, rfl, kind⟩, -⟩ := Relation.TransGen.head'_iff.mp blanks
      exact absurd ((Expected.accepts_only (by decide) token).mpr kind) ended
  · rintro ⟨rfl, rfl⟩
    exact ⟨⟨ended, complete⟩, .inl ⟨rfl, rfl⟩⟩

theorem CompoundSequence.completes_of_starts {reversed sequence : CompoundSequence}
    {tokens rest : List Token} (blank : (Expected.only .whitespace).Starts tokens) :
    Completes reversed tokens sequence rest ↔
      ∃ compound between,
        (Compound.Spelled (tokens.dropWhile (Expected.only .whitespace).accepts) compound between ∧
          ¬partStarts.Starts between) ∧
        Completes (compound :: reversed) between sequence rest := by
  unfold Completes
  rw [continued_iff]
  constructor
  · rintro ⟨⟨ended, complete⟩, ⟨-, rfl⟩ | ⟨between, compound, later, blanks, spelled, continued⟩⟩
    · exact absurd blank ended
    · -- A compound does not start with white space: the gap is all the white space there is.
      have stops : ¬(Expected.only .whitespace).Starts between := by
        intro starts
        obtain ⟨_, single⟩ := single_of_starts (by decide) starts
        exact single.not_starts (by decide) (by decide) spelled.starts
      rw [dropWhile_eq_of_reflTransGen (by decide) blanks.to_reflTransGen stops]
      exact ⟨compound, later, ⟨spelled, not_starts_of_continued complete continued⟩,
        ⟨ended, complete⟩, continued⟩
  · rintro ⟨compound, between, ⟨spelled, -⟩, stops, continued⟩
    obtain ⟨behind, single⟩ := single_of_starts (by decide) blank
    have blanks : Relation.TransGen (Single .whitespace) tokens
        (tokens.dropWhile (Expected.only .whitespace).accepts) := by
      obtain ⟨token, rfl, kind⟩ := single
      rw [List.dropWhile_cons_of_pos blank]
      exact .head' ⟨token, rfl, kind⟩ (reflTransGen_dropWhile (by decide) behind)
    exact ⟨stops, .inr ⟨_, compound, between, blanks, spelled, continued⟩⟩

theorem CompoundSequence.completes_singleton {sequence : CompoundSequence}
    {tokens rest : List Token} :
    (∃ compound between, (Compound.Spelled tokens compound between ∧ ¬partStarts.Starts between) ∧
        Completes [compound] between sequence rest) ↔
      Spelled tokens sequence rest ∧ ¬(Expected.only .whitespace).Starts rest ∧
        ¬partStarts.Starts rest := by
  constructor
  · rintro ⟨compound, between, ⟨spelled, -⟩, stops, compounds, rfl, followed⟩
    exact ⟨.intro spelled followed, stops⟩
  · rintro ⟨spelled, stops⟩
    cases spelled with
    | @intro later _ compound compounds first followed =>
        have continued : Continued (Relation.TransGen (Single .whitespace)) Compound.Spelled
            [compound] later (compound :: compounds) rest := ⟨compounds, rfl, followed⟩
        have complete := not_starts_of_continued stops.2 continued
        exact ⟨compound, later, ⟨first, complete⟩, stops, continued⟩

/-! ## Lists -/

/-- The sequences behind those already there, each behind a separator, to the end of the tokens. -/
def SelectorList.Ends (reversed : List CompoundSequence) (tokens : List Token)
    (list : List CompoundSequence) (rest : List Token) : Prop :=
  rest = [] ∧
    Continued (Single .separator) CompoundSequence.Spelled reversed tokens list []

/-- A sequence, and then the sequences behind it to the end of the tokens. -/
def SelectorList.Completes (reversed : List CompoundSequence) (tokens : List Token)
    (list : List CompoundSequence) (rest : List Token) : Prop :=
  ∃ sequence between, CompoundSequence.Spelled tokens sequence between ∧
    Ends (sequence :: reversed) between list rest

theorem SelectorList.ends_nil {reversed list : List CompoundSequence} {rest : List Token} :
    Ends reversed [] list rest ↔ list = reversed.reverse ∧ rest = [] := by
  unfold Ends
  rw [continued_iff]
  constructor
  · rintro ⟨rfl, ⟨same, -⟩ | ⟨_, _, _, ⟨_, nothing, -⟩, -⟩⟩
    · exact ⟨same, rfl⟩
    · cases nothing
  · rintro ⟨rfl, rfl⟩
    exact ⟨rfl, .inl ⟨rfl, rfl⟩⟩

theorem SelectorList.ends_cons {reversed list : List CompoundSequence} {token : Token}
    {later rest : List Token} :
    Ends reversed (token :: later) list rest ↔
      token.kind = .separator ∧ Completes reversed later list rest := by
  unfold Completes Ends
  rw [continued_iff]
  constructor
  · rintro ⟨rfl, ⟨-, nothing⟩ | ⟨_, sequence, left, ⟨_, ⟨⟩, separates⟩, spelled, continued⟩⟩
    · cases nothing
    · exact ⟨separates, sequence, left, spelled, rfl, continued⟩
  · rintro ⟨separates, sequence, left, spelled, rfl, continued⟩
    exact ⟨rfl, .inr ⟨later, sequence, left, ⟨token, rfl, separates⟩, spelled, continued⟩⟩

theorem SelectorList.Ends.not_starts {reversed list : List CompoundSequence}
    {tokens rest : List Token} (ends : Ends reversed tokens list rest) :
    ¬(Expected.only .whitespace).Starts tokens ∧ ¬partStarts.Starts tokens := by
  cases tokens with
  | nil => exact ⟨id, id⟩
  | cons token later =>
      -- What goes on behind a sequence goes on with a separator.
      have single : Single .separator (token :: later) later := ⟨token, rfl, (ends_cons.mp ends).1⟩
      exact ⟨single.not_starts (by decide) (by decide), single.not_starts (by decide) (by decide)⟩

theorem SelectorList.completes_iff {reversed list : List CompoundSequence}
    {tokens rest : List Token} :
    (∃ compound between, (Compound.Spelled tokens compound between ∧ ¬partStarts.Starts between) ∧
        ∃ sequence left, CompoundSequence.Completes [compound] between sequence left ∧
          Ends (sequence :: reversed) left list rest) ↔
      Completes reversed tokens list rest := by
  constructor
  · rintro ⟨compound, between, first, sequence, left, completes, ends⟩
    obtain ⟨spelled, -⟩ :=
      CompoundSequence.completes_singleton.mp ⟨compound, between, first, completes⟩
    exact ⟨sequence, left, spelled, ends⟩
  · rintro ⟨sequence, left, spelled, ends⟩
    obtain ⟨compound, between, first, completes⟩ :=
      CompoundSequence.completes_singleton.mpr ⟨spelled, ends.not_starts⟩
    exact ⟨compound, between, first, sequence, left, completes, ends⟩

theorem SelectorList.completes_nil {list : List CompoundSequence} {tokens rest : List Token} :
    Completes [] tokens list rest ↔ Spelled tokens list [] ∧ rest = [] := by
  constructor
  · rintro ⟨sequence, between, spelled, rfl, sequences, rfl, followed⟩
    exact ⟨.intro spelled followed, rfl⟩
  · rintro ⟨⟨spelled, followed⟩, rfl⟩
    exact ⟨_, _, spelled, rfl, _, rfl, followed⟩

end CssSelector
