import CssSelector.Context.Selector

/-!
# Lexemes stand at the front

Every recognizer of the contexts of selectors finds a piece of text that is not empty and with
which its input begins.
-/

set_option autoImplicit false

namespace CssSelector

namespace Lexeme

/-- A recognizer whose lexemes are beginnings of the input and are not empty. -/
def Leads (recognize : Recognizer) : Prop :=
  ∀ ⦃input lexeme : List Char⦄, recognize input = some lexeme → lexeme ≠ [] ∧ lexeme <+: input

theorem nonempty_eq_some_iff {lexeme found : List Char} :
    nonempty lexeme = some found ↔ lexeme ≠ [] ∧ lexeme = found := by
  unfold nonempty
  split
  · next empty => simp [List.isEmpty_iff.mp empty]
  · next full => simp [mt List.isEmpty_iff.mpr full]

theorem takeWhile_append_leads {belongs : Char → Bool} {input later : List Char}
    (front : later <+: input.dropWhile belongs) : input.takeWhile belongs ++ later <+: input := by
  have whole := (List.prefix_append_right_inj (input.takeWhile belongs)).mpr front
  rwa [List.takeWhile_append_dropWhile] at whole

theorem leads_literal (text : List Char) : Leads (literal text) := by
  intro input lexeme found
  unfold literal at found
  split at found
  · next present =>
      obtain ⟨full, rfl⟩ := nonempty_eq_some_iff.mp found
      exact ⟨full, List.isPrefixOf_iff_prefix.mp present⟩
  · cases found

theorem leads_run (belongs : Char → Bool) : Leads (run belongs) := by
  intro input lexeme found
  obtain ⟨full, rfl⟩ := nonempty_eq_some_iff.mp found
  exact ⟨full, List.takeWhile_prefix belongs⟩

theorem leads_map_cons {recognize : Recognizer} (leads : Leads recognize) (c : Char)
    {input lexeme : List Char} (found : (recognize input).map (c :: ·) = some lexeme) :
    lexeme ≠ [] ∧ lexeme <+: c :: input := by
  obtain ⟨tail, tailFound, rfl⟩ := Option.map_eq_some_iff.mp found
  obtain ⟨-, front⟩ := leads tailFound
  exact ⟨List.cons_ne_nil _ _, List.cons_prefix_cons.mpr ⟨rfl, front⟩⟩

theorem leads_bareIdentifier : Leads bareIdentifier := by
  intro input lexeme found
  cases input with
  | nil => cases found
  | cons c rest =>
      rw [bareIdentifier] at found
      split at found
      · cases found
        exact ⟨List.cons_ne_nil _ _,
          List.cons_prefix_cons.mpr ⟨rfl, List.takeWhile_prefix continuesName⟩⟩
      · cases found

theorem leads_identifier : Leads identifier := by
  intro input lexeme found
  unfold identifier at found
  split at found
  · exact leads_map_cons leads_bareIdentifier '-' found
  · exact leads_bareIdentifier found

theorem leads_spacedMark (isMark : Char → Bool) : Leads (spacedMark isMark) := by
  intro input lexeme found
  unfold spacedMark at found
  split at found
  · cases found
  · next c rest behind =>
      split at found
      · cases found
        refine ⟨by simp, takeWhile_append_leads ?_⟩
        rw [behind]
        exact List.cons_prefix_cons.mpr ⟨rfl, List.takeWhile_prefix isSpace⟩
      · cases found

theorem leads_typeSelector : Leads typeSelector := by
  intro input lexeme found
  unfold typeSelector at found
  split at found
  · cases found
    simp
  · exact leads_identifier found

theorem leads_classSelector : Leads classSelector := by
  intro input lexeme found
  unfold classSelector at found
  split at found
  · exact leads_map_cons leads_identifier '.' found
  · cases found

theorem leads_idSelector : Leads idSelector := by
  intro input lexeme found
  unfold idSelector at found
  split at found
  · exact leads_map_cons (leads_run continuesName) '#' found
  · cases found

theorem leads_pseudoElement : Leads pseudoElement := by
  intro input lexeme found
  unfold pseudoElement at found
  split at found
  · next rest =>
      obtain ⟨name, nameFound, rfl⟩ := Option.map_eq_some_iff.mp found
      obtain ⟨-, front⟩ := leads_identifier nameFound
      refine ⟨List.cons_ne_nil _ _, ?_⟩
      rw [List.cons_prefix_cons, List.cons_prefix_cons]
      exact ⟨rfl, rfl, front⟩
  · cases found

theorem leads_pseudoClass : Leads pseudoClass := by
  intro input lexeme found
  unfold pseudoClass at found
  split at found
  · exact leads_map_cons leads_identifier ':' found
  · cases found

theorem leads_attributeOperator : Leads attributeOperator := by
  intro input lexeme found
  unfold attributeOperator at found
  split at found
  · cases found
    simp
  · split at found
    · cases found
      simp
    · cases found
  · cases found

theorem leads_escapedCharacter : Leads escapedCharacter := by
  intro input lexeme found
  unfold escapedCharacter at found
  split at found
  · cases found
    simp
  · cases found

/-! ## Positions -/

theorem splitSign_append (input : List Char) :
    (splitSign input).1 ++ (splitSign input).2 = input := by
  unfold splitSign
  split <;> rfl

theorem splitSign_append_leads {input later : List Char}
    (front : later <+: (splitSign input).2) : (splitSign input).1 ++ later <+: input := by
  have whole := (List.prefix_append_right_inj (splitSign input).1).mpr front
  rwa [splitSign_append] at whole

theorem positionConstant_leads (input : List Char) : positionConstant input <+: input := by
  unfold positionConstant
  have signed := @splitSign_append_leads (input.dropWhile isSpace)
  generalize splitSign (input.dropWhile isSpace) = parts at signed ⊢
  obtain ⟨sign, rest⟩ := parts
  cases sign with
  | nil => exact List.nil_prefix
  | cons c signs =>
      dsimp only
      split
      · exact List.nil_prefix
      · have number : rest.takeWhile isSpace ++ (rest.dropWhile isSpace).takeWhile isDigit <+:
            rest := takeWhile_append_leads (List.takeWhile_prefix isDigit)
        simpa only [List.append_assoc] using takeWhile_append_leads (signed number)

theorem leads_parity : Leads parity := by
  intro input lexeme found
  unfold parity at found
  split at found
  · cases found
    simp
  · cases found
    simp
  · cases found

theorem leads_position : Leads position := by
  intro input lexeme found
  unfold position at found
  dsimp only at found
  split at found
  · next rest behind =>
      cases found
      refine ⟨by simp, ?_⟩
      rw [List.append_assoc]
      refine splitSign_append_leads (takeWhile_append_leads ?_)
      rw [behind]
      exact List.cons_prefix_cons.mpr ⟨rfl, positionConstant_leads rest⟩
  · split at found
    · exact leads_parity found
    · next digits =>
        cases found
        refine ⟨?_, splitSign_append_leads (List.takeWhile_prefix isDigit)⟩
        simp only [ne_eq, List.append_eq_nil_iff, not_and]
        intro _ none
        exact digits (List.isEmpty_iff.mpr none)

theorem leads_delimitedPosition : Leads delimitedPosition := by
  intro input lexeme found
  unfold delimitedPosition at found
  split at found
  · next candidate recognized =>
      split at found
      · cases found
        exact leads_position recognized
      · cases found
  · cases found

end Lexeme

open Lexeme in
theorem SelectorContext.leads_rules (context : SelectorContext) :
    ∀ rule ∈ context.rules, Leads rule.recognize := by
  have quotes : ∀ rule ∈ quoteRules, Leads rule.recognize := by
    simp only [quoteRules, List.forall_mem_cons]
    exact ⟨leads_literal _, leads_literal _, by simp⟩
  have ofSelector : ∀ rule ∈ selectorRules, Leads rule.recognize := by
    simp only [selectorRules, List.forall_mem_append, List.forall_mem_cons]
    exact ⟨⟨leads_spacedMark _, leads_spacedMark _, leads_run _, leads_typeSelector,
      leads_classSelector, leads_idSelector, leads_pseudoElement, leads_pseudoClass,
      leads_literal _, leads_literal _, by simp⟩, quotes⟩
  cases context with
  | selector => exact ofSelector
  | parameters =>
      simp only [rules, parameterRules, List.forall_mem_append, List.forall_mem_cons]
      exact ⟨⟨leads_literal _, leads_delimitedPosition, by simp⟩, ofSelector⟩
  | attributes =>
      simp only [rules, attributeRules, List.forall_mem_append, List.forall_mem_cons]
      exact ⟨⟨leads_literal _, leads_run _, leads_attributeOperator, leads_run _, by simp⟩, quotes⟩
  | string quote =>
      simp only [rules, stringRules, List.forall_mem_cons]
      exact ⟨leads_literal _, leads_escapedCharacter, leads_run _, by simp⟩

end CssSelector
