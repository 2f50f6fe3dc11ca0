import CssSelector.Proofs.Scan.Text
import CssSelector.Proofs.Selector.Lexeme

/-!
# Tokens of the contexts of selectors

What one token of a context can be: its kind is that of a rule, and its value is the text behind
the offset. So the contexts of selectors take text off the source, and what holds of traces of
such families holds of theirs.
-/

set_option autoImplicit false

namespace CssSelector

variable {source : Source} {offset : Nat} {before after : List Char} {token : Token}

theorem LexicalRule.token?_eq_some {rule : LexicalRule} (split : source.SplitAt offset before after)
    (found : rule.token? source offset = some token) :
    ∃ lexeme, rule.recognize after = some lexeme ∧
      token = ⟨rule.kind, offset, String.ofList lexeme⟩ := by
  rw [LexicalRule.token?, split.after?_eq] at found
  cases recognized : rule.recognize after with
  | none => simp [recognized] at found
  | some lexeme =>
      simp only [Option.bind_eq_bind, Option.bind_some, recognized, Option.pure_def,
        Option.some.injEq] at found
      exact ⟨lexeme, rfl, found.symm⟩

theorem LexicalRule.exists_splitAt {rule : LexicalRule}
    (found : rule.token? source offset = some token) :
    ∃ before after, source.SplitAt offset before after := by
  cases reached : source.after? offset with
  | none => simp [LexicalRule.token?, reached] at found
  | some after =>
      obtain ⟨before, split⟩ := Source.after?_eq_some_iff.mp reached
      exact ⟨before, after, split⟩

/-- The tokens of a rule are text of the source if its lexemes are beginnings of the text. -/
theorem LexicalRule.covers {rule : LexicalRule} (leads : Lexeme.Leads rule.recognize)
    (classifies : rule.kind ≠ .any) (found : rule.token? source offset = some token) :
    token.Covers source offset := by
  obtain ⟨before, after, split⟩ := rule.exists_splitAt found
  obtain ⟨lexeme, recognized, rfl⟩ := rule.token?_eq_some split found
  obtain ⟨full, later, rfl⟩ := leads recognized
  have text : (String.ofList lexeme).toList = lexeme := String.toList_ofList
  exact ⟨classifies, rfl, by rwa [text], later, by rw [text, split.after?_eq]⟩

namespace SelectorContext

variable {context : SelectorContext}

/-- The kinds of the tokens that a context may give. -/
def kinds (context : SelectorContext) : List TokenKind := context.rules.map LexicalRule.kind

theorem any_not_mem_kinds (context : SelectorContext) : TokenKind.any ∉ context.kinds := by
  cases context with
  | selector => decide
  | parameters => decide
  | attributes => decide
  | string quote => cases quote <;> decide

/-- A token comes from one of the rules, and its value stands behind the offset. -/
theorem token?_eq_some (split : source.SplitAt offset before after)
    (found : context.token? source offset = some token) :
    ∃ rule ∈ context.rules, ∃ lexeme later, rule.recognize after = some lexeme ∧
      lexeme ≠ [] ∧ after = lexeme ++ later ∧
        token = ⟨rule.kind, offset, String.ofList lexeme⟩ := by
  obtain ⟨rule, member, matched⟩ := List.exists_of_findSome?_eq_some found
  obtain ⟨lexeme, recognized, tokenEq⟩ := rule.token?_eq_some split matched
  obtain ⟨full, later, afterEq⟩ := leads_rules context rule member recognized
  exact ⟨rule, member, lexeme, later, recognized, full, afterEq.symm, tokenEq⟩

theorem exists_splitAt (found : context.token? source offset = some token) :
    ∃ before after, source.SplitAt offset before after := by
  obtain ⟨rule, -, matched⟩ := List.exists_of_findSome?_eq_some found
  exact rule.exists_splitAt matched

theorem kind_mem_kinds (found : context.token? source offset = some token) :
    token.kind ∈ context.kinds := by
  obtain ⟨before, after, split⟩ := exists_splitAt found
  obtain ⟨rule, member, lexeme, later, -, -, -, rfl⟩ := token?_eq_some split found
  exact List.mem_map_of_mem member

theorem family_takesText (source : Source) : family.TakesText source := by
  intro context offset token produced
  have found : context.token? source offset = some token := Except.ok.inj produced
  obtain ⟨rule, member, matched⟩ := List.exists_of_findSome?_eq_some found
  refine rule.covers (leads_rules context rule member) ?_ matched
  intro wildcard
  exact any_not_mem_kinds context (wildcard ▸ List.mem_map_of_mem member)

theorem defect?_eq_none (found : context.token? source offset = some token) :
    family.defect? context offset token = none :=
  (family_takesText source).defect?_eq_none (congrArg Except.ok found)

theorem defect?_ne_some {error : ScanError}
    (produced : family.token? context source offset = .ok (some token)) :
    family.defect? context offset token ≠ some error :=
  (family_takesText source).defect?_ne_some produced

/-! ## Along a trace -/

theorem token?_eq_some_of_accepts (accepted : family.Accepts source context offset token) :
    context.token? source offset = some token := Except.ok.inj accepted.produced

theorem toList_value_ne_nil (accepted : family.Accepts source context offset token) :
    token.value.toList ≠ [] := accepted.toList_value_ne_nil

theorem splitAt_of_accepts (accepted : family.Accepts source context offset token)
    (split : source.SplitAt offset before after) :
    ∃ later, after = token.value.toList ++ later ∧
      source.SplitAt (offset + token.length) (before ++ token.value.toList) later :=
  (family_takesText source).splitAt_of_accepts accepted split

/-- Strings open nothing, and only their closing quote closes them. -/
theorem contextsAfter_string {quote : Quote} (inner : token.kind ≠ quote.endKind)
    (outer : List SelectorContext) :
    family.contextsAfter (string quote) outer token = string quote :: outer := by
  refine ContextFamily.contextsAfter_of_not_opens ?_ rfl
  intro closing
  have ended : some quote.endKind = some token.kind := of_decide_eq_true closing
  exact inner (Option.some.inj ended).symm

theorem splitAt_of_trace {opened final : List SelectorContext} {stop : Nat} {tokens : List Token}
    (trace : family.Trace source opened offset tokens final stop)
    (split : source.SplitAt offset before after) :
    ∃ later, after = (joinedValues tokens).toList ++ later ∧
      source.SplitAt stop (before ++ (joinedValues tokens).toList) later :=
  (family_takesText source).splitAt_of_trace trace split

theorem splitAt_of_mem_trace {opened final : List SelectorContext} {stop : Nat}
    {earlier later : List Token}
    (trace : family.Trace source opened offset (earlier ++ token :: later) final stop)
    (split : source.SplitAt offset before after) :
    ∃ rest, source.SplitAt token.offset (before ++ (joinedValues earlier).toList)
      (token.value.toList ++ rest) :=
  (family_takesText source).splitAt_of_mem_trace trace split

end SelectorContext

end CssSelector
