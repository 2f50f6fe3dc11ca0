import CssSelector.Proofs.Selector.Quotation

/-!
# Where a string ends

A string is made of units: single characters, and backslashes with the character behind them. A
scan that starts inside a string ends behind the first unit that is the quote, and without one it
goes to the end of the text, `scanFrom_string`. There a backslash may be left over.
-/

set_option autoImplicit false

namespace CssSelector

/-- A character that is no backslash, or a backslash with the character behind it. -/
inductive StringUnit where
  | single (c : Char) (ordinary : c ≠ '\\')
  | escaped (c : Char)
  deriving DecidableEq

/-- A quote that stands alone. -/
def Quote.unit (quote : Quote) : StringUnit := .single quote.char (by cases quote <;> decide)

namespace StringUnit

def chars : StringUnit → List Char
  | single c _ => [c]
  | escaped c => ['\\', c]

/-- The text that units make up. -/
def spelled (units : List StringUnit) : List Char := units.flatMap chars

/-- The units of a text. A backslash at its very end belongs to none. -/
def units : List Char → List StringUnit
  | [] => []
  | [c] => if ordinary : c ≠ '\\' then [.single c ordinary] else []
  | c :: d :: rest =>
      if ordinary : c ≠ '\\' then .single c ordinary :: units (d :: rest)
      else .escaped d :: units rest

theorem spelled_append (left right : List StringUnit) :
    spelled (left ++ right) = spelled left ++ spelled right := List.flatMap_append

theorem eq_spelled_units (text : List Char) :
    text = spelled (units text) ∨ text = spelled (units text) ++ ['\\'] := by
  fun_induction units text with
  | case1 => exact .inl rfl
  | case2 c ordinary => exact .inl rfl
  | case3 c escape => exact .inr (by simp_all [spelled])
  | case4 c d rest ordinary ih => simpa [spelled, chars] using ih
  | case5 c d rest escape ih =>
      rw [not_not] at escape
      subst escape
      simpa [spelled, chars] using ih

variable {quote : Quote}

theorem isBody_cons {c : Char} {rest : List Char} (plain : quote.isPlain c = true)
    (body : quote.isBody rest = true) : quote.isBody (c :: rest) = true := by
  cases rest with
  | nil => exact plain
  | cons d rest =>
      have other : c ≠ '\\' := by
        rintro rfl
        simp [Quote.isPlain] at plain
      rw [Quote.isBody, if_neg other, plain, body]
      rfl

/-- Units that are not the quote make up the text of a string. -/
theorem isBody_spelled {units : List StringUnit} (free : quote.unit ∉ units) :
    quote.isBody (spelled units) = true := by
  induction units with
  | nil => rfl
  | cons unit units ih =>
      rw [List.mem_cons, not_or] at free
      obtain ⟨other, free⟩ := free
      cases unit with
      | single c ordinary =>
          apply isBody_cons
          · have inside : c ≠ quote.char := by
              rintro rfl
              exact other rfl
            simp [Quote.isPlain, inside, ordinary]
          · exact ih free
      | escaped c => exact ih free

end StringUnit

namespace SelectorContext

open StringUnit

variable {quote : Quote} {source : Source} {offset : Nat} {before rest : List Char}

theorem endedBy?_of_spells {body : List Char} {tokens : List Token}
    (spelled : quote.Spells offset body tokens) :
    ∀ token ∈ tokens, endedBy? token.kind = none := by
  induction spelled with
  | nil => simp
  | cons piece _ ih =>
      rw [List.forall_mem_cons]
      refine ⟨?_, ih⟩
      cases piece with
      | escaped _ _ => rfl
      | run _ _ _ => rfl

/-- A scan that starts inside a string goes through its text. -/
theorem exists_trace_of_units {units : List StringUnit} (free : quote.unit ∉ units)
    (ends : EndsRun quote.isPlain rest)
    (split : source.SplitAt offset before (spelled units ++ rest)) :
    ∃ tokens, family.Trace source [string quote] offset tokens [string quote]
        (offset + byteLength (spelled units)) ∧ quote.Spells offset (spelled units) tokens ∧
      source.SplitAt (offset + byteLength (spelled units)) (before ++ spelled units) rest := by
  have depth : ([] : List SelectorContext).length < maxContextDepth := by decide
  obtain ⟨tokens, trace, spells⟩ := exists_trace_of_isBody (isBody_spelled free) ends depth split
  exact ⟨tokens, trace, spells, split.advance⟩

theorem token?_of_backslash (split : source.SplitAt offset before ['\\']) :
    family.token? (string quote) source offset = .ok none := by
  have first : LexicalRule.firstLexeme? (string quote).rules ['\\'] = none := by
    cases quote <;> decide +kernel
  have answer : (string quote).token? source offset = none := by
    rw [token?_eq_map split.after?_eq, first]
    rfl
  exact congrArg Except.ok answer

section

variable {preferences : ScanPreferences} {inside : List StringUnit}

/-- What a scan comes to can be read off any trace with an end of its own. -/
theorem scanFrom_eq_of_exceedsSize {root : SelectorContext} {final : List SelectorContext}
    {stop : Nat} {tokens : List Token} {verdict : Verdict ScanError Nat}
    (fits : (family.scanFrom preferences root source offset).exceedsSize = false)
    (trace : family.Trace source [root] offset tokens final stop)
    (ends : family.Ends source preferences final stop tokens.length verdict)
    (settled : verdict ≠ .failed (.tooManyTokens (maxTokenCount + 1))) :
    (family.scanFrom preferences root source offset).tokens.toList = tokens ∧
      (family.scanFrom preferences root source offset).verdict = verdict := by
  obtain ⟨sized, room⟩ := verdict_ne_of_exceedsSize fits
  have short : source.length ≤ maxSourceLength := by
    apply Nat.le_of_not_lt
    intro long
    exact sized _ (family.scanFrom_of_too_long preferences root offset long).2.2
  exact ContextFamily.scanFrom_eq_of_trace_of_ne short trace ends settled (room _)

theorem scanFrom_of_quote
    (fits : (family.scanFrom preferences (string quote) source offset).exceedsSize = false)
    (free : quote.unit ∉ inside)
    (split : source.SplitAt offset before (spelled inside ++ quote.char :: rest)) :
    (family.scanFrom preferences (string quote) source offset).verdict =
        .done (offset + byteLength (spelled inside ++ [quote.char])) ∧
      ∃ tokens, quote.Spells offset (spelled inside) tokens ∧
        (family.scanFrom preferences (string quote) source offset).tokens.toList =
          tokens ++ [⟨quote.endKind, offset + byteLength (spelled inside),
            String.singleton quote.char⟩] := by
  obtain ⟨tokens, through, spells, reached⟩ :=
    exists_trace_of_units free (.cons quote.isPlain_char rest) split
  have closed : family.Trace source [string quote] (offset + byteLength (spelled inside))
      [⟨quote.endKind, offset + byteLength (spelled inside), String.singleton quote.char⟩] []
      (offset + byteLength (spelled inside ++ [quote.char])) := by
    refine .step (by decide) (accepts_quote reached) ?_
    rw [ContextFamily.contextsAfter_of_closes (decide_eq_true rfl), ← Token.byteLength_value,
      String.toList_singleton, byteLength_append, ← Nat.add_assoc]
    exact .refl
  obtain ⟨taken, verdict⟩ := scanFrom_eq_of_exceedsSize fits (through.append closed) .closed nofun
  exact ⟨verdict, tokens, spells, taken⟩

theorem scanFrom_of_exhausted
    (fits : (family.scanFrom preferences (string quote) source offset).exceedsSize = false)
    (free : quote.unit ∉ inside) (split : source.SplitAt offset before (spelled inside)) :
    (family.scanFrom preferences (string quote) source offset).verdict = .done source.length ∧
      quote.Spells offset (spelled inside)
        (family.scanFrom preferences (string quote) source offset).tokens.toList := by
  rw [← List.append_nil (spelled inside)] at split
  obtain ⟨tokens, through, spells, reached⟩ := exists_trace_of_units free .nil split
  have depth : [string quote].length ≤ maxContextDepth := Nat.succ_le_of_lt (by decide)
  have stop := reached.length_eq
  rw [byteLength_nil, Nat.add_zero] at stop
  rw [← stop] at through
  obtain ⟨taken, verdict⟩ :=
    scanFrom_eq_of_exceedsSize fits through (.exhausted (Nat.le_refl _) depth) nofun
  exact ⟨verdict, taken ▸ spells⟩

theorem scanFrom_of_backslash
    (fits : (family.scanFrom preferences (string quote) source offset).exceedsSize = false)
    (free : quote.unit ∉ inside) (split : source.SplitAt offset before (spelled inside ++ ['\\'])) :
    (family.scanFrom preferences (string quote) source offset).verdict =
        .failed (.stuck (source.length - 1) (if preferences.includeRemainder then "\\" else "")
          (string quote).name) ∧
      quote.Spells offset (spelled inside)
        (family.scanFrom preferences (string quote) source offset).tokens.toList := by
  have escape : quote.isPlain '\\' = false := by cases quote <;> decide
  obtain ⟨tokens, through, spells, reached⟩ := exists_trace_of_units free (.cons escape []) split
  have size := reached.length_eq
  have one : byteLength ['\\'] = 1 := by decide
  rw [one] at size
  have stop : offset + byteLength (spelled inside) = source.length - 1 :=
    (Nat.sub_eq_of_eq_add size).symm
  rw [stop] at through reached
  have answer : family.token? (string quote) source (source.length - 1) = .ok none :=
    token?_of_backslash reached
  obtain ⟨taken, verdict⟩ := scanFrom_eq_of_exceedsSize fits through
    (.stuck (by omega) (by decide) answer) nofun
  rw [reached.textAfter_eq] at verdict
  exact ⟨verdict, taken ▸ spells⟩

end

/-- A scan that starts inside a string ends behind the first of its units that is the quote; this is
its only closing token. Without such a unit the scan comes to the end of the source, or it is stuck
at a backslash there. -/
theorem scanFrom_string (preferences : ScanPreferences) (quote : Quote) {source : Source}
    {offset : Nat} {rest : List Char} (found : source.after? offset = some rest)
    (fits : (family.scanFrom preferences (string quote) source offset).exceedsSize = false) :
    let outcome := family.scanFrom preferences (string quote) source offset
    (∀ inside behind, units rest = inside ++ quote.unit :: behind → quote.unit ∉ inside →
      outcome.verdict = .done (offset + byteLength (spelled inside ++ [quote.char])) ∧
        ∃ tokens, quote.Spells offset (spelled inside) tokens ∧
          (∀ token ∈ tokens, endedBy? token.kind = none) ∧
          outcome.tokens.toList = tokens ++ [⟨quote.endKind, offset + byteLength (spelled inside),
            String.singleton quote.char⟩]) ∧
      (quote.unit ∉ units rest → spelled (units rest) = rest →
        outcome.verdict = .done source.length ∧
          quote.Spells offset rest outcome.tokens.toList ∧
          ∀ token ∈ outcome.tokens, endedBy? token.kind = none) ∧
      (quote.unit ∉ units rest → spelled (units rest) ≠ rest →
        outcome.verdict = .failed (.stuck (source.length - 1)
            (if preferences.includeRemainder then "\\" else "") (string quote).name) ∧
          quote.Spells offset (spelled (units rest)) outcome.tokens.toList) := by
  intro outcome
  obtain ⟨before, split⟩ := Source.after?_eq_some_iff.mp found
  refine ⟨?_, ?_, ?_⟩
  · intro inside behind parts free
    have text : ∃ left, rest = spelled inside ++ quote.char :: left := by
      rcases eq_spelled_units rest with text | text
      · exact ⟨spelled behind, by rw [text, parts, spelled_append]; rfl⟩
      · exact ⟨spelled behind ++ ['\\'], by rw [text, parts, spelled_append]; simp; rfl⟩
    obtain ⟨left, rfl⟩ := text
    obtain ⟨verdict, tokens, spells, taken⟩ := scanFrom_of_quote fits free split
    exact ⟨verdict, tokens, spells, endedBy?_of_spells spells, taken⟩
  · intro free whole
    rw [← whole] at split
    obtain ⟨verdict, spells⟩ := scanFrom_of_exhausted fits free split
    rw [whole] at spells
    refine ⟨verdict, spells, ?_⟩
    intro token member
    exact endedBy?_of_spells spells token (Array.mem_toList_iff.mpr member)
  · intro free partly
    have text := (eq_spelled_units rest).resolve_left (Ne.symm partly)
    rw [text] at split
    exact scanFrom_of_backslash fits free split

/-- Behind its quote, `'ü\'b'c` has a string that ends with the third quote; `'\"é` has none of the
other quote in it; and of three backslashes the last one is left over. -/
theorem scanFrom_string_of_escapes :
    ((family.scanFrom {} (string .single) (.ofString "'ü\\'b'c") 1).verdict = .done 7 ∧
      ∃ tokens, Quote.single.Spells 1 ['ü', '\\', '\'', 'b'] tokens ∧
        (family.scanFrom {} (string .single) (.ofString "'ü\\'b'c") 1).tokens.toList =
          tokens ++ [⟨.singleQuoteEnd, 6, "'"⟩]) ∧
      (family.scanFrom {} (string .double) (.ofString "'\\\"é") 0).verdict = .done 5 ∧
      (family.scanFrom {} (string .single) (.ofString "b\\\\\\") 0).verdict =
        .failed (.stuck 3 "\\" "single-quoted-string") := by
  have quoted : (Source.ofString "'ü\\'b'c").after? 1 =
      some ['ü', '\\', '\'', 'b', '\'', 'c'] := by decide +kernel
  have unquoted : (Source.ofString "'\\\"é").after? 0 = some ['\'', '\\', '"', 'é'] := by
    decide +kernel
  have broken : (Source.ofString "b\\\\\\").after? 0 = some ['b', '\\', '\\', '\\'] := by
    decide +kernel
  obtain ⟨ending, -, -⟩ := scanFrom_string {} .single quoted (by decide +kernel)
  obtain ⟨-, going, -⟩ := scanFrom_string {} .double unquoted (by decide +kernel)
  obtain ⟨-, -, halting⟩ := scanFrom_string {} .single broken (by decide +kernel)
  obtain ⟨verdict, tokens, spells, -, taken⟩ :=
    ending [.single 'ü' (by decide), .escaped '\'', .single 'b' (by decide)]
      [.single 'c' (by decide)] (by decide) (by decide)
  exact ⟨⟨verdict, tokens, spells, taken⟩, (going (by decide) (by decide)).1,
    (halting (by decide) (by decide)).1⟩

end SelectorContext

end CssSelector
