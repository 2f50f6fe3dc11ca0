import CssSelector.Grammar.Script
import CssSelector.Proofs.Grammar.Completion
import CssSelector.Proofs.Parse.Conservation

/-!
# The language of the list production

The rules for attributes, compounds and lists look ahead by a token at most, and give back no token
that they took. They find what there is to find all the same: a list is parsed exactly if the tokens
spell one, `parse_selectorList`.
-/

set_option autoImplicit false

namespace CssSelector

open SelectorProduction

/-! ## The rules -/

section

variable {ν : Type} {Result : ν → Type} {preferences : ParsePreferences}
  {call : (production : ν) → Parser → Verdict ParseError (Result production) × Parser}

theorem recognizes_attributeRule {opening : Token} (kind : opening.kind = .attributeStart)
    (later : List Token) :
    Recognizes (opening :: later)
      ((attributeRule : Rule Result SimpleSelector).run preferences call)
      (SimpleSelector.Spelled (opening :: later)) := by
  refine ((recognizes_expect _).bind fun _ _ _ => (recognizes_expect _).bind fun name _ _ =>
    (recognizes_expect _).bind fun _ _ _ => recognizes_return _).congr fun part rest => ?_
  rw [SimpleSelector.spelled_bracketed kind]
  constructor
  · rintro ⟨_, _, ⟨⟨⟩, -⟩, name, _, ⟨rfl, isName⟩, closing, _, ⟨rfl, isClosing⟩, rfl, rfl⟩
    rw [Expected.accepts_only (by decide)] at isName isClosing
    exact ⟨name, closing, rfl, isName, isClosing, rfl⟩
  · rintro ⟨name, closing, rfl, isName, isClosing, rfl⟩
    rw [← Expected.accepts_only (by decide)] at kind isName isClosing
    exact ⟨opening, _, ⟨rfl, kind⟩, name, _, ⟨rfl, isName⟩, closing, rest, ⟨rfl, isClosing⟩, rfl,
      rfl⟩

section

variable {bracketed : Rule Result SimpleSelector}
  (brackets : ∀ (opening : Token) (later : List Token), opening.kind = .attributeStart →
    Recognizes (opening :: later) (bracketed.run preferences call)
      (SimpleSelector.Spelled (opening :: later)))

include brackets

theorem recognizes_compoundParts {fuel : Nat} {reversed : Compound} {tokens : List Token}
    (enough : tokens.length < fuel) :
    Recognizes tokens ((compoundParts bracketed fuel reversed).run preferences call)
      (Compound.Completes reversed tokens) := by
  induction fuel generalizing reversed tokens with
  | zero => cases enough
  | succ fuel ih =>
      have later : ∀ part rest, SimpleSelector.Spelled tokens part rest → Recognizes rest
          ((compoundParts bracketed fuel (part :: reversed)).run preferences call)
          (Compound.Completes (part :: reversed) rest) :=
        fun part rest spelled => ih (Nat.lt_of_lt_of_le spelled.shorter (Nat.le_of_lt_succ enough))
      rw [compoundParts]
      -- Where a part may start, the compound cannot end; elsewhere it ends if it has a part.
      by_cases starts : partStarts.Starts tokens
      · cases tokens with
        | nil => cases starts
        | cons token behind =>
            refine recognizes_look_of_accepts starts ?_
            have specific : token.kind ≠ .any := by
              intro kind
              rcases (accepts_partStarts token).mp starts with other | other | other | other <;>
                cases kind.symm.trans other
            dsimp only
            rw [if_neg specific]
            split
            · next kind =>
                refine ((brackets token behind kind).bind later).congr fun compound rest => ?_
                exact (Compound.completes_of_starts starts).symm
            · next plain =>
                have accepted := (Expected.accepts_only specific token).mpr rfl
                have next := later _ behind
                  ((SimpleSelector.spelled_plain starts plain).mpr ⟨rfl, rfl⟩)
                refine (recognizes_expect_of_accepts accepted next).congr ?_
                exact fun compound rest => (Compound.completes_plain starts plain).symm
      · have closes : reversed ≠ [] → Recognizes tokens
            ((return reversed.reverse : Rule Result Compound).run preferences call)
            (Compound.Completes reversed tokens) := by
          intro present
          refine (recognizes_return _).congr fun compound rest => ?_
          rw [Compound.completes_of_not_starts starts]
          exact (and_iff_right present).symm
        refine recognizes_look_of_not_starts starts (fun error => ?_) fun allowed => ?_
        · cases reversed with
          | nil =>
              refine (recognizes_fail error).congr fun compound rest => ?_
              rw [Compound.completes_of_not_starts starts]
              exact ⟨False.elim, fun reads => reads.1 rfl⟩
          | cons part reversed => exact closes (List.cons_ne_nil part reversed)
        · refine closes ?_
          rintro rfl
          cases allowed

theorem recognizes_compoundRule (tokens : List Token) :
    Recognizes tokens ((compoundRule bracketed).run preferences call)
      fun compound rest => Compound.Spelled tokens compound rest ∧ ¬partStarts.Starts rest :=
  (recognizes_remaining (recognizes_compoundParts brackets (Nat.lt_succ_self _))).congr
    fun _ _ => Compound.completes_nil

end

theorem recognizes_listEnd (next : Rule Result (List CompoundSequence))
    {reversed : List CompoundSequence} {tokens : List Token}
    (later : ∀ token behind, tokens = token :: behind →
      Recognizes behind (next.run preferences call) (SelectorList.Completes reversed behind)) :
    Recognizes tokens
      ((do
        if ← Rule.endOfTokens 0 then return reversed.reverse
        else
          let _ ← Rule.expect (.only .separator)
          next : Rule Result (List CompoundSequence)).run preferences call)
      (SelectorList.Ends reversed tokens) := by
  refine recognizes_endOfTokens ?_
  cases tokens with
  | nil => exact (recognizes_return _).congr fun list rest => SelectorList.ends_nil.symm
  | cons token behind =>
      refine ((recognizes_expect _).bind fun front left reads =>
        later front left reads.1).congr fun list rest => ?_
      rw [SelectorList.ends_cons]
      constructor
      · rintro ⟨_, _, ⟨⟨⟩, separates⟩, completes⟩
        exact ⟨(Expected.accepts_only (by decide) token).mp separates, completes⟩
      · rintro ⟨separates, completes⟩
        rw [← Expected.accepts_only (by decide)] at separates
        exact ⟨token, behind, ⟨rfl, separates⟩, completes⟩

section

variable {compound : Rule Result Compound}
  (compounds : ∀ tokens, Recognizes tokens (compound.run preferences call) fun value rest =>
    Compound.Spelled tokens value rest ∧ ¬partStarts.Starts rest)

include compounds

theorem recognizes_sequenceRest {fuel : Nat} {reversed : CompoundSequence} {tokens : List Token}
    (enough : tokens.length < fuel) (complete : ¬partStarts.Starts tokens) :
    Recognizes tokens ((sequenceRest compound fuel reversed).run preferences call)
      (CompoundSequence.Completes reversed tokens) := by
  induction fuel generalizing reversed tokens with
  | zero => cases enough
  | succ fuel ih =>
      rw [sequenceRest]
      by_cases blank : (Expected.only .whitespace).Starts tokens
      · have fewer := (List.dropWhile_sublist
          (Expected.only .whitespace).accepts (l := tokens)).length_le
        refine recognizes_skip_of_starts rfl blank ?_
        have later : ∀ value rest,
            Compound.Spelled (tokens.dropWhile (Expected.only .whitespace).accepts) value rest ∧
              ¬partStarts.Starts rest →
            Recognizes rest
              ((sequenceRest compound fuel (value :: reversed)).run preferences call)
              (CompoundSequence.Completes (value :: reversed) rest) := by
          rintro value rest ⟨spelled, complete⟩
          have less := spelled.shorter
          exact ih (by omega) complete
        refine ((compounds _).bind later).congr fun sequence rest => ?_
        exact (CompoundSequence.completes_of_starts blank).symm
      · refine recognizes_skip_of_not_starts rfl blank ?_
        refine (recognizes_return _).congr fun sequence rest => ?_
        exact (CompoundSequence.completes_of_not_starts blank complete).symm

theorem recognizes_listRest {fuel : Nat} {reversed : List CompoundSequence} {tokens : List Token}
    (enough : tokens.length < fuel) :
    Recognizes tokens ((listRest compound fuel reversed).run preferences call)
      (SelectorList.Completes reversed tokens) := by
  induction fuel generalizing reversed tokens with
  | zero => cases enough
  | succ fuel ih =>
      rw [listRest]
      refine ((compounds tokens).bind fun first between reads => recognizes_remaining <|
        (recognizes_sequenceRest compounds (Nat.lt_succ_self _) reads.2).bind
          fun sequence left completes => recognizes_listEnd _ fun token behind parts => ?_).congr
            fun list rest => ?_
      · have few := completes.length_le
        have fewer := reads.1.shorter
        rw [parts, List.length_cons] at few
        exact ih (by omega)
      · exact SelectorList.completes_iff

/-- A list of selectors is read to the end of the tokens, in the one way in which they spell it. -/
theorem recognizes_listRule (tokens : List Token) :
    Recognizes tokens ((listRule compound).run preferences call)
      fun list rest => SelectorList.Spelled tokens list [] ∧ rest = [] :=
  (recognizes_remaining (recognizes_listRest compounds (Nat.lt_succ_self _))).congr
    fun _ _ => SelectorList.completes_nil

end

end

/-! ## Parsing lists -/

theorem recognizes_selectorGrammar_list (preferences : ParsePreferences) (levels : Nat)
    (tokens : List Token) :
    Recognizes tokens (selectorGrammar.runProduction preferences (levels + 3) .list)
      fun list rest => SelectorList.Spelled tokens list [] ∧ rest = [] := by
  refine Grammar.recognizes_runProduction (recognizes_listRule (fun tokens => ?_) tokens)
  refine recognizes_call (Grammar.recognizes_runProduction (recognizes_compoundRule ?_ tokens))
  intro opening later kind
  exact recognizes_call (Grammar.recognizes_runProduction (recognizes_attributeRule kind later))

theorem recognizes_scriptGrammar_list (preferences : ParsePreferences) (levels : Nat)
    (tokens : List Token) :
    Recognizes tokens (scriptGrammar.runProduction preferences (levels + 3) (.selector .list))
      fun list rest => SelectorList.Spelled tokens list [] ∧ rest = [] := by
  refine Grammar.recognizes_runProduction (recognizes_listRule (fun tokens => ?_) tokens)
  refine recognizes_call (Grammar.recognizes_runProduction (recognizes_compoundRule ?_ tokens))
  intro opening later kind
  exact recognizes_call (Grammar.recognizes_runProduction (recognizes_attributeRule kind later))

/-- Parsing that accepts the lists of selectors and nothing else. -/
structure ParsesSelectorLists (parse : TokenStream → ParseOutcome (List CompoundSequence)) :
    Prop where
  /-- Whether tokens are accepted depends on their kinds alone. -/
  accepts : ∀ stream, (∃ list, (parse stream).verdict = .done list) ↔
    stream.kinds ∈ TokenKind.listLanguage
  spelled : ∀ stream list, (parse stream).verdict = .done list ↔
    SelectorList.Spelled stream.toList list []
  unique : ∀ stream list other, (parse stream).verdict = .done list →
    SelectorList.Spelled stream.toList other [] → other = list
  /-- The parts carry the texts of the tokens that name something, each once and in order. -/
  names : ∀ stream list, (parse stream).verdict = .done list →
    list.flatten.flatten.map (·.name) = carriedNames stream.toList
  consumes : ∀ stream list, (parse stream).verdict = .done list → (parse stream).stream.toList = []

theorem Grammar.parse_eq_done_iff {ν : Type} {grammar : Grammar ν} {preferences : ParsePreferences}
    {production : ν} {stream : TokenStream} {value : grammar.Ast production} :
    (grammar.parse preferences production stream).verdict = .done value ↔
      (grammar.delegate preferences production (Parser.start stream)).1 = .done value := by
  unfold parse parseInto
  split
  · next ended => rw [ended]
  · next ended =>
      rw [ended]
      split <;> simp
  · next ended => rw [ended]

theorem parsesSelectorLists_of_recognizes
    {run : Parser → Verdict ParseError (List CompoundSequence) × Parser}
    {parse : TokenStream → ParseOutcome (List CompoundSequence)}
    (recognizes : ∀ tokens, Recognizes tokens run
      fun list rest => SelectorList.Spelled tokens list [] ∧ rest = [])
    (verdicts : ∀ stream list,
      (parse stream).verdict = .done list ↔ (run (Parser.start stream)).1 = .done list)
    (streams : ∀ stream, (parse stream).stream = (run (Parser.start stream)).2.stream) :
    ParsesSelectorLists parse := by
  have reads : ∀ stream list, (parse stream).verdict = .done list ↔
      SelectorList.Spelled stream.toList list [] := by
    intro stream list
    rw [verdicts]
    constructor
    · intro done
      exact ((recognizes stream.toList (Parser.start stream) rfl list _).mp ⟨done, rfl⟩).1
    · intro spelled
      exact ((recognizes stream.toList (Parser.start stream) rfl list []).mpr ⟨spelled, rfl⟩).1
  constructor
  · intro stream
    have language := Spans.selectorList stream.toList []
    simp only [List.append_nil, exists_eq_left'] at language
    rw [TokenStream.kinds, ← language]
    exact exists_congr (reads stream)
  · exact reads
  · intro stream list other done spelled
    cases done.symm.trans ((reads stream other).mpr spelled)
    rfl
  · intro stream list done
    rw [carriedNames_of_selectorList ((reads stream list).mp done)]
    exact (List.append_nil _).symm
  · intro stream list done
    rw [streams]
    rw [verdicts] at done
    exact ((recognizes stream.toList (Parser.start stream) rfl list _).mp ⟨done, rfl⟩).2

/-- Both grammars parse lists of selectors, and parse nothing else as one: a stream of any tokens is
accepted if and only if their kinds are in the language, the result is the only list that they
spell, and no token is left. -/
theorem parse_selectorList (preferences : ParsePreferences) :
    ParsesSelectorLists (selectorGrammar.parse preferences .list) ∧
      ParsesSelectorLists (scriptGrammar.parse preferences (.selector .list)) := by
  constructor
  · exact parsesSelectorLists_of_recognizes (recognizes_selectorGrammar_list preferences 125)
      (fun _ _ => Grammar.parse_eq_done_iff) (Grammar.stream_parse _)
  · exact parsesSelectorLists_of_recognizes (recognizes_scriptGrammar_list preferences 125)
      (fun _ _ => Grammar.parse_eq_done_iff) (Grammar.stream_parse _)

example : (selectorGrammar.parse {} .list (.ofList [⟨.typeSelector, 0, "E"⟩, ⟨.whitespace, 1, " "⟩,
    ⟨.classSelector, 2, ".a"⟩, ⟨.separator, 4, ","⟩, ⟨.idSelector, 5, "#b"⟩])).verdict =
    .done [[[.element "E"], [.className ".a"]], [[.identifier "#b"]]] := by
  rfl

end CssSelector
