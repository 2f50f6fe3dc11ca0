import CssSelector.Proofs.Parse.Access

/-!
# Honest grammars

The primitive questions to a parser fail with errors about tokens of the stream. A rule is honest
if it makes up no tokens of its own: whatever tokens there are, as long as the answers it gets are
about them, its results and its errors are about them as well. Honest grammars fail only with
errors about tokens of the stream they parse, `Grammar.about_of_parse_eq_failed`.
-/

set_option autoImplicit false

namespace CssSelector

/-- An error about known tokens: a token that does not match is one of them, and source that a
rule refuses is covered by one of them. -/
def ParseError.About (known : Token → Prop) : ParseError → Prop
  | tokenMismatch actual _ => known actual
  | unexpectedEnd _ => True
  | delegationTooDeep _ => True
  | grammarViolation _ span => ∃ token, known token ∧ token.span = .ok span

/-- An answer with a value of some sort, or with an error about known tokens. -/
def AnswersWith {α : Type} (known : Token → Prop) (holds : α → Prop) : Except ParseError α → Prop
  | .ok value => holds value
  | .error error => error.About known

/-- A rule that, asked about known tokens, yields results of some sort and fails only with errors
about known tokens. Productions may be assumed to yield results of some sort, too. -/
def Rule.Honest {ν : Type} {Ast : ν → Type} {α : Type} (known : Token → Prop)
    (results : (production : ν) → Ast production → Prop) (holds : α → Prop) : Rule Ast α → Prop
  | done value => holds value
  | fail error => error.About known
  | fault _ => True
  | read _ next => ∀ answer, AnswersWith known known answer →
      (next answer).Honest known results holds
  | look _ _ _ next => ∀ answer, AnswersWith known known answer →
      (next answer).Honest known results holds
  | ignore _ next => ∀ answer, (next answer).Honest known results holds
  | inspect next => ∀ stream depth, (∀ token ∈ stream.toList, known token) →
      (next stream depth).Honest known results holds
  | delegate production next => ∀ answer, AnswersWith known (results production) answer →
      (next answer).Honest known results holds

/-- A grammar whose rules are honest about every choice of known tokens. The token behind the last
one is always known. -/
def Grammar.Honest {ν : Type} (grammar : Grammar ν) : Prop :=
  ∀ known : Token → Prop, known .endOfTokens →
    ∃ results : (production : ν) → grammar.Ast production → Prop,
      ∀ production, (grammar.rule production).Honest known results (results production)

variable {known : Token → Prop}

namespace Parsing

/-- A parser all of whose tokens are known. -/
def Knows (known : Token → Prop) (parser : Parser) : Prop :=
  ∀ token ∈ parser.stream.toList, known token

variable {parser : Parser}

theorem tokenAt_answersWith (knows : parser.Knows known) (expected : Expected) (place : Nat) :
    AnswersWith known known (parser.tokenAt expected place) := by
  unfold tokenAt mismatch
  simp only [TokenStream.get?_eq]
  cases found : parser.stream.toList[place]? with
  | none => exact True.intro
  | some token =>
      have member := knows token (List.mem_of_getElem? found)
      dsimp only
      split
      · exact member
      · exact member

theorem read_honest (knows : parser.Knows known) (preferences : ParsePreferences)
    (expected : Expected) :
    AnswersWith known known (parser.read preferences expected).1 ∧
      (parser.read preferences expected).2.Knows known := by
  have answers := tokenAt_answersWith knows expected 0
  rw [read_eq]
  cases answer : parser.tokenAt expected 0 with
  | error error =>
      rw [answer] at answers
      refine ⟨answers, ?_⟩
      intro token member
      rw [stream_logMismatch] at member
      exact knows token member
  | ok token =>
      rw [answer] at answers
      refine ⟨answers, ?_⟩
      intro left member
      rw [TokenStream.toList_drop] at member
      exact knows left (List.mem_of_mem_drop member)

theorem look_honest (knows : parser.Knows known) (behind : known .endOfTokens)
    (preferences : ParsePreferences) (expected : Expected) (place : Nat) (allowEnd : Bool) :
    AnswersWith known known (parser.look preferences expected place allowEnd).1 ∧
      (parser.look preferences expected place allowEnd).2.Knows known := by
  have answers := tokenAt_answersWith knows expected place
  rw [look_eq]
  split
  · exact ⟨behind, knows⟩
  · cases answer : parser.tokenAt expected place with
    | error error =>
        rw [answer] at answers
        refine ⟨answers, ?_⟩
        intro token member
        rw [stream_logMismatch] at member
        exact knows token member
    | ok token =>
        rw [answer] at answers
        exact ⟨answers, knows⟩

theorem ignore_knows (knows : parser.Knows known) {expected : Expected} {dropped : Bool}
    {left : Parser} (ignored : parser.ignore expected = .ok (dropped, left)) :
    left.Knows known := by
  unfold ignore at ignored
  split at ignored
  · cases ignored
  · cases ignored
    intro token member
    rw [TokenStream.toList_drop] at member
    exact knows token (List.mem_of_mem_drop member)

end Parsing

/-- A run that keeps to known tokens, in its verdict and in the tokens that are left. -/
def Keeps {α : Type} (known : Token → Prop) (holds : α → Prop)
    (run : Verdict ParseError α × Parser) : Prop :=
  run.2.Knows known ∧
    match run.1 with
    | .done value => holds value
    | .failed error => error.About known
    | .fault _ => True

/-- Honest rules keep to known tokens if the productions they call do. -/
theorem Rule.run_keeps {ν : Type} {Ast : ν → Type} {α : Type} {preferences : ParsePreferences}
    {call : (production : ν) → Parser → Verdict ParseError (Ast production) × Parser}
    {results : (production : ν) → Ast production → Prop} {holds : α → Prop} {rule : Rule Ast α}
    (honest : rule.Honest known results holds) (behind : known .endOfTokens)
    (calls : ∀ production parser, parser.Knows known →
      Keeps known (results production) (call production parser))
    {parser : Parser} (knows : parser.Knows known) :
    Keeps known holds (rule.run preferences call parser) := by
  -- an answer about known tokens selects an honest rule to go on with
  induction rule generalizing parser with
  | done value => exact ⟨knows, honest⟩
  | fail error => exact ⟨knows, honest⟩
  | fault cause => exact ⟨knows, True.intro⟩
  | read expected next ih =>
      obtain ⟨answers, left⟩ := Parsing.read_honest knows preferences expected
      exact ih _ (honest _ answers) left
  | look expected place allowEnd next ih =>
      obtain ⟨answers, left⟩ :=
        Parsing.look_honest knows behind preferences expected place allowEnd
      exact ih _ (honest _ answers) left
  | ignore expected next ih =>
      rw [run]
      cases ignored : parser.ignore expected with
      | error cause => exact ⟨knows, True.intro⟩
      | ok answer => exact ih _ (honest _) (Parsing.ignore_knows knows ignored)
  | inspect next ih => exact ih _ _ (honest _ _ knows) knows
  | delegate production next ih =>
      rw [run]
      have called := calls production parser knows
      generalize call production parser = answer at called ⊢
      obtain ⟨verdict, left⟩ := answer
      obtain ⟨leftKnows, fits⟩ := called
      cases verdict with
      | done value => exact ih _ (honest (.ok value) fits) leftKnows
      | failed error => exact ih _ (honest (.error error) fits) leftKnows
      | fault cause => exact ⟨leftKnows, True.intro⟩

theorem Grammar.runProduction_keeps {ν : Type} {grammar : Grammar ν}
    {results : (production : ν) → grammar.Ast production → Prop}
    (honest : ∀ production, (grammar.rule production).Honest known results (results production))
    (behind : known .endOfTokens) (preferences : ParsePreferences) (levels : Nat) (production : ν)
    {parser : Parser} (knows : parser.Knows known) :
    Keeps known (results production)
      (grammar.runProduction preferences levels production parser) := by
  induction levels generalizing production parser with
  | zero => exact ⟨knows, True.intro⟩
  | succ levels ih =>
      have entered : (parser.enter preferences (grammar.name production)).Knows known := by
        intro token member
        rw [Parsing.stream_enter] at member
        exact knows token member
      exact Rule.run_keeps (honest production) behind (fun callee parser => ih callee) entered

theorem Grammar.delegate_eq_failed_of_parse {ν : Type} {grammar : Grammar ν}
    {preferences : ParsePreferences} {production : ν} {stream : TokenStream} {error : ParseError}
    (failed : (grammar.parse preferences production stream).verdict = .failed error) :
    (grammar.delegate preferences production (Parser.start stream)).1 = .failed error := by
  unfold parse parseInto at failed
  split at failed
  · cases failed
  · next ended =>
      rw [ended]
      split at failed
      · cases failed
        rfl
      · cases failed
  · cases failed

/-- What an honest grammar says about a stream that it refuses. -/
theorem Grammar.about_of_parse_eq_failed {ν : Type} {grammar : Grammar ν} (honest : grammar.Honest)
    {preferences : ParsePreferences} {production : ν} {stream : TokenStream} {error : ParseError}
    (failed : (grammar.parse preferences production stream).verdict = .failed error) :
    error.About fun token => token ∈ stream.toList ∨ token = .endOfTokens := by
  obtain ⟨results, rules⟩ :=
    honest (fun token => token ∈ stream.toList ∨ token = .endOfTokens) (.inr rfl)
  have knows : (Parser.start stream).Knows
      fun token => token ∈ stream.toList ∨ token = .endOfTokens := fun token member => .inl member
  have keeps := runProduction_keeps rules (.inr rfl) preferences
    (maxDelegationDepth - (Parser.start stream).depth) production knows
  have refused := keeps.2
  rw [show (grammar.runProduction preferences _ production (Parser.start stream)).1 = _ from
    delegate_eq_failed_of_parse failed] at refused
  exact refused

end CssSelector
