import CssSelector.Proofs.Parse.Conservation

/-!
# Where a parse fails

A rule stops at errors if the first question that is answered by an error, or the first delegation
that fails, ends it. Then nothing is removed between the question that failed and the end of the
parse: an error about a token, or about a missing one, is about the place that was looked at,
counted in the tokens that are left, `Grammar.failsOn_of_parse`.
-/

set_option autoImplicit false

namespace CssSelector

/-! ## Rules that stop at errors -/

/-- A rule that ends without another question, on the occasion of an error. It fails with that
error or refuses for a reason of its own, it breaks a contract, or it has a result, if that is
allowed. -/
def Rule.StopsFor {ν : Type} {Ast : ν → Type} {α : Type} (error : ParseError) (mayRecover : Prop) :
    Rule Ast α → Prop
  | done _ => mayRecover
  | fail own => own = error ∨ own.expected? = none
  | fault _ => True
  | _ => False

/-- A rule that every error ends, and that delegates to some productions only. An error of its own
is not about what was expected. -/
def Rule.StopsAtErrors {ν : Type} {Ast : ν → Type} {α : Type} (productions : ν → Prop)
    (mayRecover : Prop) : Rule Ast α → Prop
  | done _ => True
  | fail own => own.expected? = none
  | fault _ => True
  | read _ next => (∀ error, (next (.error error)).StopsFor error mayRecover) ∧
      ∀ token, (next (.ok token)).StopsAtErrors productions mayRecover
  | look _ _ _ next => (∀ error, (next (.error error)).StopsFor error mayRecover) ∧
      ∀ token, (next (.ok token)).StopsAtErrors productions mayRecover
  | ignore _ next => ∀ answer, (next answer).StopsAtErrors productions mayRecover
  | inspect next => ∀ stream depth, (next stream depth).StopsAtErrors productions mayRecover
  | delegate production next => productions production ∧
      (∀ error, (next (.error error)).StopsFor error mayRecover) ∧
      ∀ value, (next (.ok value)).StopsAtErrors productions mayRecover

/-- A grammar whose rules for some productions, which delegate to each other only, stop at
errors. -/
def Grammar.StopsAtErrors {ν : Type} (grammar : Grammar ν) (productions : ν → Prop) : Prop :=
  ∀ production, productions production → (grammar.rule production).StopsAtErrors productions True

/-! ## Steps that lead to an error -/

section

variable {ν : Type} {grammar : Grammar ν} {preferences : ParsePreferences}

/-- A question about a place that is answered by an error. Reading asks about the front. -/
def ParseAction.FailsAt (place : Nat) (error : ParseError) : ParseAction ν → Prop
  | read _ (.error own) => place = 0 ∧ own = error
  | look _ asked _ (.error own) => place = asked ∧ own = error
  | _ => False

/-- Whether an action is the end of a rule. -/
def ParseAction.isLeave : ParseAction ν → Bool
  | leave _ _ => true
  | _ => false

/-- Steps of which the last one is a question about a place that fails; behind it rules end. -/
inductive FailsAt (place : Nat) (error : ParseError) : List (ParseStep ν) → Prop where
  | here {question : ParseStep ν} {unwinding : List (ParseStep ν)} :
      question.action.FailsAt place error → (∀ step ∈ unwinding, step.action.isLeave = true) →
      FailsAt place error (question :: unwinding)
  | later {step : ParseStep ν} {steps : List (ParseStep ν)} :
      FailsAt place error steps → FailsAt place error (step :: steps)

/-- What an error says about the tokens at a place: the token there is not expected, or there is
none. -/
def ParseError.FailsOn (tokens : List Token) (place : Nat) : ParseError → Prop
  | tokenMismatch actual expected =>
      tokens[place]? = some actual ∧ expected.accepts actual = false
  | unexpectedEnd _ => tokens.length ≤ place
  | delegationTooDeep _ => False
  | grammarViolation _ _ => False

theorem FailsAt.singleton {place : Nat} {error : ParseError} {question : ParseStep ν}
    (fails : question.action.FailsAt place error) : FailsAt place error [question] :=
  .here fails (List.forall_mem_nil _)

theorem FailsAt.append_left {place : Nat} {error : ParseError} {steps : List (ParseStep ν)}
    (fails : FailsAt place error steps) (earlier : List (ParseStep ν)) :
    FailsAt place error (earlier ++ steps) := by
  induction earlier with
  | nil => exact fails
  | cons step earlier ih => exact .later ih

theorem FailsAt.concat_leave {place : Nat} {error : ParseError} {steps : List (ParseStep ν)}
    (fails : FailsAt place error steps) {last : ParseStep ν}
    (leaving : last.action.isLeave = true) : FailsAt place error (steps ++ [last]) := by
  induction fails with
  | here question unwinding =>
      refine .here question ?_
      intro step member
      rcases List.mem_append.mp member with earlier | final
      · exact unwinding step earlier
      · rw [List.mem_singleton.mp final]
        exact leaving
  | later _ ih => exact .later ih

theorem ParseAction.observes_of_isLeave {action : ParseAction ν}
    (leaving : action.isLeave = true) : action.observes = true := by
  cases action with
  | leave production caller => rfl
  | read | look | ignore | inspect | enter | refuse => cases leaving

/-! ## What the failing question saw -/

theorem Parsing.failsOn_of_tokenAt {parser : Parser} {expected : Expected} {place : Nat}
    {error : ParseError} (missing : parser.tokenAt expected place = .error error) :
    error.FailsOn parser.stream.toList place := by
  unfold tokenAt mismatch at missing
  rw [TokenStream.get?_eq] at missing
  cases found : parser.stream.toList[place]? with
  | none =>
      rw [found] at missing
      cases missing
      exact List.getElem?_eq_none_iff.mp found
  | some token =>
      rw [found] at missing
      dsimp only at missing
      split at missing
      · cases missing
      · next refused =>
          cases missing
          exact ⟨found, Bool.eq_false_iff.mpr refused⟩

theorem Parsing.failsOn_of_read {parser : Parser} {expected : Expected} {error : ParseError}
    (failed : (parser.read preferences expected).1 = .error error) :
    error.FailsOn parser.stream.toList 0 := by
  rw [read_eq] at failed
  split at failed
  · cases failed
  · next missing =>
      cases failed
      exact failsOn_of_tokenAt missing

theorem Parsing.failsOn_of_look {parser : Parser} {expected : Expected} {place : Nat}
    {allowEnd : Bool} {error : ParseError}
    (failed : (parser.look preferences expected place allowEnd).1 = .error error) :
    error.FailsOn parser.stream.toList place := by
  rw [look_eq] at failed
  split at failed
  · cases failed
  · split at failed
    · cases failed
    · next missing =>
        cases failed
        exact failsOn_of_tokenAt missing

namespace Grammar

theorem Acts.failsOn {before after : Parser} {action : ParseAction ν} {place : Nat}
    {error : ParseError} (acts : grammar.Acts preferences before action after)
    (fails : action.FailsAt place error) :
    after.stream = before.stream ∧ error.FailsOn before.stream.toList place := by
  cases acts with
  | read expected =>
      cases answer : (before.read preferences expected).1 with
      | ok token =>
          rw [answer] at fails
          cases fails
      | error own =>
          rw [answer] at fails
          obtain ⟨rfl, rfl⟩ := fails
          exact ⟨Parsing.stream_read_of_error answer, Parsing.failsOn_of_read answer⟩
  | look expected asked allowEnd =>
      cases answer : (before.look preferences expected asked allowEnd).1 with
      | ok token =>
          rw [answer] at fails
          cases fails
      | error own =>
          rw [answer] at fails
          obtain ⟨rfl, rfl⟩ := fails
          exact ⟨Parsing.stream_look preferences expected before place allowEnd,
            Parsing.failsOn_of_look answer⟩
  | ignore | inspect | enter | refuse | leave => cases fails

theorem Path.stream_eq {first last : Parser} {steps : List (ParseStep ν)}
    (path : grammar.Path preferences first steps last)
    (observes : ∀ step ∈ steps, step.action.observes = true) : last.stream = first.stream := by
  induction path with
  | nil parser => rfl
  | cons acts _ ih =>
      have later := ih fun step member => observes step (.tail _ member)
      exact later.trans (acts.stream_eq (observes _ (.head _)))

/-- Behind the question that failed no token is removed, so what it saw is what is left. -/
theorem Path.failsOn {first last : Parser} {steps : List (ParseStep ν)} {place : Nat}
    {error : ParseError} (path : grammar.Path preferences first steps last)
    (fails : FailsAt place error steps) : error.FailsOn last.stream.toList place := by
  induction path with
  | nil parser => cases fails
  | cons acts behind ih =>
      cases fails with
      | here question unwinding =>
          obtain ⟨kept, seen⟩ := acts.failsOn question
          have same := behind.stream_eq fun step member =>
            ParseAction.observes_of_isLeave (unwinding step member)
          rwa [same, kept]
      | later fails => exact ih fails

end Grammar

/-! ## Runs that fail -/

/-- A rule that ends on the occasion of an error asks nothing more, and what it fails with about
the tokens is that error. -/
theorem Rule.StopsFor.eq_of_failed {α : Type} {rule : Rule grammar.Ast α} {error found : ParseError}
    {mayRecover : Prop} (stops : rule.StopsFor error mayRecover)
    {call : (production : ν) → Parser → Verdict ParseError (grammar.Ast production) × Parser}
    (callSteps : ν → Parser → List (ParseStep ν)) {parser : Parser}
    (failed : (rule.run preferences call parser).1 = .failed found)
    (about : found.expected? ≠ none) :
    found = error ∧ rule.steps preferences call callSteps parser = [] := by
  cases rule with
  | done value => cases failed
  | fault cause => cases failed
  | fail own =>
      cases failed
      rcases stops with same | other
      · exact ⟨same, rfl⟩
      · exact absurd other about
  | read | look | ignore | inspect | delegate => cases stops

/-- If a rule that stops at errors fails because of the tokens, its steps lead to the question that
failed, provided that this holds of the productions it delegates to. -/
theorem Rule.run_failsAt {α : Type} {rule : Rule grammar.Ast α} {productions : ν → Prop}
    {mayRecover : Prop} (stops : rule.StopsAtErrors productions mayRecover)
    {call : (production : ν) → Parser → Verdict ParseError (grammar.Ast production) × Parser}
    {callSteps : ν → Parser → List (ParseStep ν)} {error : ParseError}
    (about : error.expected? ≠ none)
    (calls : ∀ production parser, productions production →
      (call production parser).1 = .failed error →
      ∃ place, FailsAt place error (callSteps production parser))
    {parser : Parser} (failed : (rule.run preferences call parser).1 = .failed error) :
    ∃ place, FailsAt place error (rule.steps preferences call callSteps parser) := by
  induction rule generalizing parser with
  | done value => cases failed
  | fault cause => cases failed
  | fail own =>
      cases failed
      exact absurd stops about
  | read expected next ih =>
      obtain ⟨ends, continues⟩ := stops
      rw [run] at failed
      rw [steps]
      cases answer : parser.read preferences expected with
      | mk answered left =>
          rw [answer] at failed
          dsimp only at failed ⊢
          cases answered with
          | ok token =>
              obtain ⟨place, fails⟩ := ih _ (continues token) failed
              exact ⟨place, .later fails⟩
          | error own =>
              obtain ⟨rfl, nothing⟩ := (ends own).eq_of_failed callSteps failed about
              rw [nothing]
              exact ⟨0, .singleton ⟨rfl, rfl⟩⟩
  | look expected asked allowEnd next ih =>
      obtain ⟨ends, continues⟩ := stops
      rw [run] at failed
      rw [steps]
      cases answer : parser.look preferences expected asked allowEnd with
      | mk answered left =>
          rw [answer] at failed
          dsimp only at failed ⊢
          cases answered with
          | ok token =>
              obtain ⟨place, fails⟩ := ih _ (continues token) failed
              exact ⟨place, .later fails⟩
          | error own =>
              obtain ⟨rfl, nothing⟩ := (ends own).eq_of_failed callSteps failed about
              rw [nothing]
              exact ⟨asked, .singleton ⟨rfl, rfl⟩⟩
  | ignore expected next ih =>
      rw [run] at failed
      rw [steps]
      cases ignored : parser.ignore expected with
      | error cause =>
          rw [ignored] at failed
          cases failed
      | ok outcome =>
          rw [ignored] at failed
          obtain ⟨place, fails⟩ := ih _ (stops outcome.1) failed
          exact ⟨place, .later fails⟩
  | inspect next ih =>
      obtain ⟨place, fails⟩ := ih _ _ (stops parser.stream parser.depth) failed
      exact ⟨place, .later fails⟩
  | delegate production next ih =>
      obtain ⟨known, ends, continues⟩ := stops
      have called := calls production parser known
      rw [run] at failed
      rw [steps]
      generalize call production parser = outcome at called failed ⊢
      obtain ⟨verdict, left⟩ := outcome
      cases verdict with
      | done value =>
          obtain ⟨place, fails⟩ := ih _ (continues value) failed
          exact ⟨place, fails.append_left _⟩
      | failed own =>
          obtain ⟨rfl, nothing⟩ := (ends own).eq_of_failed callSteps failed about
          dsimp only
          rw [nothing, List.append_nil]
          exact called rfl
      | fault cause => cases failed

namespace Grammar

theorem runProduction_failsAt {productions : ν → Prop}
    (stops : grammar.StopsAtErrors productions) {error : ParseError}
    (about : error.expected? ≠ none) {levels : Nat} {production : ν} {parser : Parser}
    (known : productions production)
    (failed : (grammar.runProduction preferences levels production parser).1 = .failed error) :
    ∃ place, FailsAt place error
      (grammar.productionSteps preferences levels production parser) := by
  induction levels generalizing production parser with
  | zero =>
      cases failed
      exact absurd rfl about
  | succ levels ih =>
      obtain ⟨place, fails⟩ := Rule.run_failsAt (stops production known) about
        (fun callee inner known => ih known) failed
      exact ⟨place, .later (fails.concat_leave rfl)⟩

/-- If a parse fails because of the tokens, then because of those at the place that the last
question was about, counted in the tokens that are left. -/
theorem failsOn_of_parse {productions : ν → Prop} (stops : grammar.StopsAtErrors productions)
    {production : ν} (known : productions production) {stream : TokenStream} {error : ParseError}
    (about : error.expected? ≠ none)
    (failed : (grammar.parse preferences production stream).verdict = .failed error) :
    ∃ place,
      FailsAt place error (grammar.delegateSteps preferences production (.start stream)) ∧
        error.FailsOn (grammar.parse preferences production stream).stream.toList place := by
  obtain ⟨place, fails⟩ :=
    runProduction_failsAt stops about known (delegate_eq_failed_of_parse failed)
  obtain ⟨path, -⟩ := grammar.delegate_path preferences production (.start stream)
  rw [stream_parse]
  exact ⟨place, fails, path.failsOn fails⟩

end Grammar

end

end CssSelector
