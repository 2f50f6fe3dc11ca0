import CssSelector.Proofs.Parse.Primitive

/-!
# What runs recognize

What a rule does depends on the tokens that are left, for the most part on nothing else. A run
recognizes a reading of some tokens if it is done with a value exactly where the reading has the
value in front of the tokens that the run leaves. Readings of rules compose, `Recognizes.bind`, so
that what a grammar accepts is found without another look at parsers.
-/

set_option autoImplicit false

namespace CssSelector

/-- On the given tokens, a run is done with a value and leaves a rest if and only if they are
read. -/
def Recognizes {α : Type} (tokens : List Token) (run : Parser → Verdict ParseError α × Parser)
    (reads : α → List Token → Prop) : Prop :=
  ∀ parser : Parser, parser.stream.toList = tokens → ∀ value rest,
    (run parser).1 = .done value ∧ (run parser).2.stream.toList = rest ↔ reads value rest

namespace Expected

/-- Whether tokens start with one that is accepted. -/
def Starts (expected : Expected) : List Token → Prop
  | [] => False
  | token :: _ => expected.accepts token = true

theorem exists_cons_of_starts {expected : Expected} {tokens : List Token}
    (starts : expected.Starts tokens) :
    ∃ token later, tokens = token :: later ∧ expected.accepts token = true := by
  cases tokens with
  | nil => cases starts
  | cons token later => exact ⟨token, later, rfl, starts⟩

end Expected

theorem Recognizes.congr {α : Type} {tokens : List Token}
    {run : Parser → Verdict ParseError α × Parser} {reads other : α → List Token → Prop}
    (recognizes : Recognizes tokens run reads)
    (same : ∀ value rest, reads value rest ↔ other value rest) : Recognizes tokens run other :=
  fun parser left value rest => (recognizes parser left value rest).trans (same value rest)

section

variable {ν : Type} {Ast : ν → Type} {α β : Type} {preferences : ParsePreferences}
  {call : (production : ν) → Parser → Verdict ParseError (Ast production) × Parser}

theorem Rule.run_bind (rule : Rule Ast α) (next : α → Rule Ast β) (parser : Parser) :
    (rule >>= next).run preferences call parser =
      match rule.run preferences call parser with
      | (.done value, left) => (next value).run preferences call left
      | (.failed error, left) => (.failed error, left)
      | (.fault cause, left) => (.fault cause, left) := by
  change (rule.bind next).run preferences call parser = _
  induction rule generalizing parser with
  | done value => rfl
  | fail error => rfl
  | fault cause => rfl
  | read expected later ih => exact ih _ _
  | look expected place allowEnd later ih => exact ih _ _
  | ignore expected later ih =>
      rw [bind, run, run]
      cases parser.ignore expected with
      | error cause => rfl
      | ok outcome => exact ih _ _
  | inspect later ih => exact ih _ _ _
  | delegate production later ih =>
      rw [bind, run, run]
      obtain ⟨verdict, left⟩ := call production parser
      cases verdict with
      | done value => exact ih _ _
      | failed error => exact ih _ _
      | fault cause => rfl

variable {tokens : List Token}

/-- A rule and what follows it on the tokens that it leaves. -/
theorem Recognizes.bind {rule : Rule Ast α} {next : α → Rule Ast β}
    {reads : α → List Token → Prop} {later : α → List Token → β → List Token → Prop}
    (first : Recognizes tokens (rule.run preferences call) reads)
    (second : ∀ value rest, reads value rest →
      Recognizes rest ((next value).run preferences call) (later value rest)) :
    Recognizes tokens ((rule >>= next).run preferences call) fun value rest =>
      ∃ middle between, reads middle between ∧ later middle between value rest := by
  intro parser left value rest
  rw [Rule.run_bind]
  have reached := first parser left
  generalize rule.run preferences call parser = outcome at reached ⊢
  obtain ⟨verdict, behind⟩ := outcome
  constructor
  · intro ended
    cases verdict with
    | done middle =>
        have front := (reached middle behind.stream.toList).mp ⟨rfl, rfl⟩
        exact ⟨middle, _, front, (second middle _ front behind rfl value rest).mp ended⟩
    | failed error => cases ended.1
    | fault cause => cases ended.1
  · rintro ⟨middle, between, front, back⟩
    obtain ⟨done, same⟩ := (reached middle between).mpr front
    cases done
    exact (second middle between front behind same value rest).mpr back

theorem recognizes_return (value : α) :
    Recognizes tokens ((return value : Rule Ast α).run preferences call)
      fun result rest => result = value ∧ rest = tokens := by
  rintro parser rfl result rest
  change Verdict.done value = Verdict.done result ∧ parser.stream.toList = rest ↔ _
  rw [Verdict.done.injEq]
  exact and_congr eq_comm eq_comm

theorem recognizes_fail (error : ParseError) :
    Recognizes tokens ((Rule.fail error : Rule Ast α).run preferences call) fun _ _ => False := by
  intro parser _ value rest
  constructor
  · rintro ⟨done, -⟩
    cases done
  · exact False.elim

theorem recognizes_expect (expected : Expected) :
    Recognizes tokens ((Rule.expect expected : Rule Ast Token).run preferences call)
      fun token rest => tokens = token :: rest ∧ expected.accepts token = true := by
  rintro parser rfl token rest
  rw [Rule.expect, Rule.run]
  refine Iff.trans ?_ (@Parsing.read_eq_ok_iff _ _ preferences expected parser token rest)
  generalize parser.read preferences expected = answered
  obtain ⟨answer, left⟩ := answered
  cases answer with
  | ok front =>
      change Verdict.done front = Verdict.done token ∧ _ ↔ Except.ok front = Except.ok token ∧ _
      rw [Verdict.done.injEq, Except.ok.injEq]
      rfl
  | error error =>
      constructor
      · rintro ⟨done, -⟩
        cases done
      · rintro ⟨done, -⟩
        cases done

theorem recognizes_call {production : ν} {reads : Ast production → List Token → Prop}
    (called : Recognizes tokens (call production) reads) :
    Recognizes tokens ((Rule.call production : Rule Ast _).run preferences call) reads := by
  intro parser left value rest
  rw [← called parser left value rest, Rule.call, Rule.run]
  obtain ⟨verdict, behind⟩ := call production parser
  cases verdict with
  | done value => rfl
  | failed error => rfl
  | fault cause => rfl

variable {reads : β → List Token → Prop}

theorem recognizes_remaining {next : Nat → Rule Ast β}
    (later : Recognizes tokens ((next tokens.length).run preferences call) reads) :
    Recognizes tokens ((Rule.remaining >>= next).run preferences call) reads := by
  rintro parser rfl value rest
  rw [TokenStream.length_toList] at later
  exact later parser rfl value rest

theorem recognizes_endOfTokens {next : Bool → Rule Ast β}
    (later : Recognizes tokens ((next tokens.isEmpty).run preferences call) reads) :
    Recognizes tokens ((Rule.endOfTokens 0 >>= next).run preferences call) reads := by
  rintro parser rfl value rest
  have ended : parser.stream.toList.isEmpty = decide (parser.stream.length ≤ 0) := by
    rw [← TokenStream.length_toList]
    cases parser.stream.toList with
    | nil => rfl
    | cons token later => rfl
  rw [ended] at later
  exact later parser rfl value rest

theorem recognizes_skip {expected : Expected} (named : expected.isWildcard = false)
    {next : Bool → Rule Ast β}
    (later : Recognizes (tokens.dropWhile expected.accepts)
      ((next !(tokens.takeWhile expected.accepts).isEmpty).run preferences call) reads) :
    Recognizes tokens ((Rule.skip expected >>= next).run preferences call) reads := by
  rintro parser rfl value rest
  have asked : (Rule.skip expected >>= next : Rule Ast β) = .ignore expected next := rfl
  obtain ⟨left, ignored, behind⟩ := @Parsing.exists_ignore_eq_ok _ expected parser named
  rw [asked, Rule.run, ignored]
  exact later left behind value rest

theorem recognizes_skip_of_starts {expected : Expected} (named : expected.isWildcard = false)
    (starts : expected.Starts tokens) {next : Bool → Rule Ast β}
    (later : Recognizes (tokens.dropWhile expected.accepts) ((next true).run preferences call)
      reads) :
    Recognizes tokens ((Rule.skip expected >>= next).run preferences call) reads := by
  cases tokens with
  | nil => cases starts
  | cons token behind =>
      refine recognizes_skip named ?_
      rwa [List.takeWhile_cons_of_pos starts]

theorem recognizes_skip_of_not_starts {expected : Expected} (named : expected.isWildcard = false)
    (stops : ¬expected.Starts tokens) {next : Bool → Rule Ast β}
    (later : Recognizes tokens ((next false).run preferences call) reads) :
    Recognizes tokens ((Rule.skip expected >>= next).run preferences call) reads := by
  cases tokens with
  | nil => exact recognizes_skip named later
  | cons token behind =>
      refine recognizes_skip named ?_
      rwa [List.takeWhile_cons_of_neg stops, List.dropWhile_cons_of_neg stops]

theorem recognizes_expect_of_accepts {expected : Expected} {token : Token} {behind : List Token}
    {next : Token → Rule Ast β} (accepted : expected.accepts token = true)
    (later : Recognizes behind ((next token).run preferences call) reads) :
    Recognizes (token :: behind) ((Rule.expect expected >>= next).run preferences call) reads := by
  have reached : ∀ front rest, token :: behind = front :: rest ∧ expected.accepts front = true →
      Recognizes rest ((next front).run preferences call) reads := by
    rintro front rest ⟨⟨⟩, -⟩
    exact later
  refine ((recognizes_expect expected).bind reached).congr fun value rest => ?_
  constructor
  · rintro ⟨front, between, -, read⟩
    exact read
  · intro read
    exact ⟨token, behind, ⟨rfl, accepted⟩, read⟩

theorem recognizes_look_of_accepts {expected : Expected} {allowEnd : Bool} {token : Token}
    {behind : List Token} {next : Except ParseError Token → Rule Ast β}
    (accepted : expected.accepts token = true)
    (later : Recognizes (token :: behind) ((next (.ok token)).run preferences call) reads) :
    Recognizes (token :: behind) ((Rule.look expected 0 allowEnd next).run preferences call)
      reads := by
  intro parser left value rest
  have same := Parsing.stream_look preferences expected parser 0 allowEnd
  have found : (parser.look preferences expected 0 allowEnd).1 = .ok token :=
    Parsing.look_eq_ok_iff.mpr (.inr ⟨by rw [left]; rfl, accepted⟩)
  rw [Rule.run]
  generalize parser.look preferences expected 0 allowEnd = answered at same found ⊢
  obtain ⟨answer, after⟩ := answered
  cases found
  exact later after ((congrArg TokenStream.toList same).trans left) value rest

theorem recognizes_look_of_not_starts {expected : Expected} {allowEnd : Bool}
    {next : Except ParseError Token → Rule Ast β} (refused : ¬expected.Starts tokens)
    (failed : ∀ error, Recognizes tokens ((next (.error error)).run preferences call) reads)
    (ended : allowEnd = true →
      Recognizes tokens ((next (.ok .endOfTokens)).run preferences call) reads) :
    Recognizes tokens ((Rule.look expected 0 allowEnd next).run preferences call) reads := by
  rintro parser rfl value rest
  have same := Parsing.stream_look preferences expected parser 0 allowEnd
  have found := @Parsing.look_eq_ok_iff _ _ preferences expected parser 0 allowEnd
  rw [Rule.run]
  generalize parser.look preferences expected 0 allowEnd = answered at same found ⊢
  obtain ⟨answer, after⟩ := answered
  have unchanged := congrArg TokenStream.toList same
  cases answer with
  | error error => exact failed error after unchanged value rest
  | ok token =>
      rcases found.mp rfl with ⟨⟨allowed, -⟩, rfl⟩ | ⟨front, accepted⟩
      · exact ended allowed after unchanged value rest
      · refine absurd ?_ refused
        rw [← List.head?_eq_getElem?] at front
        obtain ⟨behind, parts⟩ := List.head?_eq_some_iff.mp front
        rw [parts]
        exact accepted

theorem Grammar.recognizes_runProduction {grammar : Grammar ν} {levels : Nat} {production : ν}
    {reads : grammar.Ast production → List Token → Prop}
    (recognizes : Recognizes tokens ((grammar.rule production).run preferences
      (grammar.runProduction preferences levels)) reads) :
    Recognizes tokens (grammar.runProduction preferences (levels + 1) production) reads := by
  rintro parser rfl value rest
  have entered := Parsing.stream_enter preferences parser (grammar.name production)
  exact recognizes _ (congrArg TokenStream.toList entered) value rest

end

end CssSelector
