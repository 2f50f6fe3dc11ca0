import CssSelector.Grammar.Selector
import CssSelector.Proofs.Parse.Conservation

/-!
# The number of active rules

Delegating makes one more rule active, and at most `maxDelegationDepth` rules are active at once.
The number is kept by hand, next to the tokens that rules consume: it is the same before and behind
every delegation, and only a delegation at the limit is refused, `delegation_depth`. So rules that
delegate to each other for ever come to an end.
-/

set_option autoImplicit false

namespace CssSelector

/-- A rule that delegates on and on: it removes no token, passes every error of a delegation on,
and delegates only to endless productions, or to passing ones, which may come to an end. What it
looks at are the tokens of a stream. -/
def Rule.Idles {ν : Type} {Ast : ν → Type} {α : Type} (preferences : ParsePreferences)
    (stream : TokenStream) (endless passing : ν → Prop) (mayEnd : Prop) : Rule Ast α → Prop
  | done _ => mayEnd
  | fail _ => False
  | fault _ => False
  | read _ _ => False
  | look expected place allowEnd next =>
      ∀ parser : Parser, parser.stream = stream →
        (next (parser.look preferences expected place allowEnd).1).Idles preferences stream
          endless passing mayEnd
  | ignore expected next =>
      expected.isWildcard = false ∧ stream.countWhile expected.names = 0 ∧
        (next false).Idles preferences stream endless passing mayEnd
  | inspect next => ∀ depth, (next stream depth).Idles preferences stream endless passing mayEnd
  | delegate production next =>
      (∀ error, next (.error error) = fail error) ∧
        (endless production ∨
          passing production ∧
            ∀ value, (next (.ok value)).Idles preferences stream endless passing mayEnd)

/-- Productions that delegate to each other without bound. -/
structure Grammar.Loops {ν : Type} (grammar : Grammar ν) (preferences : ParsePreferences)
    (stream : TokenStream) (endless passing : ν → Prop) : Prop where
  endless_rule : ∀ production, endless production →
    (grammar.rule production).Idles preferences stream endless passing False
  passing_rule : ∀ production, passing production →
    (grammar.rule production).Idles preferences stream endless passing True

variable {ν : Type} {grammar : Grammar ν} {preferences : ParsePreferences}

/-! ## Depths along a path -/

namespace Grammar

theorem Acts.depth_le {before after : Parser} {action : ParseAction ν}
    (acts : grammar.Acts preferences before action after)
    (bounded : before.depth ≤ maxDelegationDepth) : after.depth ≤ maxDelegationDepth := by
  cases acts with
  | read expected => rwa [Parsing.depth_read]
  | look expected place allowEnd => rwa [Parsing.depth_look]
  | ignore ignored => rwa [(Parsing.ignore_eq_ok ignored).2]
  | inspect => exact bounded
  | enter production room => rwa [Parsing.depth_enter]
  | refuse production full => exact bounded
  | leave production same => exact Nat.le_trans (Nat.sub_le _ _) bounded

theorem Acts.depth_lt_of_enter {before after : Parser} {callee : ν}
    (acts : grammar.Acts preferences before (.enter callee) after) :
    before.depth < maxDelegationDepth := by
  cases acts with
  | enter _ room => exact room

theorem Acts.eq_of_refuse {before after : Parser} {callee : ν} {error : ParseError}
    (acts : grammar.Acts preferences before (.refuse callee error) after) :
    maxDelegationDepth ≤ before.depth ∧ error = .delegationTooDeep (before.depth + 1) ∧
      after = before := by
  cases acts with
  | refuse _ full => exact ⟨full, rfl, rfl⟩

theorem Acts.depth_of_leave {before after caller : Parser} {callee : ν}
    (acts : grammar.Acts preferences before (.leave callee caller) after) :
    after.depth = caller.depth := by
  cases acts with
  | leave _ same => exact Nat.sub_eq_of_eq_add same

theorem Path.depth_le {first last : Parser} {steps : List (ParseStep ν)}
    (path : grammar.Path preferences first steps last)
    (bounded : first.depth ≤ maxDelegationDepth) :
    ∀ step ∈ steps, step.before.depth ≤ maxDelegationDepth := by
  induction path with
  | nil parser => simp
  | cons acts _ ih =>
      intro step member
      rcases List.mem_cons.mp member with rfl | later
      · exact bounded
      · exact ih (acts.depth_le bounded) step later

/-! ## Delegating by the number of active rules -/

theorem delegate_of_le {production : ν} {parser : Parser}
    (full : maxDelegationDepth ≤ parser.depth) :
    grammar.delegate preferences production parser =
      (.failed (.delegationTooDeep (parser.depth + 1)), parser) := by
  rw [delegate, Nat.sub_eq_zero_of_le full]
  rfl

end Grammar

/-- A run depends on how productions are run by parsers at its own depth only. -/
theorem Rule.run_congr {α : Type} (rule : Rule grammar.Ast α)
    {call other : (production : ν) → Parser →
      Verdict ParseError (grammar.Ast production) × Parser} {depth : Nat}
    (agree : ∀ production parser, parser.depth = depth →
      call production parser = other production parser)
    (balanced : ∀ production parser, parser.depth = depth →
      (other production parser).2.depth = depth)
    {parser : Parser} (active : parser.depth = depth) :
    rule.run preferences call parser = rule.run preferences other parser := by
  induction rule generalizing parser with
  | done value => rfl
  | fail error => rfl
  | fault cause => rfl
  | read expected next ih =>
      exact ih _ ((Parsing.depth_read preferences expected parser).trans active)
  | look expected place allowEnd next ih =>
      exact ih _ ((Parsing.depth_look preferences expected parser place allowEnd).trans active)
  | ignore expected next ih =>
      rw [run, run]
      cases ignored : parser.ignore expected with
      | error cause => rfl
      | ok outcome =>
          have unchanged : outcome.2.depth = depth := by
            rw [(Parsing.ignore_eq_ok ignored).2]
            exact active
          exact ih outcome.1 unchanged
  | inspect next ih => exact ih _ _ active
  | delegate production next ih =>
      rw [run, run, agree production parser active]
      have returned := balanced production parser active
      generalize other production parser = outcome at returned ⊢
      obtain ⟨verdict, left⟩ := outcome
      cases verdict with
      | done value => exact ih (.ok value) returned
      | failed error => exact ih (.error error) returned
      | fault cause => rfl

/-- Below the limit a production is run with one more rule active, and what it delegates to is run
in the same way. -/
theorem Grammar.delegate_of_lt {production : ν} {parser : Parser}
    (room : parser.depth < maxDelegationDepth) :
    grammar.delegate preferences production parser =
      match (grammar.rule production).run preferences (grammar.delegate preferences)
        (parser.enter preferences (grammar.name production)) with
      | (verdict, left) => (verdict, left.leave) := by
  have levels : maxDelegationDepth - parser.depth =
      maxDelegationDepth - (parser.depth + 1) + 1 := by omega
  rw [delegate, levels, runProduction]
  have agree : ∀ callee (inner : Parser), inner.depth = parser.depth + 1 →
      grammar.runProduction preferences (maxDelegationDepth - (parser.depth + 1)) callee inner =
        grammar.delegate preferences callee inner := by
    intro callee inner active
    rw [delegate, active]
  rw [Rule.run_congr (grammar.rule production) agree
    (fun callee inner active => (grammar.delegate_path preferences callee inner).2.trans active)
    (Parsing.depth_enter preferences parser (grammar.name production))]

/-! ## Endless delegation -/

/-- A run that leaves the stream and the number of active rules as they were. It fails at the
limit, unless it may come to an end. -/
def Stalls {α : Type} (first : Parser) (mayEnd : Prop)
    (outcome : Verdict ParseError α × Parser) : Prop :=
  outcome.2.stream = first.stream ∧ outcome.2.depth = first.depth ∧
    (outcome.1 = .failed (.delegationTooDeep (maxDelegationDepth + 1)) ∨
      mayEnd ∧ ∃ value, outcome.1 = .done value)

theorem Rule.run_stalls {α : Type} {rule : Rule grammar.Ast α}
    {call : (production : ν) → Parser → Verdict ParseError (grammar.Ast production) × Parser}
    {first : Parser} {endless passing : ν → Prop} {mayEnd : Prop}
    (idles : rule.Idles preferences first.stream endless passing mayEnd)
    (calls : ∀ production parser, parser.stream = first.stream → parser.depth = first.depth →
      (endless production → Stalls parser False (call production parser)) ∧
        (passing production → Stalls parser True (call production parser)))
    {parser : Parser} (same : parser.stream = first.stream) (active : parser.depth = first.depth) :
    Stalls first mayEnd (rule.run preferences call parser) := by
  induction rule generalizing parser with
  | done value => exact ⟨same, active, .inr ⟨idles, value, rfl⟩⟩
  | fail error => cases idles
  | fault cause => cases idles
  | read expected next ih => cases idles
  | look expected place allowEnd next ih =>
      exact ih _ (idles parser same)
        ((Parsing.stream_look preferences expected parser place allowEnd).trans same)
        ((Parsing.depth_look preferences expected parser place allowEnd).trans active)
  | ignore expected next ih =>
      obtain ⟨named, nothing, later⟩ := idles
      rw [← same] at nothing
      rw [run, Parsing.ignore_of_none named nothing]
      exact ih false later same active
  | inspect next ih =>
      rw [run, same]
      exact ih _ _ (idles parser.depth) same active
  | delegate production next ih =>
      obtain ⟨passesOn, continues⟩ := idles
      obtain ⟨stops, ends⟩ := calls production parser same active
      rw [run]
      generalize call production parser = outcome at stops ends ⊢
      obtain ⟨verdict, left⟩ := outcome
      rcases continues with isEndless | ⟨isPassing, later⟩
      · obtain ⟨sameLeft, activeLeft, failed | ⟨never, -⟩⟩ := stops isEndless
        · cases failed
          dsimp only
          rw [passesOn]
          exact ⟨sameLeft.trans same, activeLeft.trans active, .inl rfl⟩
        · cases never
      · obtain ⟨sameLeft, activeLeft, failed | ⟨-, value, returned⟩⟩ := ends isPassing
        · cases failed
          dsimp only
          rw [passesOn]
          exact ⟨sameLeft.trans same, activeLeft.trans active, .inl rfl⟩
        · cases returned
          exact ih (.ok value) (later value) (sameLeft.trans same) (activeLeft.trans active)

theorem Stalls.leave {α : Type} {parser : Parser} {name : String} {mayEnd : Prop}
    {outcome : Verdict ParseError α × Parser}
    (stalls : Stalls (parser.enter preferences name) mayEnd outcome) :
    Stalls parser mayEnd (outcome.1, outcome.2.leave) := by
  obtain ⟨same, active, ends⟩ := stalls
  rw [Parsing.stream_enter] at same
  rw [Parsing.depth_enter] at active
  exact ⟨same, Nat.sub_eq_of_eq_add active, ends⟩

theorem Grammar.runProduction_stalls {stream : TokenStream} {endless passing : ν → Prop}
    (loops : grammar.Loops preferences stream endless passing) {levels : Nat} (production : ν)
    {parser : Parser} (same : parser.stream = stream)
    (room : levels + parser.depth = maxDelegationDepth) :
    (endless production →
        Stalls parser False (grammar.runProduction preferences levels production parser)) ∧
      (passing production →
        Stalls parser True (grammar.runProduction preferences levels production parser)) := by
  induction levels generalizing production parser with
  | zero =>
      have refused : ∀ mayEnd,
          Stalls parser mayEnd (grammar.runProduction preferences 0 production parser) := by
        intro mayEnd
        refine ⟨rfl, rfl, .inl ?_⟩
        rw [← room, Nat.zero_add]
        rfl
      exact ⟨fun _ => refused False, fun _ => refused True⟩
  | succ levels ih =>
      have entered : (parser.enter preferences (grammar.name production)).stream = stream :=
        (Parsing.stream_enter preferences parser _).trans same
      have deeper := Parsing.depth_enter preferences parser (grammar.name production)
      have stalls : ∀ mayEnd,
          (grammar.rule production).Idles preferences stream endless passing mayEnd →
          Stalls parser mayEnd
            (grammar.runProduction preferences (levels + 1) production parser) := by
        intro mayEnd idles
        rw [← entered] at idles
        refine (Rule.run_stalls idles ?_ rfl rfl).leave
        intro callee inner sameInner active
        exact ih callee (sameInner.trans entered) (by omega)
      exact ⟨fun member => stalls False (loops.endless_rule production member),
        fun member => stalls True (loops.passing_rule production member)⟩

/-- Delegation is balanced and bounded. It ends with as many active rules as it started with, and
so does every delegation inside. At no step are more than `maxDelegationDepth` rules active; at the
limit, and only there, delegating is refused, which leaves everything as it was. Productions that
delegate to each other without bound fail at the limit, on the stream they started on. -/
theorem delegation_depth {ν : Type} (grammar : Grammar ν) (preferences : ParsePreferences)
    (production : ν) (parser : Parser) (bounded : parser.depth ≤ maxDelegationDepth) :
    (grammar.delegate preferences production parser).2.depth = parser.depth ∧
      (∀ step ∈ grammar.delegateSteps preferences production parser,
        step.before.depth ≤ maxDelegationDepth ∧ step.after.depth ≤ maxDelegationDepth ∧
          (∀ callee, step.action = .enter callee → step.before.depth < maxDelegationDepth) ∧
          (∀ callee error, step.action = .refuse callee error →
            step.before.depth = maxDelegationDepth ∧
              error = .delegationTooDeep (maxDelegationDepth + 1) ∧ step.after = step.before) ∧
          ∀ callee caller, step.action = .leave callee caller →
            step.after.depth = caller.depth) ∧
      (parser.depth < maxDelegationDepth →
        grammar.delegate preferences production parser =
          match (grammar.rule production).run preferences (grammar.delegate preferences)
            (parser.enter preferences (grammar.name production)) with
          | (verdict, left) => (verdict, left.leave)) ∧
      (parser.depth = maxDelegationDepth →
        grammar.delegate preferences production parser =
          (.failed (.delegationTooDeep (maxDelegationDepth + 1)), parser)) ∧
      ∀ endless passing : ν → Prop,
        grammar.Loops preferences parser.stream endless passing → endless production →
        ∃ left,
          grammar.delegate preferences production parser =
              (.failed (.delegationTooDeep (maxDelegationDepth + 1)), left) ∧
            left.stream = parser.stream ∧ left.depth = parser.depth := by
  obtain ⟨path, balanced⟩ := grammar.delegate_path preferences production parser
  refine ⟨balanced, ?_, Grammar.delegate_of_lt, ?_, ?_⟩
  · intro step member
    have before := path.depth_le bounded step member
    have acts := path.acts_of_mem member
    refine ⟨before, acts.depth_le before, ?_, ?_, ?_⟩
    · intro callee entering
      rw [entering] at acts
      exact acts.depth_lt_of_enter
    · intro callee error refusing
      rw [refusing] at acts
      obtain ⟨full, rfl, same⟩ := acts.eq_of_refuse
      have limit := Nat.le_antisymm before full
      exact ⟨limit, by rw [limit], same⟩
    · intro callee caller leaving
      rw [leaving] at acts
      exact acts.depth_of_leave
  · intro full
    rw [Grammar.delegate_of_le (Nat.le_of_eq full.symm), full]
  · intro endless passing loops member
    obtain ⟨stalls, -⟩ := Grammar.runProduction_stalls loops production rfl
      (Nat.sub_add_cancel bounded)
    obtain ⟨same, active, failed | ⟨never, -⟩⟩ := stalls member
    · exact ⟨_, Prod.ext failed rfl, same, active⟩
    · cases never

/-- A production that only delegates to itself stops at the limit. -/
theorem delegation_depth_of_runaway :
    3 ≤ maxDelegationDepth ∧
      selectorGrammar.Loops {} (.ofList [⟨.typeSelector, 0, "E"⟩]) (· = .runaway) (fun _ => False) ∧
      ∃ left,
        selectorGrammar.delegate {} .runaway
            ({ stream := .ofList [⟨.typeSelector, 0, "E"⟩], depth := 3, events := #[] } : Parser) =
          (.failed (.delegationTooDeep 129), left) ∧
        left.stream = .ofList [⟨.typeSelector, 0, "E"⟩] ∧ left.depth = 3 := by
  have loops : selectorGrammar.Loops {} (.ofList [⟨.typeSelector, 0, "E"⟩]) (· = .runaway)
      (fun _ => False) := by
    constructor
    · rintro production rfl
      exact ⟨fun _ => rfl, .inl rfl⟩
    · rintro production ⟨⟩
  have bounded : 3 ≤ maxDelegationDepth := by decide
  refine ⟨bounded, loops, ?_⟩
  obtain ⟨-, -, -, -, stops⟩ := delegation_depth selectorGrammar {} .runaway
    { stream := .ofList [⟨.typeSelector, 0, "E"⟩], depth := 3, events := #[] } bounded
  exact stops _ _ loops rfl

end CssSelector
