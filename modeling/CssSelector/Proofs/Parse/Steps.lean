import CssSelector.Proofs.Parse.Primitive

/-!
# Steps of a parser

A run asks the parser one question after the other, and changes the number of active rules in
between. `Rule.steps` and `Grammar.productionSteps` list what happens in a run, each step with the
parser before and behind it. The list is a path from the first parser to the last one,
`Grammar.runProduction_path`: what single steps keep is kept by the run.
-/

set_option autoImplicit false

namespace CssSelector

/-- What a parser does in one step. -/
inductive ParseAction (ν : Type) where
  | read (expected : Expected) (answer : Except ParseError Token)
  | look (expected : Expected) (place : Nat) (allowEnd : Bool) (answer : Except ParseError Token)
  | ignore (expected : Expected) (dropped : List Token)
  | inspect
  | enter (production : ν)
  | refuse (production : ν) (error : ParseError)
  /-- The rule of a production is done or has failed; it was delegated to by `caller`. -/
  | leave (production : ν) (caller : Parser)

structure ParseStep (ν : Type) where
  before : Parser
  action : ParseAction ν
  after : Parser

/-- The steps of running a rule, given those of running productions. -/
def Rule.steps {ν : Type} {Ast : ν → Type} {α : Type} (preferences : ParsePreferences)
    (call : (production : ν) → Parser → Verdict ParseError (Ast production) × Parser)
    (callSteps : ν → Parser → List (ParseStep ν)) : Rule Ast α → Parser → List (ParseStep ν)
  | done _, _ => []
  | fail _, _ => []
  | fault _, _ => []
  | read expected next, parser =>
      match parser.read preferences expected with
      | (answer, left) =>
          ⟨parser, .read expected answer, left⟩ ::
            steps preferences call callSteps (next answer) left
  | look expected place allowEnd next, parser =>
      match parser.look preferences expected place allowEnd with
      | (answer, left) =>
          ⟨parser, .look expected place allowEnd answer, left⟩ ::
            steps preferences call callSteps (next answer) left
  | ignore expected next, parser =>
      match parser.ignore expected with
      | .ok (answer, left) =>
          let dropped := parser.stream.take (parser.stream.countWhile expected.names)
          ⟨parser, .ignore expected dropped, left⟩ ::
            steps preferences call callSteps (next answer) left
      | .error _ => []
  | inspect next, parser =>
      ⟨parser, .inspect, parser⟩ ::
        steps preferences call callSteps (next parser.stream parser.depth) parser
  | delegate production next, parser =>
      callSteps production parser ++
        match call production parser with
        | (.done value, left) => steps preferences call callSteps (next (.ok value)) left
        | (.failed error, left) => steps preferences call callSteps (next (.error error)) left
        | (.fault _, _) => []

namespace Grammar

variable {ν : Type} (grammar : Grammar ν) (preferences : ParsePreferences)

/-- The steps of running a production. The levels are the rules that may still become active. -/
def productionSteps : (levels : Nat) → ν → Parser → List (ParseStep ν)
  | 0, production, parser =>
      [⟨parser, .refuse production (.delegationTooDeep (parser.depth + 1)), parser⟩]
  | levels + 1, production, parser =>
      let entered := parser.enter preferences (grammar.name production)
      let call := grammar.runProduction preferences levels
      let last := ((grammar.rule production).run preferences call entered).2
      ⟨parser, .enter production, entered⟩ ::
        (grammar.rule production).steps preferences call (productionSteps levels) entered ++
        [⟨last, .leave production parser, last.leave⟩]

/-- The steps of delegating to a production. -/
def delegateSteps (production : ν) (parser : Parser) : List (ParseStep ν) :=
  grammar.productionSteps preferences (maxDelegationDepth - parser.depth) production parser

/-- The steps of running a rule in a parser. -/
def ruleSteps {α : Type} (rule : Rule grammar.Ast α) (parser : Parser) : List (ParseStep ν) :=
  let levels := maxDelegationDepth - parser.depth
  rule.steps preferences (grammar.runProduction preferences levels)
    (grammar.productionSteps preferences levels) parser

/-- What one step does to a parser. -/
inductive Acts : Parser → ParseAction ν → Parser → Prop
  | read (parser : Parser) (expected : Expected) :
      Acts parser (.read expected (parser.read preferences expected).1)
        (parser.read preferences expected).2
  | look (parser : Parser) (expected : Expected) (place : Nat) (allowEnd : Bool) :
      Acts parser
        (.look expected place allowEnd (parser.look preferences expected place allowEnd).1)
        (parser.look preferences expected place allowEnd).2
  | ignore {parser left : Parser} {expected : Expected} {answer : Bool} :
      parser.ignore expected = .ok (answer, left) →
      Acts parser
        (.ignore expected (parser.stream.take (parser.stream.countWhile expected.names))) left
  | inspect (parser : Parser) : Acts parser .inspect parser
  | enter {parser : Parser} (production : ν) : parser.depth < maxDelegationDepth →
      Acts parser (.enter production) (parser.enter preferences (grammar.name production))
  | refuse {parser : Parser} (production : ν) : maxDelegationDepth ≤ parser.depth →
      Acts parser (.refuse production (.delegationTooDeep (parser.depth + 1))) parser
  | leave {parser caller : Parser} (production : ν) : parser.depth = caller.depth + 1 →
      Acts parser (.leave production caller) parser.leave

/-- Steps that start where the step before them ended. -/
inductive Path : Parser → List (ParseStep ν) → Parser → Prop
  | nil (parser : Parser) : Path parser [] parser
  | cons {parser next last : Parser} {action : ParseAction ν} {later : List (ParseStep ν)} :
      grammar.Acts preferences parser action next → Path next later last →
      Path parser (⟨parser, action, next⟩ :: later) last

variable {grammar : Grammar ν} {preferences : ParsePreferences}

theorem Path.append {first middle last : Parser} {left right : List (ParseStep ν)}
    (leading : grammar.Path preferences first left middle)
    (trailing : grammar.Path preferences middle right last) :
    grammar.Path preferences first (left ++ right) last := by
  induction leading with
  | nil => exact trailing
  | cons acts _ ih => exact .cons acts (ih trailing)

end Grammar

/-! ## Runs are paths -/

section

variable {ν : Type} {grammar : Grammar ν} {preferences : ParsePreferences}

/-- The steps of a rule lead to the parser at the end of its run, and as many rules are active
there as at the start, if this holds of the productions it delegates to. -/
theorem Rule.run_path {α : Type} (rule : Rule grammar.Ast α)
    {call : (production : ν) → Parser → Verdict ParseError (grammar.Ast production) × Parser}
    {callSteps : ν → Parser → List (ParseStep ν)} {depth : Nat}
    (calls : ∀ production parser, parser.depth = depth →
      grammar.Path preferences parser (callSteps production parser) (call production parser).2 ∧
        (call production parser).2.depth = depth)
    {parser : Parser} (active : parser.depth = depth) :
    grammar.Path preferences parser (rule.steps preferences call callSteps parser)
        (rule.run preferences call parser).2 ∧
      (rule.run preferences call parser).2.depth = depth := by
  induction rule generalizing parser with
  | done value => exact ⟨.nil parser, active⟩
  | fail error => exact ⟨.nil parser, active⟩
  | fault cause => exact ⟨.nil parser, active⟩
  | read expected next ih =>
      obtain ⟨path, same⟩ := ih (parser.read preferences expected).1
        ((Parsing.depth_read preferences expected parser).trans active)
      exact ⟨.cons (.read parser expected) path, same⟩
  | look expected place allowEnd next ih =>
      obtain ⟨path, same⟩ := ih (parser.look preferences expected place allowEnd).1
        ((Parsing.depth_look preferences expected parser place allowEnd).trans active)
      exact ⟨.cons (.look parser expected place allowEnd) path, same⟩
  | ignore expected next ih =>
      rw [run, steps]
      cases ignored : parser.ignore expected with
      | error cause => exact ⟨.nil parser, active⟩
      | ok outcome =>
          obtain ⟨answer, left⟩ := outcome
          have unchanged : left.depth = depth := by
            rw [(Parsing.ignore_eq_ok ignored).2]
            exact active
          obtain ⟨path, same⟩ := ih answer unchanged
          exact ⟨.cons (.ignore ignored) path, same⟩
  | inspect next ih =>
      obtain ⟨path, same⟩ := ih parser.stream parser.depth active
      exact ⟨.cons (.inspect parser) path, same⟩
  | delegate production next ih =>
      rw [run, steps]
      obtain ⟨inner, returned⟩ := calls production parser active
      generalize call production parser = outcome at inner returned ⊢
      obtain ⟨verdict, left⟩ := outcome
      cases verdict with
      | done value =>
          obtain ⟨path, same⟩ := ih (.ok value) returned
          exact ⟨inner.append path, same⟩
      | failed error =>
          obtain ⟨path, same⟩ := ih (.error error) returned
          exact ⟨inner.append path, same⟩
      | fault cause => exact ⟨inner.append (.nil left), returned⟩

theorem Grammar.runProduction_path {levels : Nat} (production : ν) {parser : Parser}
    (room : levels = maxDelegationDepth - parser.depth) :
    grammar.Path preferences parser (grammar.productionSteps preferences levels production parser)
        (grammar.runProduction preferences levels production parser).2 ∧
      (grammar.runProduction preferences levels production parser).2.depth = parser.depth := by
  induction levels generalizing production parser with
  | zero => exact ⟨.cons (.refuse production (by omega)) (.nil parser), rfl⟩
  | succ levels ih =>
      have entered := Parsing.depth_enter preferences parser (grammar.name production)
      have calls : ∀ callee inner, inner.depth = parser.depth + 1 →
          grammar.Path preferences inner (grammar.productionSteps preferences levels callee inner)
              (grammar.runProduction preferences levels callee inner).2 ∧
            (grammar.runProduction preferences levels callee inner).2.depth = parser.depth + 1 := by
        intro callee inner active
        obtain ⟨path, same⟩ := ih callee (by omega : levels = maxDelegationDepth - inner.depth)
        exact ⟨path, same.trans active⟩
      obtain ⟨path, same⟩ := Rule.run_path (grammar.rule production) calls entered
      have left := path.append (.cons (.leave production same) (.nil _))
      refine ⟨.cons (.enter production (by omega)) left, ?_⟩
      exact Nat.sub_eq_of_eq_add same

theorem Grammar.delegate_path (preferences : ParsePreferences) (production : ν) (parser : Parser) :
    grammar.Path preferences parser (grammar.delegateSteps preferences production parser)
        (grammar.delegate preferences production parser).2 ∧
      (grammar.delegate preferences production parser).2.depth = parser.depth :=
  runProduction_path production rfl

theorem Grammar.runRule_path {α : Type} (preferences : ParsePreferences) (rule : Rule grammar.Ast α)
    (parser : Parser) :
    grammar.Path preferences parser (grammar.ruleSteps preferences rule parser)
        (grammar.runRule preferences rule parser).2 ∧
      (grammar.runRule preferences rule parser).2.depth = parser.depth := by
  refine Rule.run_path rule (fun production inner active => ?_) rfl
  rw [← active]
  exact runProduction_path production rfl

end

end CssSelector
