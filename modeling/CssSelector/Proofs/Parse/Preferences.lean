import CssSelector.Proofs.Parse.Access

/-!
# Parsing under different preferences

Parsers that differ in nothing but their log answer every question alike, whatever preferences say
about the log, and stay so. By induction over the rule, and over the rules that may still become
active, two runs agree in their verdicts and in the tokens that they leave: `parse_preferences`.
-/

set_option autoImplicit false

namespace CssSelector

/-- Parsers that may differ in their log. -/
structure Parsing.Alike (left right : Parser) : Prop where
  stream : left.stream = right.stream
  depth : left.depth = right.depth

/-- Outcomes that agree, with parsers that may differ in their log. -/
structure Agree {α : Type} (left right : α × Parser) : Prop where
  result : left.1 = right.1
  alike : left.2.Alike right.2

namespace Parsing.Alike

variable {left right : Parser}

theorem logMismatch (alike : left.Alike right) (first second : ParsePreferences)
    (error : ParseError) (place : Nat) :
    (left.logMismatch first error place).Alike (right.logMismatch second error place) := by
  unfold Parsing.logMismatch
  constructor
  · split <;> split <;> exact alike.stream
  · split <;> split <;> exact alike.depth

theorem tokenAt (alike : left.Alike right) (expected : Expected) (place : Nat) :
    left.tokenAt expected place = right.tokenAt expected place := by
  simp only [Parsing.tokenAt, Parsing.mismatch, alike.stream]

theorem read (alike : left.Alike right) (first second : ParsePreferences) (expected : Expected) :
    Agree (left.read first expected) (right.read second expected) := by
  simp only [read_eq, alike.tokenAt expected 0]
  cases right.tokenAt expected 0 with
  | error error => exact ⟨rfl, alike.logMismatch first second error 0⟩
  | ok token => exact ⟨rfl, congrArg (·.drop 1) alike.stream, alike.depth⟩

theorem look (alike : left.Alike right) (first second : ParsePreferences) (expected : Expected)
    (place : Nat) (allowEnd : Bool) :
    Agree (left.look first expected place allowEnd)
      (right.look second expected place allowEnd) := by
  have ended : left.endOfTokens place = right.endOfTokens place := by
    rw [Parsing.endOfTokens, Parsing.endOfTokens, alike.stream]
  rw [look_eq, look_eq, alike.tokenAt expected place, ended]
  by_cases allowed : (allowEnd && right.endOfTokens place) = true
  · rw [if_pos allowed, if_pos allowed]
    exact ⟨rfl, alike⟩
  · rw [if_neg allowed, if_neg allowed]
    cases right.tokenAt expected place with
    | error error => exact ⟨rfl, alike.logMismatch first second error place⟩
    | ok token => exact ⟨rfl, alike⟩

theorem ignore (alike : left.Alike right) (expected : Expected) :
    (∃ cause, left.ignore expected = .error cause ∧ right.ignore expected = .error cause) ∨
      ∃ answer leftNext rightNext, left.ignore expected = .ok (answer, leftNext) ∧
        right.ignore expected = .ok (answer, rightNext) ∧ leftNext.Alike rightNext := by
  simp only [Parsing.ignore, alike.stream]
  split
  · exact .inl ⟨_, rfl, rfl⟩
  · exact .inr ⟨_, _, _, rfl, rfl, rfl, alike.depth⟩

theorem enter (alike : left.Alike right) (first second : ParsePreferences) (name : String) :
    (left.enter first name).Alike (right.enter second name) := by
  simp only [Parsing.enter]
  constructor
  · split <;> split <;> exact alike.stream
  · split <;> split <;> exact congrArg (· + 1) alike.depth

theorem leave (alike : left.Alike right) : left.leave.Alike right.leave :=
  ⟨alike.stream, congrArg (· - 1) alike.depth⟩

end Parsing.Alike

variable {ν : Type} {grammar : Grammar ν}

/-- Two runs of a rule agree if the productions that it delegates to do. -/
theorem Rule.run_alike {α : Type} (rule : Rule grammar.Ast α) (first second : ParsePreferences)
    {call called : (production : ν) → Parser → Verdict ParseError (grammar.Ast production) × Parser}
    (calls : ∀ production left right, Parsing.Alike left right →
      Agree (call production left) (called production right))
    {left right : Parser} (alike : left.Alike right) :
    Agree (rule.run first call left) (rule.run second called right) := by
  induction rule generalizing left right with
  | done value => exact ⟨rfl, alike⟩
  | fail error => exact ⟨rfl, alike⟩
  | fault cause => exact ⟨rfl, alike⟩
  | read expected next ih =>
      have answers := alike.read first second expected
      simp only [run, answers.result]
      apply ih
      exact answers.alike
  | look expected place allowEnd next ih =>
      have answers := alike.look first second expected place allowEnd
      simp only [run, answers.result]
      apply ih
      exact answers.alike
  | ignore expected next ih =>
      rcases alike.ignore expected with
        ⟨cause, broken, alsoBroken⟩ | ⟨_, _, _, taken, alsoTaken, kept⟩
      · simp only [run, broken, alsoBroken]
        exact ⟨rfl, alike⟩
      · simp only [run, taken, alsoTaken]
        apply ih
        exact kept
  | inspect next ih =>
      simp only [run, alike.stream, alike.depth]
      apply ih
      exact alike
  | delegate production next ih =>
      have returned := calls production left right alike
      simp only [run]
      generalize call production left = reached at returned ⊢
      generalize called production right = alsoReached at returned ⊢
      obtain ⟨verdict, leftNext⟩ := reached
      obtain ⟨other, rightNext⟩ := alsoReached
      obtain ⟨same, kept⟩ := returned
      cases same
      cases verdict with
      | done value =>
          apply ih
          exact kept
      | failed error =>
          apply ih
          exact kept
      | fault cause => exact ⟨rfl, kept⟩

namespace Grammar

variable (grammar) in
theorem runProduction_alike (first second : ParsePreferences) (levels : Nat) (production : ν)
    (left right : Parser) (alike : left.Alike right) :
    Agree (grammar.runProduction first levels production left)
      (grammar.runProduction second levels production right) := by
  induction levels generalizing production left right with
  | zero =>
      simp only [runProduction, alike.depth]
      exact ⟨rfl, alike⟩
  | succ levels ih =>
      have entered := alike.enter first second (grammar.name production)
      have ran := (grammar.rule production).run_alike first second ih entered
      exact ⟨ran.result, ran.alike.leave⟩

variable (grammar) in
theorem delegate_alike (first second : ParsePreferences) (production : ν) {left right : Parser}
    (alike : left.Alike right) :
    Agree (grammar.delegate first production left) (grammar.delegate second production right) := by
  unfold delegate
  rw [alike.depth]
  apply runProduction_alike
  exact alike

/-- Two parses of one stream under different preferences come to the same, and leave the same
tokens. -/
theorem parse_preferences (grammar : Grammar ν) (first second : ParsePreferences) (production : ν)
    (stream : TokenStream) :
    (grammar.parse first production stream).verdict =
        (grammar.parse second production stream).verdict ∧
      (grammar.parse first production stream).stream =
        (grammar.parse second production stream).stream := by
  have same : (Parser.start stream).Alike (Parser.start stream) := ⟨rfl, rfl⟩
  have ran := grammar.delegate_alike first second production same
  simp only [parse, parseInto]
  generalize grammar.delegate first production (Parser.start stream) = reached at ran ⊢
  generalize grammar.delegate second production (Parser.start stream) = alsoReached at ran ⊢
  obtain ⟨verdict, leftNext⟩ := reached
  obtain ⟨other, rightNext⟩ := alsoReached
  obtain ⟨equal, kept⟩ := ran
  cases equal
  cases verdict with
  | done value => exact ⟨rfl, kept.stream⟩
  | failed error =>
      dsimp only
      split
      · exact ⟨rfl, kept.stream⟩
      · exact ⟨rfl, kept.stream⟩
  | fault cause => exact ⟨rfl, kept.stream⟩

end Grammar

end CssSelector
