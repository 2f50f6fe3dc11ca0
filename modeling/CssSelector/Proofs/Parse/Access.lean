import CssSelector.Parse.Basic

/-!
# Two ways to a token

Reading tests the place at the front and then removes what is there; looking fetches the token at a
place and then tests it. Both come to the same, `tokenAt`: the token at a place if it is expected,
and else the error for the place. What they do to the parser apart from that is in `read_eq` and
`look_eq`.
-/

set_option autoImplicit false

namespace CssSelector

namespace Parsing

variable {σ : Type}

/-- The token at a place, if it is expected. -/
def tokenAt (parser : Parsing σ) (expected : Expected) (place : Nat) : Except ParseError Token :=
  match parser.stream.get? place with
  | some token =>
      if expected.accepts token then .ok token else .error (parser.mismatch expected place)
  | none => .error (parser.mismatch expected place)

variable [EventLog σ] (preferences : ParsePreferences) (expected : Expected) (parser : Parsing σ)

theorem read_eq :
    parser.read preferences expected =
      match parser.tokenAt expected 0 with
      | .ok token => (.ok token, { parser with stream := parser.stream.drop 1 })
      | .error error => (.error error, parser.logMismatch preferences error 0) := by
  rw [read, matchesAt, TokenStream.popFront?, TokenStream.front?, tokenAt]
  cases parser.stream.get? 0 with
  | none => rfl
  | some token =>
      rw [Option.any_some]
      by_cases accepted : expected.accepts token = true
      · simp only [if_pos accepted, Option.map_some]
      · simp only [if_neg accepted, refuse]

theorem look_eq (place : Nat) (allowEnd : Bool) :
    parser.look preferences expected place allowEnd =
      if allowEnd && parser.endOfTokens place then (.ok .endOfTokens, parser)
      else
        match parser.tokenAt expected place with
        | .ok token => (.ok token, parser)
        | .error error => (.error error, parser.logMismatch preferences error place) := by
  rw [look, tokenAt]
  cases parser.stream.get? place with
  | none => rfl
  | some token =>
      by_cases accepted : expected.accepts token = true
      · simp only [if_pos accepted]
      · simp only [if_neg accepted, refuse]

@[simp]
theorem stream_logMismatch (error : ParseError) (place : Nat) :
    (parser.logMismatch preferences error place).stream = parser.stream := by
  unfold logMismatch
  split <;> rfl

@[simp]
theorem depth_logMismatch (error : ParseError) (place : Nat) :
    (parser.logMismatch preferences error place).depth = parser.depth := by
  unfold logMismatch
  split <;> rfl

@[simp]
theorem stream_enter (name : String) : (parser.enter preferences name).stream = parser.stream := by
  unfold enter
  dsimp only
  split <;> rfl

@[simp]
theorem depth_enter (name : String) :
    (parser.enter preferences name).depth = parser.depth + 1 := by
  unfold enter
  dsimp only
  split <;> rfl

end Parsing

end CssSelector
