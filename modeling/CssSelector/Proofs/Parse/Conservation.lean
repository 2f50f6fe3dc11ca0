import CssSelector.Proofs.Parse.Steps

/-!
# Parsing loses no token

A parser removes tokens from the front only, and never puts one back. At any time the tokens that
were removed, in the order of their removal, and the tokens that are left make up the stream at the
start, whatever the rules do about errors, `parsing_conserves_tokens`.
-/

set_option autoImplicit false

namespace CssSelector

namespace ParseAction

variable {ν : Type}

/-- The tokens that an action removes: those that reading returns and those that are ignored. -/
def removed : ParseAction ν → List Token
  | read _ (.ok token) => [token]
  | ignore _ dropped => dropped
  | _ => []

/-- Whether an action only looks at the tokens: all do but successful reading and ignoring. -/
def observes : ParseAction ν → Bool
  | read _ (.ok _) => false
  | ignore _ _ => false
  | _ => true

theorem removed_of_observes {action : ParseAction ν}
    (observes : action.observes = true) : action.removed = [] := by
  cases action with
  | read expected answer =>
      cases answer with
      | ok token => cases observes
      | error error => rfl
  | ignore expected dropped => cases observes
  | look expected place allowEnd answer => rfl
  | inspect => rfl
  | enter production => rfl
  | refuse production error => rfl
  | leave production caller => rfl

end ParseAction

/-- The tokens that steps remove, one step after the other. -/
def removedTokens {ν : Type} (steps : List (ParseStep ν)) : List Token :=
  steps.flatMap (·.action.removed)

namespace Grammar

variable {ν : Type} {grammar : Grammar ν} {preferences : ParsePreferences}

theorem Acts.stream_eq {before after : Parser} {action : ParseAction ν}
    (acts : grammar.Acts preferences before action after) (observes : action.observes = true) :
    after.stream = before.stream := by
  cases acts with
  | read expected =>
      cases answered : (before.read preferences expected).1 with
      | ok token =>
          rw [answered] at observes
          cases observes
      | error error => exact Parsing.stream_read_of_error answered
  | look expected place allowEnd =>
      exact Parsing.stream_look preferences expected before place allowEnd
  | ignore ignored => cases observes
  | inspect => rfl
  | enter production room => exact Parsing.stream_enter preferences before _
  | refuse production full => rfl
  | leave production same => rfl

theorem Acts.conserves {before after : Parser} {action : ParseAction ν}
    (acts : grammar.Acts preferences before action after) :
    action.removed ++ after.stream.toList = before.stream.toList := by
  cases quiet : action.observes with
  | true => rw [ParseAction.removed_of_observes quiet, acts.stream_eq quiet, List.nil_append]
  | false =>
      cases acts with
      | read expected =>
          cases answered : (before.read preferences expected).1 with
          | ok token => exact (Parsing.read_eq_ok_iff.mp ⟨answered, rfl⟩).1.symm
          | error error =>
              rw [answered] at quiet
              cases quiet
      | ignore ignored =>
          rw [(Parsing.ignore_eq_ok ignored).2, TokenStream.toList_drop, ParseAction.removed,
            TokenStream.take_eq]
          exact List.take_append_drop _ _
      | look | inspect | enter | refuse | leave => cases quiet

theorem Path.conserves {first last : Parser} {steps : List (ParseStep ν)}
    (path : grammar.Path preferences first steps last) :
    removedTokens steps ++ last.stream.toList = first.stream.toList := by
  induction path with
  | nil parser => rfl
  | cons acts _ ih =>
      rw [removedTokens, List.flatMap_cons, List.append_assoc]
      exact (congrArg _ ih).trans acts.conserves

theorem Path.length_le {first last : Parser} {steps : List (ParseStep ν)}
    (path : grammar.Path preferences first steps last) :
    last.stream.length ≤ first.stream.length := by
  have parts := congrArg List.length path.conserves
  rw [List.length_append, TokenStream.length_toList, TokenStream.length_toList] at parts
  rw [← parts]
  exact Nat.le_add_left _ _

theorem Path.acts_of_mem {first last : Parser} {steps : List (ParseStep ν)}
    (path : grammar.Path preferences first steps last) {step : ParseStep ν}
    (member : step ∈ steps) : grammar.Acts preferences step.before step.action step.after := by
  induction path with
  | nil parser => cases member
  | cons acts _ ih =>
      rcases List.mem_cons.mp member with rfl | later
      · exact acts
      · exact ih later

theorem stream_parse (production : ν) (stream : TokenStream) :
    (grammar.parse preferences production stream).stream =
      (grammar.delegate preferences production (Parser.start stream)).2.stream := by
  unfold parse parseInto
  split
  · next ended => rw [ended]
  · next ended =>
      rw [ended]
      split <;> rfl
  · next ended => rw [ended]

end Grammar

/-- Whatever a rule does, in a parser or as the entry of a parse, the tokens that it removes and
those that it leaves are the tokens that were there, in order; and it removes tokens only by
reading one that is expected and by ignoring some. -/
theorem parsing_conserves_tokens {ν : Type} (grammar : Grammar ν) (preferences : ParsePreferences) :
    (∀ (α : Type) (rule : Rule grammar.Ast α) (parser : Parser),
      removedTokens (grammar.ruleSteps preferences rule parser) ++
          (grammar.runRule preferences rule parser).2.stream.toList = parser.stream.toList ∧
        ∀ step ∈ grammar.ruleSteps preferences rule parser, step.action.observes = true →
          step.after.stream = step.before.stream) ∧
      ∀ (production : ν) (stream : TokenStream),
        let outcome := grammar.parse preferences production stream
        let steps := grammar.delegateSteps preferences production (.start stream)
        removedTokens steps ++ outcome.stream.toList = stream.toList ∧
          (∀ step ∈ steps, step.action.observes = true → step.after.stream = step.before.stream) ∧
          outcome.stream.length ≤ stream.length ∧
          stream.length - outcome.stream.length = (removedTokens steps).length ∧
          outcome.stream.toList <:+ stream.toList := by
  constructor
  · intro α rule parser
    obtain ⟨path, -⟩ := grammar.runRule_path preferences rule parser
    exact ⟨path.conserves, fun step member => (path.acts_of_mem member).stream_eq⟩
  · intro production stream
    dsimp only
    obtain ⟨path, -⟩ := grammar.delegate_path preferences production (.start stream)
    have parts := path.conserves
    rw [← Grammar.stream_parse] at parts
    have lengths := congrArg List.length parts
    rw [List.length_append, TokenStream.length_toList, TokenStream.length_toList] at lengths
    have start : (Parser.start stream).stream.length = stream.length := rfl
    refine ⟨parts, fun step member => (path.acts_of_mem member).stream_eq, by omega, by omega, ?_⟩
    exact ⟨_, parts⟩

end CssSelector
