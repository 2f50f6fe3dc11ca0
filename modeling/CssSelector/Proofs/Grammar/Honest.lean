import CssSelector.Grammar.Script
import CssSelector.Proofs.Parse.Honest

/-!
# The grammars of selectors and of scripts are honest

Rules that are put together from the primitive questions by sequencing, attempts and violations at
tokens that were given as answers are honest.
-/

set_option autoImplicit false

namespace CssSelector

namespace Rule

variable {ν : Type} {Ast : ν → Type} {α β : Type} {known : Token → Prop}
  {results : (production : ν) → Ast production → Prop}

theorem Honest.bind {rule : Rule Ast α} {next : α → Rule Ast β} {between : α → Prop}
    {holds : β → Prop} (first : rule.Honest known results between)
    (second : ∀ value, between value → (next value).Honest known results holds) :
    (rule >>= next).Honest known results holds := by
  change (rule.bind next).Honest known results holds
  induction rule with
  | done value => exact second value first
  | fail error => exact first
  | fault cause => exact True.intro
  | read expected later ih => exact fun answer answers => ih answer (first answer answers)
  | look expected place allowEnd later ih =>
      exact fun answer answers => ih answer (first answer answers)
  | ignore expected later ih => exact fun answer => ih answer (first answer)
  | inspect later ih =>
      exact fun stream depth knows => ih stream depth (first stream depth knows)
  | delegate production later ih =>
      exact fun answer answers => ih answer (first answer answers)

theorem Honest.attempt {rule : Rule Ast α} {holds : α → Prop}
    (honest : rule.Honest known results holds) :
    rule.attempt.Honest known results (AnswersWith known holds) := by
  induction rule with
  | done value => exact honest
  | fail error => exact honest
  | fault cause => exact True.intro
  | read expected later ih => exact fun answer answers => ih answer (honest answer answers)
  | look expected place allowEnd later ih =>
      exact fun answer answers => ih answer (honest answer answers)
  | ignore expected later ih => exact fun answer => ih answer (honest answer)
  | inspect later ih =>
      exact fun stream depth knows => ih stream depth (honest stream depth knows)
  | delegate production later ih =>
      exact fun answer answers => ih answer (honest answer answers)

theorem honest_propagate {holds : α → Prop} (answer : Except ParseError α)
    (answers : AnswersWith known holds answer) :
    (propagate answer : Rule Ast α).Honest known results holds := by
  cases answer with
  | ok value => exact answers
  | error error => exact answers

theorem honest_expect (expected : Expected) :
    (expect expected : Rule Ast Token).Honest known results known := honest_propagate

theorem honest_lookahead (expected : Expected) (place : Nat) (allowEnd : Bool) :
    (lookahead expected place allowEnd : Rule Ast Token).Honest known results known :=
  honest_propagate

theorem honest_endOfTokens (place : Nat) :
    (endOfTokens place : Rule Ast Bool).Honest known results fun _ => True :=
  fun _ _ _ => True.intro

theorem honest_skip (expected : Expected) :
    (skip expected : Rule Ast Bool).Honest known results fun _ => True := fun _ => True.intro

theorem honest_remaining : (remaining : Rule Ast Nat).Honest known results fun _ => True :=
  fun _ _ _ => True.intro

theorem honest_call (production : ν) :
    (call production : Rule Ast (Ast production)).Honest known results (results production) :=
  honest_propagate

theorem honest_violation {holds : α → Prop} {token : Token} (member : known token)
    (reason : String) : (violation reason token : Rule Ast α).Honest known results holds := by
  unfold violation
  split
  · next span covered => exact ⟨token, member, covered⟩
  · exact True.intro

theorem honest_return {holds : α → Prop} {value : α} (fits : holds value) :
    (return value : Rule Ast α).Honest known results holds := fits

end Rule

namespace SelectorProduction

open Rule

variable {ν : Type} {Result : ν → Type} {known : Token → Prop}
  {results : (production : ν) → Result production → Prop}

theorem honest_typeRule :
    (typeRule : Rule Result String).Honest known results fun _ => True :=
  (honest_expect _).bind fun _ _ => honest_return True.intro

theorem honest_attributeRule :
    (attributeRule : Rule Result SimpleSelector).Honest known results fun _ => True :=
  (honest_expect _).bind fun _ _ => (honest_expect _).bind fun _ _ =>
    (honest_expect _).bind fun _ _ => honest_return True.intro

theorem honest_compoundParts {bracketed : Rule Result SimpleSelector}
    (honest : bracketed.Honest known results fun _ => True) (fuel : Nat) (reversed : Compound) :
    (compoundParts bracketed fuel reversed).Honest known results fun _ => True := by
  induction fuel generalizing reversed with
  | zero => exact honest_return True.intro
  | succ fuel ih =>
      intro answer answers
      cases answer with
      | error error =>
          dsimp only
          split
          · exact answers
          · exact honest_return True.intro
      | ok token =>
          dsimp only
          split
          · exact honest_return True.intro
          · split
            · exact honest.bind fun _ _ => ih _
            · exact (honest_expect _).bind fun _ _ => ih _

theorem honest_compoundRule {bracketed : Rule Result SimpleSelector}
    (honest : bracketed.Honest known results fun _ => True) :
    (compoundRule bracketed).Honest known results fun _ => True :=
  honest_remaining.bind fun _ _ => honest_compoundParts honest _ _

theorem honest_sequenceRest {compound : Rule Result Compound}
    (honest : compound.Honest known results fun _ => True) (fuel : Nat)
    (reversed : CompoundSequence) :
    (sequenceRest compound fuel reversed).Honest known results fun _ => True := by
  induction fuel generalizing reversed with
  | zero => exact honest_return True.intro
  | succ fuel ih =>
      refine (honest_skip _).bind fun dropped _ => ?_
      split
      · exact honest.bind fun _ _ => ih _
      · exact honest_return True.intro

theorem honest_listRest {compound : Rule Result Compound}
    (honest : compound.Honest known results fun _ => True) (fuel : Nat)
    (reversed : List CompoundSequence) :
    (listRest compound fuel reversed).Honest known results fun _ => True := by
  induction fuel generalizing reversed with
  | zero => exact honest_return True.intro
  | succ fuel ih =>
      refine honest.bind fun first _ => honest_remaining.bind fun count _ => ?_
      refine (honest_sequenceRest honest _ _).bind fun sequence _ => ?_
      refine (honest_endOfTokens 0).bind fun ended _ => ?_
      split
      · exact honest_return True.intro
      · exact (honest_expect _).bind fun _ _ => ih _

theorem honest_listRule {compound : Rule Result Compound}
    (honest : compound.Honest known results fun _ => True) :
    (listRule compound).Honest known results fun _ => True :=
  honest_remaining.bind fun _ _ => honest_listRest honest _ _

theorem honest_pairRule {type : Rule Result String}
    (honest : type.Honest known results fun _ => True) :
    (pairRule type).Honest known results fun _ => True :=
  honest.bind fun _ _ => (honest_expect _).bind fun _ _ => honest_return True.intro

theorem honest_structuralRule :
    (structuralRule : Rule Result (String × String)).Honest known results fun _ => True := by
  refine (honest_expect _).bind fun type _ => (honest_expect _).bind fun pseudo member => ?_
  split
  · exact honest_return True.intro
  · exact honest_violation member _

end SelectorProduction

open SelectorProduction in
theorem honest_selectorGrammar : selectorGrammar.Honest := by
  intro known _
  refine ⟨fun _ _ => True, ?_⟩
  have called (production : SelectorProduction) :
      (Rule.call production : Rule SelectorProduction.Ast _).Honest known (fun _ _ => True)
        fun _ => True := Rule.honest_call production
  intro production
  cases production with
  | typeName => exact honest_typeRule
  | attributeTest => exact honest_attributeRule
  | compound => exact honest_compoundRule (called .attributeTest)
  | list => exact honest_listRule (called .compound)
  | pair => exact honest_pairRule (called .typeName)
  | structural => exact honest_structuralRule
  | runaway => exact called .runaway

namespace ScriptStep

open Rule

variable {known : Token → Prop}

theorem honest_callValue (production : ScriptProduction) :
    (callValue production).Honest known (fun _ _ => True) fun _ => True :=
  (honest_call production).bind fun _ _ => honest_return True.intro

theorem honest_failureValue (error : ParseError) :
    (failureValue error).Honest known (fun _ _ => True) fun _ => True := by
  unfold failureValue
  split
  · exact honest_return True.intro
  · exact True.intro

theorem honest_rule (step : ScriptStep) :
    step.rule.Honest known (fun _ _ => True) fun _ => True := by
  match step with
  | read expected => exact (honest_expect expected).bind fun _ _ => honest_return True.intro
  | look expected place allowEnd =>
      exact (honest_lookahead expected place allowEnd).bind fun _ _ => honest_return True.intro
  | peek expected =>
      exact (honest_lookahead expected 0 false).bind fun _ _ => honest_return True.intro
  | endOfTokens place =>
      exact (honest_endOfTokens place).bind fun _ _ => honest_return True.intro
  | ignore expected => exact (honest_skip expected).bind fun _ _ => honest_return True.intro
  | remaining => exact honest_remaining.bind fun _ _ => honest_return True.intro
  | depth => exact fun _ _ _ => True.intro
  | tokens => exact fun _ _ _ => True.intro
  | describe => exact fun _ _ _ => True.intro
  | violation reason =>
      exact (honest_lookahead .anything 0 false).bind fun _ member => honest_violation member reason
  | delegate production => exact honest_callValue (.selector production)
  | script name steps => exact honest_callValue (.script name steps)
  | nest levels steps => exact honest_callValue (.nest levels steps)
  | attempt step =>
      refine (honest_rule step).attempt.bind fun answer _ => ?_
      cases answer with
      | ok value => exact honest_return True.intro
      | error error => exact honest_failureValue error

theorem honest_body (steps : List ScriptStep) :
    (body steps).Honest known (fun _ _ => True) fun _ => True := by
  induction steps with
  | nil => exact honest_return True.intro
  | cons step later ih =>
      exact (honest_rule step).bind fun _ _ => ih.bind fun _ _ => honest_return True.intro

end ScriptStep

open SelectorProduction in
theorem honest_scriptGrammar : scriptGrammar.Honest := by
  intro known _
  refine ⟨fun _ _ => True, ?_⟩
  have called (production : ScriptProduction) :
      (Rule.call production : Rule ScriptProduction.Ast _).Honest known (fun _ _ => True)
        fun _ => True := Rule.honest_call production
  intro production
  cases production with
  | selector production =>
      cases production with
      | typeName => exact honest_typeRule
      | attributeTest => exact honest_attributeRule
      | compound => exact honest_compoundRule (called (.selector .attributeTest))
      | list => exact honest_listRule (called (.selector .compound))
      | pair => exact honest_pairRule (called (.selector .typeName))
      | structural => exact honest_structuralRule
      | runaway => exact called (.selector .runaway)
  | script name steps => exact ScriptStep.honest_body steps
  | nest levels steps =>
      cases levels with
      | zero => exact ScriptStep.honest_body steps
      | succ levels => exact called (.nest levels steps)

end CssSelector
