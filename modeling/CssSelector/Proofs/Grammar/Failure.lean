import CssSelector.Grammar.Script
import CssSelector.Proofs.Parse.Failure

/-!
# The grammars of selectors and of scripts stop at errors

Rules that are put together by sequencing stop at errors if their parts do. So do all rules of
selectors, and scripts without attempts. A compound may end, with a result, where no part of it can
start; that is an error too, and nothing is asked behind it.
-/

set_option autoImplicit false

namespace CssSelector

namespace Rule

variable {ν : Type} {Ast : ν → Type} {α β : Type} {productions : ν → Prop} {mayRecover : Prop}

theorem StopsFor.bind {rule : Rule Ast α} {error : ParseError} (stops : rule.StopsFor error False)
    (next : α → Rule Ast β) : (rule.bind next).StopsFor error mayRecover := by
  cases rule with
  | done value => cases stops
  | fail own => exact stops
  | fault cause => exact True.intro
  | read | look | ignore | inspect | delegate => cases stops

/-- In a sequence only the last rule may have a result in spite of an error. -/
theorem StopsAtErrors.bind {rule : Rule Ast α} {next : α → Rule Ast β}
    (first : rule.StopsAtErrors productions False)
    (second : ∀ value, (next value).StopsAtErrors productions mayRecover) :
    (rule >>= next).StopsAtErrors productions mayRecover := by
  change (rule.bind next).StopsAtErrors productions mayRecover
  induction rule with
  | done value => exact second value
  | fail own => exact first
  | fault cause => exact True.intro
  | read expected later ih =>
      obtain ⟨ends, continues⟩ := first
      exact ⟨fun error => (ends error).bind next, fun token => ih _ (continues token)⟩
  | look expected place allowEnd later ih =>
      obtain ⟨ends, continues⟩ := first
      exact ⟨fun error => (ends error).bind next, fun token => ih _ (continues token)⟩
  | ignore expected later ih => exact fun answer => ih answer (first answer)
  | inspect later ih => exact fun stream depth => ih stream depth (first stream depth)
  | delegate production later ih =>
      obtain ⟨known, ends, continues⟩ := first
      exact ⟨known, fun error => (ends error).bind next, fun value => ih _ (continues value)⟩

theorem stopsFor_propagate (error : ParseError) :
    (propagate (.error error) : Rule Ast α).StopsFor error mayRecover := .inl rfl

theorem stopsAtErrors_return (value : α) :
    (return value : Rule Ast α).StopsAtErrors productions mayRecover := True.intro

theorem stopsAtErrors_expect (expected : Expected) :
    (expect expected : Rule Ast Token).StopsAtErrors productions mayRecover :=
  ⟨stopsFor_propagate, stopsAtErrors_return⟩

theorem stopsAtErrors_lookahead (expected : Expected) (place : Nat) (allowEnd : Bool) :
    (lookahead expected place allowEnd : Rule Ast Token).StopsAtErrors productions mayRecover :=
  ⟨stopsFor_propagate, stopsAtErrors_return⟩

theorem stopsAtErrors_endOfTokens (place : Nat) :
    (endOfTokens place : Rule Ast Bool).StopsAtErrors productions mayRecover :=
  fun _ _ => True.intro

theorem stopsAtErrors_skip (expected : Expected) :
    (skip expected : Rule Ast Bool).StopsAtErrors productions mayRecover := fun _ => True.intro

theorem stopsAtErrors_remaining :
    (remaining : Rule Ast Nat).StopsAtErrors productions mayRecover := fun _ _ => True.intro

theorem stopsAtErrors_call {production : ν} (known : productions production) :
    (call production : Rule Ast (Ast production)).StopsAtErrors productions mayRecover :=
  ⟨known, stopsFor_propagate, stopsAtErrors_return⟩

theorem stopsAtErrors_violation (reason : String) (token : Token) :
    (violation reason token : Rule Ast α).StopsAtErrors productions mayRecover := by
  unfold violation
  split
  · exact rfl
  · exact True.intro

end Rule

namespace SelectorProduction

open Rule

variable {ν : Type} {Result : ν → Type} {productions : ν → Prop}

theorem stopsAtErrors_typeRule :
    (typeRule : Rule Result String).StopsAtErrors productions True :=
  (stopsAtErrors_expect _).bind fun _ => stopsAtErrors_return _

theorem stopsAtErrors_attributeRule :
    (attributeRule : Rule Result SimpleSelector).StopsAtErrors productions True :=
  (stopsAtErrors_expect _).bind fun _ => (stopsAtErrors_expect _).bind fun _ =>
    (stopsAtErrors_expect _).bind fun _ => stopsAtErrors_return _

theorem stopsAtErrors_compoundParts {bracketed : Rule Result SimpleSelector}
    (stops : bracketed.StopsAtErrors productions False) (fuel : Nat) (reversed : Compound) :
    (compoundParts bracketed fuel reversed).StopsAtErrors productions True := by
  induction fuel generalizing reversed with
  | zero => exact stopsAtErrors_return _
  | succ fuel ih =>
      refine ⟨fun error => ?_, fun token => ?_⟩
      · dsimp only
        split
        · exact .inl rfl
        · exact True.intro
      · dsimp only
        split
        · exact stopsAtErrors_return _
        · split
          · exact stops.bind fun part => ih (part :: reversed)
          · exact (stopsAtErrors_expect _).bind fun next => ih _

theorem stopsAtErrors_compoundRule {bracketed : Rule Result SimpleSelector}
    (stops : bracketed.StopsAtErrors productions False) :
    (compoundRule bracketed).StopsAtErrors productions True :=
  stopsAtErrors_remaining.bind fun _ => stopsAtErrors_compoundParts stops _ _

theorem stopsAtErrors_sequenceRest {compound : Rule Result Compound}
    (stops : compound.StopsAtErrors productions False) (fuel : Nat)
    (reversed : CompoundSequence) :
    (sequenceRest compound fuel reversed).StopsAtErrors productions False := by
  induction fuel generalizing reversed with
  | zero => exact stopsAtErrors_return _
  | succ fuel ih =>
      refine (stopsAtErrors_skip _).bind fun dropped => ?_
      split
      · exact stops.bind fun next => ih (next :: reversed)
      · exact stopsAtErrors_return _

theorem stopsAtErrors_listRest {compound : Rule Result Compound}
    (stops : compound.StopsAtErrors productions False) (fuel : Nat)
    (reversed : List CompoundSequence) :
    (listRest compound fuel reversed).StopsAtErrors productions True := by
  induction fuel generalizing reversed with
  | zero => exact stopsAtErrors_return _
  | succ fuel ih =>
      refine stops.bind fun first => stopsAtErrors_remaining.bind fun count => ?_
      refine (stopsAtErrors_sequenceRest stops _ _).bind fun sequence => ?_
      refine (stopsAtErrors_endOfTokens 0).bind fun ended => ?_
      split
      · exact stopsAtErrors_return _
      · exact (stopsAtErrors_expect _).bind fun _ => ih (sequence :: reversed)

theorem stopsAtErrors_listRule {compound : Rule Result Compound}
    (stops : compound.StopsAtErrors productions False) :
    (listRule compound).StopsAtErrors productions True :=
  stopsAtErrors_remaining.bind fun _ => stopsAtErrors_listRest stops _ _

theorem stopsAtErrors_pairRule {type : Rule Result String}
    (stops : type.StopsAtErrors productions False) :
    (pairRule type).StopsAtErrors productions True :=
  stops.bind fun _ => (stopsAtErrors_expect _).bind fun _ => stopsAtErrors_return _

theorem stopsAtErrors_structuralRule :
    (structuralRule : Rule Result (String × String)).StopsAtErrors productions True := by
  refine (stopsAtErrors_expect _).bind fun type => (stopsAtErrors_expect _).bind fun pseudo => ?_
  split
  · exact stopsAtErrors_return _
  · exact stopsAtErrors_violation _ _

end SelectorProduction

open Rule SelectorProduction in
theorem stopsAtErrors_selectorGrammar : selectorGrammar.StopsAtErrors fun _ => True := by
  intro production _
  cases production with
  | typeName => exact stopsAtErrors_typeRule
  | attributeTest => exact stopsAtErrors_attributeRule
  | compound => exact stopsAtErrors_compoundRule (stopsAtErrors_call True.intro)
  | list => exact stopsAtErrors_listRule (stopsAtErrors_call True.intro)
  | pair => exact stopsAtErrors_pairRule (stopsAtErrors_call True.intro)
  | structural => exact stopsAtErrors_structuralRule
  | runaway => exact stopsAtErrors_call True.intro

/-! ## Scripts without attempts -/

namespace ScriptStep

mutual

/-- Whether a step, and every step of the scripts it delegates to, is more than an attempt. -/
def Strict : ScriptStep → Prop
  | attempt _ => False
  | script _ steps => AllStrict steps
  | nest _ steps => AllStrict steps
  | _ => True

def AllStrict : List ScriptStep → Prop
  | [] => True
  | step :: later => step.Strict ∧ AllStrict later

end

end ScriptStep

/-- Productions of selectors, and scripts without attempts. -/
def ScriptProduction.Strict : ScriptProduction → Prop
  | selector _ => True
  | script _ steps => ScriptStep.AllStrict steps
  | nest _ steps => ScriptStep.AllStrict steps

namespace ScriptStep

open Rule

theorem stopsAtErrors_callValue {production : ScriptProduction} (strict : production.Strict) :
    (callValue production).StopsAtErrors ScriptProduction.Strict False :=
  (stopsAtErrors_call strict).bind fun _ => stopsAtErrors_return _

theorem stopsAtErrors_rule {step : ScriptStep} (strict : step.Strict) :
    step.rule.StopsAtErrors ScriptProduction.Strict False := by
  cases step with
  | read expected => exact (stopsAtErrors_expect expected).bind fun _ => stopsAtErrors_return _
  | look expected place allowEnd =>
      exact (stopsAtErrors_lookahead expected place allowEnd).bind fun _ => stopsAtErrors_return _
  | peek expected =>
      exact (stopsAtErrors_lookahead expected 0 false).bind fun _ => stopsAtErrors_return _
  | endOfTokens place =>
      exact (stopsAtErrors_endOfTokens place).bind fun _ => stopsAtErrors_return _
  | ignore expected => exact (stopsAtErrors_skip expected).bind fun _ => stopsAtErrors_return _
  | remaining => exact stopsAtErrors_remaining.bind fun _ => stopsAtErrors_return _
  | depth => exact fun _ _ => True.intro
  | tokens => exact fun _ _ => True.intro
  | describe => exact fun _ _ => True.intro
  | violation reason =>
      exact (stopsAtErrors_lookahead .anything 0 false).bind fun token =>
        stopsAtErrors_violation reason token
  | delegate production => exact stopsAtErrors_callValue True.intro
  | script name steps =>
      exact @stopsAtErrors_callValue (.script name steps) strict
  | nest levels steps =>
      exact @stopsAtErrors_callValue (.nest levels steps) strict
  | attempt step => cases strict

theorem stopsAtErrors_body {steps : List ScriptStep} {mayRecover : Prop}
    (strict : AllStrict steps) :
    (body steps).StopsAtErrors ScriptProduction.Strict mayRecover := by
  induction steps generalizing mayRecover with
  | nil => exact stopsAtErrors_return _
  | cons step later ih =>
      obtain ⟨first, others⟩ := strict
      exact (stopsAtErrors_rule first).bind fun _ => (ih others).bind fun _ =>
        stopsAtErrors_return _

end ScriptStep

open Rule SelectorProduction in
theorem stopsAtErrors_scriptGrammar : scriptGrammar.StopsAtErrors ScriptProduction.Strict := by
  intro production strict
  have called (production : SelectorProduction) {mayRecover : Prop} :
      (Rule.call (ScriptProduction.selector production) :
        Rule ScriptProduction.Ast _).StopsAtErrors ScriptProduction.Strict mayRecover :=
    stopsAtErrors_call True.intro
  cases production with
  | selector production =>
      cases production with
      | typeName => exact stopsAtErrors_typeRule
      | attributeTest => exact stopsAtErrors_attributeRule
      | compound => exact stopsAtErrors_compoundRule (called .attributeTest)
      | list => exact stopsAtErrors_listRule (called .compound)
      | pair => exact stopsAtErrors_pairRule (called .typeName)
      | structural => exact stopsAtErrors_structuralRule
      | runaway => exact called .runaway
  | script name steps => exact ScriptStep.stopsAtErrors_body strict
  | nest levels steps =>
      cases levels with
      | zero => exact ScriptStep.stopsAtErrors_body strict
      | succ levels => exact stopsAtErrors_call strict

end CssSelector
