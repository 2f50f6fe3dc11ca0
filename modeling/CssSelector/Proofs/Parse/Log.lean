import CssSelector.Proofs.Log.Event
import CssSelector.Proofs.Parse.Conservation

/-!
# What a parse logs

Each step of a parser logs a trace message or nothing, so tokens that do not match leave no other
mark in the log, also if a rule goes on regardless. A parse logs one event at its end: that it is
done, or its error.
-/

set_option autoImplicit false

namespace CssSelector

/-- The event at the end of a parse by a rule with a name: how many tokens were consumed and are
left, or the error with its span. -/
inductive ParseConcludes {α : Type} (name : String) (count left : Nat) :
    Verdict ParseError α → Array Event → Prop
  | done {value : α} {consumed : Nat} {event : Event} : consumed + left = count →
      event.Tells .info .parsed
        [("grammar", name), ("consumed", toString consumed), ("remaining", toString left)] →
      ParseConcludes name count left (.done value) #[event]
  | failed {error : ParseError} {event : Event} :
      event.Tells .error error.code [("grammar", name)] → error.span = .ok event.span →
      ParseConcludes name count left (.failed error) #[event]
  | fault (cause : Fault) : ParseConcludes name count left (.fault cause) #[]

theorem Parsing.traces_logMismatch {parser : Parser} (traces : Traces parser.events)
    (preferences : ParsePreferences) (error : ParseError) (place : Nat) :
    Traces (parser.logMismatch preferences error place).events := by
  unfold logMismatch
  split
  · exact traces.push (Event.level_withDetails _ _)
  · exact traces

namespace Grammar

variable {ν : Type} {grammar : Grammar ν} {preferences : ParsePreferences}

theorem Acts.traces {parser next : Parser} {action : ParseAction ν}
    (acts : grammar.Acts preferences parser action next) (traces : Traces parser.events) :
    Traces next.events := by
  cases acts with
  | read expected =>
      rw [Parsing.read_eq]
      split
      · exact traces
      · exact Parsing.traces_logMismatch traces _ _ _
  | look expected place allowEnd =>
      rw [Parsing.look_eq]
      split
      · exact traces
      · split
        · exact traces
        · exact Parsing.traces_logMismatch traces _ _ _
  | ignore ignored =>
      rw [(Parsing.ignore_eq_ok ignored).2]
      exact traces
  | inspect => exact traces
  | enter production room =>
      unfold Parsing.enter
      dsimp only
      split
      · exact traces.push (Event.level_withDetails _ _)
      · exact traces
  | refuse production full => exact traces
  | leave production active => exact traces

theorem Path.traces {parser last : Parser} {steps : List (ParseStep ν)}
    (path : grammar.Path preferences parser steps last) (traces : Traces parser.events) :
    Traces last.events := by
  induction path with
  | nil => exact traces
  | cons acts _ ih =>
      apply ih
      exact acts.traces traces

theorem parse_log (grammar : Grammar ν) (preferences : ParsePreferences) (production : ν)
    (stream : TokenStream) :
    let outcome := grammar.parse preferences production stream
    ∃ traced last, Traces traced ∧ outcome.events = traced ++ last ∧
      ParseConcludes (grammar.name production) stream.length outcome.stream.length outcome.verdict
        last := by
  have started : Traces (Parser.start stream).events := Traces.empty.push rfl
  obtain ⟨path, -⟩ := grammar.delegate_path preferences production (.start stream)
  have ran := path.traces started
  have fewer := path.length_le
  rw [parse, parseInto]
  generalize grammar.delegate preferences production (Parser.start stream) = reached at ran fewer ⊢
  obtain ⟨verdict, parser⟩ := reached
  cases verdict with
  | done value =>
      have distinct : (["grammar", "consumed", "remaining"] : List String).Nodup := by decide
      have told := @Event.tells_withDetails
        [("grammar", grammar.name production),
         ("consumed", toString (stream.length - parser.stream.length)),
         ("remaining", toString parser.stream.length)]
        distinct (.success .parsed "Selector parsed")
      exact ⟨parser.events, _, ran, rfl, .done (Nat.sub_add_cancel fewer) told⟩
  | failed error =>
      dsimp only
      cases covered : error.span with
      | ok span =>
          obtain ⟨told, shown⟩ :=
            Event.tells_error error.code error.message "grammar" (grammar.name production) span
          refine ⟨parser.events, _, ran, rfl, .failed told ?_⟩
          rw [covered, shown]
      | error cause => exact ⟨parser.events, #[], ran, (Array.append_empty).symm, .fault cause⟩
  | fault cause => exact ⟨parser.events, #[], ran, (Array.append_empty).symm, .fault cause⟩

end Grammar

end CssSelector
