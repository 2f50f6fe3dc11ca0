import CssSelector.Proofs.Scan.Scanner
import CssSelector.Proofs.Selector.Nesting

/-!
# Statistics of scans of selectors

With the contexts of selectors the tokens tell the statistics: which contexts were opened, and how
deep they were nested. Together with what holds for all families this is `Scanner.scan_metrics`.
-/

set_option autoImplicit false

namespace CssSelector

namespace SelectorContext

/-- How many tokens open a context. -/
def openings (tokens : List Token) : Nat :=
  tokens.countP fun token => (startedBy? token.kind).isSome

/-- The nesting behind a token. -/
def nestingAfter (nesting : Nat) (token : Token) : Nat :=
  if (startedBy? token.kind).isSome then nesting + 1
  else if (endedBy? token.kind).isSome then nesting - 1
  else nesting

/-- The deepest nesting before, between and behind tokens, from a given one on. -/
def deepestNesting : Nat → List Token → Nat
  | nesting, [] => nesting
  | nesting, token :: later => max nesting (deepestNesting (nestingAfter nesting token) later)

/-- The contexts that a scan with a verdict has opened: the outermost one, and one for each token
that opens one, unless the last was refused. -/
def contextsOpened (verdict : Verdict ScanError Nat) (tokens : List Token) : Nat :=
  match verdict with
  | .failed (.contextTooDeep _ _) => openings tokens
  | _ => 1 + openings tokens

theorem openings_cons (token : Token) (later : List Token) :
    openings (token :: later) =
      openings later + if (startedBy? token.kind).isSome then 1 else 0 := List.countP_cons

theorem length_replayToken (context : SelectorContext) (outer : List SelectorContext)
    (token : Token) :
    (replayToken (context :: outer) token).length =
      if (startedBy? token.kind).isSome then outer.length + 2
      else if (endedBy? token.kind).isSome then outer.length
      else outer.length + 1 := by
  unfold replayToken
  cases startedBy? token.kind with
  | some inner => rfl
  | none =>
      dsimp only
      split <;> rfl

variable {preferences : ScanPreferences} {source : Source} {start stop : Nat}

/-- A token counts for one more context unless that is one too many. -/
theorem contextsEntered_metricsAfter {context : SelectorContext} {outer : List SelectorContext}
    {token : Token} (collecting : preferences.collectMetrics = true)
    (depth : outer.length < maxContextDepth) (member : token.kind ∈ context.kinds)
    (metrics : ScanMetrics) :
    (family.metricsAfter preferences context outer token metrics).contextsEntered +
        ((family.contextsAfter context outer token).length - maxContextDepth) =
      metrics.contextsEntered + if (startedBy? token.kind).isSome then 1 else 0 := by
  rw [ContextFamily.metricsAfter, if_pos collecting, contextsAfter_eq_replayToken member,
    length_replayToken]
  by_cases opening : (startedBy? token.kind).isSome = true
  · simp only [if_pos opening]
    split
    · change metrics.contextsEntered + 1 + _ = _
      omega
    · change metrics.contextsEntered + _ = _
      omega
  · simp only [if_neg opening]
    rw [if_neg (by split <;> omega)]
    change metrics.contextsEntered + _ = _
    split <;> omega

/-- Along a trace, contexts are counted by the tokens that open one; one too many is not counted
but is open at the end. -/
theorem contextsEntered_of_trace {opened final : List SelectorContext} {tokens : List Token}
    (collecting : preferences.collectMetrics = true)
    (trace : family.Trace source opened start tokens final stop) (metrics : ScanMetrics) :
    (family.metricsAlong preferences opened tokens metrics).contextsEntered +
        (final.length - maxContextDepth) =
      metrics.contextsEntered + openings tokens + (opened.length - maxContextDepth) := by
  induction trace generalizing metrics with
  | refl =>
      rw [ContextFamily.metricsAlong_nil]
      rfl
  | @step context outer _ _ _ token later depth accepted _ ih =>
      have member := kind_mem_kinds (token?_eq_some_of_accepts accepted)
      have counted := contextsEntered_metricsAfter collecting depth member metrics
      have rest := ih (family.metricsAfter preferences context outer token metrics)
      rw [ContextFamily.metricsAlong, openings_cons, List.length_cons]
      omega

theorem le_deepestNesting (nesting : Nat) (tokens : List Token) :
    nesting ≤ deepestNesting nesting tokens := by
  cases tokens with
  | nil => exact Nat.le_refl _
  | cons token later => exact Nat.le_max_left _ _

theorem length_replayToken_sub_one (context : SelectorContext) (outer : List SelectorContext)
    (token : Token) :
    (replayToken (context :: outer) token).length - 1 = nestingAfter outer.length token := by
  rw [length_replayToken, nestingAfter]
  split
  · rfl
  · split <;> rfl

/-- A context that a token opens is as deep as the token is nested, unless that is too deep. -/
theorem maxContextDepth_metricsAfter {context : SelectorContext} {outer : List SelectorContext}
    {token : Token} (collecting : preferences.collectMetrics = true)
    (depth : outer.length < maxContextDepth) (member : token.kind ∈ context.kinds)
    (metrics : ScanMetrics) (reached : outer.length + 1 ≤ metrics.maxContextDepth) :
    (family.metricsAfter preferences context outer token metrics).maxContextDepth =
      max metrics.maxContextDepth (min (1 + nestingAfter outer.length token) maxContextDepth) := by
  rw [ContextFamily.metricsAfter, if_pos collecting, contextsAfter_eq_replayToken member,
    length_replayToken, nestingAfter]
  by_cases opening : (startedBy? token.kind).isSome = true
  · simp only [if_pos opening]
    split
    · change max metrics.maxContextDepth _ = _
      omega
    · change metrics.maxContextDepth = _
      omega
  · simp only [if_neg opening]
    rw [if_neg (by split <;> omega)]
    change metrics.maxContextDepth = _
    split <;> omega

/-- The depth behind a token is no deeper than what is behind it, and the one before it has been
reached. -/
private theorem max_deepest {reached here next later limit : Nat} (next_le : next ≤ later)
    (here_lt : here + 1 ≤ reached) :
    max (max reached (min (1 + next) limit)) (min (1 + later) limit) =
      max reached (min (1 + max here later) limit) := by
  have covered : min (1 + next) limit ≤ min (1 + later) limit := by omega
  rw [Nat.max_assoc, Nat.max_eq_right covered]
  rcases Nat.le_total later here with less | more
  · rw [Nat.max_eq_left less]
    omega
  · rw [Nat.max_eq_right more]

theorem maxContextDepth_of_trace {opened final : List SelectorContext} {tokens : List Token}
    (collecting : preferences.collectMetrics = true)
    (trace : family.Trace source opened start tokens final stop) (metrics : ScanMetrics)
    (entered : 1 ≤ metrics.maxContextDepth)
    (reached : min opened.length maxContextDepth ≤ metrics.maxContextDepth) :
    (family.metricsAlong preferences opened tokens metrics).maxContextDepth =
      max metrics.maxContextDepth
        (min (1 + deepestNesting (opened.length - 1) tokens) maxContextDepth) := by
  induction trace generalizing metrics with
  | refl =>
      rw [ContextFamily.metricsAlong_nil, deepestNesting]
      omega
  | @step context outer _ _ _ token later depth accepted _ ih =>
      rw [List.length_cons, Nat.min_eq_left depth] at reached
      have member := kind_mem_kinds (token?_eq_some_of_accepts accepted)
      have deepest := maxContextDepth_metricsAfter collecting depth member metrics reached
      have nested := length_replayToken_sub_one context outer token
      rw [contextsAfter_eq_replayToken member] at ih
      have rest := ih (family.metricsAfter preferences context outer token metrics) (by omega)
        (by omega)
      rw [ContextFamily.metricsAlong, contextsAfter_eq_replayToken member, rest, deepest, nested,
        deepestNesting, List.length_cons, Nat.add_sub_cancel]
      exact max_deepest (le_deepestNesting _ later) reached

/-! ## Whole scans -/

/-- The statistics of contexts that the tokens of a scan tell, if it was not refused for the length
of its source. -/
structure NestedLike (verdict : Verdict ScanError Nat) (tokens : List Token)
    (metrics : ScanMetrics) : Prop where
  entered : metrics.contextsEntered = contextsOpened verdict tokens
  depth : metrics.maxContextDepth = min (1 + deepestNesting 0 tokens) maxContextDepth

theorem contextsOpened_eq {verdict : Verdict ScanError Nat}
    (free : ∀ depth place, verdict ≠ .failed (.contextTooDeep depth place)) (tokens : List Token) :
    contextsOpened verdict tokens = 1 + openings tokens := by
  unfold contextsOpened
  split
  · next depth place => exact absurd rfl (free depth place)
  · rfl

theorem scanFrom_nestedLike (root : SelectorContext) (offset : Nat)
    (collecting : preferences.collectMetrics = true) (short : source.length ≤ maxSourceLength) :
    let outcome := family.scanFrom preferences root source offset
    NestedLike outcome.verdict outcome.tokens.toList outcome.metrics := by
  intro outcome
  obtain ⟨final, stop, trace, -, ends⟩ := family.scanFrom_trace preferences root offset short
  have counted : outcome.metrics = _ :=
    ContextFamily.metrics_scanFrom_of_collecting short collecting
  have entered := contextsEntered_of_trace collecting trace (({} : ScanMetrics).recordContext 1)
  have deepest := maxContextDepth_of_trace collecting trace (({} : ScanMetrics).recordContext 1)
    (Nat.le_refl 1) (Nat.le_refl 1)
  rw [← counted] at entered deepest
  constructor
  · change outcome.metrics.contextsEntered + (final.length - maxContextDepth) =
      1 + openings outcome.tokens.toList + 0 at entered
    rcases ends.length_opened with ⟨within, free⟩ | ⟨excess, refused⟩
    · rw [contextsOpened_eq free]
      omega
    · rw [show outcome.verdict = _ from refused, contextsOpened]
      omega
  · rw [deepest]
    change max 1 (min (1 + deepestNesting 0 outcome.tokens.toList) maxContextDepth) = _
    have limit : 1 ≤ maxContextDepth := by decide
    omega

end SelectorContext

namespace Scanner

/-- The statistics of a scanner behind any number of scans agree with the stream. For every family
of contexts, whether the last scan is done or was stopped: the stream got its tokens and nothing
else; the statistics count exactly these tokens, by kind, by class and by bytes; no context is
deeper than contexts were opened, or than allowed; and the scanner is as if there had been no
earlier scan. Without statistics there are none. With the contexts of selectors the tokens tell how
many contexts were opened, and how deep; a source that is too long has no statistics. -/
theorem scan_metrics :
    (∀ {κ : Type} (scanner : Scanner κ) (earlier : List ScanRequest) (request : ScanRequest)
        (stream : TokenStream),
      let before := scanner.scanAll earlier stream
      let (after, left, outcome) := before.1.scan request before.2
      let tokens := outcome.tokens.toList
      left.toList = before.2.toList ++ tokens ∧
        (scanner.preferences.collectMetrics = true →
          after.metrics.Tallies tokens ∧
            after.metrics.maxContextDepth ≤ min after.metrics.contextsEntered maxContextDepth ∧
            ∀ cursor, outcome.verdict = .done cursor →
              after.metrics.bytesScanned = cursor - request.offset) ∧
        (scanner.preferences.collectMetrics = false → after.metrics = {}) ∧
        after = (scanner.scan request .empty).1) ∧
      ∀ (scanner : Scanner SelectorContext) (earlier : List ScanRequest) (request : ScanRequest)
        (stream : TokenStream), scanner.family = SelectorContext.family →
        scanner.preferences.collectMetrics = true →
        let before := scanner.scanAll earlier stream
        let (after, _, outcome) := before.1.scan request before.2
        ((∃ length, outcome.verdict = .failed (.sourceTooLong length)) → after.metrics = {}) ∧
          ((∀ length, outcome.verdict ≠ .failed (.sourceTooLong length)) →
            SelectorContext.NestedLike outcome.verdict outcome.tokens.toList after.metrics) := by
  constructor
  · intro κ scanner earlier request stream before
    rw [show before.1.scan request before.2 = _ from scan_scanAll scanner earlier request stream _]
    refine ⟨TokenStream.toList_append _ _, ?_, ?_, rfl⟩
    · intro collecting
      obtain ⟨tallies, depth⟩ :=
        ContextFamily.scanFrom_agrees scanner.root request.source request.offset collecting
      refine ⟨tallies, depth, ?_⟩
      intro cursor done
      rw [ContextFamily.cursor_of_scanFrom_eq_done done, Nat.add_sub_cancel_left]
      exact tallies.bytesScanned
    · intro off
      exact ContextFamily.metrics_scanFrom_of_not_collecting scanner.root request.offset off
  · intro scanner earlier request stream selectors collecting before
    rw [show before.1.scan request before.2 = _ from scan_scanAll scanner earlier request stream _,
      selectors]
    constructor
    · intro refused
      obtain ⟨length, refused⟩ := refused
      have long := ContextFamily.too_long_of_scanFrom refused
      exact (ContextFamily.scanFrom_of_too_long _ _ _ _ long).2.1
    · intro accepted
      apply SelectorContext.scanFrom_nestedLike scanner.root request.offset collecting
      by_cases long : maxSourceLength < request.source.length
      · have refused := (ContextFamily.scanFrom_of_too_long SelectorContext.family
          scanner.preferences scanner.root request.offset long).2.2
        exact absurd refused (accepted _)
      · exact Nat.le_of_not_lt long

/-- A scanner is used again, for a source that ends between brackets. -/
theorem scan_metrics_of_unclosed_attributes :
    let scanner : Scanner SelectorContext := { family := SelectorContext.family, root := .selector }
    let before := scanner.scanAll [{ source := .ofString "a > b" }] .empty
    let (after, _, outcome) := before.1.scan { source := .ofString ":is(a[b" } before.2
    scanner.preferences.collectMetrics = true ∧ before.1.metrics.totalTokens = 3 ∧
      outcome.verdict = .done 7 ∧ after.metrics.totalTokens = 5 ∧
      after.metrics.contextsEntered = 3 ∧ after.metrics.maxContextDepth = 3 ∧
      after.metrics.bytesScanned = 7 := by
  have done : (SelectorContext.family.scanFrom {} .selector (.ofString ":is(a[b") 0).verdict =
      .done 7 := by decide +kernel
  have tokens :
      (SelectorContext.family.scanFrom {} .selector (.ofString ":is(a[b") 0).tokens.toList =
        [⟨.pseudoClass, 0, ":is"⟩, ⟨.parametersStart, 3, "("⟩, ⟨.typeSelector, 4, "a"⟩,
          ⟨.attributeStart, 5, "["⟩, ⟨.characters, 6, "b"⟩] := by decide +kernel
  have all := scan_metrics.1 { family := SelectorContext.family, root := SelectorContext.selector }
    [{ source := .ofString "a > b" }] { source := .ofString ":is(a[b" } .empty
  have selectors := scan_metrics.2
    { family := SelectorContext.family, root := SelectorContext.selector }
    [{ source := .ofString "a > b" }] { source := .ofString ":is(a[b" } .empty rfl rfl
  simp only [scan_scanAll] at all selectors ⊢
  generalize SelectorContext.family.scanFrom {} .selector (.ofString ":is(a[b") 0 = outcome
    at done tokens all selectors ⊢
  obtain ⟨-, counted, -⟩ := all
  obtain ⟨tallies, -, covered⟩ := counted trivial
  have like := selectors.2 (by simp [done])
  refine ⟨trivial, by decide +kernel, done, ?_, ?_, ?_, covered 7 done⟩
  · rw [tallies.totalTokens, tokens]
    rfl
  · rw [like.entered, done, tokens]
    rfl
  · rw [like.depth, tokens]
    rfl

end Scanner

end CssSelector
