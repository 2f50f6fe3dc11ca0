import CssSelector.Proofs.Scan.Contract
import CssSelector.Proofs.Scan.Counts
import CssSelector.Proofs.Scan.Statistics
import CssSelector.Scan.Scanner

/-!
# Statistics of a scanner

The statistics of a scan agree with the tokens that it put on the stream, also if it was stopped.
A token is counted exactly if it is put on the stream, and each call starts with no statistics, so
nothing of an earlier call is left in them.
-/

set_option autoImplicit false

namespace CssSelector

namespace ScanMetrics

/-- The statistics count these tokens: all of them, those of each kind and of each class, and
their bytes. -/
structure Tallies (metrics : ScanMetrics) (tokens : List Token) : Prop where
  totalTokens : metrics.totalTokens = tokens.length
  kinds : CountsOf TokenKind.index (tokens.map (·.kind)) metrics.tokensByKind
  classes : CountsOf TokenClass.ctorIdx (tokens.map (·.kind.tokenClass)) metrics.tokensByClass
  bytesScanned : metrics.bytesScanned = totalLength tokens

theorem index_injective : Function.Injective TokenKind.index := by
  intro left right same
  cases left <;> cases right <;> first | rfl | cases same

theorem class_ctorIdx_injective : Function.Injective TokenClass.ctorIdx := by
  intro left right same
  cases left <;> cases right <;> first | rfl | cases same

theorem Tallies.empty : Tallies {} [] := ⟨rfl, .nil, .nil, rfl⟩

theorem Tallies.recordToken {metrics : ScanMetrics} {tokens : List Token}
    (agree : metrics.Tallies tokens) (token : Token) :
    (metrics.recordToken token).Tallies (tokens ++ [token]) where
  totalTokens := by
    rw [List.length_append, ← agree.totalTokens]
    rfl
  kinds := by
    rw [List.map_append]
    exact agree.kinds.concat index_injective token.kind
  classes := by
    rw [List.map_append]
    exact agree.classes.concat class_ctorIdx_injective token.kind.tokenClass
  bytesScanned := by
    rw [totalLength_append, ← agree.bytesScanned]
    rfl

theorem Tallies.recordContext {metrics : ScanMetrics} {tokens : List Token}
    (agree : metrics.Tallies tokens) (depth : Nat) : (metrics.recordContext depth).Tallies tokens :=
  ⟨agree.totalTokens, agree.kinds, agree.classes, agree.bytesScanned⟩

/-- The statistics count these tokens, and the contexts that were opened until a number of them is
open: as many were opened as are open, up to the limit, and none deeper than there are. -/
structure Agrees (metrics : ScanMetrics) (tokens : List Token) (opened : Nat) : Prop where
  tallies : metrics.Tallies tokens
  opened_le : min opened CssSelector.maxContextDepth ≤ metrics.contextsEntered
  depth_le : metrics.maxContextDepth ≤ min metrics.contextsEntered CssSelector.maxContextDepth

theorem agrees_start : (({} : ScanMetrics).recordContext 1).Agrees [] 1 where
  tallies := Tallies.empty.recordContext 1
  opened_le := Nat.le_refl _
  depth_le := Nat.le_refl _

end ScanMetrics

namespace ContextFamily

variable {κ : Type} {family : ContextFamily κ} {preferences : ScanPreferences} {source : Source}

variable (family) in
theorem length_contextsAfter_le (context : κ) (outer : List κ) (token : Token) :
    (family.contextsAfter context outer token).length ≤ outer.length + 2 := by
  unfold contextsAfter
  split
  · exact Nat.le_add_right _ 2
  · split
    · exact Nat.le_succ _
    · exact Nat.le_refl _

/-- What a token adds to the statistics keeps them in agreement. -/
theorem agrees_metricsAfter {context : κ} {outer : List κ} {tokens : List Token}
    {metrics : ScanMetrics} (collecting : preferences.collectMetrics = true)
    (agree : metrics.Agrees tokens (outer.length + 1)) (depth : outer.length < maxContextDepth)
    (token : Token) :
    (family.metricsAfter preferences context outer token metrics).Agrees (tokens ++ [token])
      (family.contextsAfter context outer token).length := by
  have counted := agree.tallies.recordToken token
  have entered := agree.opened_le
  have deepest := agree.depth_le
  have nested := length_contextsAfter_le family context outer token
  rw [metricsAfter, if_pos collecting]
  split
  · next deeper =>
      refine ⟨counted.recordContext _, ?_, ?_⟩
      · change _ ≤ metrics.contextsEntered + 1
        omega
      · change max metrics.maxContextDepth _ ≤ min (metrics.contextsEntered + 1) _
        omega
  · next level =>
      refine ⟨counted, ?_, deepest⟩
      change _ ≤ metrics.contextsEntered
      omega

/-- The statistics agree along a trace. -/
theorem Trace.agrees {opened final : List κ} {offset stop : Nat} {before tokens : List Token}
    {metrics : ScanMetrics} (collecting : preferences.collectMetrics = true)
    (trace : family.Trace source opened offset tokens final stop)
    (agree : metrics.Agrees before opened.length) :
    (family.metricsAlong preferences opened tokens metrics).Agrees (before ++ tokens)
      final.length := by
  induction trace generalizing before metrics with
  | refl =>
      rw [metricsAlong_nil, List.append_nil]
      exact agree
  | @step context outer _ _ _ token tokens depth _ _ ih =>
      have next := ih (agrees_metricsAfter collecting agree depth token)
      rw [List.append_assoc] at next
      exact next

/-! ## Whole scans -/

theorem metrics_scanFrom_of_collecting {root : κ} {offset : Nat}
    (short : source.length ≤ maxSourceLength) (collecting : preferences.collectMetrics = true) :
    (family.scanFrom preferences root source offset).metrics =
      family.metricsAlong preferences [root]
        (family.scanFrom preferences root source offset).tokens.toList
        (({} : ScanMetrics).recordContext 1) := by
  rw [metrics_scanFrom family preferences root offset short, if_pos collecting]

theorem metricsAlong_of_not_collecting (off : preferences.collectMetrics = false)
    (opened : List κ) (tokens : List Token) (metrics : ScanMetrics) :
    family.metricsAlong preferences opened tokens metrics = metrics := by
  induction tokens generalizing opened metrics with
  | nil => exact metricsAlong_nil opened metrics
  | cons token later ih =>
      cases opened with
      | nil => rfl
      | cons context outer => simp [metricsAlong, metricsAfter, off, ih]

theorem metrics_scanFrom_of_not_collecting (root : κ) (offset : Nat)
    (off : preferences.collectMetrics = false) :
    (family.scanFrom preferences root source offset).metrics = {} := by
  by_cases long : maxSourceLength < source.length
  · exact (scanFrom_of_too_long family preferences root offset long).2.1
  · rw [metrics_scanFrom family preferences root offset (Nat.le_of_not_lt long),
      metricsAlong_of_not_collecting off, off]
    rfl

/-- A scan that is done has moved its cursor over the bytes that it counts. -/
theorem cursor_of_scanFrom_eq_done {root : κ} {offset cursor : Nat}
    (done : (family.scanFrom preferences root source offset).verdict = .done cursor) :
    cursor = offset +
      totalLength (family.scanFrom preferences root source offset).tokens.toList := by
  by_cases long : maxSourceLength < source.length
  · have refused := (scanFrom_of_too_long family preferences root offset long).2.2
    cases done.symm.trans refused
  · obtain ⟨final, stop, trace, -, ends⟩ :=
      scanFrom_trace family preferences root offset (Nat.le_of_not_lt long)
    have fits := Ends.verdictFits trace ends
    rw [done] at fits
    exact fits

theorem scanFrom_agrees (root : κ) (source : Source) (offset : Nat)
    (collecting : preferences.collectMetrics = true) :
    let outcome := family.scanFrom preferences root source offset
    outcome.metrics.Tallies outcome.tokens.toList ∧
      outcome.metrics.maxContextDepth ≤ min outcome.metrics.contextsEntered maxContextDepth := by
  intro outcome
  by_cases long : maxSourceLength < source.length
  · obtain ⟨tokens, metrics, -⟩ := scanFrom_of_too_long family preferences root offset long
    rw [show outcome.tokens = #[] from tokens, show outcome.metrics = {} from metrics]
    exact ⟨.empty, Nat.zero_le _⟩
  · have short := Nat.le_of_not_lt long
    obtain ⟨final, stop, trace, -, -⟩ := scanFrom_trace family preferences root offset short
    have agree := trace.agrees collecting ScanMetrics.agrees_start
    rw [← metrics_scanFrom_of_collecting short collecting] at agree
    exact ⟨agree.tallies, agree.depth_le⟩

end ContextFamily

/-! ## Scanners -/

namespace Scanner

variable {κ : Type}

/-- Scans the sources of several requests, one after the other. -/
def scanAll (scanner : Scanner κ) : List ScanRequest → TokenStream → Scanner κ × TokenStream
  | [], stream => (scanner, stream)
  | request :: later, stream =>
      match scanner.scan request stream with
      | (scanner, stream, _) => scanner.scanAll later stream

/-- Scanning changes nothing but the statistics of a scanner. -/
theorem scanAll_eq (scanner : Scanner κ) (requests : List ScanRequest) (stream : TokenStream) :
    ∃ metrics, (scanner.scanAll requests stream).1 = { scanner with metrics := metrics } := by
  induction requests generalizing scanner stream with
  | nil => exact ⟨scanner.metrics, rfl⟩
  | cons request later ih => exact ih _ _

/-- A scan behind others comes to what it comes to without them. -/
theorem scan_scanAll (scanner : Scanner κ) (earlier : List ScanRequest) (request : ScanRequest)
    (stream left : TokenStream) :
    (scanner.scanAll earlier stream).1.scan request left =
      let outcome := scanner.family.scanFrom scanner.preferences scanner.root request.source
        request.offset
      ({ scanner with metrics := outcome.metrics }, left.append outcome.tokens, outcome) := by
  obtain ⟨metrics, same⟩ := scanner.scanAll_eq earlier stream
  rw [same]
  rfl

end Scanner

end CssSelector
