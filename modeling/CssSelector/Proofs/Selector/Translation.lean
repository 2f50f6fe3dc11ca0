import CssSelector.Compile
import CssSelector.Proofs.Scan.Statistics
import CssSelector.Proofs.Scan.Unique
import CssSelector.Proofs.Selector.Nesting

/-!
# Scans of selectors depend on the text ahead

The contexts of selectors look at the text behind the cursor and at nothing else. So a scan that
starts inside a source does what a scan of the rest alone does, at other offsets; and a scan can be
taken up again wherever all contexts but the outermost are closed, `scan_translation`.
-/

set_option autoImplicit false

namespace CssSelector

/-! ## Moving offsets -/

/-- A token further behind. -/
def Token.shift (distance : Nat) (token : Token) : Token :=
  { token with offset := token.offset + distance }

@[simp]
theorem Token.shift_zero (token : Token) : token.shift 0 = token := rfl

/-- An error further behind. Limits on the whole source and numbers of contexts stay. -/
def ScanError.shift (distance : Nat) : ScanError → ScanError
  | stuck offset remainder context => stuck (offset + distance) remainder context
  | zeroLengthToken offset kind context => zeroLengthToken (offset + distance) kind context
  | wildcardToken offset context => wildcardToken (offset + distance) context
  | offsetMismatch expected actual context =>
      offsetMismatch (expected + distance) (actual + distance) context
  | sourceTooLong length => sourceTooLong length
  | tooManyTokens count => tooManyTokens count
  | contextTooDeep depth offset => contextTooDeep depth (offset + distance)

/-- A verdict further behind. -/
def Verdict.shift (distance : Nat) : Verdict ScanError Nat → Verdict ScanError Nat
  | done cursor => done (cursor + distance)
  | failed error => failed (error.shift distance)
  | fault cause => fault cause

theorem Verdict.shift_zero (verdict : Verdict ScanError Nat) : verdict.shift 0 = verdict := by
  cases verdict with
  | done cursor => rfl
  | failed error => cases error <;> rfl
  | fault cause => rfl

theorem Verdict.exists_done_of_shift {verdict : Verdict ScanError Nat} {distance cursor : Nat}
    (done : verdict.shift distance = .done cursor) :
    ∃ stop, verdict = .done stop ∧ cursor = stop + distance := by
  cases verdict with
  | done stop =>
      cases done
      exact ⟨stop, rfl, rfl⟩
  | failed error => cases done
  | fault cause => cases done

theorem Verdict.eq_tooManyTokens_of_shift {verdict : Verdict ScanError Nat} {distance count : Nat}
    (crowded : verdict.shift distance = .failed (.tooManyTokens count)) :
    verdict = .failed (.tooManyTokens count) := by
  cases verdict with
  | done stop => cases crowded
  | failed error =>
      cases error <;> cases crowded
      rfl
  | fault cause => cases crowded

/-- Two places with the same text behind them. -/
def Source.SameRest (source : Source) (offset : Nat) (other : Source) (place : Nat) : Prop :=
  ∃ rest, source.after? offset = some rest ∧ other.after? place = some rest

namespace Source.SameRest

variable {source other : Source} {offset place : Nat}

theorem length_eq (same : source.SameRest offset other place) :
    ∃ rest, source.length = offset + byteLength rest ∧ other.length = place + byteLength rest := by
  obtain ⟨rest, here, there⟩ := same
  obtain ⟨before, split⟩ := Source.after?_eq_some_iff.mp here
  obtain ⟨before', split'⟩ := Source.after?_eq_some_iff.mp there
  exact ⟨rest, split.length_eq, split'.length_eq⟩

theorem textAfter_eq (same : source.SameRest offset other place) :
    source.textAfter offset = other.textAfter place := by
  obtain ⟨rest, here, there⟩ := same
  rw [Source.textAfter, Source.textAfter, here, there]

end Source.SameRest

/-! ## Tokens are read off the text ahead -/

/-- The kind and the lexeme of the first rule that has one. -/
def LexicalRule.firstLexeme? (rules : List LexicalRule) (input : List Char) :
    Option (TokenKind × List Char) :=
  rules.findSome? fun rule => (rule.recognize input).map fun lexeme => (rule.kind, lexeme)

theorem LexicalRule.firstToken?_eq {source : Source} {offset : Nat} {rest : List Char}
    (rules : List LexicalRule) (found : source.after? offset = some rest) :
    firstToken? rules source offset =
      (firstLexeme? rules rest).map fun (kind, lexeme) =>
        ⟨kind, offset, String.ofList lexeme⟩ := by
  induction rules with
  | nil => rfl
  | cons rule rules ih =>
      rw [firstToken?] at ih
      rw [firstToken?, firstLexeme?, List.findSome?_cons, List.findSome?_cons, ih, token?, found]
      cases recognized : rule.recognize rest <;> simp [recognized, firstLexeme?]

namespace SelectorContext

variable {source other : Source} {offset place : Nat} {context : SelectorContext}

theorem token?_eq_map {rest : List Char} (found : source.after? offset = some rest) :
    context.token? source offset =
      (LexicalRule.firstLexeme? context.rules rest).map fun (kind, lexeme) =>
        ⟨kind, offset, String.ofList lexeme⟩ := LexicalRule.firstToken?_eq _ found

theorem accepts_of_token?_eq_some {token : Token}
    (found : context.token? source offset = some token) :
    family.Accepts source context offset token := by
  refine ⟨?_, congrArg Except.ok found, defect?_eq_none found⟩
  obtain ⟨-, -, nonempty⟩ := ContextFamily.defect?_eq_none_iff.mp (defect?_eq_none found)
  obtain ⟨before, after, split⟩ := exists_splitAt found
  obtain ⟨rule, -, lexeme, later, -, -, rfl, rfl⟩ := token?_eq_some split found
  have bound := split.length_eq
  rw [Token.length_ofList] at nonempty
  rw [byteLength_append] at bound
  omega

/-- What a context takes is the first lexeme of the text ahead. -/
theorem accepts_iff {rest : List Char} {token : Token} (found : source.after? offset = some rest) :
    family.Accepts source context offset token ↔
      ∃ kind lexeme, LexicalRule.firstLexeme? context.rules rest = some (kind, lexeme) ∧
        token = ⟨kind, offset, String.ofList lexeme⟩ := by
  constructor
  · intro accepted
    have answer := token?_eq_some_of_accepts accepted
    rw [token?_eq_map found] at answer
    obtain ⟨⟨kind, lexeme⟩, first, same⟩ := Option.map_eq_some_iff.mp answer
    exact ⟨kind, lexeme, first, same.symm⟩
  · rintro ⟨kind, lexeme, first, rfl⟩
    apply accepts_of_token?_eq_some
    rw [token?_eq_map found, first, Option.map_some]

/-! ## Traces at other places -/

theorem sameRest_of_accepts {token : Token} (same : source.SameRest offset other place)
    (accepted : family.Accepts source context offset token) :
    family.Accepts other context place { token with offset := place } ∧
      source.SameRest (offset + token.length) other (place + token.length) := by
  obtain ⟨rest, here, there⟩ := same
  obtain ⟨before, split⟩ := Source.after?_eq_some_iff.mp here
  obtain ⟨before', split'⟩ := Source.after?_eq_some_iff.mp there
  obtain ⟨kind, lexeme, first, rfl⟩ := (accepts_iff here).mp accepted
  have moved : family.Accepts other context place ⟨kind, place, String.ofList lexeme⟩ :=
    (accepts_iff there).mpr ⟨kind, lexeme, first, rfl⟩
  obtain ⟨later, restEq, advanced⟩ := splitAt_of_accepts accepted split
  obtain ⟨later', restEq', advanced'⟩ := splitAt_of_accepts moved split'
  cases List.append_cancel_left (restEq.symm.trans restEq')
  exact ⟨moved, later, advanced.after?_eq, advanced'.after?_eq⟩

/-- A trace goes along wherever the same text is ahead. Its tokens are shifted by what lies
between the two places. -/
theorem exists_trace_of_sameRest {opened final : List SelectorContext} {stop left right : Nat}
    {tokens : List Token} (trace : family.Trace source opened offset tokens final stop)
    (same : source.SameRest offset other place) (apart : offset + right = place + left) :
    ∃ moved reached, family.Trace other opened place moved final reached ∧
      source.SameRest stop other reached ∧ stop + right = reached + left ∧
      tokens.map (Token.shift right) = moved.map (Token.shift left) := by
  induction trace generalizing place with
  | refl => exact ⟨[], place, .refl, same, apart, rfl⟩
  | @step context outer _ offset _ token tokens depth accepted _ ih =>
      obtain ⟨moved, behind⟩ := sameRest_of_accepts same accepted
      obtain ⟨later, reached, trace, rest, distance, shifted⟩ :=
        ih behind (by omega)
      refine ⟨{ token with offset := place } :: later, reached, .step depth moved trace, rest,
        distance, ?_⟩
      obtain ⟨-, start, -⟩ := ContextFamily.defect?_eq_none_iff.mp accepted.sound
      rw [List.map_cons, List.map_cons, shifted, Token.shift, Token.shift, start, apart]

theorem trace_shift_of_sameRest {opened final : List SelectorContext} {stop distance : Nat}
    {tokens : List Token} (trace : family.Trace source opened offset tokens final stop)
    (same : source.SameRest offset other place) (apart : offset + distance = place) :
    family.Trace other opened place (tokens.map (Token.shift distance)) final (stop + distance) ∧
      source.SameRest stop other (stop + distance) := by
  obtain ⟨moved, reached, along, behind, rfl, shifted⟩ :=
    exists_trace_of_sameRest trace same (show offset + distance = place + 0 from apart)
  have unmoved : moved.map (Token.shift 0) = moved := by
    rw [List.map_congr_left fun token _ => token.shift_zero, List.map_id']
  rw [shifted, unmoved]
  exact ⟨along, behind⟩

theorem exists_ends_of_sameRest {preferences : ScanPreferences} {opened : List SelectorContext}
    {count left right : Nat} {verdict : Verdict ScanError Nat}
    (ends : family.Ends source preferences opened offset count verdict)
    (same : source.SameRest offset other place) (apart : offset + right = place + left) :
    ∃ moved, family.Ends other preferences opened place count moved ∧
      verdict.shift right = moved.shift left := by
  obtain ⟨rest, length, length'⟩ := same.length_eq
  cases ends with
  | closed => exact ⟨_, .closed, congrArg Verdict.done apart⟩
  | exhausted ended depth =>
      exact ⟨_, .exhausted (by omega) depth, congrArg Verdict.done apart⟩
  | @stuck context outer _ _ inside depth answer =>
      obtain ⟨_, here, there⟩ := id same
      have missing : context.token? source offset = none := Except.ok.inj answer
      rw [token?_eq_map here, Option.map_eq_none_iff] at missing
      have absent : context.token? other place = none := by
        rw [token?_eq_map there, missing, Option.map_none]
      refine ⟨_, .stuck (by omega) depth (congrArg Except.ok absent), ?_⟩
      rw [Verdict.shift, Verdict.shift, ScanError.shift, ScanError.shift, apart,
        same.textAfter_eq]
  | defective _ _ produced defect => exact absurd defect (defect?_ne_some produced)
  | crowded depth accepted =>
      exact ⟨_, .crowded depth (sameRest_of_accepts same accepted).1, rfl⟩
  | tooDeep excess =>
      refine ⟨_, .tooDeep excess, ?_⟩
      rw [Verdict.shift, Verdict.shift, ScanError.shift, ScanError.shift, apart]
  | faulted _ _ broken => cases broken

/-- From places with the same text ahead and the same open contexts, two scans that no limit on
tokens has ended go the same way. -/
theorem shift_eq_of_sameRest {preferences : ScanPreferences}
    {opened final final' : List SelectorContext} {stop stop' count count' left right : Nat}
    {tokens tokens' : List Token} {verdict verdict' : Verdict ScanError Nat}
    (trace : family.Trace source opened offset tokens final stop)
    (ends : family.Ends source preferences final stop count verdict)
    (trace' : family.Trace other opened place tokens' final' stop')
    (ends' : family.Ends other preferences final' stop' count' verdict')
    (free : verdict ≠ .failed (.tooManyTokens (maxTokenCount + 1)))
    (free' : verdict' ≠ .failed (.tooManyTokens (maxTokenCount + 1)))
    (same : source.SameRest offset other place) (apart : offset + right = place + left) :
    tokens.map (Token.shift right) = tokens'.map (Token.shift left) ∧
      verdict.shift right = verdict'.shift left := by
  obtain ⟨moved, reached, along, behind, distance, shifted⟩ :=
    exists_trace_of_sameRest trace same apart
  obtain ⟨settled, movedEnds, verdictEq⟩ := exists_ends_of_sameRest ends behind distance
  have movedFree : settled ≠ .failed (.tooManyTokens (maxTokenCount + 1)) := by
    rintro rfl
    exact free (Verdict.eq_tooManyTokens_of_shift verdictEq)
  obtain ⟨rest, rfl, further⟩ := along.exists_rest trace' ends' free'
  cases rest with
  | nil =>
      obtain ⟨rfl, rfl⟩ := further.eq_of_no_tokens
      rw [List.append_nil]
      exact ⟨shifted, verdictEq.trans
        (congrArg _ (movedEnds.unique (ends'.recount free')))⟩
  | cons token rest =>
      obtain ⟨context, outer, rfl, depth, accepted, -⟩ := further.exists_accepts
      exact absurd (movedEnds.eq_of_accepts depth accepted).2 movedFree

/-! ## Scans at other places -/

theorem metricsAlong_map_shift (preferences : ScanPreferences) (distance : Nat)
    (opened : List SelectorContext) (tokens : List Token) (metrics : ScanMetrics) :
    family.metricsAlong preferences opened (tokens.map (Token.shift distance)) metrics =
      family.metricsAlong preferences opened tokens metrics := by
  induction tokens generalizing opened metrics with
  | nil => rfl
  | cons token tokens ih =>
      cases opened with
      | nil => rfl
      | cons context outer => exact ih _ _

theorem sameRest_ofString {rest : List Char} (found : source.after? offset = some rest) :
    (Source.ofString (source.textAfter offset)).SameRest 0 source offset := by
  refine ⟨rest, ?_, found⟩
  rw [Source.textAfter, found]
  exact ((Source.splitAt_zero _).after?_eq).trans (congrArg some String.toList_ofList)

/-- A scan from an offset on is a scan of the rest alone, shifted by the offset. -/
theorem scanFrom_eq_shift (preferences : ScanPreferences) (root : SelectorContext)
    (short : source.length ≤ maxSourceLength)
    (boundary : (source.after? offset).isSome = true) :
    (family.scanFrom preferences root source offset).tokens.toList =
        (family.scan preferences root (.ofString (source.textAfter offset))).tokens.toList.map
          (Token.shift offset) ∧
      (family.scanFrom preferences root source offset).verdict =
        (family.scan preferences root (.ofString (source.textAfter offset))).verdict.shift
          offset ∧
      (family.scanFrom preferences root source offset).metrics =
        (family.scan preferences root (.ofString (source.textAfter offset))).metrics := by
  obtain ⟨rest, found⟩ := Option.isSome_iff_exists.mp boundary
  have same := sameRest_ofString found
  generalize Source.ofString (source.textAfter offset) = alone at same ⊢
  obtain ⟨_, aloneLength, length⟩ := same.length_eq
  have fits : alone.length ≤ maxSourceLength := by omega
  obtain ⟨final, stop, trace, room, ends⟩ := family.scanFrom_trace preferences root 0 fits
  obtain ⟨moved, behind⟩ := trace_shift_of_sameRest trace same (Nat.zero_add offset)
  obtain ⟨verdict, settled, verdictEq⟩ :=
    exists_ends_of_sameRest ends behind (show stop + offset = stop + offset + 0 from rfl)
  rw [Verdict.shift_zero] at verdictEq
  rw [← Array.length_toList, ← List.length_map (f := Token.shift offset)] at room settled
  obtain ⟨tokensFrom, verdictFrom⟩ :=
    ContextFamily.scanFrom_eq_of_trace short moved room settled
  refine ⟨tokensFrom, verdictFrom.trans verdictEq.symm, ?_⟩
  rw [family.metrics_scanFrom preferences root offset short, tokensFrom, metricsAlong_map_shift]
  exact (family.metrics_scanFrom preferences root 0 fits).symm

/-! ## Scans that succeed -/

/-- The tokens of a whole source: they lead from the selector to the end within all limits. -/
structure Completed (source : Source) (tokens : List Token) : Prop where
  short : source.length ≤ maxSourceLength
  room : tokens.length ≤ maxTokenCount
  depth : (replay tokens).length ≤ maxContextDepth
  trace : family.Trace source [selector] 0 tokens (replay tokens) source.length

theorem length_le_of_verdict_ne {preferences : ScanPreferences}
    (fits : (family.scan preferences selector source).verdict ≠
      .failed (.sourceTooLong source.length)) : source.length ≤ maxSourceLength := by
  apply Nat.le_of_not_lt
  intro long
  apply fits
  exact (family.scanFrom_of_too_long preferences selector 0 long).2.2

theorem completed_of_done {preferences : ScanPreferences} {cursor : Nat}
    (done : (family.scan preferences selector source).verdict = .done cursor) :
    Completed source (family.scan preferences selector source).tokens.toList ∧
      cursor = source.length := by
  have short : source.length ≤ maxSourceLength := by
    apply length_le_of_verdict_ne
    intro long
    cases done.symm.trans long
  obtain ⟨final, stop, trace, room, ends⟩ := family.scanFrom_trace preferences selector 0 short
  rw [ContextFamily.scan] at done ⊢
  rw [done] at ends
  have told := final_eq_replay trace
  have bottom := getLast?_of_trace trace
  obtain ⟨later, -, reached⟩ := splitAt_of_trace trace source.splitAt_zero
  have inside := reached.length_eq
  generalize (family.scanFrom preferences selector source 0).tokens.size = count at ends
  cases ends with
  | closed => cases bottom
  | exhausted ended depth =>
      have same : cursor = source.length := by omega
      rw [told] at trace depth
      rw [same] at trace
      exact ⟨⟨short, room, depth, trace⟩, same⟩

theorem Completed.scan_eq {tokens : List Token} (completed : Completed source tokens)
    (preferences : ScanPreferences) :
    (family.scan preferences selector source).tokens.toList = tokens ∧
      (family.scan preferences selector source).verdict = .done source.length :=
  ContextFamily.scanFrom_eq_of_trace completed.short completed.trace completed.room
    (.exhausted (Nat.le_refl _) completed.depth)

/-- Behind closed contexts a scan goes on like one that starts there. -/
theorem Completed.scanFrom_eq {earlier later : List Token} {token : Token}
    (completed : Completed source (earlier ++ token :: later))
    (closed : replay earlier = [selector]) (preferences : ScanPreferences) :
    (source.after? token.offset).isSome = true ∧
      (family.scanFrom preferences selector source token.offset).tokens.toList =
        token :: later ∧
      (family.scanFrom preferences selector source token.offset).verdict =
        .done source.length := by
  obtain ⟨rest, split⟩ := splitAt_of_mem_trace completed.trace source.splitAt_zero
  obtain ⟨between, place, leading, behind⟩ := completed.trace.cut
  rw [final_eq_replay leading, closed] at behind
  obtain ⟨_, _, -, -, accepted, -⟩ := behind.exists_accepts
  obtain ⟨-, start, -⟩ := ContextFamily.defect?_eq_none_iff.mp accepted.sound
  rw [← start] at behind
  have room := completed.room
  rw [List.length_append] at room
  refine ⟨by rw [split.after?_eq]; rfl, ?_⟩
  exact ContextFamily.scanFrom_eq_of_trace completed.short behind (by omega)
    (.exhausted (Nat.le_refl _) completed.depth)

/-- Scans with the contexts of selectors depend on the text ahead only. From any place between
characters on, in any context, a scan gives the tokens, the verdict and the statistics of a scan of
the rest alone, with all offsets shifted by that of the place. So behind tokens that leave nothing
but the selector open, the other tokens of a scan are those of the rest alone. -/
theorem scan_translation (preferences : ScanPreferences) (source : Source)
    (short : source.length ≤ maxSourceLength) :
    (∀ root offset, (source.after? offset).isSome = true →
      let outcome := family.scanFrom preferences root source offset
      let alone := family.scan preferences root (.ofString (source.textAfter offset))
      outcome.tokens.toList = alone.tokens.toList.map (Token.shift offset) ∧
        outcome.verdict = alone.verdict.shift offset ∧ outcome.metrics = alone.metrics) ∧
      ∀ cursor earlier token later,
        (family.scan preferences selector source).verdict = .done cursor →
        (family.scan preferences selector source).tokens.toList = earlier ++ token :: later →
        replay earlier = [selector] →
        (source.after? token.offset).isSome = true ∧
          let alone := scanSelector preferences (source.textAfter token.offset)
          (∃ stop, alone.verdict = .done stop ∧ cursor = stop + token.offset) ∧
            token :: later = alone.tokens.toList.map (Token.shift token.offset) := by
  constructor
  · intro root offset boundary
    exact scanFrom_eq_shift preferences root short boundary
  · intro cursor earlier token later done parts closed
    obtain ⟨completed, rfl⟩ := completed_of_done done
    rw [parts] at completed
    obtain ⟨boundary, tokens, verdict⟩ := completed.scanFrom_eq closed preferences
    obtain ⟨tokensEq, verdictEq, -⟩ := scanFrom_eq_shift preferences selector short boundary
    refine ⟨boundary, ?_, tokens.symm.trans tokensEq⟩
    exact Verdict.exists_done_of_shift (verdictEq.symm.trans verdict)

/-- Behind the parentheses of `é(2n) b` the rest is scanned as on its own, and so is the rest inside
of them in their own context. -/
theorem translation_of_closed_parameters :
    ∃ source earlier token later, source.text = "é(2n) b" ∧ source.length ≤ maxSourceLength ∧
      (source.after? 3).isSome = true ∧ source.textAfter 3 = "2n) b" ∧
      (family.scanFrom {} parameters source 3).verdict = .done 6 ∧
      (family.scanFrom {} parameters source 3).tokens.toList =
        (family.scan {} parameters (.ofString (source.textAfter 3))).tokens.toList.map
          (Token.shift 3) ∧
      (family.scan {} selector source).verdict = .done 8 ∧
      (family.scan {} selector source).tokens.toList = earlier ++ token :: later ∧
      replay earlier = [selector] ∧ source.textAfter token.offset = " b" ∧
      token :: later =
        (scanSelector {} (source.textAfter token.offset)).tokens.toList.map
          (Token.shift token.offset) := by
  have text : (Source.ofString "é(2n) b").text = "é(2n) b" := rfl
  have short : (Source.ofString "é(2n) b").length ≤ maxSourceLength := by decide
  have boundary : ((Source.ofString "é(2n) b").after? 3).isSome = true := by decide +kernel
  have inside : (Source.ofString "é(2n) b").textAfter 3 = "2n) b" := by decide +kernel
  have inner : (family.scanFrom {} parameters (.ofString "é(2n) b") 3).verdict = .done 6 := by
    decide +kernel
  have done : (family.scan {} selector (.ofString "é(2n) b")).verdict = .done 8 := by
    decide +kernel
  have parts : (family.scan {} selector (.ofString "é(2n) b")).tokens.toList =
      [⟨.typeSelector, 0, "é"⟩, ⟨.parametersStart, 2, "("⟩, ⟨.position, 3, "2n"⟩,
        ⟨.parametersEnd, 5, ")"⟩] ++ ⟨.whitespace, 6, " "⟩ :: [⟨.typeSelector, 7, "b"⟩] := by
    decide +kernel
  have outside : (Source.ofString "é(2n) b").textAfter 6 = " b" := by decide +kernel
  generalize Source.ofString "é(2n) b" = source at *
  obtain ⟨translated, resumed⟩ := scan_translation {} source short
  obtain ⟨same, -, -⟩ := translated parameters 3 boundary
  obtain ⟨-, -, rest⟩ := resumed 8 _ _ _ done parts rfl
  exact ⟨source, _, _, _, text, short, boundary, inside, inner, same, done, parts, rfl, outside,
    rest⟩

end SelectorContext

end CssSelector
