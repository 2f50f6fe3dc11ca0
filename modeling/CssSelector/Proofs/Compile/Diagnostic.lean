import CssSelector.Proofs.Compile.Delivery
import CssSelector.Proofs.Selector.LineEnd
import CssSelector.Proofs.Source.Excerpt
import CssSelector.Token.Json

/-!
# Where errors are shown

An error with a span is shown at its start, an error without one at the end of the text. No scan is
stuck inside a line end, so that every error of a scan can be shown, `reportSelector_render`.
-/

set_option autoImplicit false

namespace CssSelector

theorem exists_isLineEnd_of_overhangs {before inside : List Char} (rest : List Char)
    (hidden : overhangs before inside = true) :
    before.getLast? = some '\r' ∧
      ∃ c, (inside ++ rest).head? = some c ∧ isLineEnd c = true := by
  rw [overhangs, Bool.and_eq_true, decide_eq_true_iff] at hidden
  refine ⟨hidden.1, ?_⟩
  have ending := hidden.2
  cases inside with
  | nil => cases ending
  | cons c inside =>
      refine ⟨c, rfl, ?_⟩
      by_cases blank : c = '\r'
      · simp [isLineEnd, blank]
      · simpa [beginsWithLineEnd, blank, isLineEnd] using ending

theorem overhangs_eq_false {before inside : List Char} (rest : List Char)
    (quiet : before.getLast? = some '\r' → ∀ c, (inside ++ rest).head? = some c →
      isLineEnd c = false) : overhangs before inside = false := by
  cases hidden : overhangs before inside with
  | false => rfl
  | true =>
      obtain ⟨last, c, head, ending⟩ := exists_isLineEnd_of_overhangs rest hidden
      rw [quiet last c head] at ending
      cases ending

/-- Characters that start with no line end are underlined up to the end of the shown line, if they
go on behind it. -/
theorem length_shownLine_of_feed {before after : List Char} (several : '\n' ∈ after)
    (quiet : ∀ c, after.head? = some c → isLineEnd c = false) :
    (currentLine before).length + max (underlineLength before after) 1 =
      (shownLine before after).length := by
  cases after with
  | nil => cases several
  | cons c rest =>
      have other : c ≠ '\r' ∧ c ≠ '\n' := by simpa [isLineEnd] using quiet c rfl
      have reached : ¬(trimReturns ((currentLine before ++ [c]) ++
          rest.takeWhile (· ≠ '\n'))).length < (currentLine before ++ [c]).length := by
        intro short
        obtain ⟨last, -⟩ := length_trimReturns_lt_iff.mp short
        rw [List.getLast?_concat] at last
        exact other.1 (Option.some.inj last)
      rw [underlineLength, if_pos several, shownLine, String.length_ofList,
        List.takeWhile_cons_of_pos (by simpa using other.2)]
      rw [List.append_assoc, List.singleton_append, List.length_append, List.length_singleton]
        at reached
      omega

namespace SelectorError

/-- The first line of what is shown of an error. -/
def headline (error : SelectorError) : String := s!"[{error.code.text}] {error.message}"

/-- An error that is shown at the place between two parts of a text, where it underlines some
characters, or one blank. -/
structure ShownAt (text : String) (error : SelectorError) (before after : List Char)
    (width : Nat) : Prop where
  chars_eq : text.toList = before ++ after
  render_eq : error.render text = .ok (diagnostic error.headline before after width)
  width_pos : 0 < width

variable {text : String} {error : SelectorError} {before inside after : List Char}

theorem ShownAt.exists_rendered {width : Nat} (shown : error.ShownAt text before after width) :
    ∃ rendered, error.render text = .ok rendered := ⟨_, shown.render_eq⟩

theorem render_of_span {span : Span} (covered : error.span = .ok (some span)) :
    error.render text = (Lines.ofString text).renderDiagnostic span error.headline := by
  rw [render, covered]
  rfl

theorem shownAt_of_no_span (fits : text.utf8ByteSize ≤ maxOffset)
    (covered : error.span = .ok none) : error.ShownAt text text.toList [] 1 := by
  have chars : (Lines.ofString text).text.toList = text.toList ++ ([] ++ []) := by
    rw [List.append_nil, List.append_nil]
    rfl
  have atEnd := Lines.spanAt_byteLength chars
    (by rwa [List.append_nil, ← utf8ByteSize_eq_byteLength])
  rw [byteLength_nil, ← utf8ByteSize_eq_byteLength] at atEnd
  have shown := Lines.renderDiagnostic_ofChars chars error.headline
  rw [overhangs_eq_false [] (by simp), if_neg Bool.false_ne_true] at shown
  refine ⟨(List.append_nil _).symm, ?_, Nat.one_pos⟩
  rw [render, covered]
  simp only [bind, Except.bind, atEnd]
  exact shown

/-- An error about a stretch of characters can be shown unless they overhang their line. -/
theorem render_of_chars (chars : text.toList = before ++ (inside ++ after))
    (fits : byteLength (before ++ inside) ≤ maxOffset)
    (covered : error.span = .ok (some ⟨.atOffset (byteLength before),
      .atOffset (byteLength before + byteLength inside)⟩)) :
    error.render text =
      if overhangs before inside then .error .columnUnderflow
      else .ok (diagnostic error.headline before (inside ++ after)
        (max (underlineLength before inside) 1)) := by
  have linesChars : (Lines.ofString text).text.toList = before ++ (inside ++ after) := chars
  have size : (Span.length ⟨.atOffset (byteLength before),
      .atOffset (byteLength before + byteLength inside)⟩) = .ok (byteLength inside) := by
    simp [Span.length, Position.atOffset]
  rw [render_of_span covered, Lines.renderDiagnostic_ofOffsets rfl size
    (Lines.spanAt_byteLength linesChars fits)]
  exact Lines.renderDiagnostic_ofChars linesChars _

theorem shownAt_of_chars (chars : text.toList = before ++ (inside ++ after))
    (fits : byteLength (before ++ inside) ≤ maxOffset)
    (covered : error.span = .ok (some ⟨.atOffset (byteLength before),
      .atOffset (byteLength before + byteLength inside)⟩))
    (shown : overhangs before inside = false) :
    error.ShownAt text before (inside ++ after) (max (underlineLength before inside) 1) := by
  refine ⟨chars, ?_, by omega⟩
  rw [render_of_chars chars fits covered, shown, if_neg Bool.false_ne_true]

theorem shownAt_of_spanFrom {length : Nat} (chars : text.toList = before ++ after)
    (fits : byteLength before + length ≤ maxOffset)
    (covered : error.span = ScanError.spanFrom (byteLength before) length)
    (quiet : before.getLast? = some '\r' → ∀ c, after.head? = some c → isLineEnd c = false) :
    ∃ width, error.ShownAt text before after width := by
  have linesChars : (Lines.ofString text).text.toList = before ++ after := chars
  have size : (Span.length ⟨.atOffset (byteLength before),
      .atOffset (byteLength before + length)⟩) = .ok length := by
    simp [Span.length, Position.atOffset]
  obtain ⟨inside, rest, rfl, resolved⟩ :=
    Lines.exists_spanAt_eq linesChars (by omega) length
  have shown := Lines.renderDiagnostic_ofChars linesChars error.headline
  rw [overhangs_eq_false rest quiet, if_neg Bool.false_ne_true] at shown
  refine ⟨max (underlineLength before inside) 1, chars, ?_, by omega⟩
  rw [render_of_span (covered.trans (ScanError.spanFrom_eq_ok fits)),
    Lines.renderDiagnostic_ofOffsets rfl size resolved]
  exact shown

end SelectorError

/-! ## Errors of scanning -/

section

variable {text : String} {preferences : ScanPreferences}

theorem scanSelector_of_too_long (long : maxSourceLength < text.utf8ByteSize) :
    (scanSelector preferences text).tokens = #[] ∧
      (scanSelector preferences text).verdict = .failed (.sourceTooLong text.utf8ByteSize) := by
  have tooLong : maxSourceLength < (Source.ofString text).length := long
  obtain ⟨tokens, -, verdict⟩ :=
    SelectorContext.family.scanFrom_of_too_long preferences .selector 0 tooLong
  exact ⟨tokens, verdict⟩

open SelectorContext in
theorem scanSelector_trace (preferences : ScanPreferences)
    (short : text.utf8ByteSize ≤ maxSourceLength) :
    ∃ final stop after,
      family.Trace (.ofString text) [selector] 0 (scanSelector preferences text).tokens.toList final
          stop ∧
        (Source.ofString text).SplitAt stop
          (joinedValues (scanSelector preferences text).tokens.toList).toList after ∧
        family.Ends (.ofString text) preferences final stop
          (scanSelector preferences text).tokens.size (scanSelector preferences text).verdict := by
  have bounded : (Source.ofString text).length ≤ maxSourceLength := short
  obtain ⟨final, stop, trace, -, ends⟩ := family.scanFrom_trace preferences selector 0 bounded
  obtain ⟨after, -, reached⟩ := splitAt_of_trace trace (Source.splitAt_zero _)
  exact ⟨final, stop, after, trace, reached, ends⟩

open SelectorContext in
theorem isLineEnd_eq_false_of_missing {context : SelectorContext} {source : Source} {offset : Nat}
    {before after : List Char} (reached : source.SplitAt offset before after)
    (missing : context.token? source offset = none) :
    ∀ c, after.head? = some c → isLineEnd c = false := by
  intro c head
  cases ending : isLineEnd c with
  | false => rfl
  | true =>
      obtain ⟨rest, rfl⟩ := List.head?_eq_some_iff.mp head
      exact absurd missing (token?_ne_none_of_isLineEnd reached ending)

/-- Where an error of a scan is shown in a text of some length. A scan of a selector has no other
errors. -/
inductive ScanError.PointsAt (length : Nat) : ScanError → Nat → Prop
  | stuck (offset : Nat) (remainder context : String) :
      PointsAt length (.stuck offset remainder context) offset
  | contextTooDeep (depth offset : Nat) : PointsAt length (.contextTooDeep depth offset) offset
  | sourceTooLong (size : Nat) : PointsAt length (.sourceTooLong size) length
  | tooManyTokens (count : Nat) : PointsAt length (.tooManyTokens count) length

theorem exists_shownAt_of_stuck {offset : Nat} {before after : List Char} (context : String)
    (fits : text.utf8ByteSize ≤ maxOffset)
    (reached : (Source.ofString text).SplitAt offset before after) (inside : after ≠ [])
    (quiet : ∀ c, after.head? = some c → isLineEnd c = false) :
    ∃ width,
      (SelectorError.scan (.stuck offset
        (if preferences.includeRemainder then (Source.ofString text).textAfter offset else "")
        context)).ShownAt text before after width ∧
      (preferences.includeRemainder = true → '\n' ∈ after →
        (currentLine before).length + width = (shownLine before after).length) := by
  rw [reached.textAfter_eq]
  have length : text.utf8ByteSize = byteLength before + byteLength after := by
    rw [reached.offset_eq]
    exact reached.length_eq
  have positive : 0 < byteLength after := by
    obtain ⟨c, rest, rfl⟩ := List.exists_cons_of_ne_nil inside
    have size := Char.utf8Size_pos c
    rw [byteLength_cons]
    omega
  obtain ⟨chars, rfl⟩ := reached
  cases whole : preferences.includeRemainder with
  | true =>
      rw [if_pos rfl]
      have size : max (String.ofList after).utf8ByteSize 1 = byteLength after := by
        rw [utf8ByteSize_eq_byteLength, String.toList_ofList]
        omega
      have covered :
          (SelectorError.scan (.stuck (byteLength before) (String.ofList after) context)).span =
          .ok (some ⟨.atOffset (byteLength before),
            .atOffset (byteLength before + byteLength after)⟩) := by
        rw [← size]
        exact ScanError.spanFrom_eq_ok (by omega)
      have parts : text.toList = before ++ (after ++ []) := by rw [List.append_nil, ← chars]; rfl
      have hidden : overhangs before after = false := by
        refine overhangs_eq_false [] ?_
        rw [List.append_nil]
        exact fun _ => quiet
      have shown := SelectorError.shownAt_of_chars parts (by rw [byteLength_append]; omega)
        covered hidden
      rw [List.append_nil] at shown
      exact ⟨_, shown, fun _ several => length_shownLine_of_feed several quiet⟩
  | false =>
      rw [if_neg Bool.false_ne_true]
      have covered : (SelectorError.scan (.stuck (byteLength before) "" context)).span =
          ScanError.spanFrom (byteLength before) 1 := rfl
      obtain ⟨width, shown⟩ := SelectorError.shownAt_of_spanFrom chars (by omega) covered
        (fun _ => quiet)
      refine ⟨width, shown, ?_⟩
      rintro ⟨⟩

open SelectorContext in
/-- Every error of a scan is shown where it points; the underline of input that cannot be
classified ends with the shown line if the input goes on behind it. -/
theorem exists_shownAt_of_failed {error : ScanError} (fits : text.utf8ByteSize < maxOffset)
    (failed : (scanSelector preferences text).verdict = .failed error) :
    ∃ before after width,
      error.PointsAt text.utf8ByteSize (byteLength before) ∧
        (SelectorError.scan error).ShownAt text before after width ∧
        ∀ offset remainder context, error = .stuck offset remainder context →
          preferences.includeRemainder = true → '\n' ∈ after →
          (currentLine before).length + width = (shownLine before after).length := by
  have place : byteLength text.toList = text.utf8ByteSize :=
    (utf8ByteSize_eq_byteLength text).symm
  have atEnd := @SelectorError.shownAt_of_no_span text
  rcases Nat.lt_or_ge maxSourceLength text.utf8ByteSize with long | short
  · cases failed.symm.trans (scanSelector_of_too_long long).2
    refine ⟨text.toList, [], 1, ?_, atEnd (Nat.le_of_lt fits) rfl, ?_⟩
    · rw [place]
      exact .sourceTooLong _
    · rintro offset remainder context ⟨⟩
  · obtain ⟨final, stop, after, trace, reached, ends⟩ := scanSelector_trace preferences short
    have length : text.utf8ByteSize = stop + byteLength after := reached.length_eq
    have offset := reached.offset_eq
    rw [failed] at ends
    generalize (scanSelector preferences text).tokens.size = count at ends
    cases ends with
    | stuck inside _ missing =>
        have nonempty : after ≠ [] := by
          rintro rfl
          exact Nat.lt_irrefl _ (Nat.lt_of_lt_of_eq inside length)
        have quiet := isLineEnd_eq_false_of_missing reached (Except.ok.inj missing)
        obtain ⟨width, shown, ended⟩ :=
          exists_shownAt_of_stuck _ (Nat.le_of_lt fits) reached nonempty quiet
        refine ⟨_, after, width, ?_, shown, ?_⟩
        · rw [offset]
          exact .stuck _ _ _
        · rintro _ _ _ ⟨⟩
          exact ended
    | defective _ _ produced defect => exact absurd defect (defect?_ne_some produced)
    | crowded _ _ =>
        refine ⟨text.toList, [], 1, ?_, atEnd (Nat.le_of_lt fits) rfl, ?_⟩
        · rw [place]
          exact .tooManyTokens _
        · rintro _ _ _ ⟨⟩
    | tooDeep excess =>
        have covered : (SelectorError.scan (.contextTooDeep (maxContextDepth + 1) stop)).span =
            ScanError.spanFrom (byteLength
              (joinedValues (scanSelector preferences text).tokens.toList).toList) 1 := by
          rw [offset]
          rfl
        obtain ⟨width, shown⟩ := SelectorError.shownAt_of_spanFrom reached.chars_eq (by omega)
          covered fun last c head =>
            isLineEnd_eq_false_of_length trace (Source.splitAt_zero _) reached excess last head
        refine ⟨_, after, width, ?_, shown, ?_⟩
        · rw [offset]
          exact .contextTooDeep _ _
        · rintro _ _ _ ⟨⟩

theorem reportSelector_eq_failed {duration : Nat} {error : SelectorError}
    (failed : (reportSelector preferences duration text).1 = .failed error) :
    ∃ found, error = .scan found ∧ (scanSelector preferences text).verdict = .failed found := by
  rw [reportSelector_eq] at failed
  split at failed
  · next found stopped =>
      cases failed
      exact ⟨found, rfl, stopped⟩
  · cases failed
  · cases failed

end

/-- Every error of scanning a text whose lines and columns have 32 bits is shown: with the line and
the column of the place that it points at, with that line of the text, and with an underline that
starts below the place. Input that cannot be classified is underlined up to the end of the shown
line, if it is known and goes on behind that line. -/
theorem reportSelector_render (preferences : ScanPreferences) (duration : Nat) (text : String)
    (short : text.utf8ByteSize < maxColumn) (error : SelectorError)
    (failed : (reportSelector preferences duration text).1 = .failed error) :
    ∃ found before after width,
      error = .scan found ∧ text.toList = before ++ after ∧
        found.PointsAt text.utf8ByteSize (byteLength before) ∧
        error.render text =
          .ok (diagnostic s!"[{error.code.text}] {error.message}" before after width) ∧
        0 < width ∧
        (Lines.ofString text).line? (before.count '\n' + 1) = some (shownLine before after) ∧
        before.count '\n' + 1 ≤ maxColumn ∧ (currentLine before).length + 1 ≤ maxColumn ∧
        ∀ offset remainder context, found = .stuck offset remainder context →
          preferences.includeRemainder = true → '\n' ∈ after →
          (currentLine before).length + width = (shownLine before after).length := by
  have limit : maxColumn < maxOffset := by decide
  obtain ⟨found, rfl, stopped⟩ := reportSelector_eq_failed failed
  obtain ⟨before, after, width, points, shown, ended⟩ :=
    exists_shownAt_of_failed (Nat.lt_trans short limit) stopped
  have inside : before.length ≤ text.utf8ByteSize := by
    rw [utf8ByteSize_eq_byteLength, shown.chars_eq, byteLength_append]
    exact Nat.le_trans (length_le_byteLength before) (Nat.le_add_right _ _)
  have lines : before.count '\n' ≤ before.length := List.count_le_length
  have columns := length_currentLine_le before
  have line := @Lines.line?_origin_afterAll (Lines.ofString text) before after shown.chars_eq
  rw [Position.line_origin_afterAll] at line
  exact ⟨found, before, after, width, rfl, shown.chars_eq, points, shown.render_eq,
    shown.width_pos, line, by omega, by omega, ended⟩

/-- A brace in the second of three lines is underlined up to the end of its line. -/
theorem reportSelector_render_of_brace :
    "a,\r\nb\x7bc\r\nd".utf8ByteSize < maxColumn ∧
      (reportSelector {} 0 "a,\r\nb\x7bc\r\nd").1 =
        .failed (.scan (.stuck 5 "\x7bc\r\nd" "selector")) ∧
      (SelectorError.scan (.stuck 5 "\x7bc\r\nd" "selector")).render "a,\r\nb\x7bc\r\nd" =
        .ok ("error: [E020] Tokenization failed: Unable to tokenize input at offset 5 " ++
          "in selector context: '\x7bc\r\nd'\n  --> 2:2\n  |\n2 | b\x7bc\n  |  ^^\n") ∧
      ∃ before after width,
        "a,\r\nb\x7bc\r\nd".toList = before ++ after ∧ byteLength before = 5 ∧
          (SelectorError.scan (.stuck 5 "\x7bc\r\nd" "selector")).render "a,\r\nb\x7bc\r\nd" =
            .ok (diagnostic ("[E020] Tokenization failed: Unable to tokenize input at offset 5 " ++
              "in selector context: '\x7bc\r\nd'") before after width) ∧
          (currentLine before).length + width = (shownLine before after).length := by
  have short : "a,\r\nb\x7bc\r\nd".utf8ByteSize < maxColumn := by decide
  have failed : (reportSelector {} 0 "a,\r\nb\x7bc\r\nd").1 =
      .failed (.scan (.stuck 5 "\x7bc\r\nd" "selector")) := by
    have verdict : (scanSelector {} "a,\r\nb\x7bc\r\nd").verdict =
        .failed (.stuck 5 "\x7bc\r\nd" "selector") := by decide +kernel
    rw [reportSelector_eq]
    simp only [verdict]
  refine ⟨short, failed, by decide +kernel, ?_⟩
  obtain ⟨found, before, after, width, same, parts, points, shown, -, -, -, -, ended⟩ :=
    reportSelector_render {} 0 _ short _ failed
  cases same
  generalize place : byteLength before = stop at points
  cases points
  have behind := dropBytes?_byteLength_append before after
  rw [← parts, place] at behind
  have rest : dropBytes? 5 "a,\r\nb\x7bc\r\nd".toList = some "\x7bc\r\nd".toList := by decide
  have several : '\n' ∈ after := by
    rw [← Option.some.inj (rest.symm.trans behind)]
    decide
  exact ⟨before, after, width, parts, place, shown, ended _ _ _ rfl rfl several⟩

end CssSelector
