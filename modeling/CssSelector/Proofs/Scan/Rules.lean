import CssSelector.Context.Table
import CssSelector.Proofs.Selector.Token

/-!
# Contexts that only try rules

A context that makes up its tokens can break the contract of a scan. One that tries rules in order
cannot, `scanFrom_keepsContract`: a match that is empty or stands elsewhere is no match, whatever
is searched for. Searches are arbitrary. That a match is a part of the text that was searched is
built into `Lexeme.Finder`, which tells its place and not its text.
-/

set_option autoImplicit false

namespace CssSelector

/-- The characters behind a token. The source is cut there, which must not be inside a
character. -/
def Source.behind (source : Source) (token : Token) : Except Fault (List Char) := do
  match source.after? (← token.stop) with
  | some rest => .ok rest
  | none => .error .misplacedCut

/-- A rule of a context. -/
inductive MatchRule where
  /-- For a fixed text. -/
  | text (kind : TokenKind) (text : String)
  /-- For the match of a search, which counts only at the front. -/
  | search (kind : TokenKind) (find : Lexeme.Finder)
  /-- For the match of a search, which counts only if the text behind it passes a test. -/
  | delimited (kind : TokenKind) (find : Lexeme.Finder) (ends : List Char → Bool)

namespace MatchRule

/-- The kind of the tokens of a rule. -/
def kind : MatchRule → TokenKind
  | text kind _ | search kind _ | delimited kind _ _ => kind

/-- The token of a rule at an offset. -/
def token? (source : Source) (offset : Nat) : MatchRule → Except Fault (Option Token)
  | text kind fixed => .ok ((LexicalRule.ofText kind fixed).token? source offset)
  | search kind find => .ok ((LexicalRule.ofFinder kind find).token? source offset)
  | delimited kind find ends =>
      match (LexicalRule.ofFinder kind find).token? source offset with
      | none => .ok none
      | some token => do return if ends (← source.behind token) then some token else none

/-- The token of the first rule that has one. -/
def firstToken? (source : Source) (offset : Nat) : List MatchRule → Except Fault (Option Token)
  | [] => .ok none
  | rule :: later => do
      match ← rule.token? source offset with
      | some token => return some token
      | none => firstToken? source offset later

end MatchRule

/-- Every context of a family tries rules, none of them for the wildcard, in all sources whose
offsets are 64-bit numbers. Nothing is said of what closes the contexts and of what they open. -/
def ContextFamily.TriesRules {κ : Type} (family : ContextFamily κ) : Prop :=
  ∀ context, ∃ rules : List MatchRule, (∀ rule ∈ rules, rule.kind ≠ .any) ∧
    ∀ source offset, source.length ≤ maxOffset →
      family.token? context source offset = MatchRule.firstToken? source offset rules

/-- Verdicts for which no context is to blame: there is no fault and no token that a context should
not have given, and the place of an error is a span. -/
def BlamesNoContext : Verdict ScanError Nat → Prop
  | .done _ => True
  | .fault _ => False
  | .failed (.zeroLengthToken ..) => False
  | .failed (.wildcardToken ..) => False
  | .failed (.offsetMismatch ..) => False
  | .failed error => ∃ span, error.span = .ok span

/-- What a scan from an offset on comes to if the contexts keep their contract. No token ends behind
the source, so no sum of offsets overflows; and the tokens are taken off the source. -/
structure ScanOutcome.KeepsContract (outcome : ScanOutcome) (source : Source) (start : Nat) :
    Prop where
  verdict : BlamesNoContext outcome.verdict
  inside : ∀ token ∈ outcome.tokens.toList, token.offset + token.length ≤ source.length
  outside : source.after? start = none → outcome.tokens = #[]
  taken : (source.after? start).isSome = true →
    ∃ stop, source.slice? start stop = some (joinedValues outcome.tokens.toList)

variable {source : Source} {offset : Nat} {token : Token}

theorem Token.Covers.behind (covers : token.Covers source offset)
    (short : source.length ≤ maxOffset) :
    ∃ later, source.after? offset = some (token.value.toList ++ later) ∧
      source.behind token = .ok later := by
  obtain ⟨later, found⟩ := covers.ahead
  obtain ⟨before, split⟩ := Source.after?_eq_some_iff.mp found
  have bound := split.length_eq
  rw [byteLength_append, Token.byteLength_value] at bound
  have stop : token.stop = .ok (offset + token.length) := by
    rw [Token.stop_eq_ok (by rw [covers.place]; omega), covers.place]
  have reached := split.advance
  rw [Token.byteLength_value] at reached
  refine ⟨later, found, ?_⟩
  rw [Source.behind, stop]
  simp only [bind, Except.bind, reached.after?_eq]

/-! ## Rules give text of the source -/

theorem Lexeme.leads_atFront (find : Finder) : Leads (atFront find) := by
  intro input lexeme found
  unfold atFront at found
  split at found
  · obtain ⟨full, rfl⟩ := nonempty_eq_some_iff.mp found
    exact ⟨full, List.take_prefix _ _⟩
  · cases found

theorem MatchRule.token?_eq_ok {rule : MatchRule} (classifies : rule.kind ≠ .any)
    (short : source.length ≤ maxOffset) :
    ∃ answer, rule.token? source offset = .ok answer ∧
      ∀ token ∈ answer, token.Covers source offset := by
  cases rule with
  | text kind fixed =>
      refine ⟨_, rfl, ?_⟩
      intro token found
      exact (LexicalRule.ofText kind fixed).covers (Lexeme.leads_literal _) classifies found
  | search kind find =>
      refine ⟨_, rfl, ?_⟩
      intro token found
      exact (LexicalRule.ofFinder kind find).covers (Lexeme.leads_atFront find) classifies found
  | delimited kind find ends =>
      cases matched : (LexicalRule.ofFinder kind find).token? source offset with
      | none => exact ⟨none, by rw [token?, matched], by simp⟩
      | some token =>
          have covers :=
            (LexicalRule.ofFinder kind find).covers (Lexeme.leads_atFront find) classifies matched
          obtain ⟨later, -, behind⟩ := covers.behind short
          refine ⟨if ends later then some token else none, ?_, ?_⟩
          · rw [token?, matched]
            simp only [behind, bind, Except.bind]
            rfl
          · intro found accepted
            split at accepted
            · cases accepted
              exact covers
            · cases accepted

theorem MatchRule.firstToken?_eq_ok {rules : List MatchRule}
    (classify : ∀ rule ∈ rules, rule.kind ≠ .any) (short : source.length ≤ maxOffset) :
    ∃ answer, firstToken? source offset rules = .ok answer ∧
      ∀ token ∈ answer, token.Covers source offset := by
  induction rules with
  | nil => exact ⟨none, rfl, by simp⟩
  | cons rule later ih =>
      rw [List.forall_mem_cons] at classify
      obtain ⟨answer, given, covers⟩ := @token?_eq_ok source offset rule classify.1 short
      rw [firstToken?, given]
      cases answer with
      | some token => exact ⟨some token, rfl, covers⟩
      | none => exact ih classify.2

theorem ScanError.exists_span_eq {error : ScanError} {length : Nat}
    (short : source.length < maxOffset) (inside : offset + length ≤ source.length + 1)
    (covered : error.span = ScanError.spanFrom offset length) : ∃ span, error.span = .ok span :=
  ⟨_, covered.trans (ScanError.spanFrom_eq_ok (by omega))⟩

namespace ContextFamily

variable {κ : Type} {family : ContextFamily κ} {preferences : ScanPreferences} {root : κ}
  {start stop count : Nat} {final : List κ} {verdict : Verdict ScanError Nat}

theorem TriesRules.answer (tries : family.TriesRules) (context : κ)
    (short : source.length ≤ maxOffset) (offset : Nat) :
    ∃ answer, family.token? context source offset = .ok answer ∧
      ∀ token ∈ answer, token.Covers source offset := by
  obtain ⟨rules, classify, answers⟩ := tries context
  rw [answers source offset short]
  exact MatchRule.firstToken?_eq_ok classify short

theorem TriesRules.takesText (tries : family.TriesRules) (short : source.length ≤ maxOffset) :
    family.TakesText source := by
  intro context offset token produced
  obtain ⟨answer, given, covers⟩ := tries.answer context short offset
  cases given.symm.trans produced
  exact covers token rfl

theorem TriesRules.token?_ne_error (tries : family.TriesRules) {context : κ} {cause : Fault}
    (short : source.length ≤ maxOffset) :
    family.token? context source offset ≠ .error cause := by
  obtain ⟨answer, given, -⟩ := tries.answer context short offset
  rw [given]
  intro broken
  cases broken

/-! ## Scans -/

/-- The place where a trace ends is inside the source, or nothing happened. -/
theorem TakesText.stop_le_of_trace (takes : family.TakesText source) {tokens : List Token}
    (trace : family.Trace source [root] start tokens final stop) :
    stop ≤ source.length ∨ final = [root] := by
  cases found : source.after? start with
  | none =>
      have none := takes.eq_nil_of_trace trace found
      subst none
      exact .inr trace.eq_of_no_tokens.1
  | some after =>
      obtain ⟨before, split⟩ := Source.after?_eq_some_iff.mp found
      obtain ⟨later, -, reached⟩ := takes.splitAt_of_trace trace split
      have bound := reached.length_eq
      exact .inl (by omega)

theorem TriesRules.blamesNoContext (tries : family.TriesRules) {tokens : List Token}
    (short : source.length ≤ maxSourceLength)
    (trace : family.Trace source [root] start tokens final stop)
    (ends : family.Ends source preferences final stop count verdict) :
    BlamesNoContext verdict := by
  have limit : source.length < maxOffset := Nat.lt_of_le_of_lt short maxSourceLength_lt_maxOffset
  have takes := tries.takesText (Nat.le_of_lt limit)
  cases ends with
  | closed => exact True.intro
  | exhausted _ _ => exact True.intro
  | stuck inside _ _ =>
      refine ScanError.exists_span_eq limit ?_ rfl
      have whole := Source.add_textAfter_le inside
      cases preferences.includeRemainder with
      | true =>
          rw [if_pos rfl]
          omega
      | false =>
          rw [if_neg Bool.false_ne_true]
          exact Nat.le_succ_of_le inside
  | defective _ _ produced defect => exact absurd defect (takes.defect?_ne_some produced)
  | crowded _ _ => exact ⟨none, rfl⟩
  | tooDeep excess =>
      refine ScanError.exists_span_eq limit ?_ rfl
      rcases takes.stop_le_of_trace trace with inside | unopened
      · exact Nat.succ_le_succ inside
      · rw [unopened] at excess
        cases excess
  | faulted _ _ broken => exact absurd broken (tries.token?_ne_error (Nat.le_of_lt limit))

theorem TriesRules.keepsContract (tries : family.TriesRules) (preferences : ScanPreferences)
    (root : κ) (source : Source) (start : Nat) :
    (family.scanFrom preferences root source start).KeepsContract source start := by
  by_cases long : maxSourceLength < source.length
  · obtain ⟨untouched, -, refused⟩ := scanFrom_of_too_long family preferences root start long
    refine ⟨?_, by simp [untouched], fun _ => untouched, fun boundary => ⟨start, ?_⟩⟩
    · rw [refused]
      exact ⟨none, rfl⟩
    · obtain ⟨before, after, split⟩ := Source.exists_splitAt boundary
      rw [untouched]
      exact @Source.SplitAt.slice?_eq _ _ _ _ [] split
  · have short : source.length ≤ maxSourceLength := Nat.le_of_not_lt long
    have takes : family.TakesText source :=
      tries.takesText (Nat.le_trans short (Nat.le_of_lt maxSourceLength_lt_maxOffset))
    obtain ⟨final, stop, trace, -, ends⟩ := scanFrom_trace family preferences root start short
    refine ⟨tries.blamesNoContext short trace ends, ?_, ?_, ?_⟩
    · intro token member
      obtain ⟨earlier, later, tokens⟩ := List.append_of_mem member
      rw [tokens] at trace
      obtain ⟨before, rest, split⟩ := takes.exists_splitAt_of_mem_trace trace
      have bound := split.length_eq
      rw [byteLength_append, Token.byteLength_value] at bound
      omega
    · intro outside
      exact Array.toList_eq_nil_iff.mp (takes.eq_nil_of_trace trace outside)
    · intro boundary
      obtain ⟨before, after, split⟩ := Source.exists_splitAt boundary
      obtain ⟨later, rfl, reached⟩ := takes.splitAt_of_trace trace split
      refine ⟨stop, ?_⟩
      rw [split.slice?_to_eq reached, String.ofList_toList]

end ContextFamily

/-! ## The contexts of selectors -/

namespace Lexeme

/-- A recognizer as a search that finds its lexemes at the front. -/
def finderOf (recognize : Recognizer) : Finder := fun input =>
  (recognize input).map fun lexeme => (0, lexeme.length)

theorem atFront_finderOf {recognize : Recognizer} (leads : Leads recognize) :
    atFront (finderOf recognize) = recognize := by
  funext input
  unfold atFront finderOf
  cases recognized : recognize input with
  | none => rfl
  | some lexeme =>
      obtain ⟨full, later, rfl⟩ := leads recognized
      simp [nonempty, full]

end Lexeme

/-- A rule of the contexts of selectors as one that searches. -/
def MatchRule.ofRule (rule : LexicalRule) : MatchRule :=
  .search rule.kind (Lexeme.finderOf rule.recognize)

theorem MatchRule.token?_ofRule {rule : LexicalRule} (leads : Lexeme.Leads rule.recognize) :
    (ofRule rule).token? source offset = .ok (rule.token? source offset) := by
  simp only [ofRule, token?, LexicalRule.ofFinder, Lexeme.atFront_finderOf leads]

/-- Rules that answer like those of a context one by one do so in order. -/
theorem MatchRule.firstToken?_cons {candidate : MatchRule} {matching : List MatchRule}
    {rule : LexicalRule} {rules : List LexicalRule}
    (head : candidate.token? source offset = .ok (rule.token? source offset))
    (tail :
      firstToken? source offset matching = .ok (LexicalRule.firstToken? rules source offset)) :
    firstToken? source offset (candidate :: matching) =
      .ok (LexicalRule.firstToken? (rule :: rules) source offset) := by
  rw [firstToken?, head, LexicalRule.firstToken?, List.findSome?_cons]
  cases rule.token? source offset with
  | some token => rfl
  | none => exact tail

theorem MatchRule.firstToken?_map_ofRule {rules : List LexicalRule}
    (lead : ∀ rule ∈ rules, Lexeme.Leads rule.recognize) :
    firstToken? source offset (rules.map ofRule) =
      .ok (LexicalRule.firstToken? rules source offset) := by
  induction rules with
  | nil => rfl
  | cons rule later ih =>
      rw [List.forall_mem_cons] at lead
      exact firstToken?_cons (token?_ofRule lead.1) (ih lead.2)

/-- To cut the source behind a position is to look on in the text that was searched. -/
theorem MatchRule.token?_position (short : source.length ≤ maxOffset) :
    (delimited .position (Lexeme.finderOf Lexeme.position) Lexeme.endsPosition).token? source
        offset = .ok (LexicalRule.token? ⟨.position, Lexeme.delimitedPosition⟩ source offset) := by
  have searching : LexicalRule.ofFinder .position (Lexeme.finderOf Lexeme.position) =
      ⟨.position, Lexeme.position⟩ :=
    congrArg (LexicalRule.mk .position) (Lexeme.atFront_finderOf Lexeme.leads_position)
  rw [token?, searching]
  cases found : source.after? offset with
  | none => simp [LexicalRule.token?, found]
  | some input =>
      cases recognized : Lexeme.position input with
      | none => simp [LexicalRule.token?, found, Lexeme.delimitedPosition, recognized]
      | some lexeme =>
          obtain ⟨full, later, rfl⟩ := Lexeme.leads_position recognized
          have matched : LexicalRule.token? ⟨.position, Lexeme.position⟩ source offset =
              some ⟨.position, offset, String.ofList lexeme⟩ := by
            simp [LexicalRule.token?, found, recognized]
          have covers := LexicalRule.covers Lexeme.leads_position (by decide) matched
          obtain ⟨rest, ahead, cut⟩ := covers.behind short
          obtain rfl : later = rest := by simpa [found] using ahead
          rw [matched]
          simp only [cut, bind, Except.bind]
          cases ends : Lexeme.endsPosition later with
          | true =>
              simp [LexicalRule.token?, found, Lexeme.delimitedPosition, recognized, ends]
              rfl
          | false =>
              simp [LexicalRule.token?, found, Lexeme.delimitedPosition, recognized, ends]
              rfl

namespace SelectorContext

/-- The rules of a context as searches. Only a position looks at what is behind it. -/
def matchRules : SelectorContext → List MatchRule
  | parameters =>
      .text .parametersEnd ")" ::
        .delimited .position (Lexeme.finderOf Lexeme.position) Lexeme.endsPosition ::
          selectorRules.map MatchRule.ofRule
  | context => context.rules.map MatchRule.ofRule

theorem firstToken?_matchRules (context : SelectorContext) (short : source.length ≤ maxOffset) :
    MatchRule.firstToken? source offset context.matchRules =
      .ok (context.token? source offset) := by
  have lead := leads_rules context
  cases context with
  | parameters =>
      refine MatchRule.firstToken?_cons rfl (MatchRule.firstToken?_cons ?_ ?_)
      · exact MatchRule.token?_position short
      · exact MatchRule.firstToken?_map_ofRule (leads_rules selector)
  | selector => exact MatchRule.firstToken?_map_ofRule lead
  | attributes => exact MatchRule.firstToken?_map_ofRule lead
  | string quote => exact MatchRule.firstToken?_map_ofRule lead

theorem family_triesRules : family.TriesRules := by
  intro context
  refine ⟨context.matchRules, ?_, ?_⟩
  · cases context with
    | selector => decide
    | parameters => decide
    | attributes => decide
    | string quote => cases quote <;> decide
  · intro source offset short
    exact (firstToken?_matchRules context short).symm

end SelectorContext

/-! ## Contexts given by their rules -/

/-- Contexts that try given rules, whatever closes them and whatever they open. -/
def ContextFamily.ofRules {κ : Type} (rules : κ → List MatchRule) (closes : κ → Token → Bool)
    (opens? : κ → Token → Option κ) : ContextFamily κ where
  name _ := defaultContextName
  token? context source offset := MatchRule.firstToken? source offset (rules context)
  closes := closes
  opens? := opens?

theorem ContextFamily.triesRules_ofRules {κ : Type} {rules : κ → List MatchRule}
    (classify : ∀ context, ∀ rule ∈ rules context, rule.kind ≠ .any) (closes : κ → Token → Bool)
    (opens? : κ → Token → Option κ) : (ofRules rules closes opens?).TriesRules :=
  fun context => ⟨rules context, classify context, fun _ _ _ => rfl⟩

/-- The contexts of an enumeration of words, some of them with a number behind. -/
inductive EnumerationContext where
  | words
  | number
  deriving DecidableEq

/-- Words are searched for anywhere, and white space that may be empty; a number counts only in
front of the parenthesis that closes it. -/
def EnumerationContext.rules : EnumerationContext → List MatchRule
  | words =>
      [.text .parametersStart "(", .search .characters Pattern.letters.find,
        .search .whitespace Pattern.spaces.find]
  | number =>
      [.text .parametersEnd ")", .delimited .position Pattern.digits.find (·.head? = some ')')]

/-- The contexts of enumerations. A parenthesis opens the context of a number. -/
def enumeration : ContextFamily EnumerationContext :=
  .ofRules EnumerationContext.rules (fun _ token => token.kind = .parametersEnd)
    fun _ token => if token.kind = .parametersStart then some .number else none

theorem enumeration_triesRules : enumeration.TriesRules := by
  apply ContextFamily.triesRules_ofRules
  intro context
  cases context with
  | words => decide
  | number => decide

/-! ## Every scan -/

/-- Contexts that only try rules in order keep the contract of a scan, whatever texts and searches
the rules are for, however contexts are closed and nested, and wherever the scan starts. The
contexts of selectors are of this sort. -/
theorem ContextFamily.scanFrom_keepsContract :
    (∀ {κ : Type} (family : ContextFamily κ), family.TriesRules →
      ∀ (preferences : ScanPreferences) (root : κ) (source : Source) (start : Nat),
        (family.scanFrom preferences root source start).KeepsContract source start) ∧
      SelectorContext.family.TriesRules :=
  ⟨fun _ tries => tries.keepsContract, SelectorContext.family_triesRules⟩

/-- A position at the end of a source is cut off there. Inside the character in front of it there
is no token. An enumeration stops in front of a digit: the letters that are found are behind it, the
white space that is found is empty, and neither counts. -/
theorem ContextFamily.keepsContract_of_position :
    SelectorContext.family.TriesRules ∧
      (Source.ofString "é2n").after? 1 = none ∧
      (SelectorContext.family.scanFrom {} .parameters (.ofString "é2n") 1).tokens = #[] ∧
      ((Source.ofString "é2n").after? 2).isSome = true ∧
      (SelectorContext.family.scanFrom {} .parameters (.ofString "é2n") 2).tokens =
        #[⟨.position, 2, "2n"⟩] ∧
      (∃ stop, (Source.ofString "é2n").slice? 2 stop = some "2n") ∧
      enumeration.TriesRules ∧
      Pattern.letters.find "3c".toList = some (1, 1) ∧
      Pattern.spaces.find "3c".toList = some (0, 0) ∧
      (enumeration.scanFrom {} .words (.ofString "ab(12) 3c") 0).tokens =
        #[⟨.characters, 0, "ab"⟩, ⟨.parametersStart, 2, "("⟩, ⟨.position, 3, "12"⟩,
          ⟨.parametersEnd, 5, ")"⟩, ⟨.whitespace, 6, " "⟩] ∧
      (enumeration.scanFrom {} .words (.ofString "ab(12) 3c") 0).verdict =
        .failed (.stuck 7 "3c" "status") ∧
      (∃ span, (ScanError.stuck 7 "3c" "status").span = .ok span) ∧
      ∃ stop, (Source.ofString "ab(12) 3c").slice? 0 stop = some "ab(12) " := by
  have tries := SelectorContext.family_triesRules
  have keeps := scanFrom_keepsContract.1 SelectorContext.family tries {} .parameters
    (.ofString "é2n")
  have outside : (Source.ofString "é2n").after? 1 = none := by decide +kernel
  have boundary : ((Source.ofString "é2n").after? 2).isSome = true := by decide +kernel
  have tokens : (SelectorContext.family.scanFrom {} .parameters (.ofString "é2n") 2).tokens =
      #[⟨.position, 2, "2n"⟩] := by decide +kernel
  obtain ⟨stop, taken⟩ := (keeps 2).taken boundary
  rw [tokens] at taken
  refine ⟨tries, outside, (keeps 1).outside outside, boundary, tokens,
    ⟨stop, by simpa using taken⟩, enumeration_triesRules, by decide, by decide, ?_⟩
  have items : (enumeration.scanFrom {} .words (.ofString "ab(12) 3c") 0).tokens =
      #[⟨.characters, 0, "ab"⟩, ⟨.parametersStart, 2, "("⟩, ⟨.position, 3, "12"⟩,
        ⟨.parametersEnd, 5, ")"⟩, ⟨.whitespace, 6, " "⟩] := by decide +kernel
  have stuck : (enumeration.scanFrom {} .words (.ofString "ab(12) 3c") 0).verdict =
      .failed (.stuck 7 "3c" "status") := by decide +kernel
  have counted := scanFrom_keepsContract.1 enumeration enumeration_triesRules {} .words
    (.ofString "ab(12) 3c") 0
  generalize enumeration.scanFrom {} .words (.ofString "ab(12) 3c") 0 = outcome
    at items stuck counted ⊢
  obtain ⟨blameless, -, -, reached⟩ := counted
  obtain ⟨last, whole⟩ := reached (by decide +kernel)
  rw [stuck] at blameless
  rw [items] at whole
  exact ⟨items, stuck, blameless, last, by simpa using whole⟩

end CssSelector
