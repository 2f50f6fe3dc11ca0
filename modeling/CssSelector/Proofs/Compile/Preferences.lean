import CssSelector.Proofs.Compile.Delivery
import CssSelector.Proofs.Parse.Preferences
import CssSelector.Proofs.Scan.Preferences

/-!
# Preferences and logs do not change results

Preferences only say what is recorded and reported, and what is logged is not looked at again. So
scanning, parsing, and both in a row, come to the same under any preferences and any log, but for
the rest of the source that the error of a scan reports: `results_under_preferences`.
-/

set_option autoImplicit false

namespace CssSelector

section

variable {σ : Type} [EventLog σ]

/-- A scan onto a stream that writes to a log: its verdict and the stream, and the log. -/
def ContextFamily.scanLogged {κ : Type} (family : ContextFamily κ) (preferences : ScanPreferences)
    (root : κ) (source : Source) (offset : Nat) (stream : TokenStream) (log : σ) :
    (Verdict ScanError Nat × TokenStream) × σ :=
  match family.scanInto preferences root source offset log with
  | ⟨tokens, verdict, _, log⟩ => ((verdict, stream.append tokens), log)

/-- A parse of a stream that writes to a log: its verdict and the tokens that it leaves, and the
log. -/
def Grammar.parseLogged {ν : Type} (grammar : Grammar ν) (preferences : ParsePreferences)
    (production : ν) (stream : TokenStream) (log : σ) :
    (Verdict ParseError (grammar.Ast production) × TokenStream) × σ :=
  match grammar.parseInto preferences production stream log with
  | ⟨verdict, stream, log⟩ => ((verdict, stream), log)

end

/-- The tokens that compiling leaves, if it comes to parsing. -/
def tokensLeft? {ν : Type} (grammar : Grammar ν) (scanning : ScanPreferences)
    (parsing : ParsePreferences) (production : ν) (text : String) : Option TokenStream :=
  let scanned := scanSelector scanning text
  match scanned.verdict with
  | .done _ => some (grammar.parse parsing production (.ofArray scanned.tokens)).stream
  | _ => none

/-- An error of one of the two stages, as it is reported under given preferences. -/
def SelectorError.reported (preferences : ScanPreferences) (source : Source) :
    SelectorError → SelectorError
  | scan error => scan (error.reported preferences source)
  | parse error => parse error

variable {ν : Type} (grammar : Grammar ν) (scanning otherScanning : ScanPreferences)
  (parsing otherParsing : ParsePreferences) (production : ν) (text : String)

theorem scanSelector_preferences :
    (scanSelector scanning text).tokens = (scanSelector otherScanning text).tokens ∧
      (scanSelector scanning text).verdict = (scanSelector otherScanning text).verdict.mapError
        (ScanError.reported scanning (.ofString text)) :=
  SelectorContext.family.scanFrom_preferences scanning otherScanning .selector (.ofString text) 0

theorem compileSelector_preferences (duration otherDuration : Nat) :
    (compileSelector grammar scanning parsing duration production text).1 =
      (compileSelector grammar otherScanning otherParsing otherDuration production
        text).1.mapError (SelectorError.reported scanning (.ofString text)) := by
  obtain ⟨tokens, scanned⟩ := scanSelector_preferences scanning otherScanning text
  obtain ⟨parsed, -⟩ := grammar.parse_preferences parsing otherParsing production
    (.ofArray (scanSelector otherScanning text).tokens)
  simp only [compileSelector_eq]
  rw [tokens, scanned, parsed]
  cases (scanSelector otherScanning text).verdict with
  | failed error => rfl
  | fault cause => rfl
  | done cursor =>
      simp only [Verdict.mapError]
      cases (grammar.parse otherParsing production
        (.ofArray (scanSelector otherScanning text).tokens)).verdict with
      | done value => rfl
      | failed error => rfl
      | fault cause => rfl

theorem tokensLeft?_preferences :
    tokensLeft? grammar scanning parsing production text =
      tokensLeft? grammar otherScanning otherParsing production text := by
  obtain ⟨tokens, scanned⟩ := scanSelector_preferences scanning otherScanning text
  obtain ⟨-, left⟩ := grammar.parse_preferences parsing otherParsing production
    (.ofArray (scanSelector otherScanning text).tokens)
  simp only [tokensLeft?]
  rw [tokens, scanned, left]
  cases (scanSelector otherScanning text).verdict with
  | done cursor => rfl
  | failed error => rfl
  | fault cause => rfl

/-! ## Runs that write to a log -/

open Session in
theorem ContextFamily.delivers_scanLogged {κ : Type} (family : ContextFamily κ)
    (preferences : ScanPreferences) (root : κ) (source : Source) (offset : Nat)
    (stream : TokenStream) :
    Delivers (family.scanLogged preferences root source offset stream)
      (family.scanLogged preferences root source offset stream #[]) := by
  intro session
  rw [scanLogged, scanInto_eq]
  rfl

open Session in
theorem Grammar.delivers_parseLogged (preferences : ParsePreferences) (stream : TokenStream) :
    Delivers (grammar.parseLogged preferences production stream)
      (grammar.parseLogged preferences production stream #[]) := by
  intro session
  rw [parseLogged, parseInto_eq]
  rfl

/-- Two runs that differ in their preferences, in their logs and in the sessions around them come to
the same. Scans take the same tokens and end alike; only the rest of the source in the error of a
scan that is stuck is what its own preferences ask for. Parses end alike, also if a contract is
broken, and leave the same tokens. So do scanning and parsing in a row. -/
theorem results_under_preferences (session otherSession : Session) (log otherLog : Option Service) :
    (∀ {κ : Type} (family : ContextFamily κ) (left right : ScanPreferences) (root : κ)
        (source : Source) (offset : Nat) (stream : TokenStream),
      let first := session.resultUnder (family.scanLogged left root source offset stream) log
      let second :=
        otherSession.resultUnder (family.scanLogged right root source offset stream) otherLog
      first.2 = second.2 ∧ first.1 = second.1.mapError (.reported left source)) ∧
      (∀ {ν : Type} (grammar : Grammar ν) (left right : ParsePreferences) (production : ν)
          (stream : TokenStream),
        session.resultUnder (grammar.parseLogged left production stream) log =
          otherSession.resultUnder (grammar.parseLogged right production stream) otherLog) ∧
      ∀ {ν : Type} (grammar : Grammar ν) (scanning otherScanning : ScanPreferences)
          (parsing otherParsing : ParsePreferences) (duration otherDuration : Nat) (production : ν)
          (text : String),
        session.resultUnder
            (compileInto grammar scanning parsing duration production text) log =
          (otherSession.resultUnder
            (compileInto grammar otherScanning otherParsing otherDuration production text)
            otherLog).mapError (.reported scanning (.ofString text)) ∧
        tokensLeft? grammar scanning parsing production text =
          tokensLeft? grammar otherScanning otherParsing production text := by
  refine ⟨?_, ?_, ?_⟩
  · intro κ family left right root source offset stream first second
    have reached := session.resultUnder_eq
      (family.delivers_scanLogged left root source offset stream) log
    have alsoReached := otherSession.resultUnder_eq
      (family.delivers_scanLogged right root source offset stream) otherLog
    simp only [first, second, reached, alsoReached]
    obtain ⟨tokens, verdict⟩ := family.scanFrom_preferences left right root source offset
    exact ⟨congrArg stream.append tokens, verdict⟩
  · intro ν grammar left right production stream
    rw [session.resultUnder_eq (grammar.delivers_parseLogged production left stream),
      otherSession.resultUnder_eq (grammar.delivers_parseLogged production right stream)]
    obtain ⟨verdict, tokens⟩ := grammar.parse_preferences left right production stream
    exact Prod.ext verdict tokens
  · intro ν grammar scanning otherScanning parsing otherParsing duration otherDuration production
      text
    constructor
    · rw [session.resultUnder_eq (delivers_compileInto _ _ _ _ _ _),
        otherSession.resultUnder_eq (delivers_compileInto _ _ _ _ _ _)]
      apply compileSelector_preferences
    · apply tokensLeft?_preferences

end CssSelector
