import CssSelector.Proofs.Parse.Honest

/-!
# What the primitives do to a parser

Every question is answered from the tokens that are left, and its effect is stated on them: reading
removes the front token if it is expected, looking removes nothing, ignoring removes the tokens at
the front that are named. No primitive changes the number of active rules.
-/

set_option autoImplicit false

namespace CssSelector

theorem TokenStream.drop_zero (stream : TokenStream) : stream.drop 0 = stream := by
  obtain ⟨buffer, taken, bound⟩ := stream
  simp only [drop, Nat.add_zero, Nat.min_eq_left bound]

namespace Expected

theorem accepts_ofKinds {kinds : List TokenKind} (specific : .any ∉ kinds) (token : Token) :
    (ofKinds kinds).accepts token = true ↔ token.kind ∈ kinds := by
  rw [accepts, ofKinds, List.any_eq_true]
  constructor
  · rintro ⟨kind, member, fits⟩
    rw [List.mem_eraseDups] at member
    rw [Bool.or_eq_true, TokenKind.isWildcard, decide_eq_true_eq, decide_eq_true_eq] at fits
    rcases fits with rfl | rfl
    · exact absurd member specific
    · exact member
  · intro member
    exact ⟨token.kind, List.mem_eraseDups.mpr member, by simp⟩

theorem accepts_only {kind : TokenKind} (specific : kind ≠ .any) (token : Token) :
    (only kind).accepts token = true ↔ token.kind = kind := by
  rw [only, accepts_ofKinds (by simpa using specific.symm), List.mem_singleton]

theorem names_eq_accepts {expected : Expected} (named : expected.isWildcard = false) :
    expected.names = expected.accepts := by
  funext token
  have specific : ∀ kind ∈ expected.kinds, kind.isWildcard = false := by
    intro kind member
    refine decide_eq_false fun wildcard => ?_
    subst wildcard
    rw [isWildcard, contains, List.contains_eq_mem, decide_eq_false_iff_not] at named
    exact named member
  rw [Bool.eq_iff_iff, names, accepts, List.any_eq_true, List.any_eq_true]
  refine exists_congr fun kind => and_congr_right fun member => ?_
  rw [specific kind member]
  rfl

end Expected

namespace Parsing

variable {σ : Type}

section

variable {expected : Expected} {parser : Parsing σ}

theorem tokenAt_eq_ok_iff {place : Nat} {token : Token} :
    parser.tokenAt expected place = .ok token ↔
      parser.stream.toList[place]? = some token ∧ expected.accepts token = true := by
  unfold tokenAt
  rw [TokenStream.get?_eq]
  cases found : parser.stream.toList[place]? with
  | none => simp
  | some front =>
      by_cases accepted : expected.accepts front = true
      · simp only [accepted, if_true, Except.ok.injEq, Option.some.injEq, iff_self_and]
        rintro rfl
        exact accepted
      · simp only [accepted, if_false, Option.some.injEq, Bool.false_eq_true]
        constructor
        · intro same
          cases same
        · rintro ⟨rfl, other⟩
          exact absurd other accepted

/-! ## Ignoring -/

theorem ignore_of_none (named : expected.isWildcard = false)
    (nothing : parser.stream.countWhile expected.names = 0) :
    parser.ignore expected = .ok (false, parser) := by
  obtain ⟨stream, depth, events⟩ := parser
  unfold ignore
  dsimp only at nothing ⊢
  rw [named, nothing, if_neg Bool.false_ne_true, TokenStream.drop_zero]
  rfl

theorem ignore_eq_ok {answer : Bool} {left : Parsing σ}
    (ignored : parser.ignore expected = .ok (answer, left)) :
    answer = decide (0 < parser.stream.countWhile expected.names) ∧
      left = { parser with
        stream := parser.stream.drop (parser.stream.countWhile expected.names) } := by
  unfold ignore at ignored
  split at ignored
  · cases ignored
  · cases ignored
    exact ⟨rfl, rfl⟩

/-- Unless every token is expected, ignoring drops the tokens in front that reading would accept. -/
theorem ignore_of_named (named : expected.isWildcard = false) :
    parser.ignore expected =
      .ok (!(parser.stream.toList.takeWhile expected.accepts).isEmpty,
        { parser with
          stream := parser.stream.drop
            (parser.stream.toList.takeWhile expected.accepts).length }) := by
  have some : decide (0 < (parser.stream.toList.takeWhile expected.accepts).length) =
      !(parser.stream.toList.takeWhile expected.accepts).isEmpty := by
    cases parser.stream.toList.takeWhile expected.accepts with
    | nil => rfl
    | cons token later => rfl
  unfold ignore
  dsimp only
  rw [named, if_neg Bool.false_ne_true, TokenStream.countWhile_eq, Expected.names_eq_accepts named,
    some]

theorem exists_ignore_eq_ok (named : expected.isWildcard = false) :
    ∃ left, parser.ignore expected =
        .ok (!(parser.stream.toList.takeWhile expected.accepts).isEmpty, left) ∧
      left.stream.toList = parser.stream.toList.dropWhile expected.accepts := by
  have parts := List.takeWhile_append_dropWhile (p := expected.accepts) (l := parser.stream.toList)
  refine ⟨_, ignore_of_named named, ?_⟩
  rw [TokenStream.toList_drop]
  exact (congrArg (List.drop _) parts).symm.trans List.drop_left

/-- A second run over the tokens finds nothing to remove. -/
theorem ignore_ignored (named : expected.isWildcard = false) {answer : Bool} {left : Parsing σ}
    (ignored : parser.ignore expected = .ok (answer, left)) :
    left.ignore expected = .ok (false, left) := by
  obtain ⟨last, dropped, rest⟩ := @exists_ignore_eq_ok _ expected parser named
  rw [ignored] at dropped
  cases dropped
  refine ignore_of_none named ?_
  rw [TokenStream.countWhile_eq, Expected.names_eq_accepts named, rest]
  cases behind : parser.stream.toList.dropWhile expected.accepts with
  | nil => rfl
  | cons token later =>
      have refused := List.head?_dropWhile_not expected.accepts parser.stream.toList
      rw [behind] at refused
      rw [List.takeWhile_cons_of_neg (by simpa using refused), List.length_nil]

end

/-! ## Reading and looking -/

variable [EventLog σ] (preferences : ParsePreferences) (expected : Expected) (parser : Parsing σ)

@[simp]
theorem depth_read : (parser.read preferences expected).2.depth = parser.depth := by
  rw [read_eq]
  split
  · rfl
  · exact depth_logMismatch preferences parser _ _

@[simp]
theorem depth_look (place : Nat) (allowEnd : Bool) :
    (parser.look preferences expected place allowEnd).2.depth = parser.depth := by
  rw [look_eq]
  split
  · rfl
  · split
    · rfl
    · exact depth_logMismatch preferences parser _ _

@[simp]
theorem stream_look (place : Nat) (allowEnd : Bool) :
    (parser.look preferences expected place allowEnd).2.stream = parser.stream := by
  rw [look_eq]
  split
  · rfl
  · split
    · rfl
    · exact stream_logMismatch preferences parser _ _

variable {preferences expected parser}

theorem read_eq_ok_iff {token : Token} {rest : List Token} :
    (parser.read preferences expected).1 = .ok token ∧
        (parser.read preferences expected).2.stream.toList = rest ↔
      parser.stream.toList = token :: rest ∧ expected.accepts token = true := by
  have atFront : ∀ front, parser.stream.toList[0]? = some front →
      parser.stream.toList = front :: parser.stream.toList.drop 1 := by
    intro front found
    rw [← List.head?_eq_getElem?] at found
    obtain ⟨later, parts⟩ := List.head?_eq_some_iff.mp found
    rw [parts]
    rfl
  rw [read_eq]
  cases answer : parser.tokenAt expected 0 with
  | ok front =>
      obtain ⟨found, accepted⟩ := tokenAt_eq_ok_iff.mp answer
      have parts := atFront front found
      dsimp only
      rw [TokenStream.toList_drop]
      constructor
      · rintro ⟨same, rfl⟩
        cases same
        exact ⟨parts, accepted⟩
      · rintro ⟨shape, -⟩
        rw [shape] at parts ⊢
        cases parts
        exact ⟨rfl, rfl⟩
  | error error =>
      constructor
      · rintro ⟨same, -⟩
        cases same
      · rintro ⟨shape, accepted⟩
        have found : parser.tokenAt expected 0 = .ok token :=
          tokenAt_eq_ok_iff.mpr ⟨by rw [shape]; rfl, accepted⟩
        rw [answer] at found
        cases found

theorem look_eq_ok_iff {place : Nat} {allowEnd : Bool} {token : Token} :
    (parser.look preferences expected place allowEnd).1 = .ok token ↔
      (allowEnd = true ∧ parser.stream.length ≤ place) ∧ token = .endOfTokens ∨
        parser.stream.toList[place]? = some token ∧ expected.accepts token = true := by
  rw [← tokenAt_eq_ok_iff]
  by_cases ended : allowEnd = true ∧ parser.stream.length ≤ place
  · have nothing : ¬parser.tokenAt expected place = .ok token := by
      intro found
      obtain ⟨inside, -⟩ := tokenAt_eq_ok_iff.mp found
      rw [List.getElem?_eq_none (by rw [TokenStream.length_toList]; exact ended.2)] at inside
      cases inside
    rw [look_eq, if_pos (by simpa [endOfTokens] using ended), Except.ok.injEq]
    constructor
    · intro same
      exact .inl ⟨ended, same.symm⟩
    · rintro (⟨-, same⟩ | found)
      · exact same.symm
      · exact absurd found nothing
  · rw [look_eq, if_neg (by simpa [endOfTokens] using ended)]
    cases parser.tokenAt expected place with
    | ok found => simp [ended]
    | error error => simp [ended]

theorem stream_read_of_error {error : ParseError}
    (failed : (parser.read preferences expected).1 = .error error) :
    (parser.read preferences expected).2.stream = parser.stream := by
  rw [read_eq] at failed ⊢
  split at failed
  · cases failed
  · exact stream_logMismatch preferences parser _ _

end Parsing

end CssSelector
