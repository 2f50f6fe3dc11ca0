import CssSelector.Grammar.Selector
import CssSelector.Proofs.Parse.Primitive

/-!
# Questions about the front of the tokens

Reading, looking and ignoring find out in different ways whether tokens are expected, and they
agree, `Parsing.front_agreement`: to read is to look at the front and then to remove it, to look at
a place is to read behind the tokens before it, and to ignore is to read for as long as that
succeeds.
-/

set_option autoImplicit false

namespace CssSelector

theorem TokenStream.drop_drop (stream : TokenStream) (first second : Nat) :
    (stream.drop first).drop second = stream.drop (first + second) := by
  have place : min (min (stream.taken + first) stream.buffer.size + second) stream.buffer.size =
      min (stream.taken + (first + second)) stream.buffer.size := by omega
  simp only [drop, place]

theorem Expected.isWildcard_eq_false {expected : Expected} (named : .any ∉ expected.kinds) :
    expected.isWildcard = false := by
  rw [isWildcard, contains, List.contains_eq_mem]
  exact decide_eq_false named

namespace Parsing

variable {σ : Type}

theorem tokenAt_drop {expected : Expected} {parser : Parsing σ} (place : Nat) :
    { parser with stream := parser.stream.drop place }.tokenAt expected 0 =
      parser.tokenAt expected place := by
  have found : (parser.stream.drop place).get? 0 = parser.stream.get? place := by
    rw [TokenStream.get?_eq, TokenStream.get?_eq, TokenStream.toList_drop, List.getElem?_drop,
      Nat.add_zero]
  unfold tokenAt mismatch
  rw [found]

theorem tokenAt_eq_unexpectedEnd_iff {expected : Expected} {parser : Parsing σ} {place : Nat} :
    parser.tokenAt expected place = .error (.unexpectedEnd expected) ↔
      parser.stream.length ≤ place := by
  rw [← TokenStream.length_toList, ← List.getElem?_eq_none_iff, ← TokenStream.get?_eq]
  unfold tokenAt mismatch
  cases parser.stream.get? place with
  | none => simp
  | some token =>
      dsimp only
      split <;> simp

variable [EventLog σ] {preferences : ParsePreferences} {expected : Expected} {parser : Parsing σ}

theorem read_eq_tokenAt :
    (parser.read preferences expected).1 = parser.tokenAt expected 0 := by
  rw [read_eq]
  cases parser.tokenAt expected 0 with
  | ok token => rfl
  | error error => rfl

theorem look_eq_tokenAt (place : Nat) :
    (parser.look preferences expected place false).1 = parser.tokenAt expected place := by
  rw [look_eq, Bool.false_and, if_neg Bool.false_ne_true]
  cases parser.tokenAt expected place with
  | ok token => rfl
  | error error => rfl

theorem look_allowing_end (place : Nat) :
    (parser.look preferences expected place true).1 =
      if parser.stream.length ≤ place then .ok .endOfTokens
      else (parser.look preferences expected place false).1 := by
  by_cases ended : parser.stream.length ≤ place
  · rw [if_pos ended, look_eq, if_pos (by simpa [endOfTokens] using ended)]
  · rw [if_neg ended, look_eq_tokenAt, look_eq, if_neg (by simpa [endOfTokens] using ended)]
    cases parser.tokenAt expected place with
    | ok token => rfl
    | error error => rfl

theorem toList_of_read {token : Token} (found : (parser.read preferences expected).1 = .ok token) :
    parser.stream.toList = token :: (parser.read preferences expected).2.stream.toList ∧
      expected.accepts token = true := read_eq_ok_iff.mp ⟨found, rfl⟩

theorem stream_of_read {token : Token} (found : (parser.read preferences expected).1 = .ok token) :
    (parser.read preferences expected).2.stream = parser.stream.drop 1 := by
  rw [read_eq] at found ⊢
  cases answer : parser.tokenAt expected 0 with
  | ok front => rfl
  | error error =>
      rw [answer] at found
      cases found

/-! ## Reading for as long as possible -/

/-- Reads until that fails: the tokens that were read, and what is left. -/
def readAll (preferences : ParsePreferences) (expected : Expected) (parser : Parsing σ) :
    List Token × Parsing σ :=
  match _ : parser.read preferences expected with
  | (.ok token, left) =>
      let (later, last) := readAll preferences expected left
      (token :: later, last)
  | (.error _, left) => ([], left)
termination_by parser.stream.length
decreasing_by
  have answered : parser.read preferences expected = (.ok token, left) := by assumption
  have shorter := (toList_of_read (congrArg Prod.fst answered)).1
  rw [answered] at shorter
  rw [← TokenStream.length_toList, ← TokenStream.length_toList, shorter]
  exact Nat.lt_succ_self _

theorem readAll_eq :
    (parser.readAll preferences expected).1 = parser.stream.toList.takeWhile expected.accepts ∧
      (parser.readAll preferences expected).2.stream =
        parser.stream.drop (parser.stream.toList.takeWhile expected.accepts).length := by
  fun_induction readAll preferences expected parser with
  | case1 parser token left answered later last rest ih =>
      have found : (parser.read preferences expected).1 = .ok token := by rw [answered]
      obtain ⟨parts, accepted⟩ := toList_of_read found
      have dropped := stream_of_read found
      rw [answered] at parts dropped
      rw [rest] at ih
      rw [parts, List.takeWhile_cons_of_pos accepted, List.length_cons, Nat.add_comm,
        ← TokenStream.drop_drop, ← dropped]
      exact ⟨congrArg _ ih.1, ih.2⟩
  | case2 parser error left answered =>
      have failed : (parser.read preferences expected).1 = .error error := by rw [answered]
      have stopped : parser.stream.toList.takeWhile expected.accepts = [] := by
        cases parts : parser.stream.toList with
        | nil => rfl
        | cons token later =>
            refine List.takeWhile_cons_of_neg fun accepted => ?_
            rw [(read_eq_ok_iff.mpr ⟨parts, accepted⟩).1] at failed
            cases failed
      have same := stream_read_of_error failed
      rw [answered] at same
      rw [stopped, List.length_nil, TokenStream.drop_zero]
      exact ⟨rfl, same⟩

theorem ignore_eq_readAll (named : expected.isWildcard = false) :
    parser.ignore expected =
      .ok (!(parser.readAll preferences expected).1.isEmpty,
        { parser with stream := (parser.readAll preferences expected).2.stream }) := by
  obtain ⟨read, left⟩ := @readAll_eq _ _ preferences expected parser
  rw [ignore_of_named named, read, left]

/-- To read is to look at the front token and to remove it if it is expected. To look at a place is
to read behind the tokens in front of it: it finds the end of the tokens if and only if there is no
token at the place, and only then it matters whether the end is allowed. Unless every token is
expected, to ignore is to read until that fails, and there is nothing left to be ignored. -/
theorem front_agreement {σ ν : Type} [EventLog σ] (grammar : Grammar ν)
    (preferences : ParsePreferences) (expected : Expected) (parser : Parsing σ) :
    ((parser.read preferences expected).1 = (parser.look preferences expected 0 false).1 ∧
      (∀ token, (parser.read preferences expected).1 = .ok token →
        parser.stream.toList = token :: (parser.read preferences expected).2.stream.toList) ∧
      ∀ error, (parser.read preferences expected).1 = .error error →
        (parser.read preferences expected).2.stream = parser.stream) ∧
    (∀ place, ∃ ended,
      grammar.runRule preferences (.endOfTokens place) parser = (.done ended, parser) ∧
        ((parser.look preferences expected place false).1 = .error (.unexpectedEnd expected) ↔
          ended = true) ∧
        (parser.look preferences expected place false).1 =
          ({ parser with stream := parser.stream.drop place }.read preferences expected).1 ∧
        (parser.look preferences expected place true).1 =
          if ended then .ok .endOfTokens
          else (parser.look preferences expected place false).1) ∧
    (.any ∉ expected.kinds →
      ∃ left,
        parser.ignore expected =
            .ok (!(parser.readAll preferences expected).1.isEmpty, left) ∧
          left.stream = (parser.readAll preferences expected).2.stream ∧
          left.ignore expected = .ok (false, left)) := by
  refine ⟨⟨?_, ?_, ?_⟩, ?_, ?_⟩
  · rw [read_eq_tokenAt, look_eq_tokenAt]
  · intro token found
    exact (toList_of_read found).1
  · intro error failed
    exact stream_read_of_error failed
  · intro place
    refine ⟨decide (parser.stream.length ≤ place), rfl, ?_, ?_, ?_⟩
    · rw [look_eq_tokenAt, tokenAt_eq_unexpectedEnd_iff, decide_eq_true_iff]
    · rw [look_eq_tokenAt, read_eq_tokenAt, tokenAt_drop]
    · rw [look_allowing_end]
      simp only [decide_eq_true_iff]
  · intro named
    have specific := Expected.isWildcard_eq_false named
    have ignored := @ignore_eq_readAll _ _ preferences expected parser specific
    exact ⟨_, ignored, rfl, ignore_ignored specific ignored⟩

/-- White space is ignored up to a token of the kind that stands for every kind. -/
theorem front_agreement_of_wildcard :
    .any ∉ (Expected.mk [.whitespace, .separator, .whitespace]).kinds ∧
      ∃ left,
        ({ stream := .ofList [⟨.whitespace, 0, " "⟩, ⟨.any, 1, "x"⟩, ⟨.whitespace, 2, " "⟩],
           events := #[] } : Parser).ignore ⟨[.whitespace, .separator, .whitespace]⟩ =
          .ok (true, left) ∧
        left.stream.toList = [⟨.any, 1, "x"⟩, ⟨.whitespace, 2, " "⟩] ∧
        left.ignore ⟨[.whitespace, .separator, .whitespace]⟩ = .ok (false, left) := by
  have named : .any ∉ (Expected.mk [.whitespace, .separator, .whitespace]).kinds := by decide
  obtain ⟨left, ignored, same, again⟩ := (front_agreement selectorGrammar {} _
    ({ stream := .ofList [⟨.whitespace, 0, " "⟩, ⟨.any, 1, "x"⟩, ⟨.whitespace, 2, " "⟩],
       events := #[] } : Parser)).2.2 named
  rw [readAll_eq.1, TokenStream.toList_ofList] at ignored
  rw [readAll_eq.2, TokenStream.toList_ofList] at same
  refine ⟨named, left, ignored, ?_, again⟩
  rw [same]
  decide

end Parsing

end CssSelector
