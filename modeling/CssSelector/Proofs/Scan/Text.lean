import CssSelector.Proofs.Scan.Trace
import CssSelector.Proofs.Source.Split

/-!
# Tokens that are text of the source

A context may answer with tokens that lie about their place or their text. Families in which no
context does are singled out by `TakesText`: the checks of a scan refuse none of their tokens, and
along a trace the values of the tokens are taken off the source.
-/

set_option autoImplicit false

namespace CssSelector

/-- The values of tokens, put together. -/
def joinedValues (tokens : List Token) : String := String.join (tokens.map Token.value)

@[simp]
theorem joinedValues_nil : joinedValues [] = "" := by
  simp [joinedValues]

@[simp]
theorem joinedValues_cons (token : Token) (later : List Token) :
    joinedValues (token :: later) = token.value ++ joinedValues later := by
  simp [joinedValues]

@[simp]
theorem joinedValues_append (left right : List Token) :
    joinedValues (left ++ right) = joinedValues left ++ joinedValues right := by
  simp [joinedValues]

variable {source : Source} {offset : Nat} {before after : List Char} {token : Token}

/-- A classified token whose text is not empty and stands in the source where the token says. -/
structure Token.Covers (token : Token) (source : Source) (offset : Nat) : Prop where
  kind : token.kind ≠ .any
  place : token.offset = offset
  full : token.value.toList ≠ []
  ahead : ∃ later, source.after? offset = some (token.value.toList ++ later)

theorem Token.Covers.length_pos (covers : token.Covers source offset) : 0 < token.length := by
  rw [← Token.byteLength_value]
  obtain ⟨c, rest, text⟩ := List.exists_cons_of_ne_nil covers.full
  have positive := Char.utf8Size_pos c
  rw [text, byteLength_cons]
  omega

theorem Token.Covers.advance (covers : token.Covers source offset)
    (split : source.SplitAt offset before after) :
    ∃ later, after = token.value.toList ++ later ∧
      source.SplitAt (offset + token.length) (before ++ token.value.toList) later := by
  obtain ⟨later, found⟩ := covers.ahead
  cases split.after?_eq.symm.trans found
  rw [← Token.byteLength_value]
  exact ⟨later, rfl, split.advance⟩

theorem ScanError.spanFrom_eq_ok {length : Nat} (fits : offset + length ≤ maxOffset) :
    ScanError.spanFrom offset length =
      .ok (some ⟨.atOffset offset, .atOffset (offset + length)⟩) := by
  rw [ScanError.spanFrom, addOffset, if_pos fits]
  exact congrArg (Except.map some) (if_pos (Nat.le_add_right offset length))

namespace ContextFamily

variable {κ : Type} {family : ContextFamily κ} {context : κ}

theorem Accepts.toList_value_ne_nil (accepted : family.Accepts source context offset token) :
    token.value.toList ≠ [] := by
  obtain ⟨-, -, nonempty⟩ := defect?_eq_none_iff.mp accepted.sound
  intro empty
  rw [← Token.byteLength_value, empty] at nonempty
  exact Nat.lt_irrefl 0 nonempty

/-- Every token of every context of a family is text of a source. -/
def TakesText (family : ContextFamily κ) (source : Source) : Prop :=
  ∀ ⦃context : κ⦄ ⦃offset : Nat⦄ ⦃token : Token⦄,
    family.token? context source offset = .ok (some token) → token.Covers source offset

namespace TakesText

variable (takes : family.TakesText source)

include takes

theorem defect?_eq_none (produced : family.token? context source offset = .ok (some token)) :
    family.defect? context offset token = none := by
  have covers := takes produced
  exact defect?_eq_none_iff.mpr ⟨covers.kind, covers.place, covers.length_pos⟩

theorem defect?_ne_some {error : ScanError}
    (produced : family.token? context source offset = .ok (some token)) :
    family.defect? context offset token ≠ some error := by
  rw [takes.defect?_eq_none produced]
  exact (Option.some_ne_none error).symm

theorem splitAt_of_accepts (accepted : family.Accepts source context offset token)
    (split : source.SplitAt offset before after) :
    ∃ later, after = token.value.toList ++ later ∧
      source.SplitAt (offset + token.length) (before ++ token.value.toList) later :=
  (takes accepted.produced).advance split

/-- The values of the tokens of a trace are taken off the source. -/
theorem splitAt_of_trace {opened final : List κ} {stop : Nat} {tokens : List Token}
    (trace : family.Trace source opened offset tokens final stop)
    (split : source.SplitAt offset before after) :
    ∃ later, after = (joinedValues tokens).toList ++ later ∧
      source.SplitAt stop (before ++ (joinedValues tokens).toList) later := by
  induction trace generalizing before after with
  | refl => exact ⟨after, by simp, by simpa using split⟩
  | step _ accepted _ ih =>
      obtain ⟨rest, afterEq, advanced⟩ := takes.splitAt_of_accepts accepted split
      obtain ⟨later, restEq, reached⟩ := ih advanced
      refine ⟨later, ?_, ?_⟩
      · rw [afterEq, restEq, joinedValues_cons, String.toList_append, List.append_assoc]
      · rw [joinedValues_cons, String.toList_append, ← List.append_assoc]
        exact reached

theorem splitAt_of_mem_trace {opened final : List κ} {stop : Nat} {earlier later : List Token}
    (trace : family.Trace source opened offset (earlier ++ token :: later) final stop)
    (split : source.SplitAt offset before after) :
    ∃ rest, source.SplitAt token.offset (before ++ (joinedValues earlier).toList)
      (token.value.toList ++ rest) := by
  obtain ⟨between, place, leading, behind⟩ := trace.cut
  obtain ⟨left, -, reached⟩ := takes.splitAt_of_trace leading split
  obtain ⟨context, outer, rfl, -, accepted, -⟩ := behind.exists_accepts
  obtain ⟨rest, leftEq, -⟩ := takes.splitAt_of_accepts accepted reached
  rw [leftEq, ← (takes accepted.produced).place] at reached
  exact ⟨rest, reached⟩

/-- No token is accepted inside a character or behind the end of a source. -/
theorem eq_nil_of_trace {opened final : List κ} {stop : Nat} {tokens : List Token}
    (trace : family.Trace source opened offset tokens final stop)
    (outside : source.after? offset = none) : tokens = [] := by
  cases trace with
  | refl => rfl
  | step _ accepted _ =>
      obtain ⟨later, found⟩ := (takes accepted.produced).ahead
      cases outside.symm.trans found

theorem exists_splitAt_of_mem_trace {opened final : List κ} {stop : Nat}
    {earlier later : List Token}
    (trace : family.Trace source opened offset (earlier ++ token :: later) final stop) :
    ∃ before rest, source.SplitAt token.offset before (token.value.toList ++ rest) := by
  obtain ⟨_, _, -, behind⟩ := trace.cut
  obtain ⟨_, _, -, -, accepted, -⟩ := behind.exists_accepts
  have covers := takes accepted.produced
  obtain ⟨rest, found⟩ := covers.ahead
  obtain ⟨before, split⟩ := Source.after?_eq_some_iff.mp found
  exact ⟨before, rest, covers.place ▸ split⟩

end TakesText

end ContextFamily

end CssSelector
