import CssSelector.Limits
import CssSelector.Source
import CssSelector.Token.Basic

/-!
# Sources split at an offset

An offset between two characters splits a source into the characters before and behind it.
Looking behind an offset, cutting out a stretch and moving on are stated in terms of the split, so
that no later argument counts bytes.
-/

set_option autoImplicit false

namespace CssSelector

theorem maxSourceLength_lt_maxOffset : maxSourceLength < maxOffset := by decide

theorem takeBytes?_byteLength_append (middle after : List Char) :
    takeBytes? (byteLength middle) (middle ++ after) = some middle := by
  rw [takeBytes?_eq, dropBytes?_byteLength_append]
  simp

theorem sliceBytes?_byteLength (before middle after : List Char) :
    sliceBytes? (byteLength before) (byteLength before + byteLength middle)
      (before ++ (middle ++ after)) = some middle := by
  rw [sliceBytes?, if_neg (by omega), dropBytes?_byteLength_append, Option.bind_some,
    Nat.add_sub_cancel_left, takeBytes?_byteLength_append]

theorem byteLength_toList (text : String) : byteLength text.toList = text.utf8ByteSize :=
  (utf8ByteSize_eq_byteLength text).symm

@[simp]
theorem Token.byteLength_value (token : Token) : byteLength token.value.toList = token.length :=
  byteLength_toList token.value

theorem Token.length_ofList (kind : TokenKind) (offset : Nat) (lexeme : List Char) :
    Token.length ⟨kind, offset, String.ofList lexeme⟩ = byteLength lexeme := by
  rw [← Token.byteLength_value, String.toList_ofList]

theorem Token.stop_eq_ok {token : Token} (fits : token.offset + token.length ≤ maxOffset) :
    token.stop = .ok (token.offset + token.length) := if_pos fits

theorem Token.span_eq_ok {token : Token} (fits : token.offset + token.length ≤ maxOffset) :
    token.span =
      .ok ⟨.atOffset token.offset, .atOffset (token.offset + token.length)⟩ := by
  rw [Token.span, Token.stop_eq_ok fits]
  exact if_pos (Nat.le_add_right token.offset token.length)

namespace Source

/-- An offset with the characters before and behind it. -/
structure SplitAt (source : Source) (offset : Nat) (before after : List Char) : Prop where
  chars_eq : source.chars = before ++ after
  offset_eq : byteLength before = offset

variable {source : Source} {offset : Nat} {before after : List Char}

theorem length_eq (source : Source) : source.length = byteLength source.chars :=
  utf8ByteSize_eq_byteLength source.text

theorem after?_eq_some_iff :
    source.after? offset = some after ↔ ∃ before, source.SplitAt offset before after := by
  rw [Source.after?_eq]
  constructor
  · intro found
    obtain ⟨before, chars, size⟩ := exists_append_of_dropBytes? found
    exact ⟨before, chars, size⟩
  · rintro ⟨before, chars, size⟩
    rw [chars, ← size]
    exact dropBytes?_byteLength_append before after

theorem exists_splitAt (boundary : (source.after? offset).isSome = true) :
    ∃ before after, source.SplitAt offset before after := by
  obtain ⟨after, found⟩ := Option.isSome_iff_exists.mp boundary
  obtain ⟨before, split⟩ := after?_eq_some_iff.mp found
  exact ⟨before, after, split⟩

theorem splitAt_zero (source : Source) : source.SplitAt 0 [] source.chars := ⟨rfl, rfl⟩

namespace SplitAt

theorem after?_eq (split : source.SplitAt offset before after) :
    source.after? offset = some after := after?_eq_some_iff.mpr ⟨before, split⟩

theorem after_unique {first second left right : List Char}
    (split : source.SplitAt offset first left) (other : source.SplitAt offset second right) :
    left = right :=
  Option.some.inj (split.after?_eq.symm.trans other.after?_eq)

theorem textAfter_eq (split : source.SplitAt offset before after) :
    source.textAfter offset = String.ofList after := by
  rw [Source.textAfter, split.after?_eq]

theorem length_eq (split : source.SplitAt offset before after) :
    source.length = offset + byteLength after := by
  rw [source.length_eq, split.chars_eq, byteLength_append, split.offset_eq]

theorem advance {lexeme : List Char} (split : source.SplitAt offset before (lexeme ++ after)) :
    source.SplitAt (offset + byteLength lexeme) (before ++ lexeme) after where
  chars_eq := by rw [split.chars_eq, List.append_assoc]
  offset_eq := by rw [byteLength_append, split.offset_eq]

theorem slice?_eq {lexeme : List Char} (split : source.SplitAt offset before (lexeme ++ after)) :
    source.slice? offset (offset + byteLength lexeme) = some (String.ofList lexeme) := by
  rw [Source.slice?_eq, split.chars_eq, ← split.offset_eq, sliceBytes?_byteLength]
  rfl

theorem slice?_to_eq {stop : Nat} {lexeme : List Char}
    (split : source.SplitAt offset before (lexeme ++ after))
    (reached : source.SplitAt stop (before ++ lexeme) after) :
    source.slice? offset stop = some (String.ofList lexeme) := by
  have place : stop = offset + byteLength lexeme := by
    rw [← reached.offset_eq, ← split.offset_eq, byteLength_append]
  rw [place]
  exact split.slice?_eq

end SplitAt

/-- What is left of a source at a place inside of it, or one byte of it, ends with the source. -/
theorem add_textAfter_le (inside : offset < source.length) :
    offset + max (source.textAfter offset).utf8ByteSize 1 ≤ source.length := by
  cases found : source.after? offset with
  | none =>
      have none : source.textAfter offset = "" := by rw [textAfter, found]
      rw [none]
      exact inside
  | some after =>
      obtain ⟨before, split⟩ := after?_eq_some_iff.mp found
      have bound := split.length_eq
      rw [split.textAfter_eq, utf8ByteSize_eq_byteLength, String.toList_ofList]
      omega

end Source

/-- A token that stands where its offset says covers its own value. -/
theorem Token.span_of_splitAt {source : Source} {token : Token} {before after : List Char}
    (short : source.length ≤ maxSourceLength)
    (split : source.SplitAt token.offset before (token.value.toList ++ after)) :
    token.span = .ok ⟨.atOffset token.offset, .atOffset (token.offset + token.length)⟩ := by
  refine Token.span_eq_ok ?_
  have bound := split.length_eq
  have limit := maxSourceLength_lt_maxOffset
  rw [byteLength_append, Token.byteLength_value] at bound
  omega

end CssSelector
