import CssSelector.Proofs.Selector.Translation

/-!
# Reading texts

Which lexemes the contexts read off a text does not depend on where it stands. A reading is a trace
without offsets; at every place where its text stands there is the trace with the tokens of its
lexemes, one behind the other, `Reads.exists_trace`.
-/

set_option autoImplicit false

namespace CssSelector

/-- A lexeme with the kind of its token. -/
abbrev Piece := TokenKind × List Char

/-- The tokens of lexemes that stand one behind the other from an offset on. -/
def placed (offset : Nat) : List Piece → List Token
  | [] => []
  | (kind, lexeme) :: later =>
      ⟨kind, offset, String.ofList lexeme⟩ :: placed (offset + byteLength lexeme) later

theorem length_placed (offset : Nat) (pieces : List Piece) :
    (placed offset pieces).length = pieces.length := by
  induction pieces generalizing offset with
  | nil => rfl
  | cons piece later ih => rw [placed, List.length_cons, List.length_cons, ih]

namespace SelectorContext

/-- The contexts that are open behind a token of a kind. -/
def openedBehind (context : SelectorContext) (outer : List SelectorContext) (kind : TokenKind) :
    List SelectorContext :=
  family.contextsAfter context outer ⟨kind, 0, ""⟩

theorem contextsAfter_eq_openedBehind (context : SelectorContext) (outer : List SelectorContext)
    (token : Token) :
    family.contextsAfter context outer token = openedBehind context outer token.kind := rfl

/-- Lexemes, from the open contexts and the text before them to those behind them. -/
inductive Reads : List SelectorContext → List Char → List Piece → List SelectorContext →
    List Char → Prop where
  | refl {opened : List SelectorContext} {input : List Char} : Reads opened input [] opened input
  | step {context : SelectorContext} {outer final : List SelectorContext} {kind : TokenKind}
      {lexeme rest left : List Char} {later : List Piece} :
      outer.length < maxContextDepth →
      LexicalRule.firstLexeme? context.rules (lexeme ++ rest) = some (kind, lexeme) →
      Reads (openedBehind context outer kind) rest later final left →
      Reads (context :: outer) (lexeme ++ rest) ((kind, lexeme) :: later) final left

variable {source : Source}

theorem Reads.exists_trace {opened final : List SelectorContext} {offset : Nat}
    {before input left : List Char} {pieces : List Piece}
    (reads : Reads opened input pieces final left) (split : source.SplitAt offset before input) :
    ∃ stop front, family.Trace source opened offset (placed offset pieces) final stop ∧
      source.SplitAt stop front left := by
  induction reads generalizing offset before with
  | refl => exact ⟨offset, before, .refl, split⟩
  | step depth first _ ih =>
      obtain ⟨stop, front, trace, reached⟩ := ih split.advance
      refine ⟨stop, front, .step depth ?_ ?_, reached⟩
      · exact (accepts_iff split.after?_eq).mpr ⟨_, _, first, rfl⟩
      · rw [contextsAfter_eq_openedBehind, Token.length_ofList]
        exact trace

/-- A reading of a whole text tells what a scan of it comes to. -/
theorem Reads.scan_eq {preferences : ScanPreferences} {final : List SelectorContext}
    {pieces : List Piece} (reads : Reads [selector] source.chars pieces final [])
    (short : source.length ≤ maxSourceLength) (room : pieces.length ≤ maxTokenCount)
    (depth : final.length ≤ maxContextDepth) :
    (family.scan preferences selector source).tokens.toList = placed 0 pieces ∧
      (family.scan preferences selector source).verdict = .done source.length := by
  obtain ⟨stop, front, trace, reached⟩ := reads.exists_trace source.splitAt_zero
  have ended : source.length = stop := by
    rw [reached.length_eq, byteLength_nil, Nat.add_zero]
  rw [← ended] at trace
  rw [← length_placed 0 pieces] at room
  exact ContextFamily.scanFrom_eq_of_trace short trace room (.exhausted (Nat.le_refl _) depth)

end SelectorContext

end CssSelector
