import CssSelector.Proofs.Selector.RuleOrder
import Mathlib.Data.List.Chain

/-!
# What follows what

White space, plain characters and names go as far as they can, and combinators and separators take
the white space around them. So of two tokens, one directly behind the other, not any two kinds are
possible, `scanFrom_layout`; whoever skips white space relies on it.
-/

set_option autoImplicit false

namespace CssSelector

/-- What holds of two tokens of selectors if the second stands directly behind the first. -/
structure Adjoins (first second : Token) : Prop where
  whitespace : first.kind = .whitespace → second.kind ≠ .whitespace
  characters : first.kind = .characters → second.kind ≠ .characters
  whitespace_mark : first.kind = .whitespace → second.kind ≠ .combinator ∧ second.kind ≠ .separator
  mark_whitespace :
    first.kind = .combinator ∨ first.kind = .separator → second.kind ≠ .whitespace
  types : first.kind = .typeSelector → second.kind = .typeSelector →
    first.value = "*" ∨ second.value = "*"

namespace SelectorContext

open Expression (GrowsBy growsBy_many growsBy_run)

variable {source : Source} {context : SelectorContext} {first second : Token}

/-- A mark is found through the white space in front of it. -/
theorem begins_spaced_iff {kind : TokenKind} {spaces later : List Char}
    (inside : ∀ c ∈ spaces, isSpace c = true) (spaced : kind ∈ spacedKinds) :
    context.Begins (spaces ++ later) kind ↔ context.Begins later kind := by
  have dropped : (spaces ++ later).dropWhile isSpace = later.dropWhile isSpace :=
    List.dropWhile_append_of_pos inside
  simp only [spacedKinds, List.mem_cons, List.not_mem_nil, or_false] at spaced
  rcases spaced with rfl | rfl <;> simp only [Begins, dropped]

/-- Two tokens of a context, the second one directly behind the first. -/
structure Neighbours (source : Source) (context : SelectorContext) (first second : Token)
    (later : List Char) : Prop where
  ahead : source.after? first.offset = some (first.value.toList ++ later)
  behind : source.after? second.offset = some later
  leading : context.token? source first.offset = some first
  following : context.token? source second.offset = some second

namespace Neighbours

variable {later : List Char} {belongs : Char → Bool}

theorem isLongest_first (adjacent : Neighbours source context first second later) :
    IsLongest (context.expression first.kind).language (first.value.toList ++ later)
      first.value.toList := by
  obtain ⟨rest, reached, longest⟩ := exists_isLongest adjacent.leading
  cases reached.symm.trans adjacent.ahead
  exact longest

theorem isLongest_second (adjacent : Neighbours source context first second later) :
    IsLongest (context.expression second.kind).language later second.value.toList := by
  obtain ⟨rest, reached, longest⟩ := exists_isLongest adjacent.following
  cases reached.symm.trans adjacent.behind
  exact longest

theorem endsRun (adjacent : Neighbours source context first second later)
    (grows : (context.expression first.kind).GrowsBy belongs) : EndsRun belongs later :=
  adjacent.isLongest_first.endsRun (grows _ adjacent.isLongest_first.mem)

theorem begins (adjacent : Neighbours source context first second later) :
    context.Begins later second.kind := begins_of_token? adjacent.behind adjacent.following

/-- Behind a token that takes white space there is none. -/
theorem not_whitespace (adjacent : Neighbours source context first second later)
    (grows : (context.expression first.kind).GrowsBy isSpace) : second.kind ≠ .whitespace := by
  intro white
  have space := adjacent.begins
  rw [white] at space
  exact (adjacent.endsRun grows).not_beginsWith space

theorem not_characters (adjacent : Neighbours source context first second later)
    (kind : first.kind = .characters) : second.kind ≠ .characters := by
  intro same
  have begins := adjacent.begins
  have ends {belongs : Char → Bool}
      (grows : (context.expression .characters).GrowsBy belongs) : EndsRun belongs later :=
    adjacent.endsRun (kind ▸ grows)
  rw [same] at begins
  cases context with
  | selector => exact (ends (growsBy_run _)).not_beginsWith begins
  | parameters => exact (ends (growsBy_run _)).not_beginsWith begins
  | attributes => exact (ends (growsBy_run _)).not_beginsWith begins
  | string quote => exact (ends (growsBy_run _)).not_beginsWith begins

/-! ## White space and marks -/

/-- If white space is a token of its own, no mark begins there: its rule would have come first. -/
theorem not_begins_of_whitespace {kind : TokenKind}
    (adjacent : Neighbours source context first second later) (white : first.kind = .whitespace)
    (spaced : kind ∈ spacedKinds) (listed : kind ∈ context.kinds) :
    ¬context.Begins (first.value.toList ++ later) kind := by
  have order : (context.rules.map LexicalRule.kind).idxOf kind <
      (context.rules.map LexicalRule.kind).idxOf first.kind := by
    rw [white]
    simp only [spacedKinds, List.mem_cons, List.not_mem_nil, or_false] at spaced
    cases context with
    | selector => rcases spaced with rfl | rfl <;> decide
    | parameters => rcases spaced with rfl | rfl <;> decide
    | attributes => rcases spaced with rfl | rfl <;> exact absurd listed (by decide)
    | string quote =>
        rcases spaced with rfl | rfl <;> cases quote <;> exact absurd listed (by decide)
  obtain ⟨rule, member, rfl, unmatched⟩ := exists_unmatched adjacent.leading order
  intro begins
  have recognized := (isSome_recognize_iff context _ rule member).mpr begins
  have matched := isSome_token?_of_recognize adjacent.ahead recognized
  rw [unmatched] at matched
  cases matched

theorem not_mark_of_whitespace (adjacent : Neighbours source context first second later)
    (white : first.kind = .whitespace) : second.kind ∉ spacedKinds := by
  intro spaced
  have longest := adjacent.isLongest_first
  rw [white] at longest
  have spaces := (Expression.mem_language_run_iff.mp longest.mem).2
  have listed := kind_mem_kinds adjacent.following
  exact adjacent.not_begins_of_whitespace white spaced listed
    ((begins_spaced_iff spaces spaced).mpr adjacent.begins)

/-! ## Names -/

theorem mem_identifier_of_type {input text : List Char}
    (longest : IsLongest (context.expression .typeSelector).language input text)
    (other : text ≠ ['*']) : text ∈ Expression.identifier.language := by
  rcases longest.mem with ⟨c, asterisk, rfl⟩ | name
  · rw [of_decide_eq_true asterisk] at other
    exact absurd rfl other
  · exact name

theorem exists_cons_of_mem_identifier {text : List Char}
    (name : text ∈ Expression.identifier.language) :
    ∃ c rest, text = c :: rest ∧ Lexeme.continuesName c = true := by
  obtain ⟨hyphen, optional, tail, named, rfl⟩ := Language.mem_mul.mp name
  rcases optional with rfl | ⟨c, mark, rfl⟩
  · obtain ⟨_, ⟨c, starts, rfl⟩, rest, -, rfl⟩ := Language.mem_mul.mp named
    exact ⟨c, rest, rfl, Lexeme.continuesName_of_startsName starts⟩
  · exact ⟨c, tail, rfl, by simp [Lexeme.continuesName, of_decide_eq_true mark]⟩

theorem asterisk_of_types (adjacent : Neighbours source context first second later)
    (firstType : first.kind = .typeSelector) (secondType : second.kind = .typeSelector) :
    first.value = "*" ∨ second.value = "*" := by
  by_cases firstOther : first.value.toList = ['*']
  · exact .inl (String.toList_injective firstOther)
  by_cases secondOther : second.value.toList = ['*']
  · exact .inr (String.toList_injective secondOther)
  have leading := adjacent.isLongest_first
  have following := adjacent.isLongest_second
  rw [firstType] at leading
  rw [secondType] at following
  have firstName := mem_identifier_of_type leading firstOther
  obtain ⟨c, rest, text, continues⟩ :=
    exists_cons_of_mem_identifier (mem_identifier_of_type following secondOther)
  obtain ⟨tail, rfl⟩ := following.front
  have grows : Expression.identifier.GrowsBy Lexeme.continuesName := (growsBy_many _).seq.seq
  have ends : EndsRun Lexeme.continuesName (second.value.toList ++ tail) :=
    leading.endsRun fun d member => .inr (grows _ firstName d member)
  rw [text] at ends
  exact absurd (beginsWith_cons.mpr continues) ends.not_beginsWith

theorem adjoins (adjacent : Neighbours source context first second later) :
    Adjoins first second where
  whitespace := by
    intro white
    refine adjacent.not_whitespace ?_
    rw [white]
    exact growsBy_run isSpace
  characters := adjacent.not_characters
  whitespace_mark := by
    intro white
    have other := adjacent.not_mark_of_whitespace white
    exact ⟨fun mark => other (mark ▸ by decide), fun mark => other (mark ▸ by decide)⟩
  mark_whitespace := by
    intro mark
    have grows (isMark : Char → Bool) : (Expression.spacedMark isMark).GrowsBy isSpace :=
      (growsBy_many isSpace).seq.seq
    refine adjacent.not_whitespace ?_
    rcases mark with kind | kind
    · rw [kind]
      exact grows _
    · rw [kind]
      exact grows _
  types := adjacent.asterisk_of_types

end Neighbours

/-! ## Along a scan -/

theorem contextsAfter_of_plain {outer : List SelectorContext}
    (produced : context.token? source first.offset = some first)
    (plain : startedBy? first.kind = none ∧ endedBy? first.kind = none) :
    family.contextsAfter context outer first = context :: outer := by
  rw [contextsAfter_eq_replayToken (kind_mem_kinds produced), replayToken, plain.1, plain.2]
  rfl

/-- Two tokens of a trace, one behind the other, are neighbours if the first neither opens nor
closes a context. -/
theorem exists_neighbours {opened final : List SelectorContext} {start stop : Nat}
    {before after : List Token}
    (trace : family.Trace source opened start (before ++ first :: second :: after) final stop)
    (plain : startedBy? first.kind = none ∧ endedBy? first.kind = none) :
    ∃ context later, Neighbours source context first second later := by
  obtain ⟨between, place, -, behind⟩ := trace.cut
  obtain ⟨context, outer, -, -, accepted, further⟩ := behind.exists_accepts
  obtain ⟨-, rfl, -⟩ := ContextFamily.defect?_eq_none_iff.mp accepted.sound
  have leading := token?_eq_some_of_accepts accepted
  rw [contextsAfter_of_plain leading plain] at further
  obtain ⟨_, _, same, -, next, -⟩ := further.exists_accepts
  cases same
  obtain ⟨-, placeEq, -⟩ := ContextFamily.defect?_eq_none_iff.mp next.sound
  obtain ⟨left, rest, split⟩ := exists_splitAt leading
  obtain ⟨later, rfl, advanced⟩ := splitAt_of_accepts accepted split
  rw [← placeEq] at advanced next
  exact ⟨context, later, split.after?_eq, advanced.after?_eq, leading,
    token?_eq_some_of_accepts next⟩

/-- Tokens of kinds of which `Adjoins` speaks neither open nor close a context. -/
theorem adjoins_of_not_plain
    (bracket : ¬(startedBy? first.kind = none ∧ endedBy? first.kind = none)) :
    Adjoins first second := by
  have other {kind : TokenKind} (plain : startedBy? kind = none ∧ endedBy? kind = none) :
      first.kind ≠ kind := by
    intro same
    exact bracket (same ▸ plain)
  constructor
  · intro white
    exact absurd white (other ⟨rfl, rfl⟩)
  · intro plain
    exact absurd plain (other ⟨rfl, rfl⟩)
  · intro white
    exact absurd white (other ⟨rfl, rfl⟩)
  · intro mark
    rcases mark with combinator | separator
    · exact absurd combinator (other ⟨rfl, rfl⟩)
    · exact absurd separator (other ⟨rfl, rfl⟩)
  · intro type
    exact absurd type (other ⟨rfl, rfl⟩)

/-- However a scan ends, of two tokens that follow each other not both are white space and not
both plain characters; white space is neither in front of a combinator or a separator nor behind
it; and of two types one is an asterisk. -/
theorem scanFrom_layout (preferences : ScanPreferences) (root : SelectorContext) (source : Source)
    (start : Nat) :
    (family.scanFrom preferences root source start).tokens.toList.IsChain Adjoins := by
  by_cases long : maxSourceLength < source.length
  · rw [(ContextFamily.scanFrom_of_too_long family preferences root start long).1]
    exact List.isChain_nil
  · obtain ⟨final, stop, trace, -, -⟩ :=
      family.scanFrom_trace preferences root start (Nat.le_of_not_lt long)
    rw [List.isChain_iff_forall_rel_of_append_cons_cons]
    intro first second before after parts
    rw [parts] at trace
    by_cases plain : startedBy? first.kind = none ∧ endedBy? first.kind = none
    · obtain ⟨context, later, adjacent⟩ := exists_neighbours trace plain
      exact adjacent.adjoins
    · exact adjoins_of_not_plain plain

end SelectorContext

end CssSelector
