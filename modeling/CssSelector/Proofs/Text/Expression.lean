import CssSelector.Proofs.Text.Run
import Mathlib.Computability.Language

/-!
# Regular expressions and the order of their matches

An expression matches a text from its front, and it may do so in several ways. A backtracking
matcher takes the first it comes to: what may be repeated is repeated as often as possible, what is
optional is taken if possible, and alternatives are tried from left to right. That is not the
longest match in general. It is for a greedy expression, whose matches come in order of length,
`firstMatch?_eq_some_iff`.
-/

set_option autoImplicit false

namespace CssSelector

/-- A regular expression. Only characters of a class can be repeated. -/
inductive Expression where
  /-- One character of a class. -/
  | char (belongs : Char → Bool)
  /-- Any number of characters of a class. -/
  | many (belongs : Char → Bool)
  /-- The given text. -/
  | word (text : List Char)
  /-- A part that may be missing. -/
  | optional (part : Expression)
  /-- One part behind the other. -/
  | seq (first second : Expression)
  /-- One of two parts. -/
  | either (first second : Expression)

/-- A text is the longest one of a language at the front of another text. -/
structure IsLongest (language : Language Char) (input text : List Char) : Prop where
  mem : text ∈ language
  front : text <+: input
  le : ∀ other ∈ language, other <+: input → other.length ≤ text.length

theorem IsLongest.unique {language : Language Char} {input left right : List Char}
    (first : IsLongest language input left) (second : IsLongest language input right) :
    left = right := by
  have same : left.length = right.length :=
    Nat.le_antisymm (second.le left first.mem first.front) (first.le right second.mem second.front)
  exact (List.prefix_of_prefix_length_le first.front second.front (Nat.le_of_eq same)).eq_of_length
    same

/-- Behind the longest text there is no character with which it could go on. -/
theorem IsLongest.endsRun {language : Language Char} {text later : List Char}
    {belongs : Char → Bool} (longest : IsLongest language (text ++ later) text)
    (grows : ∀ c, belongs c = true → text ++ [c] ∈ language) : EndsRun belongs later := by
  intro c first
  obtain ⟨rest, rfl⟩ := List.head?_eq_some_iff.mp first
  rw [Bool.eq_false_iff]
  intro member
  have front : text ++ [c] <+: text ++ c :: rest :=
    (List.prefix_append_right_inj text).mpr (List.prefix_append [c] rest)
  have bound := longest.le (text ++ [c]) (grows c member) front
  rw [List.length_append, List.length_singleton] at bound
  omega

namespace Expression

/-- One or more characters of a class. -/
def run (belongs : Char → Bool) : Expression := seq (char belongs) (many belongs)

/-- The texts that an expression stands for. -/
def language : Expression → Language Char
  | char belongs => {text | ∃ c, belongs c = true ∧ text = [c]}
  | many belongs => {text | ∀ c ∈ text, belongs c = true}
  | word text => {text}
  | optional part => 1 + part.language
  | seq first second => first.language * second.language
  | either first second => first.language + second.language

/-- The characters of a class at the front of a text, from all of them down to none. -/
def runs (belongs : Char → Bool) : List Char → List (List Char)
  | [] => [[]]
  | c :: rest => if belongs c then (runs belongs rest).map (c :: ·) ++ [[]] else [[]]

/-- The matches at the front of a text, in the order in which backtracking comes to them. -/
def choices : Expression → List Char → List (List Char)
  | char _, [] => []
  | char belongs, c :: _ => if belongs c then [[c]] else []
  | many belongs, input => runs belongs input
  | word text, input => if text.isPrefixOf input then [text] else []
  | optional part, input => part.choices input ++ [[]]
  | seq first second, input =>
      (first.choices input).flatMap fun front =>
        (second.choices (input.drop front.length)).map (front ++ ·)
  | either first second, input => first.choices input ++ second.choices input

/-- The match that a backtracking matcher takes. -/
def firstMatch? (expression : Expression) (input : List Char) : Option (List Char) :=
  (expression.choices input).head?

variable {expression first second : Expression} {belongs other : Char → Bool}
variable {input text : List Char}

/-! ## Every match is a choice -/

theorem mem_runs_iff :
    text ∈ runs belongs input ↔ text ∈ (many belongs).language ∧ text <+: input := by
  induction input generalizing text with
  | nil =>
      rw [runs, List.mem_singleton, List.prefix_nil]
      constructor
      · rintro rfl
        exact ⟨fun c none => absurd none List.not_mem_nil, rfl⟩
      · exact And.right
  | cons c rest ih =>
      have empty : [] ∈ (many belongs).language := fun c none => absurd none List.not_mem_nil
      cases text with
      | nil =>
          refine iff_of_true ?_ ⟨empty, List.nil_prefix⟩
          rw [runs]
          split <;> simp
      | cons d text =>
          have tail : d :: text ∈ (many belongs).language ↔
              belongs d = true ∧ text ∈ (many belongs).language := List.forall_mem_cons
          rw [runs, tail, List.cons_prefix_cons]
          cases member : belongs c with
          | false =>
              simp only [Bool.false_eq_true, if_false, List.mem_singleton, List.cons_ne_nil,
                false_iff]
              rintro ⟨⟨inside, -⟩, rfl, -⟩
              rw [member] at inside
              cases inside
          | true =>
              simp only [if_true, List.mem_append, List.mem_map, List.cons.injEq, ih,
                List.mem_singleton, List.cons_ne_nil, or_false]
              constructor
              · rintro ⟨_, ⟨inside, front⟩, rfl, rfl⟩
                exact ⟨⟨member, inside⟩, rfl, front⟩
              · rintro ⟨⟨-, inside⟩, rfl, front⟩
                exact ⟨text, ⟨inside, front⟩, rfl, rfl⟩

theorem mem_choices_char_iff :
    text ∈ (char belongs).choices input ↔ text ∈ (char belongs).language ∧ text <+: input := by
  have single : text ∈ (char belongs).language ↔ ∃ c, belongs c = true ∧ text = [c] := Iff.rfl
  rw [single]
  cases input with
  | nil =>
      refine iff_of_false List.not_mem_nil ?_
      rintro ⟨⟨c, -, rfl⟩, front⟩
      exact absurd (List.prefix_nil.mp front) (List.cons_ne_nil c [])
  | cons d rest =>
      rw [choices]
      constructor
      · split
        · next member =>
            intro listed
            rw [List.mem_singleton.mp listed]
            exact ⟨⟨d, member, rfl⟩, List.prefix_append [d] rest⟩
        · intro listed
          exact absurd listed List.not_mem_nil
      · rintro ⟨⟨c, member, rfl⟩, front⟩
        obtain ⟨rfl, -⟩ := List.cons_prefix_cons.mp front
        rw [if_pos member]
        exact List.mem_singleton_self _

theorem mem_choices_word_iff {expected : List Char} :
    text ∈ (word expected).choices input ↔ text ∈ (word expected).language ∧ text <+: input := by
  have single : text ∈ (word expected).language ↔ text = expected := Iff.rfl
  rw [single, choices]
  split
  · next front =>
      rw [List.mem_singleton]
      constructor
      · rintro rfl
        exact ⟨rfl, List.isPrefixOf_iff_prefix.mp front⟩
      · exact And.left
  · next absent =>
      refine iff_of_false List.not_mem_nil ?_
      rintro ⟨rfl, front⟩
      exact absent (List.isPrefixOf_iff_prefix.mpr front)

/-- The choices are the texts of the language that are at the front. -/
theorem mem_choices_iff :
    text ∈ expression.choices input ↔ text ∈ expression.language ∧ text <+: input := by
  induction expression generalizing input text with
  | char belongs => exact mem_choices_char_iff
  | many belongs => exact mem_runs_iff
  | word expected => exact mem_choices_word_iff
  | optional part ih =>
      have empty : text ∈ part.optional.language ↔ text = [] ∨ text ∈ part.language := Iff.rfl
      rw [choices, List.mem_append, ih, List.mem_singleton, empty]
      constructor
      · rintro (⟨member, front⟩ | rfl)
        · exact ⟨.inr member, front⟩
        · exact ⟨.inl rfl, List.nil_prefix⟩
      · rintro ⟨rfl | member, front⟩
        · exact .inr rfl
        · exact .inl ⟨member, front⟩
  | seq first second firstIH secondIH =>
      rw [choices, language, Language.mem_mul, List.mem_flatMap]
      constructor
      · rintro ⟨left, leading, listed⟩
        obtain ⟨right, following, rfl⟩ := List.mem_map.mp listed
        obtain ⟨leftMember, rest, rfl⟩ := firstIH.mp leading
        rw [List.drop_left] at following
        obtain ⟨rightMember, front⟩ := secondIH.mp following
        exact ⟨⟨left, leftMember, right, rightMember, rfl⟩,
          (List.prefix_append_right_inj left).mpr front⟩
      · rintro ⟨⟨left, leftMember, right, rightMember, rfl⟩, front⟩
        obtain ⟨rest, rfl⟩ := (List.prefix_append left right).trans front
        have behind := (List.prefix_append_right_inj left).mp front
        refine ⟨left, firstIH.mpr ⟨leftMember, List.prefix_append left rest⟩, ?_⟩
        rw [List.drop_left]
        exact List.mem_map_of_mem (secondIH.mpr ⟨rightMember, behind⟩)
  | either first second firstIH secondIH =>
      rw [choices, language, Language.mem_add, List.mem_append, firstIH, secondIH, or_and_right]

theorem mem_language_run_iff :
    text ∈ (run belongs).language ↔ text ≠ [] ∧ ∀ c ∈ text, belongs c = true := by
  rw [run, language, Language.mem_mul]
  constructor
  · rintro ⟨_, ⟨c, member, rfl⟩, rest, inside, rfl⟩
    exact ⟨List.cons_ne_nil _ _, List.forall_mem_cons.mpr ⟨member, inside⟩⟩
  · rintro ⟨full, inside⟩
    obtain ⟨c, rest, rfl⟩ := List.exists_cons_of_ne_nil full
    rw [List.forall_mem_cons] at inside
    exact ⟨[c], ⟨c, inside.1, rfl⟩, rest, inside.2, rfl⟩

theorem length_le_of_mem_choices_run (choice : text ∈ (run belongs).choices input) :
    text.length ≤ (input.takeWhile belongs).length := by
  obtain ⟨member, rest, rfl⟩ := mem_choices_iff.mp choice
  rw [List.takeWhile_append_of_pos (mem_language_run_iff.mp member).2, List.length_append]
  exact Nat.le_add_right _ _

/-! ## Texts that go on -/

/-- Every text of an expression may go on with characters of a class. -/
def GrowsBy (expression : Expression) (belongs : Char → Bool) : Prop :=
  ∀ text ∈ expression.language, ∀ c, belongs c = true → text ++ [c] ∈ expression.language

theorem growsBy_many (belongs : Char → Bool) : (many belongs).GrowsBy belongs := by
  intro text inside c member
  exact List.forall_mem_append.mpr ⟨inside, by simpa using member⟩

theorem GrowsBy.seq (grows : second.GrowsBy belongs) : (seq first second).GrowsBy belongs := by
  intro text inside c member
  obtain ⟨left, leftMember, right, rightMember, rfl⟩ := Language.mem_mul.mp inside
  exact Language.mem_mul.mpr ⟨left, leftMember, right ++ [c], grows right rightMember c member,
    (List.append_assoc left right [c]).symm⟩

theorem growsBy_run (belongs : Char → Bool) : (run belongs).GrowsBy belongs :=
  (growsBy_many belongs).seq

/-! ## Greedy expressions -/

/-- No text is shorter than one behind it. -/
def LongestFirst (texts : List (List Char)) : Prop :=
  texts.Pairwise fun left right => right.length ≤ left.length

/-- The choices come in order of length. -/
def Greedy (expression : Expression) : Prop := ∀ input, LongestFirst (expression.choices input)

theorem Greedy.isLongest (greedy : expression.Greedy)
    (found : expression.firstMatch? input = some text) :
    IsLongest expression.language input text := by
  obtain ⟨later, listed⟩ := List.head?_eq_some_iff.mp found
  have ordered := greedy input
  rw [LongestFirst, listed, List.pairwise_cons] at ordered
  obtain ⟨mem, front⟩ := mem_choices_iff.mp (List.mem_of_head? found)
  refine ⟨mem, front, ?_⟩
  intro other member leads
  have choice := mem_choices_iff.mpr ⟨member, leads⟩
  rw [listed, List.mem_cons] at choice
  rcases choice with rfl | behind
  · exact Nat.le_refl _
  · exact ordered.1 other behind

/-- The match of a greedy expression is the longest one. -/
theorem Greedy.firstMatch?_eq_some_iff (greedy : expression.Greedy) :
    expression.firstMatch? input = some text ↔ IsLongest expression.language input text := by
  constructor
  · exact greedy.isLongest
  · intro longest
    have choice := mem_choices_iff.mpr ⟨longest.mem, longest.front⟩
    cases found : expression.firstMatch? input with
    | none =>
        rw [List.head?_eq_none_iff.mp found] at choice
        exact absurd choice List.not_mem_nil
    | some other => rw [(greedy.isLongest found).unique longest]

/-- No choice begins with a character of a class. -/
def Refuses (expression : Expression) (belongs : Char → Bool) : Prop :=
  ∀ c rest, belongs c = true → expression.choices (c :: rest) = []

theorem Refuses.eq_false_of_mem {c : Char} {rest : List Char}
    (refuses : expression.Refuses belongs) (member : c :: rest ∈ expression.language) :
    belongs c = false := by
  rw [Bool.eq_false_iff]
  intro begins
  have choice := mem_choices_iff.mpr ⟨member, List.prefix_refl (c :: rest)⟩
  rw [refuses c rest begins] at choice
  exact List.not_mem_nil choice

/-! ## One part behind the other -/

theorem choices_seq_char (c : Char) (rest : List Char) :
    (seq (char belongs) second).choices (c :: rest) =
      if belongs c then (second.choices rest).map (c :: ·) else [] := by
  rw [choices, choices]
  split
  · rw [List.flatMap_singleton]
    rfl
  · rfl

/-- What is behind a run of characters that it cannot begin with is found behind the whole run. -/
theorem choices_seq_many (refuses : second.Refuses belongs) (input : List Char) :
    (seq (many belongs) second).choices input =
      (second.choices (input.dropWhile belongs)).map (input.takeWhile belongs ++ ·) := by
  have tries : ∀ input, (seq (many belongs) second).choices input =
      (runs belongs input).flatMap fun front =>
        (second.choices (input.drop front.length)).map (front ++ ·) := fun _ => rfl
  induction input with
  | nil => simp [tries, runs]
  | cons c rest ih =>
      cases member : belongs c with
      | false => simp [tries, runs, member]
      | true =>
          have shorter : (second.choices (c :: rest)).map ([] ++ ·) = [] := by
            rw [refuses c rest member, List.map_nil]
          rw [tries, runs, if_pos member, List.flatMap_append, List.flatMap_singleton,
            List.length_nil, List.drop_zero, shorter, List.append_nil, List.flatMap_map,
            List.dropWhile_cons_of_pos member, List.takeWhile_cons_of_pos member]
          have further := congrArg (List.map (c :: ·)) ih
          rw [tries, List.map_flatMap, List.map_map] at further
          simpa [Function.comp_def] using further

theorem choices_seq_optional_nil :
    (seq (optional (char belongs)) second).choices [] = second.choices [] := by
  simp [choices]

theorem choices_seq_optional (refuses : second.Refuses belongs) (c : Char) (rest : List Char) :
    (seq (optional (char belongs)) second).choices (c :: rest) =
      if belongs c then (second.choices rest).map (c :: ·) else second.choices (c :: rest) := by
  rw [choices, choices, choices]
  cases member : belongs c with
  | false => simp
  | true => simp [refuses c rest member]

/-! ## Which expressions are greedy -/

theorem LongestFirst.map_append {texts : List (List Char)} (ordered : LongestFirst texts)
    (front : List Char) : LongestFirst (texts.map (front ++ ·)) := by
  apply List.Pairwise.map _ _ ordered
  intro left right shorter
  rw [List.length_append, List.length_append]
  exact Nat.add_le_add_left shorter _

theorem LongestFirst.concat_nil {texts : List (List Char)} (ordered : LongestFirst texts) :
    LongestFirst (texts ++ [[]]) := by
  rw [LongestFirst, List.pairwise_append]
  refine ⟨ordered, List.pairwise_singleton _ _, ?_⟩
  intro left _ right none
  rw [List.mem_singleton.mp none]
  exact Nat.zero_le _

theorem greedy_char (belongs : Char → Bool) : (char belongs).Greedy := by
  intro input
  cases input with
  | nil => exact List.Pairwise.nil
  | cons c rest =>
      rw [choices]
      split
      · exact List.pairwise_singleton _ _
      · exact List.Pairwise.nil

theorem greedy_many (belongs : Char → Bool) : (many belongs).Greedy := by
  intro input
  rw [choices]
  induction input with
  | nil => exact List.pairwise_singleton _ _
  | cons c rest ih =>
      rw [runs]
      split
      · exact (ih.map_append [c]).concat_nil
      · exact List.pairwise_singleton _ _

theorem greedy_word (expected : List Char) : (word expected).Greedy := by
  intro input
  rw [choices]
  split
  · exact List.pairwise_singleton _ _
  · exact List.Pairwise.nil

theorem greedy_optional (greedy : expression.Greedy) : expression.optional.Greedy :=
  fun input => (greedy input).concat_nil

theorem greedy_seq_char (greedy : second.Greedy) : (seq (char belongs) second).Greedy := by
  intro input
  cases input with
  | nil => exact List.Pairwise.nil
  | cons c rest =>
      rw [choices_seq_char]
      split
      · exact (greedy rest).map_append [c]
      · exact List.Pairwise.nil

theorem greedy_run (belongs : Char → Bool) : (run belongs).Greedy :=
  greedy_seq_char (greedy_many belongs)

theorem greedy_seq_many (refuses : second.Refuses belongs) (greedy : second.Greedy) :
    (seq (many belongs) second).Greedy := by
  intro input
  rw [choices_seq_many refuses]
  exact (greedy _).map_append _

theorem greedy_seq_optional (refuses : second.Refuses belongs) (greedy : second.Greedy) :
    (seq (optional (char belongs)) second).Greedy := by
  intro input
  cases input with
  | nil =>
      rw [choices_seq_optional_nil]
      exact greedy []
  | cons c rest =>
      rw [choices_seq_optional refuses]
      split
      · exact (greedy rest).map_append [c]
      · exact greedy _

theorem greedy_either (firstGreedy : first.Greedy) (secondGreedy : second.Greedy)
    (covers : ∀ input, ∀ left ∈ first.choices input, ∀ right ∈ second.choices input,
      right.length ≤ left.length) : (either first second).Greedy := by
  intro input
  rw [LongestFirst, choices, List.pairwise_append]
  exact ⟨firstGreedy input, secondGreedy input, covers input⟩

theorem greedy_either_of_apart (firstGreedy : first.Greedy) (secondGreedy : second.Greedy)
    (apart : ∀ input, first.choices input = [] ∨ second.choices input = []) :
    (either first second).Greedy := by
  apply greedy_either firstGreedy secondGreedy
  intro input left leading right following
  rcases apart input with none | none
  · rw [none] at leading
    exact absurd leading List.not_mem_nil
  · rw [none] at following
    exact absurd following List.not_mem_nil

/-! ## What an expression does not begin with -/

section

variable (apart : ∀ c, other c = true → belongs c = false)

include apart

theorem refuses_char : (char belongs).Refuses other := by
  intro c rest member
  rw [choices, apart c member]
  rfl

theorem refuses_seq_char : (seq (char belongs) second).Refuses other := by
  intro c rest member
  rw [choices_seq_char, apart c member]
  rfl

theorem refuses_seq_many (inner : second.Refuses belongs) (refuses : second.Refuses other) :
    (seq (many belongs) second).Refuses other := by
  intro c rest member
  have out : ¬belongs c = true := by simp [apart c member]
  rw [choices_seq_many inner, List.dropWhile_cons_of_neg out, refuses c rest member, List.map_nil]

theorem refuses_seq_optional (inner : second.Refuses belongs) (refuses : second.Refuses other) :
    (seq (optional (char belongs)) second).Refuses other := by
  intro c rest member
  rw [choices_seq_optional inner, apart c member, refuses c rest member]
  rfl

end

theorem refuses_either (left : first.Refuses belongs) (right : second.Refuses belongs) :
    (either first second).Refuses belongs := by
  intro c rest member
  rw [choices, left c rest member, right c rest member, List.append_nil]

/-! ## What is matched -/

theorem firstMatch?_char (c : Char) (rest : List Char) :
    (char belongs).firstMatch? (c :: rest) = if belongs c then some [c] else none := by
  rw [firstMatch?, choices]
  split <;> rfl

theorem firstMatch?_many (belongs : Char → Bool) (input : List Char) :
    (many belongs).firstMatch? input = some (input.takeWhile belongs) := by
  rw [firstMatch?, choices]
  induction input with
  | nil => rfl
  | cons c rest ih =>
      rw [runs]
      cases member : belongs c with
      | false => simp [member]
      | true => simp [member, ih]

theorem firstMatch?_word (expected input : List Char) :
    (word expected).firstMatch? input =
      if expected.isPrefixOf input then some expected else none := by
  rw [firstMatch?, choices]
  split <;> rfl

theorem firstMatch?_optional (input : List Char) :
    expression.optional.firstMatch? input = some ((expression.firstMatch? input).getD []) := by
  rw [firstMatch?, firstMatch?, choices, List.head?_append]
  cases (expression.choices input).head? <;> rfl

theorem firstMatch?_either (input : List Char) :
    (either first second).firstMatch? input =
      (first.firstMatch? input).or (second.firstMatch? input) := List.head?_append

theorem firstMatch?_seq_char (c : Char) (rest : List Char) :
    (seq (char belongs) second).firstMatch? (c :: rest) =
      if belongs c then (second.firstMatch? rest).map (c :: ·) else none := by
  rw [firstMatch?, choices_seq_char]
  split
  · exact List.head?_map
  · rfl

theorem firstMatch?_seq_many (refuses : second.Refuses belongs) (input : List Char) :
    (seq (many belongs) second).firstMatch? input =
      (second.firstMatch? (input.dropWhile belongs)).map (input.takeWhile belongs ++ ·) := by
  rw [firstMatch?, choices_seq_many refuses]
  exact List.head?_map

theorem firstMatch?_seq_optional (refuses : second.Refuses belongs) (c : Char)
    (rest : List Char) :
    (seq (optional (char belongs)) second).firstMatch? (c :: rest) =
      if belongs c then (second.firstMatch? rest).map (c :: ·)
      else second.firstMatch? (c :: rest) := by
  rw [firstMatch?, choices_seq_optional refuses]
  split
  · exact List.head?_map
  · rfl

theorem firstMatch?_run (belongs : Char → Bool) (input : List Char) :
    (run belongs).firstMatch? input =
      if (input.takeWhile belongs).isEmpty then none else some (input.takeWhile belongs) := by
  cases input with
  | nil => rfl
  | cons c rest =>
      rw [run, firstMatch?_seq_char, firstMatch?_many]
      cases member : belongs c <;> simp [member]

end Expression

end CssSelector
