import CssSelector.Json.Reader
import CssSelector.Proofs.Text.Run

/-!
# The compact form is read back

The reader inverts the writer: a value that is data, with numbers of no more digits than the reader
keeps, is read back from its compact form, `Json.read?_compact`.
-/

set_option autoImplicit false

namespace CssSelector

namespace Json

/-! ## The characters of the compact form -/

def spellChar (c : Char) : List Char :=
  match escape? c with
  | some escape => escape.toList
  | none => [c]

def spellText (text : String) : List Char := '"' :: (text.toList.flatMap spellChar ++ ['"'])

mutual

def spelling : Json → List Char
  | null => ['n', 'u', 'l', 'l']
  | bool value => if value then ['t', 'r', 'u', 'e'] else ['f', 'a', 'l', 's', 'e']
  | natural value => Nat.toDigits 10 value
  | text value => spellText value
  | array [] => ['[', ']']
  | array (first :: later) => '[' :: (spelling first ++ spellItems later)
  | object [] => ['\x7b', '\x7d']
  | object ((key, value) :: later) =>
      '\x7b' :: (spellText key ++ ':' :: (spelling value ++ spellFields later))
  | other => ['n', 'u', 'l', 'l']

/-- The items behind the first one, up to the closing bracket. -/
def spellItems : List Json → List Char
  | [] => [']']
  | item :: later => ',' :: (spelling item ++ spellItems later)

/-- The fields behind the first one, up to the closing brace. -/
def spellFields : List (String × Json) → List Char
  | [] => ['\x7d']
  | (key, value) :: later =>
      ',' :: (spellText key ++ ':' :: (spelling value ++ spellFields later))

end

theorem toList_writeChar (written : String) (c : Char) :
    (writeChar written c).toList = written.toList ++ spellChar c := by
  unfold writeChar spellChar
  cases escape? c <;> simp

theorem toList_writeText (written text : String) :
    (writeText written text).toList = written.toList ++ spellText text := by
  have chars : ∀ (chars : List Char) (before : String),
      (chars.foldl writeChar before).toList = before.toList ++ chars.flatMap spellChar := by
    intro chars
    induction chars with
    | nil => simp
    | cons c chars ih =>
        intro before
        rw [List.foldl_cons, ih, toList_writeChar, List.flatMap_cons, List.append_assoc]
  simp [writeText, spellText, chars]

mutual

theorem toList_writeTo (written : String) :
    ∀ value : Json, (writeTo written value).toList = written.toList ++ spelling value
  | null => by simp [writeTo, spelling]
  | bool true => by simp [writeTo, spelling]
  | bool false => by simp [writeTo, spelling]
  | natural value => by simp [writeTo, spelling, Nat.toString_eq_repr]
  | text value => by rw [writeTo, spelling, toList_writeText]
  | array [] => by simp [writeTo, spelling]
  | array (first :: later) => by
      rw [writeTo, spelling, toList_writeItems, toList_writeTo]
      simp
  | object [] => by simp [writeTo, spelling]
  | object ((key, value) :: later) => by
      rw [writeTo, spelling, toList_writeFields, toList_writeTo]
      simp [toList_writeText]
  | other => by simp [writeTo, spelling]

theorem toList_writeItems (written : String) : ∀ items : List Json,
    ((writeItems written items).push ']').toList = written.toList ++ spellItems items
  | [] => by simp [writeItems, spellItems]
  | item :: later => by
      rw [writeItems, spellItems, toList_writeItems, toList_writeTo]
      simp

theorem toList_writeFields (written : String) : ∀ fields : List (String × Json),
    ((writeFields written fields).push '\x7d').toList = written.toList ++ spellFields fields
  | [] => by simp [writeFields, spellFields]
  | (key, value) :: later => by
      rw [writeFields, spellFields, toList_writeFields, toList_writeTo]
      simp [toList_writeText]

end

theorem toList_compact (value : Json) : value.compact.toList = spelling value := by
  rw [compact, toList_writeTo]
  rfl

/-! ## Strings -/

theorem hexNumber?_control {code : Nat} (control : code < 32) :
    hexNumber? ['0', '0', hexDigit (code / 16), hexDigit (code % 16)] = some code := by
  revert code
  decide

/-- A character is spelled by a backslash and a letter, by its code, or by itself. -/
theorem spellChar_cases (c : Char) :
    (∃ letter, letter ≠ 'u' ∧ unescape? letter = some c ∧ spellChar c = ['\\', letter]) ∨
      (c.toNat < 32 ∧
        spellChar c = ['\\', 'u', '0', '0', hexDigit (c.toNat / 16), hexDigit (c.toNat % 16)]) ∨
      (c ≠ '"' ∧ c ≠ '\\' ∧ ¬c.toNat < 32 ∧ spellChar c = [c]) := by
  by_cases short : c ∈ ['"', '\\', '\x08', '\x0c', '\n', '\r', '\t']
  · left
    simp only [List.mem_cons, List.not_mem_nil, or_false] at short
    rcases short with rfl | rfl | rfl | rfl | rfl | rfl | rfl
    · exact ⟨'"', by decide, rfl, rfl⟩
    · exact ⟨'\\', by decide, rfl, rfl⟩
    · exact ⟨'b', by decide, rfl, rfl⟩
    · exact ⟨'f', by decide, rfl, rfl⟩
    · exact ⟨'n', by decide, rfl, rfl⟩
    · exact ⟨'r', by decide, rfl, rfl⟩
    · exact ⟨'t', by decide, rfl, rfl⟩
  · right
    simp only [List.mem_cons, List.not_mem_nil, or_false, not_or] at short
    obtain ⟨quote, backslash, backspace, formFeed, lineFeed, carriageReturn, tab⟩ := short
    by_cases control : c.toNat < 32
    · left
      simp [spellChar, escape?, quote, backslash, backspace, formFeed, lineFeed, carriageReturn,
        tab, control]
    · right
      simp [spellChar, escape?, quote, backslash, backspace, formFeed, lineFeed, carriageReturn,
        tab, control]

theorem readLiteral_spellChar (reversed rest : List Char) (c : Char) :
    readLiteral ⟨reversed, none, true⟩ (spellChar c ++ rest) =
      readLiteral ⟨c :: reversed, none, true⟩ rest := by
  rcases spellChar_cases c with ⟨letter, short, stands, spelled⟩ | ⟨control, spelled⟩ |
    ⟨quote, backslash, visible, spelled⟩
  · rw [spelled]
    simp [readLiteral, short, stands, Literal.add]
  · rw [spelled]
    have leading : ¬0xD800 ≤ c.toNat := by omega
    have trailing : ¬0xDC00 ≤ c.toNat := by omega
    simp [readLiteral, hexNumber?_control control, Literal.addUnit, Literal.add, leading, trailing]
  · rw [spelled]
    simp [readLiteral, quote, backslash, visible, Literal.add]

theorem readLiteral_spelled (chars reversed rest : List Char) :
    readLiteral ⟨reversed, none, true⟩ (chars.flatMap spellChar ++ '"' :: rest) =
      some (some (String.ofList (reversed.reverse ++ chars)), rest) := by
  induction chars generalizing reversed with
  | nil => simp [readLiteral, Literal.text?]
  | cons c chars ih =>
      rw [List.flatMap_cons, List.append_assoc, readLiteral_spellChar, ih]
      simp

theorem readString_spellText (text : String) (rest : List Char) :
    readString (spellText text ++ rest) = some (some text, rest) := by
  have literal := readLiteral_spelled text.toList [] rest
  simpa [readString, spellText, Literal.start] using literal

/-! ## Numbers -/

theorem isDecimal_of_mem_toDigits {value : Nat} {c : Char} (member : c ∈ Nat.toDigits 10 value) :
    isDecimal c = true := by
  have digit := Nat.isDigit_of_mem_toDigits (by decide) (by decide) member
  simpa [isDecimal, Char.isDigit, Char.le_def] using digit

theorem head?_toDigits_ne_zero {value : Nat} (positive : 0 < value) :
    (Nat.toDigits 10 value).head? ≠ some '0' := by
  induction value using Nat.strongRecOn with
  | ind value ih =>
      rw [Nat.toDigits_eq_if (by decide)]
      by_cases single : value < 10
      · have digits : ∀ digit < 10, 0 < digit → [digit.digitChar].head? ≠ some '0' := by decide
        rw [if_pos single]
        exact digits value single positive
      · rw [if_neg single, List.head?_append]
        have front := ih (value / 10) (by omega) (by omega)
        cases parts : Nat.toDigits 10 (value / 10) with
        | nil => exact absurd parts Nat.toDigits_ne_nil
        | cons c digits => rwa [parts] at front

theorem skipInteger?_toDigits (value : Nat) : skipInteger? (Nat.toDigits 10 value) = some [] := by
  cases value with
  | zero => rfl
  | succ value =>
      have front := head?_toDigits_ne_zero (Nat.zero_lt_succ value)
      have decimal : ∀ c ∈ Nat.toDigits 10 (value + 1), isDecimal c = true :=
        fun c => isDecimal_of_mem_toDigits
      cases parts : Nat.toDigits 10 (value + 1) with
      | nil => exact absurd parts Nat.toDigits_ne_nil
      | cons c rest =>
          rw [parts, List.head?_cons] at front
          rw [parts, List.forall_mem_cons] at decimal
          have zero : c ≠ '0' := fun same => front (congrArg some same)
          have all : rest.dropWhile isDecimal = [] := List.dropWhile_eq_nil_iff.mpr decimal.2
          simp [skipInteger?, skipDigits?, zero, decimal.1, all]

theorem isNumber_toDigits (value : Nat) : isNumber (Nat.toDigits 10 value) = true := by
  have unsigned : ∀ rest, Nat.toDigits 10 value ≠ '-' :: rest := by
    intro rest parts
    have decimal := isDecimal_of_mem_toDigits (parts ▸ List.mem_cons_self)
    exact absurd decimal (by decide)
  unfold isNumber
  split
  · next rest parts => exact absurd parts (unsigned rest)
  · simp [skipInteger?_toDigits, skipFraction?, skipExponent?]

theorem decimalValue_toDigits (value : Nat) : decimalValue (Nat.toDigits 10 value) = value := by
  have back := @Nat.ofDigitChars_ten_toDigits value
  rwa [Nat.ofDigitChars_eq_foldl] at back

theorem readNumber_toDigits {value : Nat} {rest : List Char}
    (short : (Nat.toDigits 10 value).length ≤ maxDigits) (ends : EndsRun isNumeric rest) :
    readNumber (Nat.toDigits 10 value ++ rest) = some (natural value, rest) := by
  have decimal : ∀ c ∈ Nat.toDigits 10 value, isDecimal c = true :=
    fun c => isDecimal_of_mem_toDigits
  have numeric : ∀ c ∈ Nat.toDigits 10 value, isNumeric c = true := by
    intro c member
    simp [isNumeric, decimal c member]
  have word := ends.takeWhile_run numeric
  have behind := ends.dropWhile_run numeric
  have all : (Nat.toDigits 10 value).all isDecimal = true := List.all_eq_true.mpr decimal
  simp [readNumber, word, behind, isNumber_toDigits, decimalValue_toDigits, all, short]

/-! ## Values -/

/-- Values that the compact form keeps: data, with numbers of no more digits than the reader
keeps. -/
inductive IsData : Json → Prop where
  | null : IsData null
  | bool {value : Bool} : IsData (bool value)
  | natural {value : Nat} :
      (Nat.toDigits 10 value).length ≤ maxDigits → IsData (natural value)
  | text {value : String} : IsData (text value)
  | array {items : List Json} : (∀ item ∈ items, IsData item) → IsData (array items)
  | object {fields : List (String × Json)} :
      (∀ field ∈ fields, IsData field.2) → IsData (object fields)

theorem isBlank_of_isDecimal {c : Char} (decimal : isDecimal c = true) : isBlank c = false := by
  cases blank : isBlank c with
  | false => rfl
  | true =>
      simp only [isBlank, Bool.or_eq_true, decide_eq_true_eq] at blank
      rcases blank with ((rfl | rfl) | rfl) | rfl <;> exact absurd decimal (by decide)

theorem exists_cons_of_toDigits (value : Nat) :
    ∃ c digits, Nat.toDigits 10 value = c :: digits ∧ isDecimal c = true := by
  cases parts : Nat.toDigits 10 value with
  | nil => exact absurd parts Nat.toDigits_ne_nil
  | cons c digits =>
      exact ⟨c, digits, rfl, isDecimal_of_mem_toDigits (parts ▸ List.mem_cons_self)⟩

/-- No value begins with a blank or with a closing bracket. -/
theorem exists_cons_of_spelling (value : Json) :
    ∃ c tail, spelling value = c :: tail ∧ isBlank c = false ∧ c ≠ ']' := by
  cases value with
  | null | other => exact ⟨_, _, rfl, rfl, by decide⟩
  | bool value => cases value <;> exact ⟨_, _, rfl, rfl, by decide⟩
  | natural value =>
      obtain ⟨c, digits, parts, decimal⟩ := exists_cons_of_toDigits value
      refine ⟨c, digits, parts, isBlank_of_isDecimal decimal, ?_⟩
      intro same
      rw [same] at decimal
      exact absurd decimal (by decide)
  | text value => exact ⟨_, _, rfl, rfl, by decide⟩
  | array items => cases items <;> exact ⟨_, _, rfl, rfl, by decide⟩
  | object fields => cases fields <;> exact ⟨_, _, rfl, rfl, by decide⟩

theorem skipBlanks_cons {c : Char} (visible : isBlank c = false) (rest : List Char) :
    skipBlanks (c :: rest) = c :: rest := by
  rw [skipBlanks, List.dropWhile_cons_of_neg (by simp [visible])]

/-- With so much fuel, written data is read back, whatever stands behind it. -/
def ReadsValues (fuel : Nat) : Prop :=
  ∀ (value : Json) (rest : List Char), IsData value → (spelling value).length ≤ fuel →
    EndsRun isNumeric rest → readValue fuel (spelling value ++ rest) = some (value, rest)

def ReadsItems (fuel : Nat) : Prop :=
  ∀ (reversed : List Json) (item : Json) (later : List Json) (rest : List Char),
    (∀ value ∈ item :: later, IsData value) →
    (spelling item ++ spellItems later).length ≤ fuel →
    readItems fuel reversed (spelling item ++ (spellItems later ++ rest)) =
      some (array (reversed.reverse ++ item :: later), rest)

def ReadsFields (fuel : Nat) : Prop :=
  ∀ (reversed : List (Option String × Json)) (key : String) (value : Json)
    (later : List (String × Json)) (rest : List Char),
    (∀ field ∈ (key, value) :: later, IsData field.2) →
    (spellText key ++ ':' :: (spelling value ++ spellFields later)).length ≤ fuel →
    readFields fuel reversed
        (spellText key ++ ':' :: (spelling value ++ (spellFields later ++ rest))) =
      some (reversed.reverse ++ ((key, value) :: later).map (fun (key, value) => (some key, value)),
        rest)

theorem endsRun_spellItems (items : List Json) (rest : List Char) :
    EndsRun isNumeric (spellItems items ++ rest) := by
  cases items <;> exact .cons rfl _

theorem endsRun_spellFields (fields : List (String × Json)) (rest : List Char) :
    EndsRun isNumeric (spellFields fields ++ rest) := by
  cases fields <;> exact .cons rfl _

theorem readsItems_succ {fuel : Nat} (values : ReadsValues fuel) (items : ReadsItems fuel) :
    ReadsItems (fuel + 1) := by
  intro reversed item later rest data enough
  rw [List.forall_mem_cons] at data
  rw [List.length_append] at enough
  cases later with
  | nil =>
      have first := values item (']' :: rest) data.1 (by simp [spellItems] at enough; omega)
        (.cons rfl _)
      simp [spellItems, readItems, first, skipBlanks_cons (c := ']') rfl]
  | cons second later =>
      have behind : (spelling second ++ spellItems later).length + 1 =
          (spellItems (second :: later)).length := rfl
      have first := values item (spellItems (second :: later) ++ rest) data.1 (by omega)
        (endsRun_spellItems _ _)
      have others := items (item :: reversed) second later rest data.2 (by omega)
      rw [readItems, first]
      simp [spellItems, skipBlanks_cons (c := ',') rfl, others]

theorem readsFields_succ {fuel : Nat} (values : ReadsValues fuel) (fields : ReadsFields fuel) :
    ReadsFields (fuel + 1) := by
  intro reversed key value later rest data enough
  rw [List.forall_mem_cons] at data
  rw [List.length_append, List.length_cons, List.length_append] at enough
  have visible : ∀ behind, skipBlanks (spellText key ++ behind) = spellText key ++ behind :=
    fun _ => skipBlanks_cons rfl _
  rw [readFields, visible, readString_spellText]
  cases later with
  | nil =>
      have first := values value ('\x7d' :: rest) data.1 (by omega) (.cons rfl _)
      simp [spellFields, skipBlanks_cons (c := ':') rfl, skipBlanks_cons (c := '\x7d') rfl, first]
  | cons second later =>
      have behind : (spellText second.1 ++ ':' :: (spelling second.2 ++ spellFields later)).length
          + 1 = (spellFields (second :: later)).length := rfl
      have first := values value (spellFields (second :: later) ++ rest) data.1 (by omega)
        (endsRun_spellFields _ _)
      have others := fields ((some key, value) :: reversed) second.1 second.2 later rest data.2
        (by omega)
      simp only [skipBlanks_cons (c := ':') rfl, first]
      simp [spellFields, skipBlanks_cons (c := ',') rfl, others]

theorem textFields?_map (fields : List (String × Json)) :
    textFields? (fields.map fun (key, value) => (some key, value)) = some fields := by
  induction fields with
  | nil => rfl
  | cons field fields ih =>
      rw [textFields?] at ih
      simp [textFields?, ih]

theorem readValue_of_isDecimal {c : Char} (decimal : isDecimal c = true) (fuel : Nat)
    (rest : List Char) : readValue (fuel + 1) (c :: rest) = readNumber (c :: rest) := by
  have other : ∀ mark, isDecimal mark = false → c ≠ mark := by
    intro mark plain same
    rw [same, plain] at decimal
    cases decimal
  rw [readValue, skipBlanks_cons (isBlank_of_isDecimal decimal)]
  simp [other '"' rfl, other '[' rfl, other '\x7b' rfl, other 'n' rfl, other 't' rfl, other 'f' rfl]

theorem readsValues_succ {fuel : Nat} (items : ReadsItems fuel) (fields : ReadsFields fuel) :
    ReadsValues (fuel + 1) := by
  intro value rest data enough ends
  cases data with
  | null => simp [spelling, readValue, readWord, skipBlanks_cons (c := 'n') rfl]
  | @bool value =>
      cases value
      · simp [spelling, readValue, readWord, skipBlanks_cons (c := 'f') rfl]
      · simp [spelling, readValue, readWord, skipBlanks_cons (c := 't') rfl]
  | @natural value short =>
      obtain ⟨c, digits, parts, decimal⟩ := exists_cons_of_toDigits value
      have number := readNumber_toDigits short ends
      rw [spelling]
      rw [parts, List.cons_append] at number ⊢
      rw [readValue_of_isDecimal decimal, number]
  | @text value =>
      have literal := readLiteral_spelled value.toList [] rest
      simp only [List.reverse_nil, List.nil_append, String.ofList_toList] at literal
      simp [spelling, spellText, readValue, skipBlanks_cons (c := '"') rfl, Literal.start, literal]
  | @array elements plain =>
      cases elements with
      | nil =>
          simp [spelling, readValue, skipBlanks_cons (c := '[') rfl, skipBlanks_cons (c := ']') rfl]
      | cons first later =>
          have enough : (spelling first ++ spellItems later).length ≤ fuel :=
            Nat.le_of_succ_le_succ enough
          have read := items [] first later rest plain enough
          obtain ⟨c, tail, parts, visible, opening⟩ := exists_cons_of_spelling first
          rw [spelling, readValue, List.cons_append, skipBlanks_cons rfl, List.append_assoc]
          rw [parts, List.cons_append] at read ⊢
          simp [skipBlanks_cons visible, opening, read]
  | @object members plain =>
      cases members with
      | nil =>
          simp [spelling, readValue, skipBlanks_cons (c := '\x7b') rfl,
            skipBlanks_cons (c := '\x7d') rfl]
      | cons first later =>
          obtain ⟨key, value⟩ := first
          have enough : (spellText key ++ ':' :: (spelling value ++ spellFields later)).length ≤
              fuel := Nat.le_of_succ_le_succ enough
          have read := fields [] key value later rest plain enough
          have content := textFields?_map ((key, value) :: later)
          rw [spelling, readValue, List.cons_append, skipBlanks_cons rfl, List.append_assoc,
            List.cons_append, List.append_assoc]
          -- a key begins with its quote, so the object is not empty
          simp only [spellText, List.cons_append] at read ⊢
          simp only [skipBlanks_cons (c := '"') rfl, read, List.reverse_nil, List.nil_append,
            content]
          rfl

theorem reads_all (fuel : Nat) : ReadsValues fuel ∧ ReadsItems fuel ∧ ReadsFields fuel := by
  induction fuel with
  | zero =>
      refine ⟨?_, ?_, ?_⟩
      · intro value rest _ enough
        obtain ⟨c, tail, parts, -, -⟩ := exists_cons_of_spelling value
        simp [parts] at enough
      · intro reversed item later rest _ enough
        obtain ⟨c, tail, parts, -, -⟩ := exists_cons_of_spelling item
        simp [parts] at enough
      · intro reversed key value later rest _ enough
        simp [spellText] at enough
  | succ fuel ih =>
      obtain ⟨values, items, fields⟩ := ih
      exact ⟨readsValues_succ items fields, readsItems_succ values items,
        readsFields_succ values fields⟩

/-- A value that is data is read back from its compact form. -/
theorem read?_compact {value : Json} (data : IsData value) : read? value.compact = some value := by
  have read := (reads_all ((spelling value).length + 1)).1 value [] data (Nat.le_succ _)
    (fun _ none => nomatch none)
  rw [List.append_nil] at read
  simp [read?, toList_compact, read, skipBlanks]

end Json

end CssSelector
