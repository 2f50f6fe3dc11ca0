import CssSelector.Text.Bytes

/-!
# Source text with direct access at byte offsets

A source is a text together with a table that has, for every byte offset, the characters from
there on. The table only speeds up `Source.after?`; `Source.after?_eq` says what it holds.
-/

set_option autoImplicit false

namespace CssSelector

/-- One entry for each byte: the remaining characters where a character starts, nothing inside a
character; and one entry for the end. -/
def suffixTable (table : Array (Option (List Char))) : List Char → Array (Option (List Char))
  | [] => table.push (some [])
  | c :: rest =>
      suffixTable (table.push (some (c :: rest)) ++ Array.replicate (c.utf8Size - 1) none) rest

structure Source where
  text : String
  suffixes : Array (Option (List Char))
  suffixes_eq : suffixes = suffixTable #[] text.toList

namespace Source

def ofString (text : String) : Source where
  text := text
  suffixes := suffixTable #[] text.toList
  suffixes_eq := rfl

def chars (source : Source) : List Char := source.text.toList

def length (source : Source) : Nat := source.text.utf8ByteSize

/-- The characters from a byte offset on; `none` inside a character and behind the end. -/
def after? (source : Source) (offset : Nat) : Option (List Char) :=
  source.suffixes[offset]?.join

/-- The text from a byte offset on; empty where the offset is no place between characters. -/
def textAfter (source : Source) (offset : Nat) : String :=
  match source.after? offset with
  | some rest => String.ofList rest
  | none => ""

/-- The text between two byte offsets; `none` if an offset is no place between characters or the
offsets are in the wrong order. -/
def slice? (source : Source) (start stop : Nat) : Option String :=
  if stop < start then none
  else ((source.after? start).bind (takeBytes? (stop - start))).map String.ofList

end Source

private def suffixList : List Char → List (Option (List Char))
  | [] => [some []]
  | c :: rest => some (c :: rest) :: (List.replicate (c.utf8Size - 1) none ++ suffixList rest)

private theorem toList_suffixTable (table : Array (Option (List Char))) (chars : List Char) :
    (suffixTable table chars).toList = table.toList ++ suffixList chars := by
  induction chars generalizing table with
  | nil => simp [suffixTable, suffixList]
  | cons c rest hypothesis => simp [suffixTable, suffixList, hypothesis]

private theorem getElem?_suffixList (chars : List Char) (offset : Nat) :
    (suffixList chars)[offset]?.join = dropBytes? offset chars := by
  induction chars generalizing offset with
  | nil => cases offset <;> simp [suffixList, dropBytes?]
  | cons c rest hypothesis =>
      cases offset with
      | zero => simp [suffixList, dropBytes?]
      | succ offset =>
          have positive : 0 < c.utf8Size := Char.utf8Size_pos c
          rw [suffixList, List.getElem?_cons_succ, dropBytes?]
          split
          · rw [List.getElem?_append_left (by simp; omega)]
            rw [List.getElem?_replicate]
            split <;> rfl
          · rw [List.getElem?_append_right (by simp; omega), ← hypothesis]
            simp only [List.length_replicate]
            congr 2
            omega

theorem Source.after?_eq (source : Source) (offset : Nat) :
    source.after? offset = dropBytes? offset source.chars := by
  rw [Source.after?, source.suffixes_eq, ← Array.getElem?_toList, toList_suffixTable]
  simpa [Source.chars] using getElem?_suffixList source.chars offset

theorem Source.slice?_eq (source : Source) (start stop : Nat) :
    source.slice? start stop = (sliceBytes? start stop source.chars).map String.ofList := by
  rw [Source.slice?, Source.after?_eq, sliceBytes?]
  split <;> rfl

end CssSelector
