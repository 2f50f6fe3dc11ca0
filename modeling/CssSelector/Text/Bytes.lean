/-!
# Byte offsets into text

Offsets count the bytes of the UTF-8 form of a text. An offset addresses a place between two
characters, or it lies inside a character or behind the end; `dropBytes?` tells these apart.
-/

set_option autoImplicit false

namespace CssSelector

def byteLength (chars : List Char) : Nat :=
  chars.foldl (fun total c => total + c.utf8Size) 0

private theorem foldl_size (chars : List Char) (total : Nat) :
    chars.foldl (fun total c => total + c.utf8Size) total = total + byteLength chars := by
  induction chars generalizing total with
  | nil => rfl
  | cons c rest hypothesis =>
      simp only [byteLength, List.foldl_cons]
      rw [hypothesis, hypothesis (0 + c.utf8Size)]
      omega

@[simp]
theorem byteLength_nil : byteLength [] = 0 := rfl

@[simp]
theorem byteLength_cons (c : Char) (rest : List Char) :
    byteLength (c :: rest) = c.utf8Size + byteLength rest := by
  rw [byteLength, List.foldl_cons, foldl_size]
  omega

@[simp]
theorem byteLength_append (left right : List Char) :
    byteLength (left ++ right) = byteLength left + byteLength right := by
  induction left with
  | nil => simp
  | cons c rest hypothesis => simp [hypothesis, Nat.add_assoc]

/-- The characters from a byte offset on; `none` inside a character and behind the end. -/
def dropBytes? : Nat → List Char → Option (List Char)
  | 0, chars => some chars
  | _ + 1, [] => none
  | offset + 1, c :: rest =>
      if offset + 1 < c.utf8Size then none else dropBytes? (offset + 1 - c.utf8Size) rest

def takeBytesInto? (reversed : List Char) : Nat → List Char → Option (List Char)
  | 0, _ => some reversed.reverse
  | _ + 1, [] => none
  | count + 1, c :: rest =>
      if count + 1 < c.utf8Size then none
      else takeBytesInto? (c :: reversed) (count + 1 - c.utf8Size) rest

/-- The characters in the first bytes; `none` if these bytes end inside a character or there are
not so many. -/
def takeBytes? (count : Nat) (chars : List Char) : Option (List Char) :=
  takeBytesInto? [] count chars

/-- The characters between two byte offsets; `none` if an offset is no place between characters
of the text or the offsets are in the wrong order. -/
def sliceBytes? (start stop : Nat) (chars : List Char) : Option (List Char) :=
  if stop < start then none else (dropBytes? start chars).bind (takeBytes? (stop - start))

theorem dropBytes?_byteLength_append (left right : List Char) :
    dropBytes? (byteLength left) (left ++ right) = some right := by
  induction left with
  | nil => simp [dropBytes?]
  | cons c rest hypothesis =>
      have positive : 0 < c.utf8Size := Char.utf8Size_pos c
      obtain ⟨size, sizeEq⟩ : ∃ size, c.utf8Size + byteLength rest = size + 1 :=
        ⟨c.utf8Size + byteLength rest - 1, by omega⟩
      simp only [byteLength_cons, List.cons_append]
      rw [sizeEq, dropBytes?, if_neg (by omega), ← sizeEq, Nat.add_sub_cancel_left]
      exact hypothesis

theorem exists_append_of_dropBytes? {offset : Nat} {chars rest : List Char}
    (found : dropBytes? offset chars = some rest) :
    ∃ before, chars = before ++ rest ∧ byteLength before = offset := by
  induction chars generalizing offset with
  | nil =>
      cases offset with
      | zero => exact ⟨[], by simpa [dropBytes?] using found, rfl⟩
      | succ offset => simp [dropBytes?] at found
  | cons c tail hypothesis =>
      cases offset with
      | zero => exact ⟨[], by simpa [dropBytes?] using found, rfl⟩
      | succ offset =>
          rw [dropBytes?] at found
          split at found
          · simp at found
          · obtain ⟨before, tailEq, sizeEq⟩ := hypothesis found
            exact ⟨c :: before, by simp [tailEq], by simp [sizeEq]; omega⟩

private theorem takeBytesInto?_eq (reversed : List Char) (count : Nat) (chars : List Char) :
    takeBytesInto? reversed count chars =
      (dropBytes? count chars).map fun rest =>
        reversed.reverse ++ chars.take (chars.length - rest.length) := by
  induction chars generalizing reversed count with
  | nil => cases count <;> simp [takeBytesInto?, dropBytes?]
  | cons c tail hypothesis =>
      cases count with
      | zero => simp [takeBytesInto?, dropBytes?]
      | succ count =>
          rw [takeBytesInto?, dropBytes?]
          split
          · rfl
          · rw [hypothesis]
            cases found : dropBytes? (count + 1 - c.utf8Size) tail with
            | none => rfl
            | some rest =>
                obtain ⟨before, tailEq, _⟩ := exists_append_of_dropBytes? found
                have length : (c :: tail).length - rest.length = before.length + 1 := by
                  simp [tailEq]
                  omega
                have shorter : tail.length - rest.length = before.length := by simp [tailEq]
                simp only [Option.map_some, length, shorter, List.take_succ_cons,
                  List.reverse_cons, List.append_assoc, List.singleton_append]

theorem takeBytes?_eq (count : Nat) (chars : List Char) :
    takeBytes? count chars =
      (dropBytes? count chars).map fun rest => chars.take (chars.length - rest.length) := by
  rw [takeBytes?, takeBytesInto?_eq]
  simp

theorem utf8ByteSize_eq_byteLength (text : String) :
    text.utf8ByteSize = byteLength text.toList := by
  rw [← @String.ofList_toList text]
  generalize text.toList = chars
  rw [String.toList_ofList]
  induction chars with
  | nil => rfl
  | cons c rest hypothesis =>
      rw [String.ofList_cons, String.utf8ByteSize_append, hypothesis]
      simp

end CssSelector
