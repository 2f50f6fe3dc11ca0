import Mathlib.Data.List.TakeWhile

/-!
# Runs of characters of a class

A run of characters of a class is as long as it can be: it ends at the end of the text or in front
of a character that is not of the class. So a text either begins with a character of the class, or
no run of the class goes on into it.
-/

set_option autoImplicit false

namespace CssSelector

/-- No character of a class is at the front of a text. -/
def EndsRun (belongs : Char → Bool) (rest : List Char) : Prop :=
  ∀ c, rest.head? = some c → belongs c = false

/-- A character of a class is at the front of a text. -/
def BeginsWith (belongs : Char → Bool) (input : List Char) : Prop :=
  ∃ c, input.head? = some c ∧ belongs c = true

@[simp]
theorem not_beginsWith_nil (belongs : Char → Bool) : ¬BeginsWith belongs [] := by
  simp [BeginsWith]

@[simp]
theorem beginsWith_cons {belongs : Char → Bool} {c : Char} {rest : List Char} :
    BeginsWith belongs (c :: rest) ↔ belongs c = true := by
  simp [BeginsWith]

theorem BeginsWith.exists_cons {belongs : Char → Bool} {input : List Char}
    (begins : BeginsWith belongs input) :
    ∃ c rest, input = c :: rest ∧ belongs c = true := by
  obtain ⟨c, first, member⟩ := begins
  obtain ⟨rest, rfl⟩ := List.head?_eq_some_iff.mp first
  exact ⟨c, rest, rfl, member⟩

theorem EndsRun.not_beginsWith {belongs : Char → Bool} {rest : List Char}
    (ends : EndsRun belongs rest) : ¬BeginsWith belongs rest := by
  intro ⟨c, first, member⟩
  simp [ends c first] at member

namespace EndsRun

variable {belongs : Char → Bool} {rest : List Char}

theorem nil : EndsRun belongs [] := by
  intro c none
  cases none

theorem cons {c : Char} (other : belongs c = false) (rest : List Char) :
    EndsRun belongs (c :: rest) := by
  intro first same
  cases same
  exact other

theorem dropWhile (belongs : Char → Bool) (input : List Char) :
    EndsRun belongs (input.dropWhile belongs) := by
  intro c first
  have out := List.head?_dropWhile_not belongs input
  rw [first] at out
  exact out

theorem takeWhile_eq (ends : EndsRun belongs rest) : rest.takeWhile belongs = [] := by
  cases rest with
  | nil => rfl
  | cons c rest => exact List.takeWhile_cons_of_neg (by simp [ends c rfl])

theorem dropWhile_eq (ends : EndsRun belongs rest) : rest.dropWhile belongs = rest := by
  cases rest with
  | nil => rfl
  | cons c rest => exact List.dropWhile_cons_of_neg (by simp [ends c rfl])

theorem takeWhile_append (ends : EndsRun belongs rest) (input : List Char) :
    (input ++ rest).takeWhile belongs = input.takeWhile belongs := by
  induction input with
  | nil => exact ends.takeWhile_eq
  | cons c input ih => cases member : belongs c <;> simp [member, ih]

theorem dropWhile_append (ends : EndsRun belongs rest) (input : List Char) :
    (input ++ rest).dropWhile belongs = input.dropWhile belongs ++ rest := by
  induction input with
  | nil => exact ends.dropWhile_eq
  | cons c input ih => cases member : belongs c <;> simp [member, ih]

variable {run : List Char}

theorem takeWhile_run (ends : EndsRun belongs rest) (inside : ∀ c ∈ run, belongs c = true) :
    (run ++ rest).takeWhile belongs = run := by
  rw [ends.takeWhile_append, List.takeWhile_eq_self_iff.mpr inside]

theorem dropWhile_run (ends : EndsRun belongs rest) (inside : ∀ c ∈ run, belongs c = true) :
    (run ++ rest).dropWhile belongs = rest := by
  rw [ends.dropWhile_append, List.dropWhile_eq_nil_iff.mpr inside, List.nil_append]

end EndsRun

end CssSelector
