import CssSelector.Scan.Metrics

/-!
# Counting items one by one

Counts of items are entries sorted by rank, one for each item that has occurred. Counting one more
item changes its entry only, or makes one, `CountsOf.concat`.
-/

set_option autoImplicit false

namespace CssSelector

variable {α : Type} [DecidableEq α]

/-- Entries in the order of rank, so that no item has two. -/
def SortedBy (rank : α → Nat) (counts : List (α × Nat)) : Prop :=
  counts.Pairwise fun left right => rank left.1 < rank right.1

/-- The sum of all counts. -/
def totalCount : List (α × Nat) → Nat
  | [] => 0
  | (_, count) :: rest => count + totalCount rest

/-- Sorted entries with the number of times that each item occurs. An item that does not occur has
no entry. -/
structure CountsOf (rank : α → Nat) (items : List α) (counts : List (α × Nat)) : Prop where
  sorted : SortedBy rank counts
  mem_iff : ∀ item count, (item, count) ∈ counts ↔ 0 < count ∧ count = items.count item
  total : totalCount counts = items.length

/-! ## The count of an item -/

@[simp]
theorem tallied_nil (item : α) : tallied item [] = 0 := rfl

theorem tallied_cons (item other : α) (count : Nat) (rest : List (α × Nat)) :
    tallied item ((other, count) :: rest) = if other = item then count else tallied item rest := by
  rw [tallied, List.find?_cons]
  by_cases same : other = item
  · simp [same]
  · simp [same, tallied]

theorem tallied_eq_zero {item : α} {counts : List (α × Nat)}
    (missing : ∀ count, (item, count) ∉ counts) : tallied item counts = 0 := by
  induction counts with
  | nil => rfl
  | cons entry rest ih =>
      obtain ⟨other, count⟩ := entry
      rw [tallied_cons, if_neg, ih fun count member => missing count (.tail _ member)]
      rintro rfl
      exact missing count (.head _)

theorem mem_of_tallied_ne_zero {item : α} {counts : List (α × Nat)}
    (occurs : tallied item counts ≠ 0) : (item, tallied item counts) ∈ counts := by
  induction counts with
  | nil => exact absurd rfl occurs
  | cons entry rest ih =>
      obtain ⟨other, count⟩ := entry
      rw [tallied_cons] at occurs ⊢
      split
      · next same =>
          rw [same]
          exact .head _
      · next apart =>
          rw [if_neg apart] at occurs
          exact .tail _ (ih occurs)

theorem tallied_of_mem {rank : α → Nat} {item : α} {count : Nat} {counts : List (α × Nat)}
    (sorted : SortedBy rank counts) (member : (item, count) ∈ counts) :
    tallied item counts = count := by
  induction counts with
  | nil => cases member
  | cons entry rest ih =>
      obtain ⟨other, number⟩ := entry
      obtain ⟨below, later⟩ := List.pairwise_cons.mp sorted
      rw [tallied_cons]
      rcases List.mem_cons.mp member with head | behind
      · cases head
        exact if_pos rfl
      · have less := below (item, count) behind
        rw [if_neg, ih later behind]
        rintro rfl
        exact Nat.lt_irrefl _ less

theorem CountsOf.tallied_eq {rank : α → Nat} {items : List α} {counts : List (α × Nat)}
    (holds : CountsOf rank items counts) (item : α) : tallied item counts = items.count item := by
  by_cases occurs : tallied item counts = 0
  · rcases Nat.eq_zero_or_pos (items.count item) with zero | positive
    · rw [occurs, zero]
    · exact tallied_of_mem holds.sorted ((holds.mem_iff item _).mpr ⟨positive, rfl⟩)
  · exact ((holds.mem_iff item _).mp (mem_of_tallied_ne_zero occurs)).2

/-! ## One more item -/

variable {rank : α → Nat} {item : α} {counts : List (α × Nat)}

theorem totalCount_tally : totalCount (tally rank item counts) = totalCount counts + 1 := by
  induction counts with
  | nil => rfl
  | cons entry rest ih =>
      obtain ⟨other, count⟩ := entry
      rw [tally]
      split
      · simp only [totalCount]
        omega
      · split
        · simp only [totalCount]
          omega
        · rw [totalCount, ih, totalCount, Nat.add_assoc]

/-- Counting makes no entry of another item, and none that is zero. -/
theorem exists_of_mem_tally {entry : α × Nat} (member : entry ∈ tally rank item counts) :
    (entry.1 = item ∧ 0 < entry.2) ∨ entry ∈ counts := by
  induction counts with
  | nil =>
      rw [List.mem_singleton.mp member]
      exact .inl ⟨rfl, Nat.one_pos⟩
  | cons first rest ih =>
      obtain ⟨other, number⟩ := first
      rw [tally] at member
      split at member
      · next same =>
          rcases List.mem_cons.mp member with rfl | later
          · exact .inl ⟨same.symm, Nat.succ_pos _⟩
          · exact .inr (.tail _ later)
      · split at member
        · rcases List.mem_cons.mp member with rfl | later
          · exact .inl ⟨rfl, Nat.one_pos⟩
          · exact .inr later
        · rcases List.mem_cons.mp member with rfl | later
          · exact .inr (.head _)
          · rcases ih later with new | old
            · exact .inl new
            · exact .inr (.tail _ old)

theorem SortedBy.tally (injective : Function.Injective rank) (sorted : SortedBy rank counts) :
    SortedBy rank (tally rank item counts) := by
  induction counts with
  | nil => exact List.pairwise_singleton _ _
  | cons entry rest ih =>
      obtain ⟨other, number⟩ := entry
      obtain ⟨below, later⟩ := List.pairwise_cons.mp sorted
      rw [CssSelector.tally]
      split
      · exact List.pairwise_cons.mpr ⟨below, later⟩
      · next apart =>
          split
          · next less =>
              refine List.pairwise_cons.mpr ⟨fun next member => ?_, sorted⟩
              rcases List.mem_cons.mp member with rfl | behind
              · exact less
              · exact Nat.lt_trans less (below next behind)
          · next notLess =>
              refine List.pairwise_cons.mpr ⟨fun next member => ?_, ih later⟩
              rcases exists_of_mem_tally member with ⟨same, -⟩ | old
              · rw [same]
                exact Nat.lt_of_le_of_ne (Nat.le_of_not_lt notLess)
                  fun equal => apart (injective equal).symm
              · exact below next old

theorem tallied_tally (sorted : SortedBy rank counts) (other : α) :
    tallied other (tally rank item counts) =
      tallied other counts + if item = other then 1 else 0 := by
  induction counts with
  | nil =>
      rw [tally, tallied_cons, tallied_nil, Nat.zero_add]
  | cons entry rest ih =>
      obtain ⟨first, number⟩ := entry
      obtain ⟨below, later⟩ := List.pairwise_cons.mp sorted
      rw [tally]
      split
      · next same =>
          rw [tallied_cons, tallied_cons, same]
          split <;> rfl
      · next apart =>
          split
          · next less =>
              rw [tallied_cons]
              split
              · next same =>
                  -- every entry that is there has a greater rank, so the item has none yet
                  subst same
                  rw [tallied_eq_zero]
                  intro count member
                  rcases List.mem_cons.mp member with head | behind
                  · cases head
                    exact apart rfl
                  · exact Nat.lt_asymm less (below (item, count) behind)
              · rw [Nat.add_zero]
          · rw [tallied_cons, tallied_cons, ih later]
            split
            · next same =>
                rw [if_neg fun equal => apart (equal.trans same.symm), Nat.add_zero]
            · rfl

theorem CountsOf.nil : CountsOf rank ([] : List α) [] where
  sorted := .nil
  mem_iff item count := by
    simp only [List.not_mem_nil, List.count_nil, false_iff, not_and]
    exact fun positive => Nat.ne_of_gt positive
  total := rfl

theorem CountsOf.concat {items : List α} (injective : Function.Injective rank)
    (holds : CountsOf rank items counts) (item : α) :
    CountsOf rank (items ++ [item]) (tally rank item counts) where
  sorted := holds.sorted.tally injective
  mem_iff other count := by
    have sorted : SortedBy rank (tally rank item counts) := holds.sorted.tally injective
    have number : tallied other (tally rank item counts) = (items ++ [item]).count other := by
      rw [tallied_tally holds.sorted, holds.tallied_eq, List.count_append, List.count_singleton]
      simp only [beq_iff_eq]
    constructor
    · intro member
      refine ⟨?_, (tallied_of_mem sorted member).symm.trans number⟩
      rcases exists_of_mem_tally member with ⟨-, positive⟩ | old
      · exact positive
      · exact ((holds.mem_iff other count).mp old).1
    · rintro ⟨positive, rfl⟩
      rw [← number] at positive ⊢
      exact mem_of_tallied_ne_zero (Nat.ne_of_gt positive)
  total := by
    rw [totalCount_tally, holds.total, List.length_append, List.length_singleton]

end CssSelector
