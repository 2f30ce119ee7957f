import Mathlib.Data.List.DropRight

/-! Windows counted from the end of a list. What is read behind the last item
does not depend on how far the list reaches back, as long as it reaches back
far enough. -/
namespace Window
open List
universe u
variable {α : Type u}

/-- The item `steps` before the last one. -/
def behind? (steps : Nat) (items : List α) : Option α := items.reverse[steps]?

/-- The last `count` items. -/
def last? (count : Nat) (items : List α) : Option (List α) :=
  if count ≤ items.length then some (items.rtake count) else none

/-- The `count` items in front of the last one. -/
def beforeLast? (count : Nat) (items : List α) : Option (List α) :=
  if count < items.length then some (items.dropLast.rtake count) else none

variable (count : Nat)

theorem reverse_rtake (items : List α) :
    (items.rtake count).reverse = items.reverse.take count := by
  rw [rtake_eq_reverse_take_reverse, reverse_reverse]

@[simp] theorem length_rtake (items : List α) :
    (items.rtake count).length = min count items.length := by
  rw [rtake_eq_reverse_take_reverse]
  simp

theorem rtake_of_length_le {count : Nat} {items : List α} (hLength : items.length ≤ count) :
    items.rtake count = items := by
  rw [rtake, Nat.sub_eq_zero_of_le hLength, drop_zero]

theorem rtake_rtake {count within : Nat} (hCount : count ≤ within) (items : List α) :
    (items.rtake within).rtake count = items.rtake count := by
  rw [rtake_eq_reverse_take_reverse, reverse_rtake, take_take, Nat.min_eq_left hCount,
    ← rtake_eq_reverse_take_reverse]

theorem dropLast_rtake (items : List α) :
    (items.rtake (count + 1)).dropLast = items.dropLast.rtake count := by
  induction items using reverseRecOn with
  | nil => simp
  | append_singleton rest latest _ => rw [rtake_concat_succ, dropLast_concat, dropLast_concat]

section Recent
variable {steps count within : Nat}

theorem behind?_rtake (hSteps : steps < within) (items : List α) :
    behind? steps (items.rtake within) = behind? steps items := by
  rw [behind?, reverse_rtake, getElem?_take_of_lt hSteps, behind?]

theorem last?_rtake (hCount : count ≤ within) (items : List α) :
    last? count (items.rtake within) = last? count items := by
  have hLength : count ≤ (items.rtake within).length ↔ count ≤ items.length := by
    rw [length_rtake]
    omega
  simp only [last?, hLength, rtake_rtake hCount]

theorem beforeLast?_rtake (hCount : count < within) (items : List α) :
    beforeLast? count (items.rtake within) = beforeLast? count items := by
  obtain ⟨rest, rfl⟩ := Nat.exists_eq_add_of_lt hCount
  have hLength : count < (items.rtake (count + rest + 1)).length ↔ count < items.length := by
    rw [length_rtake]
    omega
  simp only [beforeLast?, hLength, dropLast_rtake, rtake_rtake (Nat.le_add_right count rest)]

variable {items : List α}

theorem exists_behind? (hSteps : steps < items.length) : ∃ item, behind? steps items = some item :=
  ⟨_, getElem?_eq_getElem (by rwa [length_reverse])⟩

theorem last?_of_le (hCount : count ≤ items.length) :
    last? count items = some (items.rtake count) := if_pos hCount

theorem beforeLast?_of_lt (hCount : count < items.length) :
    beforeLast? count items = some (items.dropLast.rtake count) := if_pos hCount

end Recent

end Window
