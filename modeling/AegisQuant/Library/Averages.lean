import AegisQuant.Library.Reordering
import Mathlib.Algebra.Order.BigOperators.Group.List
import Mathlib.Algebra.Order.Field.Basic
import Mathlib.Tactic.FieldSimp
import Mathlib.Tactic.Linarith
import Mathlib.Tactic.Ring

/-! The least value, the greatest one, the mean and the median of a list. No
values have zero for each of them. The mean and the median lie between the
least and the greatest value and do not depend on the order. -/
namespace Averages
open SortByKey List Option
universe u
variable {K : Type u} [Field K]

def mean (values : List K) : K := if values = [] then 0 else values.sum / values.length

theorem mean_perm {values other : List K} (hPerm : other.Perm values) : mean other = mean values := by
  simp only [mean, hPerm.sum_eq, hPerm.length_eq, ← length_eq_zero_iff]

theorem foldl_sum_count (values : List K) (total : K) (count : Nat) :
    values.foldl (fun (total, count) value => (total + value, count + 1)) (total, count) =
      (total + values.sum, count + values.length) := by
  induction values generalizing total count with
  | nil => simp
  | cons value rest ih => simp [ih, add_assoc, Nat.add_comm 1]

variable [LinearOrder K]

def least (values : List K) : K := values.min?.getD 0

def greatest (values : List K) : K := values.max?.getD 0

/-- The middle value, or the mean of the two middle ones. -/
def median (values : List K) : K :=
  if values = [] then 0
  else
    let sorted := sort id values
    let mid := sorted.length / 2
    if sorted.length % 2 = 0 then (sorted.getD (mid - 1) 0 + sorted.getD mid 0) / 2
    else sorted.getD mid 0

section Order
variable {values other : List K}

theorem median_perm (hPerm : other.Perm values) : median other = median values := by
  simp only [median, Reordering.sort_perm hPerm, ← length_eq_zero_iff, hPerm.length_eq]

theorem least_le {value : K} (hValue : value ∈ values) : least values ≤ value := by
  obtain ⟨low, hLow⟩ := isSome_iff_exists.mp
    (isSome_min?_of_ne_nil (ne_nil_of_mem hValue))
  rw [least, hLow]
  exact (min?_eq_some_iff.mp hLow).2 value hValue

theorem le_greatest {value : K} (hValue : value ∈ values) : value ≤ greatest values := by
  obtain ⟨high, hHigh⟩ := isSome_iff_exists.mp
    (isSome_max?_of_ne_nil (ne_nil_of_mem hValue))
  rw [greatest, hHigh]
  exact (max?_eq_some_iff.mp hHigh).2 value hValue

theorem between_of_bounds {value : K} (hNone : values = [] → value = 0)
    (hBounds : values ≠ [] → ∀ low high, (∀ entry ∈ values, low ≤ entry) →
      (∀ entry ∈ values, entry ≤ high) → low ≤ value ∧ value ≤ high) :
    least values ≤ value ∧ value ≤ greatest values := by
  by_cases hEmpty : values = []
  · rw [hNone hEmpty, hEmpty]
    exact ⟨le_rfl, le_rfl⟩
  · exact hBounds hEmpty _ _ (fun _ hEntry => least_le hEntry) (fun _ hEntry => le_greatest hEntry)

end Order

section Between
variable [IsStrictOrderedRing K] {values : List K}

theorem mean_between : least values ≤ mean values ∧ mean values ≤ greatest values := by
  refine between_of_bounds (fun hEmpty => if_pos hEmpty) fun hSome low high hLow hHigh => ?_
  have hLength : (0 : K) < values.length := by
    rw [Nat.cast_pos]
    exact length_pos_iff.mpr hSome
  rw [mean, if_neg hSome, le_div_iff₀ hLength, div_le_iff₀ hLength]
  have hLowSum := card_nsmul_le_sum values low hLow
  have hHighSum := sum_le_card_nsmul values high hHigh
  rw [nsmul_eq_mul] at hLowSum hHighSum
  exact ⟨by linarith, by linarith⟩

theorem median_between : least values ≤ median values ∧ median values ≤ greatest values := by
  refine between_of_bounds (fun hEmpty => if_pos hEmpty) fun hSome low high hLow hHigh => ?_
  have hPerm := perm_sort id values
  have hLength : 0 < (sort id values).length := by
    rw [hPerm.length_eq]
    exact length_pos_iff.mpr hSome
  have hEntry (index : Nat) (hIndex : index < (sort id values).length) :
      low ≤ (sort id values).getD index 0 ∧ (sort id values).getD index 0 ≤ high := by
    rw [getD_eq_getElem?_getD, getElem?_eq_getElem hIndex, getD_some]
    have hMem := hPerm.mem_iff.mp (getElem_mem hIndex)
    exact ⟨hLow _ hMem, hHigh _ hMem⟩
  rw [median, if_neg hSome]
  dsimp only
  split
  · obtain ⟨hLowBefore, hHighBefore⟩ := hEntry ((sort id values).length / 2 - 1) (by omega)
    obtain ⟨hLowMid, hHighMid⟩ := hEntry ((sort id values).length / 2) (by omega)
    exact ⟨by linarith, by linarith⟩
  · exact hEntry _ (by omega)

end Between

end Averages

/-! Means of the same values under two weights. They agree exactly if the
differences of the values, each times the difference that the weights make
between the two items, cancel out over the pairs of items. -/
namespace WeightedMeans
open Averages List
universe u v
variable {α : Type u} {K : Type v} [Field K] (value weight other : α → K)

/-- What a pair of items contributes to the difference of the two means. It is
zero if the values are the same, or if the weights have the same proportion. -/
def crossTerm (x y : α) : K :=
  (value x - value y) * (weight x * other y - weight y * other x)

/-- The sum over all pairs of items. -/
def crossTerms : List α → K
  | [] => 0
  | x :: rest => (rest.map (crossTerm value weight other x)).sum + crossTerms rest

def weighted (items : List α) : K := (items.map fun x => value x * weight x).sum

def total (items : List α) : K := (items.map weight).sum

variable {value weight other}

theorem sum_crossTerm (x : α) (items : List α) : (items.map (crossTerm value weight other x)).sum =
      value x * weight x * total other items - value x * other x * total weight items -
        weight x * weighted value other items + other x * weighted value weight items := by
  induction items with
  | nil => simp [total, weighted]
  | cons y rest ih =>
    simp only [total, weighted, map_cons, sum_cons] at ih ⊢
    rw [ih, crossTerm]
    ring

theorem crossTerms_eq (items : List α) :
    crossTerms value weight other items = weighted value weight items * total other items -
      weighted value other items * total weight items := by
  induction items with
  | nil => simp [crossTerms, total, weighted]
  | cons x rest ih =>
    rw [crossTerms, sum_crossTerm, ih]
    simp only [total, weighted, map_cons, sum_cons]
    ring

theorem mean_eq_mean_iff {items : List α} (hWeight : total weight items ≠ 0)
    (hOther : total other items ≠ 0) :
    weighted value weight items / total weight items =
        weighted value other items / total other items ↔
      crossTerms value weight other items = 0 := by
  rw [div_eq_div_iff hWeight hOther, crossTerms_eq, sub_eq_zero]

section Parts
variable {part : α → List K}

theorem total_length (items : List α) :
    total (fun x => ((part x).length : K)) items = ((items.flatMap part).length : K) := by
  induction items with
  | nil => simp [total]
  | cons x rest ih =>
    rw [flatMap_cons, length_append, Nat.cast_add, ← ih]
    rfl

variable [CharZero K]

theorem mean_mul_length (values : List K) : mean values * values.length = values.sum := by
  rw [mean]
  by_cases hEmpty : values = []
  · simp [hEmpty]
  · have hLength : (values.length : K) ≠ 0 :=
      Nat.cast_ne_zero.mpr fun hZero => hEmpty (length_eq_zero_iff.mp hZero)
    rw [if_neg hEmpty, div_mul_cancel₀ _ hLength]

theorem weighted_mean_length (items : List α) :
    weighted (fun x => mean (part x)) (fun x => ((part x).length : K)) items =
      (items.flatMap part).sum := by
  induction items with
  | nil => rfl
  | cons x rest ih =>
    rw [flatMap_cons, sum_append, ← ih, ← mean_mul_length]
    rfl

/-- The means of the parts, weighted in another way, have the mean of all values
as their mean if and only if the cross terms cancel out. -/
theorem mean_parts_eq_iff {items : List α} (hWeight : total weight items ≠ 0)
    (hSome : items.flatMap part ≠ []) :
    weighted (fun x => mean (part x)) weight items / total weight items =
        mean (items.flatMap part) ↔
      crossTerms (fun x => mean (part x)) weight (fun x => ((part x).length : K)) items =
        0 := by
  have hLength : ((items.flatMap part).length : K) ≠ 0 :=
    Nat.cast_ne_zero.mpr fun hZero => hSome (length_eq_zero_iff.mp hZero)
  have hMean : mean (items.flatMap part) =
      weighted (fun x => mean (part x)) (fun x => ((part x).length : K)) items /
        total (fun x => ((part x).length : K)) items := by
    rw [weighted_mean_length, total_length, mean, if_neg hSome]
  rw [hMean]
  exact mean_eq_mean_iff hWeight (by rwa [total_length])

end Parts
end WeightedMeans
