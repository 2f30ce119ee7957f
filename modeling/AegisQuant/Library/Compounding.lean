import Mathlib.Algebra.Order.BigOperators.GroupWithZero.List
import Mathlib.Algebra.Order.Field.Basic
import Mathlib.Data.List.Infix

/-! A quantity that is multiplied step by step by positive factors, from one on.
A single scan finds the least ratio of a level to an earlier one, and no part of
the factors falls deeper than all of them. -/
namespace Compounding
open List
universe u
variable {K : Type u} [Field K]

def levelAt (factors : List K) (count : Nat) : K := (factors.take count).prod

def levels (factors : List K) : Set K :=
  {level | ∃ count, count ≤ factors.length ∧ level = levelAt factors count}

def ratios (factors : List K) : Set K :=
  {ratio | ∃ earlier later, earlier ≤ later ∧ later ≤ factors.length ∧
    ratio = levelAt factors later / levelAt factors earlier}

section Levels
variable {factors : List K} {factor level ratio : K}

theorem levelAt_append {front back : List K} {count : Nat} (hCount : count ≤ front.length) :
    levelAt (front ++ back) count = levelAt front count := by
  rw [levelAt, take_append_of_le_length hCount, levelAt]

theorem levelAt_append_add (front back : List K) (count : Nat) :
    levelAt (front ++ back) (front.length + count) = front.prod * levelAt back count := by
  rw [levelAt, take_length_add_append, prod_append, levelAt]

theorem levelAt_concat_all (factors : List K) (factor : K) :
    levelAt (factors ++ [factor]) (factors.length + 1) = factors.prod * factor := by
  rw [levelAt_append_add]
  simp [levelAt]

theorem mem_levels_concat : level ∈ levels (factors ++ [factor]) ↔
    level ∈ levels factors ∨ level = factors.prod * factor := by
  constructor
  · rintro ⟨count, hCount, rfl⟩
    rw [length_append, length_singleton] at hCount
    rcases Nat.le_succ_iff.mp hCount with hBefore | rfl
    · exact Or.inl ⟨count, hBefore, levelAt_append hBefore⟩
    · exact Or.inr (levelAt_concat_all factors factor)
  · rintro (⟨count, hCount, rfl⟩ | rfl)
    · exact ⟨count, by simp only [length_append]; omega, (levelAt_append hCount).symm⟩
    · exact ⟨factors.length + 1, by simp, (levelAt_concat_all factors factor).symm⟩

theorem mem_ratios_concat : ratio ∈ ratios (factors ++ [factor]) ↔ ratio ∈ ratios factors ∨
      ∃ level ∈ levels (factors ++ [factor]), ratio = factors.prod * factor / level := by
  constructor
  · rintro ⟨earlier, later, hOrder, hLater, rfl⟩
    rw [length_append, length_singleton] at hLater
    rcases Nat.le_succ_iff.mp hLater with hBefore | rfl
    · rw [levelAt_append hBefore, levelAt_append (hOrder.trans hBefore)]
      exact Or.inl ⟨earlier, later, hOrder, hBefore, rfl⟩
    · exact Or.inr ⟨_, ⟨earlier, by simpa using hOrder, rfl⟩, by rw [levelAt_concat_all]⟩
  · rintro (⟨earlier, later, hOrder, hLater, rfl⟩ | ⟨_, ⟨count, hCount, rfl⟩, rfl⟩)
    · refine ⟨earlier, later, hOrder, by simp only [length_append]; omega, ?_⟩
      rw [levelAt_append hLater, levelAt_append (hOrder.trans hLater)]
    · exact ⟨count, factors.length + 1, by simpa using hCount, by simp, by rw [levelAt_concat_all]⟩

end Levels

variable [LinearOrder K]

/-- What a scan over the factors keeps: the level, the highest level and the
least ratio so far. -/
structure Scanned (factors : List K) (level peak deepest : K) : Prop where
  level : level = factors.prod
  peak : IsGreatest (levels factors) peak
  deepest : IsLeast (ratios factors) deepest

/-- The highest level is at least the first one. -/
theorem Scanned.one_le_peak {factors : List K} {level peak deepest : K}
    (scanned : Scanned factors level peak deepest) : 1 ≤ peak :=
  scanned.peak.2 ⟨0, Nat.zero_le _, rfl⟩

variable [IsStrictOrderedRing K]

theorem levelAt_pos {factors : List K} (hPositive : ∀ factor ∈ factors, 0 < factor) (count : Nat) :
    0 < levelAt factors count :=
  prod_pos fun factor hFactor => hPositive factor (mem_of_mem_take hFactor)

theorem ratios_subset_of_infix {part factors : List K} (hPart : part <:+: factors)
    (hPositive : ∀ factor ∈ factors, 0 < factor) : ratios part ⊆ ratios factors := by
  obtain ⟨front, back, rfl⟩ := hPart
  rintro _ ⟨earlier, later, hOrder, hLater, rfl⟩
  have hFront : front.prod ≠ 0 := by
    apply ne_of_gt
    apply prod_pos
    intro factor hFactor
    exact hPositive factor (by simp [hFactor])
  have hLevel (count : Nat) (hCount : count ≤ part.length) :
      levelAt (front ++ part ++ back) (front.length + count) = front.prod * levelAt part count := by
    rw [levelAt_append (by rw [length_append]; omega), levelAt_append_add]
  refine ⟨front.length + earlier, front.length + later, by omega, ?_, ?_⟩
  · simp only [length_append]
    omega
  · rw [hLevel later hLater, hLevel earlier (hOrder.trans hLater), mul_div_mul_left _ _ hFront]

section Scan
variable {factors : List K} {level peak deepest factor : K}

theorem scanned_nil : Scanned ([] : List K) 1 1 1 := by
  refine ⟨rfl, ⟨⟨0, le_rfl, rfl⟩, ?_⟩, ⟨0, 0, le_rfl, le_rfl, by simp [levelAt]⟩, ?_⟩
  · rintro _ ⟨count, -, rfl⟩
    simp [levelAt]
  · rintro _ ⟨earlier, later, -, -, rfl⟩
    simp [levelAt]

theorem Scanned.concat (scanned : Scanned factors level peak deepest)
    (hPositive : ∀ earlier ∈ factors, 0 < earlier) (hFactor : 0 < factor) :
    Scanned (factors ++ [factor]) (level * factor) (max peak (level * factor))
      (min deepest (level * factor / max peak (level * factor))) := by
  obtain ⟨rfl, hPeak, hDeepest⟩ := scanned
  have hTop : IsGreatest (levels (factors ++ [factor])) (max peak (factors.prod * factor)) := by
    constructor
    · rcases max_choice peak (factors.prod * factor) with hKept | hNew
      · rw [hKept]
        exact mem_levels_concat.mpr (Or.inl hPeak.1)
      · rw [hNew]
        exact mem_levels_concat.mpr (Or.inr rfl)
    · intro reached hReached
      rcases mem_levels_concat.mp hReached with hBefore | rfl
      · exact le_max_of_le_left (hPeak.2 hBefore)
      · exact le_max_right _ _
  have hAll : ∀ later ∈ factors ++ [factor], 0 < later := by
    simpa [or_imp, forall_and] using And.intro hPositive hFactor
  refine ⟨by simp, hTop, ?_, ?_⟩
  · rcases min_choice deepest (factors.prod * factor / max peak (factors.prod * factor)) with
      hKept | hNew
    · rw [hKept]
      exact mem_ratios_concat.mpr (Or.inl hDeepest.1)
    · rw [hNew]
      exact mem_ratios_concat.mpr (Or.inr ⟨_, hTop.1, rfl⟩)
  · intro ratio hRatio
    rcases mem_ratios_concat.mp hRatio with hBefore | ⟨reached, hReached, rfl⟩
    · exact min_le_of_left_le (hDeepest.2 hBefore)
    · -- The level is compared with the highest one, which makes the least ratio.
      have hLevel : 0 < factors.prod * factor := mul_pos (prod_pos hPositive) hFactor
      have hBelow : 0 < reached := by
        obtain ⟨count, -, rfl⟩ := hReached
        exact levelAt_pos hAll count
      apply min_le_of_right_le
      exact div_le_div_of_nonneg_left hLevel.le hBelow (hTop.2 hReached)

end Scan

end Compounding
