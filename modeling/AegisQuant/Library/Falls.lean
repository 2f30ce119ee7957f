import Mathlib.Algebra.Order.BigOperators.Group.List
import Mathlib.Algebra.Order.Group.PosPart
import Mathlib.Data.List.TakeWhile
import Mathlib.Order.Bounds.Basic
import Mathlib.Tactic.Abel

/-! Falls of a quantity that changes step by step. A fall leads from the level
after some of the changes to the level after more of them; no fall is deeper
than all losses together, which are one fall only when no gain comes between
them. -/
namespace Falls
open List
universe u
variable {α : Type u} [AddCommGroup α]

def levels (changes : List α) : Set α :=
  {level | ∃ before, before <+: changes ∧ level = before.sum}

/-- What lies between a peak and a later trough. -/
def falls (changes : List α) : Set α :=
  {fall | ∃ peak trough, peak <+: trough ∧ trough <+: changes ∧ fall = peak.sum - trough.sum}

theorem sum_concat (changes : List α) (change : α) :
    (changes ++ [change]).sum = changes.sum + change := by simp

theorem mem_levels_concat {changes : List α} {level change : α} : level ∈ levels (changes ++ [change]) ↔
    level ∈ levels changes ∨ level = changes.sum + change := by
  simp only [levels, Set.mem_ofPred_eq, prefix_concat_iff]
  constructor
  · rintro ⟨before, rfl | hBefore, rfl⟩
    · exact Or.inr (sum_concat ..)
    · exact Or.inl ⟨before, hBefore, rfl⟩
  · rintro (⟨before, hBefore, rfl⟩ | rfl)
    · exact ⟨before, Or.inr hBefore, rfl⟩
    · exact ⟨_, Or.inl rfl, (sum_concat ..).symm⟩

theorem mem_falls_concat {changes : List α} {change fall : α} : fall ∈ falls (changes ++ [change]) ↔
    fall ∈ falls changes ∨
      ∃ level ∈ levels (changes ++ [change]), fall = level - (changes.sum + change) := by
  constructor
  · rintro ⟨peak, trough, hPeak, hTrough, rfl⟩
    rcases prefix_concat_iff.mp hTrough with rfl | hTrough
    · exact Or.inr ⟨_, ⟨peak, hPeak, rfl⟩, by rw [sum_concat]⟩
    · exact Or.inl ⟨peak, trough, hPeak, hTrough, rfl⟩
  · rintro (⟨peak, trough, hPeak, hTrough, rfl⟩ | ⟨_, ⟨peak, hPeak, rfl⟩, rfl⟩)
    · exact ⟨peak, trough, hPeak, hTrough.trans (prefix_append ..), rfl⟩
    · exact ⟨peak, _, hPeak, prefix_rfl, by rw [sum_concat]⟩

variable [LinearOrder α]

def losses (changes : List α) : α := (changes.map fun change => change⁻).sum

def gains (changes : List α) : α := (changes.map fun change => change⁺).sum

/-- The losses follow one another, with no gain among them. -/
def LossesInOneRun (changes : List α) : Prop :=
  ∃ front run back, changes = front ++ run ++ back ∧ (∀ change ∈ front, 0 ≤ change) ∧
    (∀ change ∈ run, change ≤ 0) ∧ ∀ change ∈ back, 0 ≤ change

/-- What a scan over the changes keeps: the level, the highest level and the
deepest fall so far. -/
structure Scanned (changes : List α) (level peak deepest : α) : Prop where
  level : level = changes.sum
  peak : IsGreatest (levels changes) peak
  deepest : IsGreatest (falls changes) deepest

section Scan
variable {changes : List α} {level peak deepest : α}

theorem scanned_nil : Scanned ([] : List α) 0 0 0 := by
  refine ⟨rfl, ⟨⟨[], prefix_rfl, rfl⟩, ?_⟩, ⟨[], [], prefix_rfl, prefix_rfl, by simp⟩, ?_⟩
  · rintro _ ⟨before, hBefore, rfl⟩
    rw [prefix_nil.mp hBefore, sum_nil]
  · rintro _ ⟨peak, trough, hPeak, hTrough, rfl⟩
    rw [prefix_nil.mp hTrough] at hPeak ⊢
    rw [prefix_nil.mp hPeak, sub_self]

variable [IsOrderedAddMonoid α]

theorem Scanned.concat (scanned : Scanned changes level peak deepest) (change : α) :
    Scanned (changes ++ [change]) (level + change) (max peak (level + change))
      (max deepest (max peak (level + change) - (level + change))) := by
  obtain ⟨rfl, hPeak, hDeepest⟩ := scanned
  have hTop : IsGreatest (levels (changes ++ [change])) (max peak (changes.sum + change)) := by
    constructor
    · rcases max_choice peak (changes.sum + change) with hKept | hNew
      · rw [hKept]
        exact mem_levels_concat.mpr (Or.inl hPeak.1)
      · rw [hNew]
        exact mem_levels_concat.mpr (Or.inr rfl)
    · intro reached hReached
      rcases mem_levels_concat.mp hReached with hBefore | rfl
      · exact le_max_of_le_left (hPeak.2 hBefore)
      · exact le_max_right _ _
  refine ⟨(sum_concat ..).symm, hTop, ?_, ?_⟩
  · rcases max_choice deepest (max peak (changes.sum + change) - (changes.sum + change)) with
      hKept | hNew
    · rw [hKept]
      exact mem_falls_concat.mpr (Or.inl hDeepest.1)
    · rw [hNew]
      exact mem_falls_concat.mpr (Or.inr ⟨_, hTop.1, rfl⟩)
  · intro fall hFall
    rcases mem_falls_concat.mp hFall with hBefore | ⟨reached, hReached, rfl⟩
    · exact le_max_of_le_left (hDeepest.2 hBefore)
    · exact le_max_of_le_right (sub_le_sub_right (hTop.2 hReached) _)

end Scan

section Losses
variable {changes front back : List α}

@[simp] theorem losses_append : losses (front ++ back) = losses front + losses back := by
  simp [losses]

theorem losses_perm (hPerm : front.Perm back) : losses front = losses back :=
  (hPerm.map _).sum_eq

theorem lossesInOneRun_of_pairwise (hSorted : changes.Pairwise (· ≤ ·)) :
    LossesInOneRun changes := by
  refine ⟨[], changes.takeWhile (· ≤ 0), changes.dropWhile (· ≤ 0), ?_, ?_, ?_, ?_⟩
  · rw [nil_append, takeWhile_append_dropWhile]
  · simp
  · intro change hChange
    simpa using mem_takeWhile_imp hChange
  · intro change hChange
    have hRest := hSorted.sublist (dropWhile_sublist (· ≤ 0))
    cases hSplit : changes.dropWhile (· ≤ 0) with
    | nil => simp [hSplit] at hChange
    | cons first rest =>
      have hFirst : 0 ≤ first := by
        have hNot := dropWhile_get_zero_not (· ≤ 0) changes (by simp [hSplit])
        simp only [hSplit, get_eq_getElem, getElem_cons_zero] at hNot
        simpa using (not_le.mp (by simpa using hNot)).le
      rw [hSplit] at hChange hRest
      rcases mem_cons.mp hChange with rfl | hLater
      · exact hFirst
      · exact hFirst.trans ((pairwise_cons.mp hRest).1 change hLater)

variable [IsOrderedAddMonoid α]

theorem neg_sum (changes : List α) : -changes.sum = losses changes - gains changes := by
  induction changes with
  | nil => simp [losses, gains]
  | cons change rest ih =>
    have hChange : -change = change⁻ - change⁺ := by rw [← neg_sub, posPart_sub_negPart]
    calc -(change :: rest).sum = -change + -rest.sum := by rw [sum_cons, neg_add]
      _ = change⁻ - change⁺ + (losses rest - gains rest) := by rw [hChange, ih]
      _ = losses (change :: rest) - gains (change :: rest) := by
        simp only [losses, gains, map_cons, sum_cons]
        abel

theorem losses_nonneg (changes : List α) : 0 ≤ losses changes :=
  sum_nonneg (by simp [negPart_nonneg])

theorem gains_nonneg (changes : List α) : 0 ≤ gains changes :=
  sum_nonneg (by simp [posPart_nonneg])

theorem losses_eq_zero_iff : losses changes = 0 ↔ ∀ change ∈ changes, 0 ≤ change := by
  induction changes with
  | nil => simp [losses]
  | cons change rest ih =>
    have hRest : losses (change :: rest) = change⁻ + losses rest := by simp [losses]
    rw [hRest, add_eq_zero_iff_of_nonneg (negPart_nonneg change) (losses_nonneg rest), ih,
      negPart_eq_zero, forall_mem_cons]

theorem gains_eq_zero_iff : gains changes = 0 ↔ ∀ change ∈ changes, change ≤ 0 := by
  induction changes with
  | nil => simp [gains]
  | cons change rest ih =>
    have hRest : gains (change :: rest) = change⁺ + gains rest := by simp [gains]
    rw [hRest, add_eq_zero_iff_of_nonneg (posPart_nonneg change) (gains_nonneg rest), ih,
      posPart_eq_zero, forall_mem_cons]

/-- A fall is the loss of a run less the gain of it. -/
theorem mem_falls_iff {fall : α} : fall ∈ falls changes ↔
    ∃ front run back, changes = front ++ run ++ back ∧ fall = losses run - gains run := by
  constructor
  · rintro ⟨front, _, ⟨run, rfl⟩, ⟨back, rfl⟩, rfl⟩
    refine ⟨front, run, back, rfl, ?_⟩
    rw [← neg_sum, sum_append, sub_add_cancel_left]
  · rintro ⟨front, run, back, rfl, rfl⟩
    refine ⟨front, front ++ run, prefix_append .., prefix_append .., ?_⟩
    rw [← neg_sum, sum_append, sub_add_cancel_left]

/-- The deepest fall takes all losses when they come in one run. -/
theorem isGreatest_losses_iff :
    IsGreatest (falls changes) (losses changes) ↔ LossesInOneRun changes := by
  constructor
  · rintro ⟨hFall, -⟩
    obtain ⟨front, run, back, rfl, hLosses⟩ := mem_falls_iff.mp hFall
    have hFront := losses_nonneg front
    have hBack := losses_nonneg back
    have hGains := gains_nonneg run
    have hSum : losses front + losses back + gains run = 0 := by
      simp only [losses_append] at hLosses
      calc losses front + losses back + gains run
          = losses front + losses run + losses back - (losses run - gains run) := by abel
        _ = 0 := by rw [← hLosses, sub_self]
    obtain ⟨hOuter, hInner⟩ := (add_eq_zero_iff_of_nonneg (add_nonneg hFront hBack) hGains).mp hSum
    obtain ⟨hFirst, hLast⟩ := (add_eq_zero_iff_of_nonneg hFront hBack).mp hOuter
    exact ⟨front, run, back, rfl, losses_eq_zero_iff.mp hFirst, gains_eq_zero_iff.mp hInner,
      losses_eq_zero_iff.mp hLast⟩
  · rintro ⟨front, run, back, rfl, hFront, hRun, hBack⟩
    constructor
    · refine mem_falls_iff.mpr ⟨front, run, back, rfl, ?_⟩
      rw [losses_append, losses_append, losses_eq_zero_iff.mpr hFront, losses_eq_zero_iff.mpr hBack,
        gains_eq_zero_iff.mpr hRun, zero_add, add_zero, sub_zero]
    · intro fall hFall
      obtain ⟨before, inner, after, hSplit, rfl⟩ := mem_falls_iff.mp hFall
      rw [hSplit, losses_append, losses_append]
      calc losses inner - gains inner ≤ losses inner := sub_le_self _ (gains_nonneg inner)
        _ ≤ losses before + losses inner := le_add_of_nonneg_left (losses_nonneg before)
        _ ≤ losses before + losses inner + losses after :=
          le_add_of_nonneg_right (losses_nonneg after)

end Losses

end Falls
