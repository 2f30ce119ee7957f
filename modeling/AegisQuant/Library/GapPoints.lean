import AegisQuant.Library.Gaps
import Mathlib.Algebra.BigOperators.Ring.Finset
import Mathlib.Algebra.Order.Ring.Int

/-! The grid points of a window, and how many of them the gaps between entries
leave out. -/
namespace Gaps
open List

/-- The points of the window, a step apart from its start on. -/
def points (start finish step : Int) : List Int :=
  (range ((finish - start + step - 1) / step).toNat).map fun i : Nat => start + i * step

/-- The points without an entry. -/
def missing (start finish step : Int) (entries : List Int) : List Int :=
  (points start finish step).filter (· ∉ entries)

/-- There is an entry before the point, and one after it. -/
def Between (entries : List Int) (point : Int) : Prop :=
  (∃ entry ∈ entries, entry < point) ∧ ∃ entry ∈ entries, point < entry

instance decidableBetween (entries : List Int) (point : Int) : Decidable (Between entries point) :=
  inferInstanceAs (Decidable (_ ∧ _))

/-- The points without an entry that lie between two entries. -/
def inner (start finish step : Int) (entries : List Int) : List Int :=
  (missing start finish step entries).filter (Between entries ·)

/-- How often an entry is followed by itself. -/
def repeats : List Int → Nat
  | previous :: next :: rest => (if next = previous then 1 else 0) + repeats (next :: rest)
  | [_] => 0
  | [] => 0

section Points
variable {start finish step point : Int}

theorem mem_points (hStep : 0 < step) : point ∈ points start finish step ↔
    step ∣ point - start ∧ start ≤ point ∧ point < finish := by
  simp only [points, mem_map, mem_range]
  constructor
  · rintro ⟨i, hIndex, rfl⟩
    have hRoom : (i + 1 : Int) * step ≤ finish - start + step - 1 :=
      (Int.le_ediv_iff_mul_le hStep).mp (by omega)
    rw [add_mul, one_mul] at hRoom
    exact ⟨by simp, Int.le_add_of_nonneg_right (Int.mul_nonneg (by omega) hStep.le), by omega⟩
  · rintro ⟨⟨count, hCount⟩, hAfter, hBefore⟩
    have hNonneg : 0 ≤ count := Int.nonneg_of_mul_nonneg_right (hCount ▸ Int.sub_nonneg_of_le hAfter) hStep
    have hRoom : count + 1 ≤ (finish - start + step - 1) / step := by
      rw [Int.le_ediv_iff_mul_le hStep, add_mul, one_mul, mul_comm count, ← hCount]
      omega
    refine ⟨count.toNat, by omega, ?_⟩
    rw [Int.toNat_of_nonneg hNonneg, mul_comm count, ← hCount]
    omega

theorem nodup_points (hStep : 0 < step) : (points start finish step).Nodup := by
  refine nodup_range.map fun first second hSame => ?_
  have hProduct : (first : Int) * step = second * step := by
    omega
  exact_mod_cast Int.eq_of_mul_eq_mul_right hStep.ne' hProduct

theorem length_points : (points start finish step).length =
    ((finish - start + step - 1) / step).toNat := by
  rw [points, length_map, length_range]

section
variable (hStep : 0 < step) (hOrder : start ≤ finish)
include hStep hOrder

theorem length_points_of_dvd (hWhole : step ∣ finish - start) :
    ((points start finish step).length : Int) = (finish - start) / step := by
  obtain ⟨count, hCount⟩ := hWhole
  have hNonneg : 0 ≤ count := Int.nonneg_of_mul_nonneg_right (by omega) hStep
  have hCeil : (step * count + (step - 1)) / step = count := by
    rw [Int.mul_add_ediv_left _ _ hStep.ne', Int.ediv_eq_zero_of_lt (by omega) (by omega), add_zero]
  rw [length_points, add_sub_assoc, hCount, hCeil, Int.mul_ediv_cancel_left _ hStep.ne',
    Int.toNat_of_nonneg hNonneg]

theorem length_points_of_not_dvd (hRest : ¬step ∣ finish - start) :
    ((points start finish step).length : Int) = (finish - start) / step + 1 := by
  have hPositive : 0 < (finish - start) % step :=
    lt_of_le_of_ne (Int.emod_nonneg _ hStep.ne') fun hZero => hRest (Int.dvd_of_emod_eq_zero hZero.symm)
  have hSmall := Int.emod_lt_of_pos (finish - start) hStep
  have hSplit := Int.mul_ediv_add_emod (finish - start) step
  have hQuotient : 0 ≤ (finish - start) / step := Int.ediv_nonneg (by omega) hStep.le
  have hCeil : (finish - start + step - 1) / step = (finish - start) / step + 1 := by
    rw [Int.ediv_eq_iff_of_pos hStep]
    constructor
    · rw [add_mul, one_mul, mul_comm]
      omega
    · rw [add_mul, one_mul, mul_comm]
      omega
  rw [length_points, hCeil, Int.toNat_of_nonneg (by omega)]

theorem ediv_le_length_points : (finish - start) / step ≤ (points start finish step).length := by
  by_cases hWhole : step ∣ finish - start
  · exact (length_points_of_dvd hStep hOrder hWhole).ge
  · rw [length_points_of_not_dvd hStep hOrder hWhole]
    omega

theorem ediv_eq_length_points_iff :
    (finish - start) / step = (points start finish step).length ↔ step ∣ finish - start := by
  constructor
  · intro hSame
    by_contra hRest
    rw [length_points_of_not_dvd hStep hOrder hRest] at hSame
    omega
  · intro hWhole
    exact (length_points_of_dvd hStep hOrder hWhole).symm

end

end Points

section Entries
variable {start finish step : Int} {entries : List Int}

section
variable (hStep : 0 < step) (hGrid : OnGrid start finish step entries)
include hStep hGrid

theorem length_missing : (missing start finish step entries).length + entries.dedup.length =
      (points start finish step).length := by
  have hTaken : ((points start finish step).filter (· ∈ entries)).Perm entries.dedup := by
    refine (perm_ext_iff_of_nodup ((nodup_points hStep).filter _) (nodup_dedup _)).mpr ?_
    intro point
    simp only [mem_filter, mem_dedup, decide_eq_true_eq, mem_points hStep]
    constructor
    · exact fun hBoth => hBoth.2
    · exact fun hEntry => ⟨⟨hGrid.aligned point hEntry, hGrid.after point hEntry,
        hGrid.before point hEntry⟩, hEntry⟩
  have hSplit := length_eq_length_filter_add (l := points start finish step) (· ∈ entries)
  rw [hTaken.length_eq] at hSplit
  simp only [missing, decide_not]
  omega

theorem perm_inner (hSorted : entries.Pairwise (· ≤ ·)) :
    ((gaps step entries).flatMap fun gap => points gap.1 gap.2 step).Perm
      (inner start finish step entries) := by
  have hDistinct : ((gaps step entries).flatMap fun gap => points gap.1 gap.2 step).Nodup := by
    refine nodup_flatMap.mpr ⟨fun gap _ => nodup_points hStep, ?_⟩
    refine (pairwise_gaps hSorted).imp fun hApart point hFirst hSecond => ?_
    have hBefore := ((mem_points hStep).mp hFirst).2.2
    have hAfter := ((mem_points hStep).mp hSecond).2.1
    omega
  refine (perm_ext_iff_of_nodup hDistinct (((nodup_points hStep).filter _).filter _)).mpr ?_
  intro point
  simp only [mem_flatMap, mem_filter, decide_eq_true_eq, mem_points hStep]
  constructor
  · rintro ⟨gap, hGap, hAligned, hAfter, hBefore⟩
    obtain ⟨hStart, hFree⟩ := isSlot_of_mem_gaps hStep hGrid hSorted hGap
    obtain ⟨hSpan, hEnd, entry, hEntry, hFrom, hBetween⟩ := mem_gaps hSorted hGap
    have hWhole : step ∣ point - start := by
      have hSum := Int.dvd_add hAligned hStart.aligned
      rwa [sub_add_sub_cancel] at hSum
    have hLow := hGrid.after entry hEntry
    have hHigh := hGrid.before gap.2 hEnd
    refine ⟨⟨⟨hWhole, by omega, by omega⟩, ?_⟩, ⟨entry, hEntry, by omega⟩, ⟨gap.2, hEnd, hBefore⟩⟩
    intro hTaken
    rcases hBetween point hTaken with hLess | hMore
    · omega
    · omega
  · rintro ⟨⟨⟨hAligned, hAfter, hBefore⟩, hFree⟩, hLower, hUpper⟩
    have hSpaced : ∀ entry ∈ entries, entry < point → entry + step ≤ point :=
      fun entry hEntry => add_step_le (hGrid.aligned entry hEntry) hAligned
    obtain ⟨gap, hGap, hFrom, hTo⟩ := exists_gap hSorted hFree hSpaced hLower hUpper
    obtain ⟨hStart, _⟩ := isSlot_of_mem_gaps hStep hGrid hSorted hGap
    have hWhole := Int.dvd_sub hAligned hStart.aligned
    rw [sub_sub_sub_cancel_right] at hWhole
    exact ⟨gap, hGap, hWhole, hFrom, hTo⟩

theorem sum_gaps (hSorted : entries.Pairwise (· ≤ ·)) :
    ((gaps step entries).map fun gap => (gap.2 - gap.1) / step).sum =
      (inner start finish step entries).length := by
  have hLengths : (gaps step entries).map (fun gap => (gap.2 - gap.1) / step) =
      (gaps step entries).map fun gap => ((points gap.1 gap.2 step).length : Int) := by
    refine map_congr_left fun gap hGap => ?_
    obtain ⟨hStart, _⟩ := isSlot_of_mem_gaps hStep hGrid hSorted hGap
    obtain ⟨hSpan, hEnd, _⟩ := mem_gaps hSorted hGap
    have hWhole := Int.dvd_sub (hGrid.aligned gap.2 hEnd) hStart.aligned
    rw [sub_sub_sub_cancel_right] at hWhole
    exact (length_points_of_dvd hStep hSpan.le hWhole).symm
  rw [hLengths, ← (perm_inner hStep hGrid hSorted).length_eq, length_flatMap,
    Nat.cast_list_sum, map_map]
  rfl

end

/-- All points without an entry are inner ones when the first point and the
last one have an entry. -/
theorem length_inner_eq_iff (hStep : 0 < step) (hOrder : start < finish)
    (hGrid : OnGrid start finish step entries) :
    (inner start finish step entries).length = (missing start finish step entries).length ↔
      start ∈ entries ∧ ∃ entry ∈ entries, finish ≤ entry + step := by
  rw [inner, length_filter_eq_length_iff]
  simp only [missing, mem_filter, decide_eq_true_eq, mem_points hStep]
  constructor
  · intro hInner
    have hFirst : start ∈ entries := by
      by_contra hFree
      obtain ⟨⟨entry, hEntry, hBelow⟩, _⟩ := hInner start ⟨⟨by simp, le_rfl, hOrder⟩, hFree⟩
      exact absurd (hGrid.after entry hEntry) (not_le.mpr hBelow)
    refine ⟨hFirst, ?_⟩
    by_contra hLast
    push Not at hLast
    obtain ⟨last, hMax⟩ := Option.isSome_iff_exists.mp
      (isSome_max?_of_ne_nil (ne_nil_of_mem hFirst))
    obtain ⟨hMem, hGreatest⟩ := max?_eq_some_iff.mp hMax
    have hAligned := Int.dvd_add (hGrid.aligned last hMem) (Int.dvd_refl step)
    rw [← add_sub_right_comm] at hAligned
    have hAfter := hGrid.after last hMem
    have hFree : last + step ∉ entries := fun hNext => by
      have hBound := hGreatest _ hNext
      omega
    obtain ⟨_, later, hLater, hAbove⟩ := hInner (last + step)
      ⟨⟨hAligned, by omega, hLast last hMem⟩, hFree⟩
    have hBound := hGreatest later hLater
    omega
  · rintro ⟨hFirst, last, hLast, hReaches⟩ point ⟨⟨hAligned, hAfter, hBefore⟩, hFree⟩
    have hNotFirst : point ≠ start := fun hSame => hFree (hSame ▸ hFirst)
    have hNotLast : point ≠ last := fun hSame => hFree (hSame ▸ hLast)
    refine ⟨⟨start, hFirst, by omega⟩, last, hLast, ?_⟩
    by_contra hBehind
    have hSpaced := add_step_le (hGrid.aligned last hLast) hAligned (by omega)
    omega

/-- In order, an entry is followed by itself as often as there are entries too
many. -/
theorem repeats_eq (hSorted : entries.Pairwise (· ≤ ·)) :
    repeats entries + entries.dedup.length = entries.length := by
  induction entries with
  | nil => rfl
  | cons previous rest ih =>
    obtain ⟨hFirst, hRest⟩ := pairwise_cons.mp hSorted
    cases rest with
    | nil => simp [repeats]
    | cons next rest =>
      have hTail := ih hRest
      by_cases hSame : next = previous
      · have hMem : previous ∈ next :: rest := by simp [hSame]
        rw [repeats, if_pos hSame, dedup_cons_of_mem hMem, length_cons]
        omega
      · have hNot : previous ∉ next :: rest := by
          intro hMem
          have hLess := lt_of_le_of_ne (hFirst next (by simp)) (Ne.symm hSame)
          rcases mem_cons.mp hMem with rfl | hLater
          · exact hSame rfl
          · exact absurd ((pairwise_cons.mp hRest).1 previous hLater) (not_le.mpr hLess)
        rw [repeats, if_neg hSame, dedup_cons_of_notMem hNot, length_cons, length_cons]
        omega

end Entries

end Gaps
