import Mathlib.Algebra.Order.Group.Int
import Mathlib.Data.List.Chain
import Mathlib.Data.List.Dedup

/-! Holes in a sorted list. Neighbours should be at most one step apart; where
they are not, the span from one step after the first to the second is a gap. -/
namespace Gaps
open List
universe u
variable {α : Type u} [AddCommMonoid α] [LinearOrder α]

/-- The gaps, in order, each from its first missing point to the next entry. -/
def gaps (step : α) : List α → List (α × α)
  | previous :: next :: rest =>
    (if previous + step < next then [(previous + step, next)] else []) ++ gaps step (next :: rest)
  | [_] => []
  | [] => []

theorem gaps_eq_nil_iff {step : α} {entries : List α} :
    gaps step entries = [] ↔ entries.IsChain fun previous next => next ≤ previous + step := by
  induction entries with
  | nil => exact iff_of_true rfl .nil
  | cons previous rest ih =>
    cases rest with
    | nil => exact iff_of_true rfl (.singleton previous)
    | cons next rest =>
      rw [gaps, append_eq_nil_iff, ih, isChain_cons_cons]
      simp

/-- There are later entries, and all of them are more than a step later. -/
def HoleAfter (step : α) (entries : List α) (entry : α) : Prop :=
  (∃ later ∈ entries, entry < later) ∧ ∀ later ∈ entries, entry < later → entry + step < later

instance decidableHoleAfter (step : α) (entries : List α) (entry : α) :
    Decidable (HoleAfter step entries entry) := inferInstanceAs (Decidable (_ ∧ _))

/-- The number of entries before a hole. -/
def holes (step : α) (entries : List α) : Nat :=
  (entries.dedup.filter fun entry => HoleAfter step entries entry).length

theorem holes_eq_of_perm {step : α} {entries other : List α} (hPerm : other.Perm entries) :
    holes step other = holes step entries := by
  have hSame : ∀ entry, HoleAfter step other entry ↔ HoleAfter step entries entry := by
    intro entry
    simp only [HoleAfter, hPerm.mem_iff]
  simp only [holes, hSame]
  exact (hPerm.dedup.filter _).length_eq

section Sorted
variable {step : α} {entries : List α} {gap : α × α}

theorem mem_gaps_cons {previous next : α} {rest : List α} :
    gap ∈ gaps step (previous :: next :: rest) ↔
      previous + step < next ∧ gap = (previous + step, next) ∨ gap ∈ gaps step (next :: rest) := by
  rw [gaps, mem_append]
  apply or_congr_left
  split
  · rename_i hApart
    simp [hApart]
  · rename_i hClose
    simp [hClose]

/-- A gap lies between two entries, and there is no entry in between. -/
theorem mem_gaps (hSorted : entries.Pairwise (· ≤ ·)) (hGap : gap ∈ gaps step entries) :
    gap.1 < gap.2 ∧ gap.2 ∈ entries ∧ ∃ entry ∈ entries, gap.1 = entry + step ∧
      ∀ other ∈ entries, other ≤ entry ∨ gap.2 ≤ other := by
  induction entries with
  | nil => cases hGap
  | cons previous rest ih =>
    obtain ⟨hFirst, hRest⟩ := pairwise_cons.mp hSorted
    cases rest with
    | nil => cases hGap
    | cons next rest =>
      rcases mem_gaps_cons.mp hGap with ⟨hApart, rfl⟩ | hLater
      · refine ⟨hApart, by simp, previous, by simp, rfl, ?_⟩
        intro other hOther
        rcases mem_cons.mp hOther with rfl | hOther
        · exact Or.inl le_rfl
        · rcases mem_cons.mp hOther with rfl | hOther
          · exact Or.inr le_rfl
          · exact Or.inr ((pairwise_cons.mp hRest).1 other hOther)
      · obtain ⟨hSpan, hEnd, entry, hEntry, hStart, hBetween⟩ := ih hRest hLater
        refine ⟨hSpan, mem_cons_of_mem _ hEnd, entry, mem_cons_of_mem _ hEntry, hStart, ?_⟩
        intro other hOther
        rcases mem_cons.mp hOther with rfl | hOther
        · exact Or.inl (hFirst entry hEntry)
        · exact hBetween other hOther

/-- Every point a step or more behind the entries before it, and between two
entries, is an entry or in a gap. -/
theorem exists_gap {slot : α} (hSorted : entries.Pairwise (· ≤ ·)) (hMissing : slot ∉ entries)
    (hSpaced : ∀ entry ∈ entries, entry < slot → entry + step ≤ slot)
    (hBefore : ∃ entry ∈ entries, entry < slot) (hAfter : ∃ entry ∈ entries, slot < entry) :
    ∃ gap ∈ gaps step entries, gap.1 ≤ slot ∧ slot < gap.2 := by
  induction entries with
  | nil =>
    obtain ⟨_, hEntry, _⟩ := hBefore
    cases hEntry
  | cons previous rest ih =>
    obtain ⟨hFirst, hRest⟩ := pairwise_cons.mp hSorted
    have hPrevious : previous < slot := by
      obtain ⟨entry, hEntry, hLess⟩ := hBefore
      rcases mem_cons.mp hEntry with rfl | hEntry
      · exact hLess
      · exact lt_of_le_of_lt (hFirst entry hEntry) hLess
    obtain ⟨later, hLater, hLess⟩ := hAfter
    have hLaterRest : later ∈ rest := by
      rcases mem_cons.mp hLater with rfl | hLater
      · exact absurd hLess (lt_asymm hPrevious)
      · exact hLater
    cases rest with
    | nil => cases hLaterRest
    | cons next rest =>
      rcases lt_trichotomy next slot with hNext | hSame | hNext
      · have hSpacedRest : ∀ entry ∈ next :: rest, entry < slot → entry + step ≤ slot :=
          fun entry hEntry => hSpaced entry (mem_cons_of_mem _ hEntry)
        obtain ⟨gap, hGap, hCovers⟩ := ih hRest
          (fun hMem => hMissing (mem_cons_of_mem _ hMem)) hSpacedRest
          ⟨next, by simp, hNext⟩ ⟨later, hLaterRest, hLess⟩
        exact ⟨gap, mem_gaps_cons.mpr (Or.inr hGap), hCovers⟩
      · exact absurd (by simp [← hSame]) hMissing
      · have hStart := hSpaced previous (by simp) hPrevious
        refine ⟨(previous + step, next), mem_gaps_cons.mpr (Or.inl ⟨?_, rfl⟩), hStart, hNext⟩
        exact lt_of_le_of_lt hStart hNext

variable [IsOrderedCancelAddMonoid α]

theorem pairwise_gaps (hSorted : entries.Pairwise (· ≤ ·)) :
    (gaps step entries).Pairwise fun first second => first.2 + step ≤ second.1 := by
  induction entries with
  | nil => exact List.Pairwise.nil
  | cons previous rest ih =>
    obtain ⟨_, hRest⟩ := pairwise_cons.mp hSorted
    cases rest with
    | nil => exact List.Pairwise.nil
    | cons next rest =>
      refine pairwise_append.mpr ⟨?_, ih hRest, ?_⟩
      · split
        · exact pairwise_singleton _ _
        · exact List.Pairwise.nil
      · intro first hGap second hLater
        obtain ⟨_, _, entry, hEntry, hStart, _⟩ := mem_gaps hRest hLater
        have hNext : first.2 = next := by
          split at hGap
          · rw [mem_singleton.mp hGap]
          · cases hGap
        rw [hNext, hStart]
        refine add_le_add_left ?_ step
        rcases mem_cons.mp hEntry with rfl | hEntry
        · exact le_rfl
        · exact (pairwise_cons.mp hRest).1 entry hEntry

theorem length_gaps (hStep : 0 < step) (hSorted : entries.Pairwise (· ≤ ·)) :
    (gaps step entries).length = holes step entries := by
  have hStarts : ((gaps step entries).map (·.1)).Pairwise (· < ·) := by
    refine pairwise_map.mpr ((pairwise_gaps hSorted).imp_of_mem ?_)
    intro first second hFirst _ hOrder
    exact lt_of_lt_of_le (lt_trans (mem_gaps hSorted hFirst).1 (lt_add_of_pos_right _ hStep)) hOrder
  have hSame : ((gaps step entries).map (·.1)).Perm
      ((entries.dedup.filter fun entry => HoleAfter step entries entry).map (· + step)) := by
    apply (perm_ext_iff_of_nodup (hStarts.imp ne_of_lt) _).mpr
    · intro start
      simp only [mem_map, mem_filter, mem_dedup, decide_eq_true_iff]
      constructor
      · rintro ⟨gap, hGap, rfl⟩
        obtain ⟨hSpan, hEnd, entry, hEntry, hStart, hBetween⟩ := mem_gaps hSorted hGap
        rw [hStart] at hSpan
        refine ⟨entry, ⟨hEntry, ⟨gap.2, hEnd, ?_⟩, ?_⟩, hStart.symm⟩
        · exact lt_trans (lt_add_of_pos_right _ hStep) hSpan
        · intro later hLater hAfter
          rcases hBetween later hLater with hNot | hBehind
          · exact absurd hAfter (not_lt.mpr hNot)
          · exact lt_of_lt_of_le hSpan hBehind
      · rintro ⟨entry, ⟨hEntry, ⟨later, hLater, hAfter⟩, hApart⟩, rfl⟩
        have hMissing : entry + step ∉ entries := fun hMem =>
          lt_irrefl _ (hApart _ hMem (lt_add_of_pos_right _ hStep))
        have hSpaced : ∀ other ∈ entries, other < entry + step → other + step ≤ entry + step := by
          intro other hOther hBelow
          refine add_le_add_left (not_lt.mp fun hLess => ?_) step
          exact lt_asymm hBelow (hApart other hOther hLess)
        obtain ⟨gap, hGap, hStart, hEnd⟩ := exists_gap hSorted hMissing hSpaced
          ⟨entry, hEntry, lt_add_of_pos_right _ hStep⟩ ⟨later, hLater, hApart later hLater hAfter⟩
        refine ⟨gap, hGap, le_antisymm hStart ?_⟩
        obtain ⟨_, _, first, _, hFirst, hBetween⟩ := mem_gaps hSorted hGap
        rcases hBetween entry hEntry with hOrder | hBehind
        · rw [hFirst]
          exact add_le_add_left hOrder step
        · exact absurd (lt_of_lt_of_le hEnd hBehind) (lt_asymm (lt_add_of_pos_right _ hStep))
    · refine (nodup_dedup entries).filter _ |>.map ?_
      exact add_left_injective step
  have hLength := hSame.length_eq
  rwa [length_map, length_map] at hLength

end Sorted

section Grid
variable {start finish step slot : Int} {entries : List Int}

/-- The slots of a window are a step long and start at whole steps. -/
structure IsSlot (start finish step slot : Int) : Prop where
  aligned : step ∣ slot - start
  after : start ≤ slot
  before : slot + step ≤ finish

/-- The entries are at whole steps of the window. -/
structure OnGrid (start finish step : Int) (entries : List Int) : Prop where
  aligned : ∀ entry ∈ entries, step ∣ entry - start
  after : ∀ entry ∈ entries, start ≤ entry
  before : ∀ entry ∈ entries, entry < finish

theorem add_step_le {first second : Int} (hFirst : step ∣ first - start)
    (hSecond : step ∣ second - start) (hOrder : first < second) : first + step ≤ second := by
  have hDivides : step ∣ second - first := by
    have hDifference := Int.dvd_sub hSecond hFirst
    rwa [sub_sub_sub_cancel_right] at hDifference
  have hLength := Int.le_of_dvd (by omega) hDivides
  omega

section
variable (hStep : 0 < step) (hGrid : OnGrid start finish step entries)
  (hSorted : entries.Pairwise (· ≤ ·))
include hStep hGrid hSorted

theorem isSlot_of_mem_gaps {gap : Int × Int} (hGap : gap ∈ gaps step entries) :
    IsSlot start finish step gap.1 ∧ gap.1 ∉ entries := by
  obtain ⟨hSpan, hEnd, entry, hEntry, hStart, hBetween⟩ := mem_gaps hSorted hGap
  have hAligned : step ∣ gap.1 - start := by
    have hSum := Int.dvd_add (hGrid.aligned entry hEntry) (Int.dvd_refl step)
    rwa [hStart, add_sub_right_comm]
  have hAfter := hGrid.after entry hEntry
  have hBefore := hGrid.before gap.2 hEnd
  have hRoom := add_step_le hAligned (hGrid.aligned gap.2 hEnd) hSpan
  refine ⟨⟨hAligned, by omega, by omega⟩, ?_⟩
  intro hMem
  rcases hBetween gap.1 hMem with hLow | hHigh
  · omega
  · omega

/-- The gaps hold every slot without an entry when the first slot has one, and
so has the last. -/
theorem gaps_cover_iff (hEntries : entries ≠ []) (hWindow : start + step ≤ finish) :
    (∀ slot, IsSlot start finish step slot → slot ∉ entries →
        ∃ gap ∈ gaps step entries, gap.1 ≤ slot ∧ slot < gap.2) ↔
      start ∈ entries ∧ ∃ entry ∈ entries, finish < entry + 2 * step := by
  constructor
  · intro hCovered
    constructor
    · by_contra hFirst
      have hSlot : IsSlot start finish step start := ⟨by simp, le_rfl, hWindow⟩
      obtain ⟨gap, hGap, hStart, _⟩ := hCovered start hSlot hFirst
      obtain ⟨_, _, entry, hEntry, hFrom, _⟩ := mem_gaps hSorted hGap
      have hAfter := hGrid.after entry hEntry
      omega
    · by_contra hLast
      push Not at hLast
      obtain ⟨last, hMax⟩ := Option.isSome_iff_exists.mp (isSome_max?_of_ne_nil hEntries)
      obtain ⟨hMem, hGreatest⟩ := max?_eq_some_iff.mp hMax
      have hSlot : IsSlot start finish step (last + step) := by
        have hSum := Int.dvd_add (hGrid.aligned last hMem) (Int.dvd_refl step)
        have hAfter := hGrid.after last hMem
        have hRoom := hLast last hMem
        exact ⟨by rwa [add_sub_right_comm], by omega, by omega⟩
      have hMissing : last + step ∉ entries := by
        intro hNext
        have hOrder := hGreatest _ hNext
        omega
      obtain ⟨gap, hGap, _, hEnd⟩ := hCovered _ hSlot hMissing
      have hOrder := hGreatest gap.2 (mem_gaps hSorted hGap).2.1
      omega
  · rintro ⟨hFirst, last, hLast, hReaches⟩ slot hSlot hMissing
    apply exists_gap hSorted hMissing
    · intro entry hEntry hOrder
      exact add_step_le (hGrid.aligned entry hEntry) hSlot.aligned hOrder
    · have hAfter := hSlot.after
      have hOther : slot ≠ start := fun hSame => hMissing (hSame ▸ hFirst)
      exact ⟨start, hFirst, by omega⟩
    · have hBefore := hSlot.before
      have hOther : slot ≠ last := fun hSame => hMissing (hSame ▸ hLast)
      refine ⟨last, hLast, ?_⟩
      by_contra hOrder
      have hSpaced := add_step_le (hGrid.aligned last hLast) hSlot.aligned (by omega)
      omega

end

end Grid

end Gaps
