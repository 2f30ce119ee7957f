import Mathlib.Data.Int.CardIntervalMod

/-! A span of integers cut into pieces of a greatest length. The pieces lie
next to each other, and every integer of the span is in one of them. -/
namespace Pieces
open List

/-- The pieces from the cursor on, each up to the start of the next one. -/
def pieces (length : Int) (hLength : 0 < length) (finish cursor : Int) : List (Int × Int) :=
  if cursor < finish then
    (cursor, min (cursor + length) finish) ::
      pieces length hLength finish (min (cursor + length) finish)
  else []
termination_by (finish - cursor).toNat
decreasing_by omega

/-- A number is in a piece up to, but not including, its end. -/
def Holds (piece : Int × Int) (point : Int) : Prop := piece.1 ≤ point ∧ point < piece.2

instance decidableHolds (piece : Int × Int) (point : Int) : Decidable (Holds piece point) :=
  inferInstanceAs (Decidable (_ ∧ _))

section Pieces
variable {length : Int} {hLength : 0 < length} {finish cursor : Int}

theorem pieces_of_lt (hRoom : cursor < finish) : pieces length hLength finish cursor =
    (cursor, min (cursor + length) finish) ::
      pieces length hLength finish (min (cursor + length) finish) := by
  rw [pieces, if_pos hRoom]

theorem pieces_of_le (hEnd : finish ≤ cursor) : pieces length hLength finish cursor = [] := by
  rw [pieces, if_neg (not_lt.mpr hEnd)]

/-- A piece is not empty, lies in the span and is at most as long as allowed. -/
structure Fits (length finish cursor : Int) (piece : Int × Int) : Prop where
  after : cursor ≤ piece.1
  nonempty : piece.1 < piece.2
  short : piece.2 ≤ piece.1 + length
  before : piece.2 ≤ finish

theorem fits_of_mem {piece : Int × Int} (hPiece : piece ∈ pieces length hLength finish cursor) :
    Fits length finish cursor piece := by
  induction cursor using pieces.induct length hLength finish with
  | case1 cursor hRoom ih =>
    rw [pieces_of_lt hRoom] at hPiece
    rcases mem_cons.mp hPiece with rfl | hLater
    · exact ⟨le_rfl, by dsimp only; omega, min_le_left _ _, min_le_right _ _⟩
    · obtain ⟨hAfter, hNonempty, hShort, hBefore⟩ := ih hLater
      exact ⟨by omega, hNonempty, hShort, hBefore⟩
  | case2 cursor hEnd =>
    rw [pieces_of_le (not_lt.mp hEnd)] at hPiece
    cases hPiece

theorem head?_pieces (hRoom : cursor < finish) :
    ((pieces length hLength finish cursor).head?.map Prod.fst) = some cursor := by
  rw [pieces_of_lt hRoom]
  rfl

theorem getLast?_pieces (hRoom : cursor < finish) :
    ((pieces length hLength finish cursor).getLast?.map Prod.snd) = some finish := by
  induction cursor using pieces.induct length hLength finish with
  | case1 cursor hLess ih =>
    rw [pieces_of_lt hLess]
    rcases lt_or_ge (min (cursor + length) finish) finish with hMore | hDone
    · rw [pieces_of_lt hMore, getLast?_cons_cons, ← pieces_of_lt hMore]
      exact ih hMore
    · rw [pieces_of_le hDone]
      exact congrArg some (le_antisymm (min_le_right _ _) hDone)
  | case2 cursor hEnd => exact absurd hRoom hEnd

theorem isChain_pieces :
    (pieces length hLength finish cursor).IsChain fun piece next => next.1 = piece.2 := by
  induction cursor using pieces.induct length hLength finish with
  | case1 cursor hRoom ih =>
    rw [pieces_of_lt hRoom]
    refine isChain_cons.mpr ⟨?_, ih⟩
    intro next hNext
    rcases lt_or_ge (min (cursor + length) finish) finish with hMore | hDone
    · rw [pieces_of_lt hMore] at hNext
      rw [← Option.some.inj hNext]
    · rw [pieces_of_le hDone] at hNext
      cases hNext
  | case2 cursor hEnd =>
    rw [pieces_of_le (not_lt.mp hEnd)]
    exact isChain_nil

theorem countP_holds {point : Int} (hAfter : cursor ≤ point) (hBefore : point < finish) :
    (pieces length hLength finish cursor).countP (Holds · point) = 1 := by
  induction cursor using pieces.induct length hLength finish with
  | case1 cursor hRoom ih =>
    rw [pieces_of_lt hRoom]
    by_cases hHere : point < min (cursor + length) finish
    · have hFirst : Holds (cursor, min (cursor + length) finish) point := ⟨hAfter, hHere⟩
      have hRest : (pieces length hLength finish (min (cursor + length) finish)).countP
          (Holds · point) = 0 := by
        refine countP_eq_zero.mpr fun piece hPiece hHolds => ?_
        have hLater := (fits_of_mem hPiece).after
        exact absurd (of_decide_eq_true hHolds).1 (not_le.mpr (lt_of_lt_of_le hHere hLater))
      rw [countP_cons_of_pos (by simpa using hFirst), hRest]
    · have hFirst : ¬Holds (cursor, min (cursor + length) finish) point := fun hHolds =>
        hHere hHolds.2
      rw [countP_cons_of_neg (by simp [hFirst])]
      exact ih (not_lt.mp hHere)
  | case2 cursor hEnd => exact absurd (lt_of_le_of_lt hAfter hBefore) hEnd

section Sorted
variable {α : Type} {point : α → Int} {items : List α}

/-- Items in order of their points are those before a cut and the others. -/
theorem filter_lt_append_filter_le (hSorted : items.Pairwise fun first later =>
    point first ≤ point later) (cut : Int) :
    items.filter (point · < cut) ++ items.filter (cut ≤ point ·) = items := by
  induction items with
  | nil => rfl
  | cons item rest ih =>
    obtain ⟨hFirst, hRest⟩ := pairwise_cons.mp hSorted
    by_cases hBefore : point item < cut
    · rw [filter_cons_of_pos (by simpa using hBefore),
        filter_cons_of_neg (by simpa using hBefore), cons_append, ih hRest]
    · have hNone : rest.filter (point · < cut) = [] := by
        apply filter_eq_nil_iff.mpr
        intro later hLater
        have hAfter := hFirst later hLater
        simp only [decide_eq_true_eq]
        omega
      have hAll : rest.filter (cut ≤ point ·) = rest := by
        apply filter_eq_self.mpr
        intro later hLater
        have hAfter := hFirst later hLater
        simp only [decide_eq_true_eq]
        omega
      rw [filter_cons_of_neg (by simpa using hBefore), hNone,
        filter_cons_of_pos (by simpa using hBefore), hAll, nil_append]

theorem flatMap_filter_pieces
    (hSorted : items.Pairwise fun first later => point first ≤ point later)
    (hAfter : ∀ item ∈ items, cursor ≤ point item) (hBefore : ∀ item ∈ items, point item < finish) :
    ((pieces length hLength finish cursor).flatMap fun piece =>
      items.filter fun item => Holds piece (point item)) = items := by
  induction cursor using pieces.induct length hLength finish generalizing items with
  | case1 cursor hRoom ih =>
    let cut := min (cursor + length) finish
    have hFirst : (items.filter fun item => Holds (cursor, cut) (point item)) =
        items.filter (point · < cut) := by
      apply filter_congr
      intro item hItem
      exact decide_eq_decide.mpr (and_iff_right (hAfter item hItem))
    -- A later piece sees only the items from the cut on.
    have hLater (piece : Int × Int) (hPiece : piece ∈ pieces length hLength finish cut) :
        (items.filter fun item => Holds piece (point item)) =
          (items.filter (cut ≤ point ·)).filter fun item => Holds piece (point item) := by
      rw [filter_filter]
      apply filter_congr
      intro item _
      have hStart : cut ≤ piece.1 := (fits_of_mem hPiece).after
      rw [← Bool.decide_and]
      apply decide_eq_decide.mpr
      exact (and_iff_left_of_imp fun hHolds => hStart.trans hHolds.1).symm
    have hRest := ih (hSorted.sublist filter_sublist)
      (fun item hItem => of_decide_eq_true (mem_filter.mp hItem).2)
      (fun item hItem => hBefore item (mem_filter.mp hItem).1)
    rw [pieces_of_lt hRoom, flatMap_cons, hFirst, flatMap_congr hLater, hRest]
    exact filter_lt_append_filter_le hSorted cut
  | case2 cursor hEnd =>
    rw [pieces_of_le (not_lt.mp hEnd), flatMap_nil]
    cases items with
    | nil => rfl
    | cons item rest =>
      have hItem := mem_cons_self (a := item) (l := rest)
      have hStart := hAfter item hItem
      have hFinish := hBefore item hItem
      omega

end Sorted

/-- The cuts are at whole units when the span and the length are whole. -/
theorem dvd_of_mem {unit : Int} (hCursor : unit ∣ cursor) (hFinish : unit ∣ finish)
    (hWhole : unit ∣ length) {piece : Int × Int}
    (hPiece : piece ∈ pieces length hLength finish cursor) : unit ∣ piece.1 ∧ unit ∣ piece.2 := by
  induction cursor using pieces.induct length hLength finish with
  | case1 cursor hRoom ih =>
    have hCut : unit ∣ min (cursor + length) finish := by
      rcases min_choice (cursor + length) finish with hFull | hRest
      · rw [hFull]
        exact Int.dvd_add hCursor hWhole
      · rwa [hRest]
    rw [pieces_of_lt hRoom] at hPiece
    rcases mem_cons.mp hPiece with rfl | hLater
    · exact ⟨hCursor, hCut⟩
    · exact ih hCut hLater
  | case2 cursor hEnd =>
    rw [pieces_of_le (not_lt.mp hEnd)] at hPiece
    cases hPiece

end Pieces

/-- A span of so many steps has at most so many multiples of the step in it. -/
theorem length_le_of_dvd {step : Int} (start : Int) {limit : Nat} (hStep : 0 < step) {points : List Int}
    (hDistinct : points.Nodup)
    (hPoints : ∀ point ∈ points, step ∣ point ∧ start ≤ point ∧ point < start + step * limit) :
    points.length ≤ limit := by
  have hCount := Int.Ico_filter_dvd_card start (start + step * limit) hStep
  have hSpan : ((start + step * limit : Int) : ℚ) / step = start / step + limit := by
    have hNonzero : (step : ℚ) ≠ 0 := by exact_mod_cast hStep.ne'
    push_cast
    field_simp
  rw [hSpan, Int.ceil_add_natCast, add_sub_cancel_left, max_eq_left (by omega)] at hCount
  have hSubset : points.toFinset ⊆ {point ∈ Finset.Ico start (start + step * limit) | step ∣ point} := by
    intro point hPoint
    obtain ⟨hDivides, hAfter, hBefore⟩ := hPoints point (mem_toFinset.mp hPoint)
    simp [hDivides, hAfter, hBefore]
  have hLe := Finset.card_le_card hSubset
  rw [toFinset_card_of_nodup hDistinct] at hLe
  omega

end Pieces
