import AegisQuant.Library.Pieces
import AegisQuant.Market.Aggregation

/-! The pages of a backfill. A page asks for the candles that open between two
times, the last millisecond included, and is answered with a limited number of
them. -/
namespace AegisQuant.Market
open Pieces List DateTime

structure BackfillPageRequest where
  startTime : DateTime
  endTime : DateTime
  deriving DecidableEq

theorem toNat_sub_lt {span finish cursor : Int} (hSpan : 0 < span) (hRoom : cursor < finish)
    (unit : Int) : (finish - (min (cursor + span - unit) (finish - unit) + unit)).toNat <
      (finish - cursor).toNat := by
  omega

def backfillPagesFrom (pageSpan : Int) (hSpan : 0 < pageSpan) (endTime cursor : DateTime) :
    List BackfillPageRequest :=
  if cursor < endTime then
    let inclusiveEnd := endTime - milliseconds 1
    let pageEnd := min (cursor + pageSpan - milliseconds 1) inclusiveEnd
    ⟨cursor, pageEnd⟩ :: backfillPagesFrom pageSpan hSpan endTime (pageEnd + milliseconds 1)
  else []
termination_by (endTime - cursor).toNat
decreasing_by exact toNat_sub_lt hSpan ‹_› _

variable (interval : CandleInterval)

theorem pageSpan_pos {limitPerRequest : Nat} (hLimit : limitPerRequest ≠ 0) :
    0 < milliseconds (interval.duration / 1000000 * limitPerRequest) := by
  have hMillis : 0 < interval.duration / 1000000 := by cases interval <;> decide
  have hCount : (0 : Int) < limitPerRequest := by omega
  exact Int.mul_pos (Int.mul_pos hMillis hCount) (by decide)

theorem pageSpan_eq (limitPerRequest : Nat) :
    milliseconds (interval.duration / 1000000 * limitPerRequest) =
      interval.duration * limitPerRequest := by
  have hWhole : interval.duration / 1000000 * 1000000 = interval.duration := by
    cases interval <;> decide
  calc interval.duration / 1000000 * limitPerRequest * 1000000
      = interval.duration / 1000000 * 1000000 * limitPerRequest := by ring
    _ = interval.duration * limitPerRequest := by rw [hWhole]

def planBackfillPages (startTime endTime : DateTime) (interval : CandleInterval)
    (limitPerRequest : Nat) : Except String (List BackfillPageRequest) :=
  if endTime ≤ startTime then .error "backfill end_time must be after start_time"
  else if hLimit : limitPerRequest = 0 then
    .error "backfill limit_per_request must be greater than zero"
  else
    let intervalMs := interval.duration / 1000000
    .ok (backfillPagesFrom (milliseconds (intervalMs * limitPerRequest))
      (pageSpan_pos interval hLimit) endTime startTime)

/-- A candle of the interval can open at this time. -/
def OpensAt (interval : CandleInterval) (time : DateTime) : Prop :=
  interval.bucketStart time = time

/-- The provider answers with the candles that open in the page. -/
def BackfillPageRequest.Holds (page : BackfillPageRequest) (time : DateTime) : Prop :=
  page.startTime ≤ time ∧ time ≤ page.endTime

instance decidableHoldsTime (page : BackfillPageRequest) (time : DateTime) :
    Decidable (page.Holds time) := inferInstanceAs (Decidable (_ ∧ _))

/-- The pages lie next to each other from the start to the last millisecond
before the end. None is empty or has more open times than it may return, and
every open time of the window is in one page. -/
structure CoversWindowOnce (interval : CandleInterval) (limitPerRequest : Nat)
    (startTime endTime : DateTime) (pages : List BackfillPageRequest) : Prop where
  first : pages.head?.map (·.startTime) = some startTime
  last : pages.getLast?.map (·.endTime) = some (endTime - milliseconds 1)
  contiguous : pages.IsChain fun page next =>
    next.startTime = page.endTime + milliseconds 1
  nonempty : ∀ page ∈ pages, page.startTime ≤ page.endTime
  limited : ∀ page ∈ pages, ∀ times : List DateTime, times.Nodup →
    (∀ time ∈ times, OpensAt interval time ∧ page.Holds time) → times.length ≤ limitPerRequest
  once : ∀ time, OpensAt interval time → startTime ≤ time → time < endTime →
    pages.countP (·.Holds time) = 1

section Pages
variable {interval : CandleInterval} {endTime cursor : DateTime}
  {pageSpan : Int} {hSpan : 0 < pageSpan}

/-- A piece of the window as a page, which ends a millisecond earlier. -/
def pageOf (piece : Int × Int) : BackfillPageRequest :=
  ⟨piece.1, piece.2 - milliseconds 1⟩

theorem min_sub_sub {span finish start : Int} (unit : Int) :
    min (start + span - unit) (finish - unit) = min (start + span) finish - unit := by
  omega

theorem backfillPagesFrom_eq : backfillPagesFrom pageSpan hSpan endTime cursor =
    (pieces pageSpan hSpan endTime cursor).map pageOf := by
  induction cursor using backfillPagesFrom.induct pageSpan hSpan endTime with
  | case1 cursor hRoom inclusiveEnd pageEnd ih =>
    have hEnd : pageEnd = min (cursor + pageSpan) endTime - milliseconds 1 :=
      min_sub_sub _
    have hNext : pageEnd + milliseconds 1 = min (cursor + pageSpan) endTime := by
      rw [hEnd, sub_add_cancel]
    rw [hNext] at ih
    rw [backfillPagesFrom, if_pos hRoom, pieces_of_lt hRoom, map_cons, ← ih, ← hNext]
    exact congrArg₂ cons
      (congrArg (BackfillPageRequest.mk cursor) (add_sub_cancel_right pageEnd _).symm) rfl
  | case2 cursor hEnd =>
    rw [backfillPagesFrom, if_neg hEnd, pieces_of_le (not_lt.mp hEnd)]
    rfl

theorem opensAt_iff {time : DateTime} : OpensAt interval time ↔ interval.duration ∣ time := by
  rw [OpensAt, bucketStart_eq_iff]
  exact and_iff_left ⟨Int.le_refl _, Int.lt_add_of_pos_right _ (duration_pos interval)⟩

theorem milliseconds_dvd_duration (interval : CandleInterval) :
    milliseconds 1 ∣ interval.duration := by
  cases interval <;> decide

theorem holds_pageOf_iff {piece : Int × Int} {time : DateTime} {unit : Int}
    (hUnit : unit = milliseconds 1) (hPiece : unit ∣ piece.2) (hTime : unit ∣ time) :
    (pageOf piece).Holds time ↔ Pieces.Holds piece time := by
  refine and_congr_right fun _ => ?_
  obtain ⟨first, hFirst⟩ := hPiece
  obtain ⟨second, hSecond⟩ := hTime
  have hPositive : (0 : Int) < milliseconds 1 := by decide
  change time ≤ piece.2 - milliseconds 1 ↔ time < piece.2
  rw [hFirst, hSecond, ← hUnit]
  rw [← hUnit] at hPositive
  have hCut : unit * first - unit = unit * (first - 1) := by rw [mul_sub, mul_one]
  rw [hCut, mul_le_mul_iff_right₀ hPositive, mul_lt_mul_iff_right₀ hPositive]
  exact Int.le_sub_one_iff

end Pages

/-- The pages of a window between whole milliseconds cover it once, each with
at most as many open times as the provider returns. -/
theorem planBackfillPages_covers_window_once {startTime endTime : DateTime}
    (interval : CandleInterval) {limitPerRequest : Nat} (hWindow : startTime < endTime)
    (hLimit : 1 ≤ limitPerRequest) (hStart : milliseconds 1 ∣ startTime)
    (hEnd : milliseconds 1 ∣ endTime) :
    ∃ pages, planBackfillPages startTime endTime interval limitPerRequest = .ok pages ∧
      CoversWindowOnce interval limitPerRequest startTime endTime pages := by
  have hNonzero : limitPerRequest ≠ 0 := by omega
  have hMillis := milliseconds_dvd_duration interval
  have hSpan := pageSpan_pos interval hNonzero
  have hSpanEq := pageSpan_eq interval limitPerRequest
  have hWhole : milliseconds 1 ∣
      milliseconds (interval.duration / 1000000 * limitPerRequest) := by
    rw [hSpanEq]
    exact Int.dvd_mul_of_dvd_left hMillis
  refine ⟨_, by rw [planBackfillPages, if_neg (not_le.mpr hWindow), dif_neg hNonzero], ?_⟩
  rw [backfillPagesFrom_eq]
  have hCuts (piece : Int × Int) (hPiece : piece ∈ pieces _ hSpan endTime startTime) :=
    dvd_of_mem hStart hEnd hWhole hPiece
  refine ⟨?_, ?_, ?_, ?_, ?_, ?_⟩
  · rw [List.head?_map, Option.map_map]
    exact head?_pieces hWindow
  · rw [List.getLast?_map, Option.map_map]
    have hLast : (Pieces.pieces _ hSpan endTime startTime).getLast?.map Prod.snd = some endTime :=
      Pieces.getLast?_pieces hWindow
    simpa [pageOf, Function.comp_def] using congrArg (Option.map (· - milliseconds 1)) hLast
  · refine List.isChain_map _ |>.mpr (Pieces.isChain_pieces.imp fun piece next hNext => ?_)
    rw [pageOf, pageOf, hNext, sub_add_cancel]
  · intro page hPage
    obtain ⟨piece, hPiece, rfl⟩ := mem_map.mp hPage
    have hHolds : Pieces.Holds piece piece.1 := ⟨le_rfl, (fits_of_mem hPiece).nonempty⟩
    exact ((holds_pageOf_iff rfl (hCuts piece hPiece).2 (hCuts piece hPiece).1).mpr hHolds).2
  · intro page hPage times hDistinct hTimes
    obtain ⟨piece, hPiece, rfl⟩ := mem_map.mp hPage
    refine length_le_of_dvd piece.1 (duration_pos interval) hDistinct
      fun time hTime => ?_
    obtain ⟨hOpens, hHolds⟩ := hTimes time hTime
    have hOpenTime := opensAt_iff.mp hOpens
    obtain ⟨hAfter, hBefore⟩ :=
      (holds_pageOf_iff rfl (hCuts piece hPiece).2 (hMillis.trans hOpenTime)).mp hHolds
    have hShort := (fits_of_mem hPiece).short
    rw [hSpanEq] at hShort
    exact ⟨hOpenTime, hAfter, lt_of_lt_of_le hBefore hShort⟩
  · intro time hOpens hAfter hBefore
    have hOnce : (pieces _ hSpan endTime startTime).countP (Pieces.Holds · time) = 1 :=
      countP_holds hAfter hBefore
    rw [countP_map, ← hOnce]
    refine countP_congr fun piece hPiece => ?_
    have hOpenTime := hMillis.trans (opensAt_iff.mp hOpens)
    simpa using holds_pageOf_iff rfl (hCuts piece hPiece).2 hOpenTime

/-- A day of minutes takes two pages of a thousand. -/
theorem planBackfillPages_sample : ∃ pages,
    planBackfillPages 0 (seconds 86400) .oneMinute 1000 = .ok pages ∧
      CoversWindowOnce .oneMinute 1000 0 (seconds 86400) pages :=
  planBackfillPages_covers_window_once .oneMinute (by decide) (by decide) (by decide) (by decide)

end AegisQuant.Market
