import AegisQuant.Research.Alignment
import AegisQuant.Research.ShadowObservation
import Mathlib.Tactic.Ring

/-! A basket of closed candles at common open times without a gap, as a research
run over a window around all of them and the preview up to one of them align it. -/
namespace AegisQuant.Research
open Fallible SortByKey Groups Option

section Candles
variable {candles other : List Candle} {times : List DateTime}

/-- Among candles of distinct times, at most one has a given time. -/
theorem length_filter_openTime_le (hDistinct : (candles.map (·.openTime)).Nodup) (time : DateTime) :
    (candles.filter fun candle => candle.openTime = time).length ≤ 1 := by
  have hCount := List.nodup_iff_count_le_one.mp hDistinct time
  rw [List.count_eq_countP, List.countP_map, List.countP_eq_length_filter] at hCount
  simpa only [Function.comp_def, beq_eq_decide] using hCount

theorem candleAt_of_perm (hDistinct : (candles.map (·.openTime)).Nodup) {time : DateTime}
    (hPerm : (other.filter fun candle => candle.openTime = time).Perm
      (candles.filter fun candle => candle.openTime = time)) :
    candleAt other time = candleAt candles time := by
  have hLength := length_filter_openTime_le hDistinct time
  unfold candleAt
  cases hFound : candles.filter fun candle => candle.openTime = time with
  | nil =>
    rw [hFound] at hPerm
    rw [hPerm.eq_nil]
  | cons candle rest =>
    rw [hFound] at hPerm hLength
    have hRest : rest = [] := List.eq_nil_of_length_eq_zero (by simpa using hLength)
    rw [hRest] at hPerm ⊢
    rw [List.perm_singleton.mp hPerm]

theorem openTimes_eq (hTimes : times.Pairwise (· < ·))
    (hSame : ∀ time, time ∈ candles.map (·.openTime) ↔ time ∈ times) :
    openTimes candles = times := by
  have hKeys : (openTimes candles).Pairwise (· < ·) := increasing_group _ _
  have hMembers (time : DateTime) : time ∈ openTimes candles ↔ time ∈ times :=
    mem_keys_group.trans (hSame time)
  exact @SortByKey.eq_of_strict DateTime DateTime _ id _ _ hTimes hKeys hMembers

end Candles

section Research
variable {request : CrossAssetResearchRequest} {interval : CandleInterval}
  {candlesBySymbol : String → Option (List Candle)} {symbols : List String} {times : List DateTime}

theorem foldlM_alignSymbol (hCommon : ∀ symbol ∈ symbols, ∃ candles,
      candlesBySymbol symbol = some candles ∧
        openTimes (windowCandles request interval candles) = times)
    {alignment : Alignment}
    (hStart : alignment.alignedTimes = some times ∨ alignment.alignedTimes = none ∧ symbols ≠ []) :
    ∃ final, symbols.foldlM (alignSymbol request interval candlesBySymbol) alignment = .ok final ∧
      final.alignedTimes = some times := by
  induction symbols generalizing alignment with
  | nil =>
    rcases hStart with hTimes | ⟨-, hSome⟩
    · exact ⟨alignment, rfl, hTimes⟩
    · exact absurd rfl hSome
  | cons symbol rest ih =>
    obtain ⟨⟨candles, hCandles, hOpen⟩, hRest⟩ := List.forall_mem_cons.mp hCommon
    rw [List.foldlM_cons, alignSymbol, hCandles]
    dsimp only
    rw [ok_bind]
    apply ih hRest
    left
    rcases hStart with hTimes | ⟨hNone, -⟩
    · simp [hTimes, hOpen]
    · simp [hNone, hOpen]

variable {normalized rows : String → List Candle}

theorem takeRows_of_not_mem {symbol : String} (hAbsent : symbol ∉ symbols)
    : takeRows times symbols normalized rows symbol = rows symbol := by
  induction symbols generalizing normalized rows with
  | nil => rfl
  | cons head rest ih =>
    rw [List.mem_cons, not_or] at hAbsent
    rw [takeRows, ih hAbsent.2, Function.update_of_ne hAbsent.1]

/-- A symbol that is given once has its candles at the times. -/
theorem takeRows_of_mem (hOnce : symbols.Nodup) {symbol : String} (hSymbol : symbol ∈ symbols) :
    takeRows times symbols normalized rows symbol =
      times.filterMap (candleAt (normalized symbol)) := by
  induction symbols generalizing normalized rows with
  | nil => cases hSymbol
  | cons head rest ih =>
    obtain ⟨hHead, hRest⟩ := List.nodup_cons.mp hOnce
    rw [takeRows]
    rcases List.mem_cons.mp hSymbol with rfl | hLater
    · rw [takeRows_of_not_mem hHead, Function.update_self]
    · have hOther : symbol ≠ head := fun hSame => hHead (hSame ▸ hLater)
      rw [ih hRest hLater, Function.update_of_ne hOther]

end Research

section Shadow
variable {interval : CandleInterval} {candlesBySymbol : String → Option (List Candle)}
  {symbols : List String} {times : List DateTime}

variable {alignment : ShadowAlignment}

theorem foldl_alignClosed (hCommon : ∀ symbol ∈ symbols,
      openTimes (closedCandles interval (candlesBySymbol symbol)) = times)
    (hStart : alignment.alignedTimes = some times ∨ alignment.alignedTimes = none ∧ symbols ≠ []) :
    (symbols.foldl (alignClosed interval candlesBySymbol) alignment).alignedTimes = some times := by
  induction symbols generalizing alignment with
  | nil =>
    rcases hStart with hTimes | ⟨-, hSome⟩
    · exact hTimes
    · exact absurd rfl hSome
  | cons symbol rest ih =>
    obtain ⟨hOpen, hRest⟩ := List.forall_mem_cons.mp hCommon
    apply ih hRest
    left
    rcases hStart with hTimes | ⟨hNone, -⟩
    · simp [alignClosed, hTimes, hOpen]
    · simp [alignClosed, hNone, hOpen]

theorem normalized_foldl_alignClosed (symbol : String) :
    (symbols.foldl (alignClosed interval candlesBySymbol) alignment).normalized symbol =
      if symbol ∈ symbols then closedCandles interval (candlesBySymbol symbol)
      else alignment.normalized symbol := by
  induction symbols generalizing alignment with
  | nil => rfl
  | cons head rest ih =>
    rw [List.foldl_cons, ih]
    by_cases hRest : symbol ∈ rest
    · rw [if_pos hRest, if_pos (List.mem_cons_of_mem _ hRest)]
    · rw [if_neg hRest]
      by_cases hSame : symbol = head
      · simp [alignClosed, hSame]
      · simp [alignClosed, hSame, hRest]

end Shadow

section Times

def gapFreeTimes (interval : CandleInterval) (first : DateTime) (count : Nat) : List DateTime :=
  (List.range count).map fun place : Nat => first + interval.duration * place

variable {interval : CandleInterval} {first : DateTime} {count index : Nat}

@[simp] theorem length_gapFreeTimes : (gapFreeTimes interval first count).length = count := by
  simp [gapFreeTimes]

theorem getElem?_gapFreeTimes (hIndex : index < count) :
    (gapFreeTimes interval first count)[index]? = some (first + interval.duration * index) := by
  rw [gapFreeTimes, List.getElem?_map, List.getElem?_range hIndex]
  rfl

theorem increasing_gapFreeTimes : (gapFreeTimes interval first count).Pairwise (· < ·) := by
  rw [gapFreeTimes, List.pairwise_map]
  refine List.pairwise_lt_range.imp fun {left right} hLess => ?_
  have hDuration := Market.duration_pos interval
  have hPlaces : (left : Int) < right := Int.ofNat_lt.mpr hLess
  exact Int.add_lt_add_left (Int.mul_lt_mul_of_pos_left hPlaces hDuration) first

theorem nodup_gapFreeTimes : (gapFreeTimes interval first count).Nodup :=
  increasing_gapFreeTimes.imp ne_of_lt

theorem take_gapFreeTimes (hIndex : index ≤ count) :
    (gapFreeTimes interval first count).take index = gapFreeTimes interval first index := by
  rw [gapFreeTimes, ← List.map_take, List.take_range, Nat.min_eq_left hIndex, gapFreeTimes]

theorem drop_gapFreeTimes {start : Nat} : (gapFreeTimes interval first (start + count)).drop start =
      gapFreeTimes interval (first + interval.duration * start) count := by
  apply List.ext_getElem?
  intro place
  rw [List.getElem?_drop]
  by_cases hPlace : place < count
  · rw [getElem?_gapFreeTimes (by omega), getElem?_gapFreeTimes hPlace]
    congr 1
    push_cast
    ring
  · rw [List.getElem?_eq_none (by rw [length_gapFreeTimes]; omega),
      List.getElem?_eq_none (by rw [length_gapFreeTimes]; omega)]

theorem mem_gapFreeTimes {time : DateTime} : time ∈ gapFreeTimes interval first count ↔
    ∃ place : Nat, place < count ∧ first + interval.duration * place = time := by
  simp [gapFreeTimes]

theorem mem_gapFreeTimes_until (hIndex : index < count) {time : DateTime} :
    time ∈ gapFreeTimes interval first count ∧ time ≤ first + interval.duration * index ↔
      time ∈ gapFreeTimes interval first (index + 1) := by
  have hDuration := Market.duration_pos interval
  simp only [mem_gapFreeTimes]
  constructor
  · rintro ⟨⟨place, hPlace, rfl⟩, hUntil⟩
    have hScaled := Int.le_of_mul_le_mul_left (Int.le_of_add_le_add_left hUntil) hDuration
    exact ⟨place, by omega, rfl⟩
  · rintro ⟨place, hPlace, rfl⟩
    have hScaled := Int.mul_le_mul_of_nonneg_left
      (show (place : Int) ≤ index by omega) hDuration.le
    exact ⟨⟨place, by omega, rfl⟩, Int.add_le_add_left hScaled first⟩

theorem filter_le_gapFreeTimes (hIndex : index < count) :
    (gapFreeTimes interval first (index + 1)).filter
        (fun time => time ≤ first + interval.duration * index) =
      gapFreeTimes interval first (index + 1) := by
  rw [List.filter_eq_self]
  intro time hTime
  exact decide_eq_true ((mem_gapFreeTimes_until hIndex).mpr hTime).2

theorem getLast?_gapFreeTimes : (gapFreeTimes interval first (index + 1)).getLast? =
    some (first + interval.duration * index) := by
  rw [List.getLast?_eq_getElem?, length_gapFreeTimes, Nat.add_sub_cancel,
    getElem?_gapFreeTimes (Nat.lt_succ_self _)]

/-- Neighbours are one interval apart. -/
theorem sub_of_mem_zip_gapFreeTimes {pair : DateTime × DateTime}
    (hPair : pair ∈ (gapFreeTimes interval first count).zip (gapFreeTimes interval first count).tail) :
    pair.2 - pair.1 = interval.duration := by
  obtain ⟨place, hPlace⟩ := List.mem_iff_getElem?.mp hPair
  rw [List.getElem?_zip_eq_some, List.getElem?_tail] at hPlace
  obtain ⟨hLeft, hRight⟩ := hPlace
  obtain ⟨hBound, -⟩ := List.getElem?_eq_some_iff.mp hRight
  rw [length_gapFreeTimes] at hBound
  rw [getElem?_gapFreeTimes (by omega)] at hLeft
  rw [getElem?_gapFreeTimes hBound] at hRight
  rw [← some.inj hLeft, ← some.inj hRight]
  push_cast
  ring

end Times

/-- Closed candles of every symbol, in any order, at common open times without
a gap. -/
structure ClosedBasket (interval : CandleInterval) (symbols : List String)
    (candlesBySymbol : String → Option (List Candle)) (first : DateTime) (count : Nat) : Prop where
  present : ∀ symbol ∈ symbols, ∃ candles, candlesBySymbol symbol = some candles
  openTimes : ∀ symbol ∈ symbols, ∀ candles, candlesBySymbol symbol = some candles →
    (candles.map (·.openTime)).Perm (gapFreeTimes interval first count)
  closed : ∀ symbol ∈ symbols, ∀ candles, candlesBySymbol symbol = some candles →
    ∀ candle ∈ candles, candle.interval = interval ∧ candle.isClosed = true
  prices : ∀ symbol ∈ symbols, ∀ candles, candlesBySymbol symbol = some candles →
    ∀ candle ∈ candles, 0 < candle.open ∧ 0 < candle.close

/-- The window from `startTime` to `endTime` holds all these candles and has
room for no more. -/
structure WholeWindow (interval : CandleInterval) (symbols : List String)
    (candlesBySymbol : String → Option (List Candle)) (count : Nat)
    (startTime endTime : DateTime) : Prop where
  holds : ∀ symbol ∈ symbols, ∀ candles, candlesBySymbol symbol = some candles →
    ∀ candle ∈ candles, startTime ≤ candle.openTime ∧ candle.closeTime ≤ endTime
  room : interval.candlesBetween startTime endTime = .ok count

theorem wholeWindow_of_closeTimes {interval : CandleInterval} {symbols : List String}
    {candlesBySymbol : String → Option (List Candle)} {first : DateTime} {count : Nat}
    (hBasket : ClosedBasket interval symbols candlesBySymbol first count)
    (hClose : ∀ symbol ∈ symbols, ∀ candles, candlesBySymbol symbol = some candles →
      ∀ candle ∈ candles, candle.closeTime ≤ candle.openTime + interval.duration)
    (hSome : 0 < count) (hCount : count < 2 ^ 31) :
    WholeWindow interval symbols candlesBySymbol count first
      (first + interval.duration * count) where
  holds := by
    intro symbol hSymbol candles hCandles candle hCandle
    have hTime := (hBasket.openTimes symbol hSymbol candles hCandles).mem_iff.mp
      (List.mem_map_of_mem hCandle)
    obtain ⟨place, hPlace, hOpen⟩ := mem_gapFreeTimes.mp hTime
    have hStart : 0 ≤ interval.duration * place :=
      Int.mul_nonneg (Market.duration_pos interval).le (Int.natCast_nonneg place)
    have hEnd : interval.duration * (place + 1) ≤ interval.duration * count :=
      Int.mul_le_mul_of_nonneg_left (by omega) (Market.duration_pos interval).le
    have hClosed := hClose symbol hSymbol candles hCandles candle hCandle
    rw [← hOpen] at hClosed ⊢
    constructor
    · exact le_add_of_nonneg_right hStart
    · calc
        candle.closeTime ≤ first + interval.duration * place + interval.duration := hClosed
        _ = first + interval.duration * (place + 1) := by ring
        _ ≤ first + interval.duration * count := Int.add_le_add_left hEnd first
  room := by
    have hLength : 0 < interval.duration * count :=
      Int.mul_pos (Market.duration_pos interval) (Int.natCast_pos.mpr hSome)
    have hPlaces : ((interval.duration * count).tdiv 1000000).tdiv (interval.duration / 1000000) =
        count := by
      have hStep : interval.duration = interval.duration / 1000000 * 1000000 := by
        cases interval <;> rfl
      have hPositive : interval.duration / 1000000 ≠ 0 := by
        cases interval <;> decide
      generalize interval.duration / 1000000 = step at hStep hPositive
      rw [hStep, mul_right_comm, Int.mul_tdiv_cancel _ (by decide), Int.mul_tdiv_cancel_left _ hPositive]
    have hWindow : first + interval.duration * count - first = interval.duration * count :=
      add_sub_cancel_left first _
    rw [CandleInterval.candlesBetween, if_neg (not_le.mpr (lt_add_of_pos_right first hLength)),
      hWindow]
    simp only [hPlaces]
    rw [if_pos (by omega)]

def candlesUpTo (time : DateTime) (candlesBySymbol : String → Option (List Candle)) :
    String → Option (List Candle) :=
  fun symbol => (candlesBySymbol symbol).map fun candles =>
    candles.filter fun candle => candle.openTime ≤ time

section Basket
variable {interval : CandleInterval} {symbols : List String}
  {candlesBySymbol : String → Option (List Candle)} {first : DateTime} {count index : Nat}
  {symbol : String} {candles : List Candle}
variable {request : CrossAssetResearchRequest}
variable (hBasket : ClosedBasket interval symbols candlesBySymbol first count)
  (hSymbol : symbol ∈ symbols)
include hBasket hSymbol

theorem ClosedBasket.distinct (hCandles : candlesBySymbol symbol = some candles) :
    (candles.map (·.openTime)).Nodup :=
  (hBasket.openTimes symbol hSymbol candles hCandles).nodup_iff.mpr nodup_gapFreeTimes

theorem ClosedBasket.mem_openTimes (hCandles : candlesBySymbol symbol = some candles)
    {time : DateTime} :
    time ∈ candles.map (·.openTime) ↔ time ∈ gapFreeTimes interval first count :=
  (hBasket.openTimes symbol hSymbol candles hCandles).mem_iff

theorem windowCandles_perm
    (hWindow : WholeWindow interval symbols candlesBySymbol count request.startTime request.endTime)
    (hCandles : candlesBySymbol symbol = some candles) :
    (windowCandles request interval candles).Perm candles := by
  have hSorted := perm_sort (·.openTime) candles
  have hAll : windowCandles request interval candles = sort (·.openTime) candles := by
    rw [windowCandles, List.filter_eq_self]
    intro candle hCandle
    have hMember := hSorted.mem_iff.mp hCandle
    obtain ⟨hInterval, hClosed⟩ := hBasket.closed symbol hSymbol candles hCandles candle hMember
    obtain ⟨hStart, hEnd⟩ := hWindow.holds symbol hSymbol candles hCandles candle hMember
    simp [hInterval, hClosed, hStart, hEnd]
  rw [hAll]
  exact hSorted

theorem closedCandles_perm (hCandles : candlesBySymbol symbol = some candles) (time : DateTime) :
    (closedCandles interval (candlesUpTo time candlesBySymbol symbol)).Perm
      (candles.filter fun candle => candle.openTime ≤ time) := by
  have hAll : (candles.filter fun candle => candle.openTime ≤ time).filter
      (fun candle => candle.interval = interval && candle.isClosed) =
      candles.filter fun candle => candle.openTime ≤ time := by
    rw [List.filter_eq_self]
    intro candle hCandle
    obtain ⟨hInterval, hClosed⟩ := hBasket.closed symbol hSymbol candles hCandles candle
      (List.mem_filter.mp hCandle).1
    simp [hInterval, hClosed]
  rw [closedCandles, candlesUpTo, hCandles, map_some, getD_some, hAll]
  exact perm_sort _ _

theorem openTimes_windowCandles
    (hWindow : WholeWindow interval symbols candlesBySymbol count request.startTime request.endTime)
    (hCandles : candlesBySymbol symbol = some candles) :
    openTimes (windowCandles request interval candles) = gapFreeTimes interval first count := by
  apply openTimes_eq increasing_gapFreeTimes
  intro time
  rw [((windowCandles_perm hBasket hSymbol hWindow hCandles).map _).mem_iff]
  exact hBasket.mem_openTimes hSymbol hCandles

theorem openTimes_closedCandles (hIndex : index < count) : openTimes (closedCandles interval
      (candlesUpTo (first + interval.duration * index) candlesBySymbol symbol)) =
        gapFreeTimes interval first (index + 1) := by
  obtain ⟨candles, hCandles⟩ := hBasket.present symbol hSymbol
  apply openTimes_eq increasing_gapFreeTimes
  intro time
  rw [((closedCandles_perm hBasket hSymbol hCandles _).map _).mem_iff,
    ← mem_gapFreeTimes_until hIndex, ← hBasket.mem_openTimes hSymbol hCandles]
  simp only [List.mem_map, List.mem_filter, decide_eq_true_eq]
  constructor
  · rintro ⟨candle, ⟨hCandle, hUntil⟩, rfl⟩
    exact ⟨⟨candle, hCandle, rfl⟩, hUntil⟩
  · rintro ⟨⟨candle, hCandle, rfl⟩, hUntil⟩
    exact ⟨candle, ⟨hCandle, hUntil⟩, rfl⟩

theorem candleAt_windowCandles
    (hWindow : WholeWindow interval symbols candlesBySymbol count request.startTime request.endTime)
    (hCandles : candlesBySymbol symbol = some candles) (time : DateTime) :
    candleAt (windowCandles request interval candles) time = candleAt candles time :=
  candleAt_of_perm (hBasket.distinct hSymbol hCandles)
    ((windowCandles_perm hBasket hSymbol hWindow hCandles).filter _)

theorem candleAt_closedCandles (hCandles : candlesBySymbol symbol = some candles)
    {time latest : DateTime} (hTime : time ≤ latest) :
    candleAt (closedCandles interval (candlesUpTo latest candlesBySymbol symbol)) time =
      candleAt candles time := by
  apply candleAt_of_perm (hBasket.distinct hSymbol hCandles)
  have hSame : (candles.filter fun candle => candle.openTime ≤ latest).filter
      (fun candle => candle.openTime = time) = candles.filter fun candle => candle.openTime = time := by
    rw [List.filter_filter]
    apply List.filter_congr
    intro candle _
    by_cases hOpen : candle.openTime = time
    · simp [hOpen, hTime]
    · simp [hOpen]
  rw [← hSame]
  exact (closedCandles_perm hBasket hSymbol hCandles latest).filter _

end Basket

section Rows
variable {candlesBySymbol : String → Option (List Candle)} {symbols : List String}
  {interval : CandleInterval} {first : DateTime} {count : Nat} {symbol : String}

/-- The candles of a symbol in the order of their times. -/
def basketRows (interval : CandleInterval) (candlesBySymbol : String → Option (List Candle))
    (first : DateTime) (count : Nat) (symbol : String) : List Candle :=
  (gapFreeTimes interval first count).filterMap (candleAt ((candlesBySymbol symbol).getD []))

variable (hBasket : ClosedBasket interval symbols candlesBySymbol first count)
  (hSymbol : symbol ∈ symbols)
include hBasket hSymbol

theorem map_some_basketRows : (basketRows interval candlesBySymbol first count symbol).map some =
      (gapFreeTimes interval first count).map (candleAt ((candlesBySymbol symbol).getD [])) := by
  obtain ⟨candles, hCandles⟩ := hBasket.present symbol hSymbol
  apply map_some_filterMap
  intro time hTime
  rw [hCandles, getD_some]
  exact candleAt_isSome
    (mem_keys_group.mpr ((hBasket.mem_openTimes hSymbol hCandles).mpr hTime))

theorem length_basketRows :
    (basketRows interval candlesBySymbol first count symbol).length = count := by
  have hLength := congrArg List.length (map_some_basketRows hBasket hSymbol)
  rwa [List.length_map, List.length_map, length_gapFreeTimes] at hLength

theorem slice_basketRows {start length : Nat} (hEnd : start + length ≤ count) :
    (gapFreeTimes interval (first + interval.duration * start) length).filterMap
        (candleAt ((candlesBySymbol symbol).getD [])) =
      ((basketRows interval candlesBySymbol first count symbol).take (start + length)).drop start := by
  have hSome : ∀ time ∈ gapFreeTimes interval (first + interval.duration * start) length,
      (candleAt ((candlesBySymbol symbol).getD []) time).isSome := by
    intro time hTime
    have hAll : (candleAt ((candlesBySymbol symbol).getD []) time) ∈
        (basketRows interval candlesBySymbol first count symbol).map some := by
      rw [map_some_basketRows hBasket hSymbol]
      rw [← drop_gapFreeTimes, ← take_gapFreeTimes hEnd] at hTime
      exact List.mem_map_of_mem (List.mem_of_mem_take (List.mem_of_mem_drop hTime))
    obtain ⟨candle, -, hCandle⟩ := List.mem_map.mp hAll
    rw [← hCandle]
    rfl
  apply List.map_injective_iff.mpr (some_injective Candle)
  rw [map_some_filterMap hSome, List.map_drop, List.map_take, map_some_basketRows hBasket hSymbol,
    ← List.map_take, take_gapFreeTimes hEnd, ← List.map_drop, drop_gapFreeTimes]

theorem open_pos_of_mem_basketRows {candle : Candle}
    (hCandle : candle ∈ basketRows interval candlesBySymbol first count symbol) :
    0 < candle.open := by
  obtain ⟨candles, hCandles⟩ := hBasket.present symbol hSymbol
  obtain ⟨time, -, hAt⟩ := List.mem_filterMap.mp hCandle
  rw [hCandles, getD_some] at hAt
  have hMember := (List.mem_filter.mp (List.mem_of_getLast? hAt)).1
  exact (hBasket.prices symbol hSymbol candles hCandles candle hMember).1

end Rows

section Prepared
variable {request : CrossAssetResearchRequest} {plan : ResearchPlan}
  {candlesBySymbol : String → Option (List Candle)} {first : DateTime} {count : Nat}

/-- What a research run over the whole window works on. -/
structure BasketData (floats : FloatArithmetic) (plan : ResearchPlan) (symbols : List String)
    (candlesBySymbol : String → Option (List Candle)) (first : DateTime) (count : Nat)
    (data : CrossAssetData) : Prop where
  times : data.times = gapFreeTimes plan.interval first count
  holding : data.holding = plan.holding
  requiredLookback : data.requiredLookback = plan.requiredLookback
  features : data.features = computeCrossAssetFeatures floats data.rows plan.lookbacks
  rows : ∀ symbol ∈ symbols,
    data.rows symbol = basketRows plan.interval candlesBySymbol first count symbol
  absent : ∀ symbol, symbol ∉ symbols → data.rows symbol = []

theorem seconds_duration (interval : CandleInterval) :
    interval.duration.tdiv 1000000000 = interval.duration / 1000000000 := by
  cases interval <;> rfl

theorem prepareCrossAssetData_basket (floats : FloatArithmetic) (hPlan : researchPlan request = .ok plan)
    (hOnce : request.lookupSymbols.Nodup) (hSymbols : request.lookupSymbols ≠ [])
    (hBasket : ClosedBasket plan.interval request.lookupSymbols candlesBySymbol first count)
    (hWindow : WholeWindow plan.interval request.lookupSymbols candlesBySymbol count
      request.startTime request.endTime)
    (hLong : plan.requiredLookback + plan.holding + 1 < count) :
    ∃ data, prepareCrossAssetData floats request candlesBySymbol = .ok data ∧
      BasketData floats plan request.lookupSymbols candlesBySymbol first count data := by
  have hCommon : ∀ symbol ∈ request.lookupSymbols, ∃ candles,
      candlesBySymbol symbol = some candles ∧
        openTimes (windowCandles request plan.interval candles) =
          gapFreeTimes plan.interval first count := by
    intro symbol hSymbol
    obtain ⟨candles, hCandles⟩ := hBasket.present symbol hSymbol
    exact ⟨candles, hCandles, openTimes_windowCandles hBasket hSymbol hWindow hCandles⟩
  obtain ⟨alignment, hFold, hTimes⟩ := foldlM_alignSymbol hCommon
    (show (⟨none, fun _ => []⟩ : Alignment).alignedTimes = some (gapFreeTimes plan.interval first count) ∨
      (⟨none, fun _ => []⟩ : Alignment).alignedTimes = none ∧ request.lookupSymbols ≠ [] from
      .inr ⟨rfl, hSymbols⟩)
  have hAligned := aligned_of_foldlM hFold
  have hCoverage : checkCoverage count (plan.interval.duration / 1000000000) plan.requiredLookback
      plan.holding (gapFreeTimes plan.interval first count) = .ok () := by
    simp only [checkCoverage, bind_eq_ok, require_eq_ok, length_gapFreeTimes]
    refine ⟨(), by simp, (), ?_, decide_eq_true hLong⟩
    rw [List.all_eq_true]
    intro pair hPair
    rw [sub_of_mem_zip_gapFreeTimes hPair, seconds_duration]
    exact decide_eq_true rfl
  refine ⟨alignedData floats plan request.lookupSymbols alignment, ?_, ?_⟩
  · have hExpected : (plan.interval.candlesBetween request.startTime request.endTime).mapError
        Fault.core = .ok (count : Int) := by
      rw [hWindow.room]
      rfl
    simp only [prepareCrossAssetData, hPlan, hFold, hTimes, hExpected, hCoverage, ok_bind,
      getD_some]
    rfl
  · refine ⟨?_, rfl, rfl, rfl, ?_, ?_⟩
    · rw [alignedData, hTimes]
      rfl
    · intro symbol hSymbol
      obtain ⟨candles, hCandles⟩ := hBasket.present symbol hSymbol
      rw [alignedData, hTimes]
      dsimp only
      rw [takeRows_of_mem hOnce hSymbol, hAligned.normalized, if_pos hSymbol, basketRows, hCandles,
        getD_some, getD_some]
      exact List.filterMap_congr fun time _ =>
        candleAt_windowCandles hBasket hSymbol hWindow hCandles time
    · intro symbol hAbsent
      exact takeRows_of_not_mem hAbsent

end Prepared

end AegisQuant.Research
