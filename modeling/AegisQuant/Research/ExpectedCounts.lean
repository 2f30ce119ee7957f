import AegisQuant.Market.ContinuityCounts
import AegisQuant.Market.DataGaps
import AegisQuant.Research.ClosedBasket

/-! How many candles a window should hold. The estimate and the continuity
report divide the length of the window, the coverage report counts aligned
slots, and the cross-asset run compares the candles that close in the window
with the estimate. -/
namespace AegisQuant.Research
open Market MaximalRuns Fallible SortByKey List Groups DateTime

section Counting
variable {interval : CandleInterval} {startTime endTime : DateTime}

theorem firstOpenTime_sub (interval : CandleInterval) (startTime : DateTime) :
    firstOpenTime interval startTime - startTime = -startTime % interval.duration := by
  obtain ⟨⟨index, hIndex⟩, hAfter, hNear⟩ := firstOpenTime_spec interval startTime
  have hWay : -startTime =
      firstOpenTime interval startTime - startTime + interval.duration * -index := by
    rw [hIndex]
    ring
  rw [hWay, Int.add_mul_emod_self_left]
  exact (Int.emod_eq_of_lt (Int.sub_nonneg_of_le hAfter) (Int.sub_left_lt_of_lt_add hNear)).symm

/-- Starting some way into a span costs no whole step exactly if there is none
or the rest of the span is as long as the way. -/
theorem toNat_ediv_sub_eq_iff {span way step : Int} (hStep : 0 < step) (hSpan : 0 ≤ span)
    (hWay : 0 ≤ way) (hShort : way < step) :
    (((span - way) / step).toNat : Int) = span / step ↔ span < step ∨ way ≤ span % step := by
  have hRest := Int.emod_lt_of_pos span hStep
  have hRestNonneg := Int.emod_nonneg span hStep.ne'
  have hWhole : 0 ≤ span / step := Int.ediv_nonneg hSpan hStep.le
  have hNone : span < step ↔ span / step < 1 := by
    rw [Int.ediv_lt_iff_lt_mul hStep, one_mul]
  have hParts : span - way = span % step - way + step * (span / step) := by
    have hDivision := Int.emod_add_mul_ediv span step
    linarith
  rw [hNone, hParts, Int.add_mul_ediv_left _ _ hStep.ne']
  by_cases hRoom : way ≤ span % step
  · have hZero : (span % step - way) / step = 0 :=
      Int.ediv_eq_zero_of_lt (Int.sub_nonneg_of_le hRoom) (by linarith)
    rw [hZero, zero_add, Int.toNat_of_nonneg hWhole]
    exact iff_of_true rfl (.inr hRoom)
  · have hLower : -1 ≤ (span % step - way) / step := by
      rw [Int.le_ediv_iff_mul_le hStep]
      linarith
    have hUpper : (span % step - way) / step < 0 := by
      rw [Int.ediv_lt_iff_lt_mul hStep]
      linarith
    have hMinus : (span % step - way) / step = -1 := by omega
    rw [hMinus, or_iff_left hRoom]
    omega

/-- The slots are as many as the whole intervals of the window, unless the way
to the first slot takes more than what is left over. -/
theorem slotCount_eq_iff (hWindow : startTime < endTime) :
    (slotCount interval startTime endTime : Int) = (endTime - startTime) / interval.duration ↔
      endTime - startTime < interval.duration ∨
        -startTime % interval.duration ≤ (endTime - startTime) % interval.duration := by
  have hStep := Market.duration_pos interval
  have hLength : endTime - firstOpenTime interval startTime =
      endTime - startTime - -startTime % interval.duration := by
    rw [← firstOpenTime_sub]
    ring
  rw [slotCount, hLength]
  exact toNat_ediv_sub_eq_iff hStep (Int.sub_nonneg_of_le hWindow.le)
    (Int.emod_nonneg _ hStep.ne') (Int.emod_lt_of_pos _ hStep)

theorem candlesBetween_eq (interval : CandleInterval) (hWindow : startTime < endTime) :
    interval.candlesBetween startTime endTime =
      if (endTime - startTime) / interval.duration < 2 ^ 31 then
        .ok ((endTime - startTime) / interval.duration)
      else .error .invalidCandleBackfillEstimate := by
  have hSpan : 0 ≤ endTime - startTime := Int.sub_nonneg_of_le hWindow.le
  have hMillis : 0 ≤ interval.duration / 1000000 := by
    cases interval <;> decide
  have hDuration : 1000000 * (interval.duration / 1000000) = interval.duration := by
    cases interval <;> rfl
  have hWhole : 0 ≤ (endTime - startTime) / interval.duration :=
    Int.ediv_nonneg hSpan (Market.duration_pos interval).le
  have hCount : ((endTime - startTime).tdiv 1000000).tdiv (interval.duration / 1000000) =
      (endTime - startTime) / interval.duration := by
    rw [Int.tdiv_eq_ediv_of_nonneg hSpan,
      Int.tdiv_eq_ediv_of_nonneg (Int.ediv_nonneg hSpan (by decide)),
      Int.ediv_ediv_of_nonneg (by decide), hDuration]
  rw [CandleInterval.candlesBetween, if_neg (not_le.mpr hWindow)]
  dsimp only
  rw [hCount]
  have hLow : -2 ^ 31 ≤ (endTime - startTime) / interval.duration := le_trans (by decide) hWhole
  simp only [hLow, true_and]

end Counting

section Windows
variable (interval : CandleInterval) (startTime endTime : DateTime)

/-- A candle of the window at every slot, and no other candles than closed ones
at aligned times. A last one may open in the window and close after it. -/
structure HoldsSlots (candles : List Candle) : Prop where
  canonical : ∀ candle ∈ candles, candle.interval = interval ∧ candle.isClosed = true ∧
    candle.closeTime = interval.bucketCloseTime candle.openTime
  aligned : ∀ candle ∈ candles, interval.duration ∣ candle.openTime
  inside : ∀ candle ∈ candles, startTime ≤ candle.openTime ∧ candle.openTime < endTime
  distinct : (candles.map (·.openTime)).Nodup
  present : ∀ time ∈ expectedCandleOpenTimes interval startTime endTime endTime,
    time ∈ candles.map (·.openTime)

/-- The three counts are the same, and where every slot has its candle no
report misses one: the last check of the cross-asset run, for the lookbacks,
is the only one that can fail. -/
structure ExpectedCountsAgree (now : DateTime) : Prop where
  counts : ∃ count, interval.candlesBetween startTime endTime = .ok count ∧
    countExpectedCandlesForWindow interval.numSeconds startTime endTime = count ∧
    ((expectedCandleOpenTimes interval startTime endTime now).length : Int) = count
  continuity : ∀ candles, HoldsSlots interval startTime endTime candles →
    ∀ (display : Decimal → String) (reportTime : DateTime) (request : MarketDataQualityRequest)
      (maxGapsReturned : Nat) (report : MarketDataQualityReport),
    request.startTime = startTime → request.endTime = endTime →
    request.intervalSeconds = interval.numSeconds →
    summarizeCandleContinuity display reportTime request candles maxGapsReturned = .ok report →
    report.missingCandleCount = 0 ∧ report.gapCount = 0
  coverage : ∀ candles, HoldsSlots interval startTime endTime candles →
    ∀ requiredCoveragePct, ∃ summary,
      summarizeCandleCoverage interval startTime endTime now requiredCoveragePct
        (candles.map (·.openTime)) = some summary ∧
      summary.actualCandles = summary.expectedCandles ∧ summary.missingRanges = []
  crossAsset : ∀ (request : CrossAssetResearchRequest) (symbols : List String)
      (candlesBySymbol : String → Option (List Candle)),
    request.startTime = startTime → request.endTime = endTime → symbols ≠ [] →
    (∀ symbol ∈ symbols, ∃ candles, candlesBySymbol symbol = some candles ∧
      HoldsSlots interval startTime endTime candles) →
    ∃ alignment expected,
      symbols.foldlM (alignSymbol request interval candlesBySymbol) ⟨none, fun _ => []⟩ =
        .ok alignment ∧
      interval.candlesBetween startTime endTime = .ok expected ∧
      ∀ requiredLookback holding,
        checkCoverage expected (interval.duration / 1000000000) requiredLookback holding
          (alignment.alignedTimes.getD []) =
        require (requiredLookback + holding + 1 < (alignment.alignedTimes.getD []).length)
          (.core (.invalidCrossAssetResearchRequest
            "not enough candles for requested lookback and holding period"))

/-- The estimate fits its width, the way to the first slot is not longer than
what is left over, and no candle that opens in the window closes in it less
than a slot after its opening would. -/
structure CountableWindow : Prop where
  estimate : (endTime - startTime) / interval.duration < 2 ^ 31
  edges : endTime - startTime < interval.duration ∨
    -startTime % interval.duration ≤ (endTime - startTime) % interval.duration
  lastClose : ∀ openTime, interval.duration ∣ openTime → startTime ≤ openTime →
    interval.bucketCloseTime openTime ≤ endTime → openTime + interval.duration ≤ endTime

end Windows

section Slots
variable {interval : CandleInterval} {startTime endTime now : DateTime} {candles : List Candle}

theorem expectedCandleOpenTimes_of_le (interval : CandleInterval) (startTime : DateTime)
    (hNow : endTime ≤ now) :
    expectedCandleOpenTimes interval startTime endTime now =
      progression interval.duration (slotCount interval startTime endTime)
        (firstOpenTime interval startTime) := by
  rw [expectedCandleOpenTimes_eq, min_eq_left hNow]

theorem lt_slot_slotCount (interval : CandleInterval) (startTime endTime : DateTime) :
    endTime < firstOpenTime interval startTime +
      ((slotCount interval startTime endTime : Int) + 1) * interval.duration := by
  have hStep := Market.duration_pos interval
  have hCount : (endTime - firstOpenTime interval startTime) / interval.duration <
      (slotCount interval startTime endTime : Int) + 1 := by
    have hSelf := Int.self_le_toNat
      ((endTime - firstOpenTime interval startTime) / interval.duration)
    exact Int.lt_add_one_iff.mpr hSelf
  have hSpan := (Int.ediv_lt_iff_lt_mul hStep).mp hCount
  linarith

theorem HoldsSlots.opens (hHolds : HoldsSlots interval startTime endTime candles) :
    ∃ count, slotCount interval startTime endTime ≤ count ∧
      (sort (·.openTime) candles).map (·.openTime) =
        progression interval.duration count (firstOpenTime interval startTime) := by
  have hStep := Market.duration_pos interval
  obtain ⟨hAligned, -, hNear⟩ := firstOpenTime_spec interval startTime
  have hAfterLast := lt_slot_slotCount interval startTime endTime
  have hPresent := hHolds.present
  rw [expectedCandleOpenTimes_of_le interval startTime le_rfl] at hPresent
  have hSorted : ((sort (·.openTime) candles).map (·.openTime)).Pairwise (· < ·) :=
    pairwise_map.mpr (strict_sort hHolds.distinct)
  have hSame : ∀ time, time ∈ (sort (·.openTime) candles).map (·.openTime) ↔
      time ∈ candles.map (·.openTime) :=
    fun time => ((perm_sort _ candles).map _).mem_iff
  -- an open time is a slot, or the one after the last slot
  have hIndex : ∀ time ∈ candles.map (·.openTime), ∃ i : Nat,
      i ≤ slotCount interval startTime endTime ∧
      time = firstOpenTime interval startTime + i * interval.duration := by
    intro time hTime
    obtain ⟨candle, hCandle, rfl⟩ := mem_map.mp hTime
    obtain ⟨index, hOffset⟩ := Int.dvd_sub (hHolds.aligned candle hCandle) hAligned
    obtain ⟨hStart, hEnd⟩ := hHolds.inside candle hCandle
    have hNonneg : -1 < index := by
      apply lt_of_mul_lt_mul_left _ hStep.le
      rw [← hOffset]
      linarith
    have hWithin : index < (slotCount interval startTime endTime : Int) + 1 := by
      apply lt_of_mul_lt_mul_right _ hStep.le
      rw [mul_comm index, ← hOffset]
      linarith
    refine ⟨index.toNat, by omega, ?_⟩
    rw [Int.toNat_of_nonneg (by omega), mul_comm index, ← hOffset]
    exact (add_sub_cancel _ _).symm
  by_cases hMore : firstOpenTime interval startTime +
      (slotCount interval startTime endTime : Nat) * interval.duration ∈ candles.map (·.openTime)
  · refine ⟨_, Nat.le_succ _, ?_⟩
    refine @SortByKey.eq_of_strict DateTime DateTime _ id _ _ (pairwise_progression hStep _ _)
      hSorted fun time => (hSame time).trans ?_
    constructor
    · intro hTime
      obtain ⟨i, hBound, rfl⟩ := hIndex time hTime
      exact mem_progression.mpr ⟨i, Nat.lt_succ_of_le hBound, rfl⟩
    · intro hTime
      obtain ⟨i, hBound, rfl⟩ := mem_progression.mp hTime
      rcases Nat.lt_or_eq_of_le (Nat.le_of_lt_succ hBound) with hBefore | rfl
      · exact hPresent _ (mem_progression.mpr ⟨i, hBefore, rfl⟩)
      · exact hMore
  · refine ⟨_, le_rfl, ?_⟩
    refine @SortByKey.eq_of_strict DateTime DateTime _ id _ _ (pairwise_progression hStep _ _)
      hSorted fun time => (hSame time).trans ⟨?_, hPresent time⟩
    intro hTime
    obtain ⟨i, hBound, rfl⟩ := hIndex time hTime
    rcases Nat.lt_or_eq_of_le hBound with hBefore | rfl
    · exact mem_progression.mpr ⟨i, hBefore, rfl⟩
    · exact absurd hTime hMore

theorem gaps_progression (step : Int) (count : Nat) (first : Int) :
    Gaps.gaps step (progression step count first) = [] := by
  induction count generalizing first with
  | zero => rfl
  | succ count ih =>
    cases count with
    | zero => rfl
    | succ count =>
      rw [progression, progression, Gaps.gaps, if_neg (lt_irrefl _)]
      exact ih (first + step)

theorem continuity_of_holdsSlots (hWindow : startTime < endTime)
    (hCount : (slotCount interval startTime endTime : Int) = (endTime - startTime) / interval.duration)
    (hHolds : HoldsSlots interval startTime endTime candles) {display : Decimal → String}
    {reportTime : DateTime} {request : MarketDataQualityRequest} {maxGapsReturned : Nat}
    {report : MarketDataQualityReport} (hStart : request.startTime = startTime)
    (hEnd : request.endTime = endTime) (hSeconds : request.intervalSeconds = interval.numSeconds)
    (hReport : summarizeCandleContinuity display reportTime request candles maxGapsReturned =
      .ok report) :
    report.missingCandleCount = 0 ∧ report.gapCount = 0 := by
  obtain ⟨count, hMore, hOpens⟩ := hHolds.opens
  have hPositive := numSeconds_pos interval
  have hClosed : (sort (·.openTime) candles).filter (·.isClosed) = sort (·.openTime) candles := by
    rw [filter_eq_self]
    intro candle hCandle
    exact (hHolds.canonical candle ((perm_sort _ candles).mem_iff.mp hCandle)).2.1
  have hNoGap : Gaps.gaps (seconds interval.numSeconds)
      ((sort (·.openTime) candles).map (·.openTime)) = [] := by
    rw [hOpens, numSeconds_mul]
    exact gaps_progression _ _ _
  have hTallied : Tallied .start [] 0 := ⟨rfl, rfl⟩
  have hRecorded : Recorded maxGapsReturned .start [] := ⟨take_nil.symm, rfl⟩
  have hTotal := (hTallied.foldl hPositive maxGapsReturned (sort (·.openTime) candles)).total
  have hGaps := (hRecorded.foldl hPositive (sort (·.openTime) candles)).gapCount
  rw [hNoGap] at hTotal hGaps
  unfold summarizeCandleContinuity at hReport
  obtain ⟨_, -, hReport⟩ := bind_eq_ok.mp hReport
  obtain ⟨_, -, hReport⟩ := bind_eq_ok.mp hReport
  obtain ⟨_, -, hReport⟩ := bind_eq_ok.mp hReport
  rw [← pure_eq_ok.mp hReport]
  dsimp only
  rw [hClosed, hSeconds, hStart, hEnd]
  refine ⟨?_, hGaps⟩
  have hLength : (sort (·.openTime) candles).length = count := by
    rw [← length_map (·.openTime), hOpens, length_progression]
  rw [countExpectedCandlesForWindow_of_pos hPositive hWindow, numSeconds_mul, ← hCount, hLength]
  refine (congrArg (max _) hTotal).trans (max_eq_right ?_)
  simpa using hMore

theorem coverage_of_holdsSlots (hNow : endTime ≤ now)
    (hHolds : HoldsSlots interval startTime endTime candles) (requiredCoveragePct : Decimal) :
    ∃ summary, summarizeCandleCoverage interval startTime endTime now requiredCoveragePct
        (candles.map (·.openTime)) = some summary ∧
      summary.actualCandles = summary.expectedCandles ∧ summary.missingRanges = [] := by
  have hPresent := hHolds.present
  rw [expectedCandleOpenTimes_of_le interval startTime le_rfl,
    ← expectedCandleOpenTimes_of_le interval startTime hNow] at hPresent
  have hSlots : (expectedCandleOpenTimes interval startTime endTime now).Pairwise (· < ·) := by
    rw [expectedCandleOpenTimes_eq]
    exact pairwise_progression (Market.duration_pos interval) _ _
  have hActual : (sort id (candles.map (·.openTime)).dedup).filter
      (· ∈ expectedCandleOpenTimes interval startTime endTime now) =
        expectedCandleOpenTimes interval startTime endTime now := by
    have hDistinct : ((candles.map (·.openTime)).dedup.map id).Nodup := by
      rw [map_id]
      exact nodup_dedup _
    have hStrict := strict_sort hDistinct
    refine @SortByKey.eq_of_strict DateTime DateTime _ id _ _ hSlots (hStrict.filter _) fun time => ?_
    rw [mem_filter, (perm_sort _ _).mem_iff, mem_dedup, decide_eq_true_iff]
    exact and_iff_right_of_imp (hPresent time)
  have hNone : (expectedCandleOpenTimes interval startTime endTime now).filter
      (isMissing (candles.map (·.openTime))) = [] := by
    rw [filter_eq_nil_iff]
    intro time hTime
    rw [isMissing, decide_eq_true_iff]
    exact not_not.mpr (hPresent time hTime)
  have hRuns : runs (isMissing (candles.map (·.openTime)))
      (expectedCandleOpenTimes interval startTime endTime now) = [] := by
    rw [← flatten_runs, flatten_eq_nil_iff] at hNone
    refine eq_nil_iff_forall_not_mem.mpr fun run hRun => ?_
    obtain ⟨_, _, -, hIsRun⟩ := isRun_of_mem hRun
    exact hIsRun.nonempty (hNone run hRun)
  unfold summarizeCandleCoverage
  rw [detectResearchDataGaps_eq, hRuns]
  dsimp only
  rw [hActual]
  exact ⟨_, rfl, rfl, rfl⟩

theorem bucketCloseTime_le {openTime limit : DateTime}
    (hFits : openTime + interval.duration ≤ limit) : interval.bucketCloseTime openTime ≤ limit :=
  (Int.sub_le_self _ (by decide)).trans hFits

variable {request : CrossAssetResearchRequest}

theorem openTimes_of_holdsSlots (hClose : CountableWindow interval startTime endTime)
    (hHolds : HoldsSlots interval startTime endTime candles)
    (hStart : request.startTime = startTime) (hEnd : request.endTime = endTime) :
    openTimes (windowCandles request interval candles) =
      progression interval.duration (slotCount interval startTime endTime)
        (firstOpenTime interval startTime) := by
  have hPresent := hHolds.present
  refine openTimes_eq (pairwise_progression (Market.duration_pos interval) _ _) fun time => ?_
  rw [← expectedCandleOpenTimes_of_le interval startTime le_rfl]
  constructor
  · intro hTime
    obtain ⟨candle, hCandle, rfl⟩ := mem_map.mp hTime
    obtain ⟨hSorted, hKept⟩ := mem_filter.mp hCandle
    have hMem := (perm_sort _ candles).mem_iff.mp hSorted
    obtain ⟨-, -, hCloses⟩ := hHolds.canonical candle hMem
    simp only [Bool.and_eq_true, decide_eq_true_eq] at hKept
    rw [hCloses, hEnd] at hKept
    have hAfter := (hHolds.inside candle hMem).1
    rw [mem_expectedCandleOpenTimes, min_self]
    exact ⟨hHolds.aligned candle hMem, hAfter,
      hClose.lastClose _ (hHolds.aligned candle hMem) hAfter hKept.2⟩
  · intro hTime
    obtain ⟨candle, hMem, rfl⟩ := mem_map.mp (hPresent time hTime)
    rw [mem_expectedCandleOpenTimes, min_self] at hTime
    obtain ⟨hInterval, hClosed, hCloses⟩ := hHolds.canonical candle hMem
    refine mem_map_of_mem (mem_filter.mpr ⟨(perm_sort _ candles).mem_iff.mpr hMem, ?_⟩)
    simp only [Bool.and_eq_true, decide_eq_true_eq]
    rw [hCloses, hStart, hEnd]
    exact ⟨⟨⟨hInterval, hClosed⟩, hTime.2.1⟩, bucketCloseTime_le hTime.2.2⟩

theorem checkCoverage_progression (interval : CandleInterval) (count : Nat) (first : DateTime)
    (requiredLookback holding : Nat) :
    checkCoverage count (interval.duration / 1000000000) requiredLookback holding
        (progression interval.duration count first) =
      require (requiredLookback + holding + 1 < (progression interval.duration count first).length)
        (.core (.invalidCrossAssetResearchRequest
          "not enough candles for requested lookback and holding period")) := by
  have hSpaced : ((progression interval.duration count first).zip
      (progression interval.duration count first).tail).all
        (fun pair => (pair.2 - pair.1).tdiv 1000000000 = interval.duration / 1000000000) = true := by
    rw [all_eq_true]
    intro pair hPair
    rw [sub_of_mem_zip_progression hPair, decide_eq_true_iff,
      Int.tdiv_eq_ediv_of_nonneg (Market.duration_pos interval).le]
  unfold checkCoverage
  rw [hSpaced, length_progression]
  simp only [decide_true]
  rfl

theorem crossAsset_of_holdsSlots (hClose : CountableWindow interval startTime endTime)
    {symbols : List String} {candlesBySymbol : String → Option (List Candle)}
    (hStart : request.startTime = startTime) (hEnd : request.endTime = endTime)
    (hSome : symbols ≠ [])
    (hHolds : ∀ symbol ∈ symbols, ∃ candles, candlesBySymbol symbol = some candles ∧
      HoldsSlots interval startTime endTime candles) :
    ∃ alignment, symbols.foldlM (alignSymbol request interval candlesBySymbol)
        ⟨none, fun _ => []⟩ = .ok alignment ∧
      alignment.alignedTimes.getD [] = progression interval.duration
        (slotCount interval startTime endTime) (firstOpenTime interval startTime) := by
  have hCommon : ∀ symbol ∈ symbols, ∃ candles, candlesBySymbol symbol = some candles ∧
      openTimes (windowCandles request interval candles) = progression interval.duration
        (slotCount interval startTime endTime) (firstOpenTime interval startTime) := by
    intro symbol hSymbol
    obtain ⟨candles, hCandles, hHas⟩ := hHolds symbol hSymbol
    exact ⟨candles, hCandles, openTimes_of_holdsSlots hClose hHas hStart hEnd⟩
  have hStart : (⟨none, fun _ => []⟩ : Alignment).alignedTimes = none ∧ symbols ≠ [] := ⟨rfl, hSome⟩
  obtain ⟨alignment, hFold, hTimes⟩ := foldlM_alignSymbol hCommon (.inr hStart)
  exact ⟨alignment, hFold, by rw [hTimes]; rfl⟩

end Slots

section Necessity
variable {interval : CandleInterval} {startTime endTime : DateTime}

def slotCandle (interval : CandleInterval) (openTime : DateTime) : Candle where
  symbol := .btcusdt
  interval := interval
  openTime := openTime
  closeTime := interval.bucketCloseTime openTime
  «open» := 1
  high := 1
  low := 1
  close := 1
  volume := 1
  quoteVolume := none
  tradeCount := 1
  isClosed := true

def windowRequest (startTime endTime : DateTime) : CrossAssetResearchRequest where
  symbols := ["BTCUSDT", "ETHUSDT"]
  timeframe := "4h"
  startTime := startTime
  endTime := endTime
  rankingLookbackHours := 24
  rankMetric := .rawReturn
  minTopReturnPct := 0
  minRankSpreadPct := 0
  holdingHours := 4
  feeBps := 0
  slippageBps := 0
  oneActivePosition := true
  sizingMode := .equalNotional
  minWeight := 1
  maxWeight := 1
  marketFilter := .none
  volFilter := .none
  overextensionFilter := .none
  exitRule := .fixedHold

variable {times : List DateTime}

/-- A candle at each of these times. -/
theorem holdsSlots_map (hAligned : ∀ time ∈ times, interval.duration ∣ time)
    (hInside : ∀ time ∈ times, startTime ≤ time ∧ time < endTime) (hDistinct : times.Nodup)
    (hPresent : ∀ time ∈ expectedCandleOpenTimes interval startTime endTime endTime, time ∈ times) :
    HoldsSlots interval startTime endTime (times.map (slotCandle interval)) := by
  have hOpens : (times.map (slotCandle interval)).map (·.openTime) = times := by
    rw [List.map_map]
    exact map_id times
  constructor
  case canonical =>
    rw [forall_mem_map]
    exact fun time _ => ⟨rfl, rfl, rfl⟩
  case aligned => rwa [forall_mem_map]
  case inside => rwa [forall_mem_map]
  case distinct => rwa [hOpens]
  case present => rwa [hOpens]

/-- The cross-asset run finds all of them that close in the window. -/
theorem length_openTimes_map (hDistinct : times.Nodup)
    (hAll : ∀ time ∈ times, startTime ≤ time ∧ interval.bucketCloseTime time ≤ endTime) :
    (openTimes (windowCandles (windowRequest startTime endTime) interval
      (times.map (slotCandle interval)))).length = times.length := by
  have hKept : ∀ time, time ∈ (windowCandles (windowRequest startTime endTime) interval
      (times.map (slotCandle interval))).map (·.openTime) ↔ time ∈ times := by
    intro time
    rw [mem_map]
    constructor
    · rintro ⟨candle, hCandle, rfl⟩
      obtain ⟨other, hOther, rfl⟩ := mem_map.mp
        ((perm_sort _ _).mem_iff.mp (mem_of_mem_filter hCandle))
      exact hOther
    · intro hTime
      refine ⟨slotCandle interval time, mem_filter.mpr
        ⟨(perm_sort _ _).mem_iff.mpr (mem_map_of_mem hTime), ?_⟩, rfl⟩
      simp only [Bool.and_eq_true, decide_eq_true_eq]
      exact ⟨⟨⟨rfl, rfl⟩, (hAll time hTime).1⟩, (hAll time hTime).2⟩
  have hKeys : (openTimes (windowCandles (windowRequest startTime endTime) interval
      (times.map (slotCandle interval)))).Pairwise (· < ·) := increasing_group _ _
  refine ((perm_ext_iff_of_nodup (hKeys.imp fun hBelow => hBelow.ne) hDistinct).mpr
    fun time => ?_).length_eq
  exact mem_keys_group.trans (hKept time)

theorem checkCoverage_ne {expected : Int} (hMore : (times.length : Int) ≠ expected) (interval : Int)
    (requiredLookback holding : Nat) :
    checkCoverage expected interval requiredLookback holding times ≠
      require (requiredLookback + holding + 1 < times.length)
        (.core (.invalidCrossAssetResearchRequest
          "not enough candles for requested lookback and holding period")) := by
  intro hSame
  unfold checkCoverage at hSame
  rw [decide_eq_false hMore] at hSame
  cases hRoom : decide (requiredLookback + holding + 1 < times.length) with
  | true =>
    rw [hRoom] at hSame
    cases hSame
  | false =>
    rw [hRoom] at hSame
    injection hSame with hFault
    injection hFault with hError
    injection hError with hText
    have hFirst := congrArg (fun text : String => text.toList.head?) hText
    simp [String.toList_append] at hFirst

theorem lastClose_of_crossAsset {now : DateTime}
    (hAgree : ExpectedCountsAgree interval startTime endTime now) (hNow : endTime ≤ now)
    {openTime : DateTime} (hAligned : interval.duration ∣ openTime) (hStart : startTime ≤ openTime)
    (hClose : interval.bucketCloseTime openTime ≤ endTime) : openTime + interval.duration ≤ endTime := by
  by_contra hLate
  have hSlots := expectedCandleOpenTimes_of_le interval startTime hNow
  have hMember : ∀ time, time ∈ expectedCandleOpenTimes interval startTime endTime now ↔
      interval.duration ∣ time ∧ startTime ≤ time ∧ time + interval.duration ≤ endTime := by
    intro time
    rw [mem_expectedCandleOpenTimes, min_eq_left hNow]
  have hNodup : (expectedCandleOpenTimes interval startTime endTime now).Nodup := by
    rw [hSlots]
    exact (pairwise_progression (Market.duration_pos interval) _ _).imp fun hBelow => hBelow.ne
  have hExtra : openTime ∉ expectedCandleOpenTimes interval startTime endTime now :=
    fun hMem => hLate ((hMember openTime).mp hMem).2.2
  have hOneMinute : seconds 60 ≤ interval.duration := by
    cases interval <;> decide
  have hBefore : openTime < endTime := by
    simp only [CandleInterval.bucketCloseTime, milliseconds] at hClose
    simp only [seconds] at hOneMinute
    linarith
  let times := expectedCandleOpenTimes interval startTime endTime now ++ [openTime]
  have hTimes : ∀ time, time ∈ times ↔
      time ∈ expectedCandleOpenTimes interval startTime endTime now ∨ time = openTime := by
    intro time
    rw [mem_append, mem_singleton]
  have hDistinct : times.Nodup := by
    refine nodup_append.mpr ⟨hNodup, nodup_singleton _, ?_⟩
    intro time hTime other hOther
    rw [mem_singleton.mp hOther]
    exact fun hSame => hExtra (hSame ▸ hTime)
  have hStep := Market.duration_pos interval
  have hAll : ∀ time ∈ times, interval.duration ∣ time ∧ startTime ≤ time ∧ time < endTime ∧
      interval.bucketCloseTime time ≤ endTime := by
    intro time hTime
    rcases (hTimes time).mp hTime with hSlot | rfl
    · obtain ⟨hGrid, hAfter, hFits⟩ := (hMember time).mp hSlot
      exact ⟨hGrid, hAfter, (Int.lt_add_of_pos_right _ hStep).trans_le hFits, bucketCloseTime_le hFits⟩
    · exact ⟨hAligned, hStart, hBefore, hClose⟩
  have hHolds : HoldsSlots interval startTime endTime (times.map (slotCandle interval)) := by
    refine holdsSlots_map (fun time hTime => (hAll time hTime).1)
      (fun time hTime => ⟨(hAll time hTime).2.1, (hAll time hTime).2.2.1⟩) hDistinct ?_
    intro time hTime
    rw [expectedCandleOpenTimes_of_le interval startTime le_rfl, ← hSlots] at hTime
    exact (hTimes time).mpr (.inl hTime)
  let request := windowRequest startTime endTime
  have hInside : ∀ time ∈ times, startTime ≤ time ∧ interval.bucketCloseTime time ≤ endTime :=
    fun time hTime => ⟨(hAll time hTime).2.1, (hAll time hTime).2.2.2⟩
  have hLength := length_openTimes_map hDistinct hInside
  obtain ⟨count, hEstimate, -, hCount⟩ := hAgree.counts
  obtain ⟨alignment, expected, hFold, hExpected, hCheck⟩ := hAgree.crossAsset request ["BTCUSDT"]
    (fun _ => some (times.map (slotCandle interval))) rfl rfl (cons_ne_nil _ _)
    (fun _ _ => ⟨_, rfl, hHolds⟩)
  have hCommon : ∀ symbol ∈ ["BTCUSDT"], ∃ candles,
      (fun _ => some (times.map (slotCandle interval))) symbol = some candles ∧
        openTimes (windowCandles request interval candles) =
          openTimes (windowCandles request interval (times.map (slotCandle interval))) :=
    fun _ _ => ⟨_, rfl, rfl⟩
  have hEmpty : (⟨none, fun _ => []⟩ : Alignment).alignedTimes = none ∧ ["BTCUSDT"] ≠ [] :=
    ⟨rfl, cons_ne_nil _ _⟩
  obtain ⟨final, hFinal, hAt⟩ := foldlM_alignSymbol hCommon (.inr hEmpty)
  have hSame : final = alignment := Except.ok.inj (hFinal.symm.trans hFold)
  have hWhole : expected = count := Except.ok.inj (hExpected.symm.trans hEstimate)
  rw [hSame] at hAt
  refine checkCoverage_ne ?_ _ 0 0 (hCheck 0 0)
  rw [hAt, Option.getD_some, hLength, length_append, length_singleton, hWhole, ← hCount]
  omega

end Necessity

/-- The three counts agree, and a window with a candle at every slot is
complete to all three reports, exactly in the countable windows. -/
theorem expected_counts_agree_iff (interval : CandleInterval) (startTime endTime now : DateTime)
    (hWindow : startTime < endTime) (hNow : endTime ≤ now) :
    ExpectedCountsAgree interval startTime endTime now ↔
      CountableWindow interval startTime endTime := by
  have hSlots := expectedCandleOpenTimes_of_le interval startTime hNow
  have hSeconds := countExpectedCandlesForWindow_of_pos (numSeconds_pos interval) hWindow
  rw [numSeconds_mul] at hSeconds
  constructor
  · intro hAgree
    obtain ⟨count, hEstimate, hReported, hCount⟩ := hAgree.counts
    rw [hSeconds] at hReported
    rw [hSlots, length_progression, ← hReported] at hCount
    constructor
    case estimate =>
      by_contra hLarge
      rw [candlesBetween_eq interval hWindow, if_neg hLarge] at hEstimate
      cases hEstimate
    case edges => exact (slotCount_eq_iff hWindow).mp hCount
    case lastClose =>
      exact fun openTime hAligned hStart hClose =>
        lastClose_of_crossAsset hAgree hNow hAligned hStart hClose
  · intro hCountable
    have hCount := (slotCount_eq_iff hWindow).mpr hCountable.edges
    have hEstimate := candlesBetween_eq interval hWindow
    rw [if_pos hCountable.estimate, ← hCount] at hEstimate
    constructor
    case counts => exact ⟨_, hEstimate, hSeconds.trans hCount.symm, by rw [hSlots, length_progression]⟩
    case continuity =>
      intro candles hHolds display reportTime request maxGapsReturned report hStart hEnd hSpacing hReport
      exact continuity_of_holdsSlots hWindow hCount hHolds hStart hEnd hSpacing hReport
    case coverage => exact fun candles hHolds => coverage_of_holdsSlots hNow hHolds
    case crossAsset =>
      intro request symbols candlesBySymbol hStart hEnd hSome hHolds
      obtain ⟨alignment, hFold, hTimes⟩ :=
        crossAsset_of_holdsSlots hCountable hStart hEnd hSome hHolds
      refine ⟨alignment, _, hFold, hEstimate, fun requiredLookback holding => ?_⟩
      rw [hTimes]
      exact checkCoverage_progression interval _ _ requiredLookback holding

/-- A day of hours from midnight to midnight. -/
theorem expected_counts_agree_day :
    ExpectedCountsAgree .oneHour 0 (seconds 86400) (seconds 86400) := by
  refine (expected_counts_agree_iff .oneHour 0 (seconds 86400) (seconds 86400)
    (by decide) le_rfl).mpr ⟨by decide, .inr (by decide), ?_⟩
  intro openTime hAligned hStart hClose
  have hDuration : CandleInterval.oneHour.duration = 3600000000000 := rfl
  simp only [CandleInterval.bucketCloseTime, milliseconds, seconds, hDuration]
    at hAligned hClose ⊢
  obtain ⟨index, rfl⟩ := hAligned
  unfold DateTime at *
  omega

/-- Five hours from half past on hold four slots. -/
theorem half_past_counts_differ :
    ¬∀ (interval : CandleInterval) (startTime endTime now : DateTime), startTime < endTime →
      endTime ≤ now → ExpectedCountsAgree interval startTime endTime now := by
  intro hAll
  have hAgree := hAll .oneHour (seconds 1800) (seconds 19800)
    (seconds 19800) (by decide) le_rfl
  obtain ⟨count, hEstimate, -, hCount⟩ := hAgree.counts
  rw [expectedCandleOpenTimes_of_le .oneHour _ le_rfl, length_progression] at hCount
  have hFive : CandleInterval.oneHour.candlesBetween (seconds 1800)
      (seconds 19800) = .ok 5 := by
    decide +kernel
  rw [hFive] at hEstimate
  obtain rfl := Except.ok.inj hEstimate
  revert hCount
  decide +kernel

end AegisQuant.Research
