import AegisQuant.Experiment.Overrides
import AegisQuant.Market.ContinuityCounts
import AegisQuant.Strategy.OpportunityCounts
import AegisQuant.Testnet.ShadowReadiness

/-! The gate in front of a shadow run. It lets a run go on if there are enough
candles, the last of them is recent, and no interval between them is left out.
The age of the last candle is measured in whole milliseconds. -/
namespace AegisQuant.Testnet
open Fallible Market Strategy List

/-- Each candle opens an interval after the one before it. -/
def Unbroken (timeframe : CandleInterval) (candles : List Candle) : Prop :=
  candles.IsChain fun previous next => next.openTime = previous.openTime + timeframe.duration

/-- What the gate is to ask of the candles, with the greatest age of the last
of them in nanoseconds. -/
structure FreshAndUnbroken (timeframe : CandleInterval) (config : StrategyConfig) (maxAge : Int)
    (evaluatedAt : DateTime) (candles : List Candle) : Prop where
  enough : requiredCandleCount config ≤ candles.length
  fresh : ∃ latest, candles.getLast? = some latest ∧ evaluatedAt - latest.closeTime ≤ maxAge
  unbroken : Unbroken timeframe candles

/-- The closed candles of a timeframe, each on its grid and later than the one
before. -/
structure OnTimeframe (timeframe : CandleInterval) (candles : List Candle) : Prop where
  closed : ∀ candle ∈ candles, candle.isClosed = true
  aligned : ∀ candle ∈ candles, timeframe.duration ∣ candle.openTime
  increasing : candles.Pairwise fun earlier later => earlier.openTime < later.openTime

section Gate
variable {timeframe : CandleInterval} {candles rest : List Candle} {first latest : Candle}

theorem OnTimeframe.sort_eq (hGrid : OnTimeframe timeframe candles) :
    SortByKey.sort (·.openTime) candles = candles :=
  SortByKey.sort_of_pairwise (hGrid.increasing.imp le_of_lt)

theorem OnTimeframe.filter_eq (hGrid : OnTimeframe timeframe candles) :
    candles.filter (·.isClosed) = candles :=
  filter_eq_self.mpr hGrid.closed

theorem OnTimeframe.tail (hGrid : OnTimeframe timeframe (first :: rest)) :
    OnTimeframe timeframe rest where
  closed := fun candle hCandle => hGrid.closed candle (mem_cons_of_mem _ hCandle)
  aligned := fun candle hCandle => hGrid.aligned candle (mem_cons_of_mem _ hCandle)
  increasing := (pairwise_cons.mp hGrid.increasing).2

theorem OnTimeframe.gaps_eq_nil_iff (hGrid : OnTimeframe timeframe candles) :
    Gaps.gaps timeframe.duration (candles.map (·.openTime)) = [] ↔ Unbroken timeframe candles := by
  rw [Gaps.gaps_eq_nil_iff, isChain_map, Unbroken]
  induction candles with
  | nil => exact iff_of_true .nil .nil
  | cons previous rest ih =>
    cases rest with
    | nil => exact iff_of_true (.singleton _) (.singleton _)
    | cons next rest =>
      rw [isChain_cons_cons, isChain_cons_cons, ih hGrid.tail]
      apply and_congr_left
      intro _
      have hLater : previous.openTime < next.openTime :=
        (pairwise_cons.mp hGrid.increasing).1 next mem_cons_self
      have hApart : timeframe.duration ∣ next.openTime - previous.openTime :=
        Int.dvd_sub (hGrid.aligned next (by simp)) (hGrid.aligned previous (by simp))
      constructor
      · intro hClose
        have hRoom : timeframe.duration ≤ next.openTime - previous.openTime :=
          Int.le_of_dvd (Int.sub_pos_of_lt hLater) hApart
        omega
      · exact fun hNext => hNext.le

theorem OnTimeframe.repeats_eq_zero (hGrid : OnTimeframe timeframe candles) :
    Gaps.repeats (candles.map (·.openTime)) = 0 := by
  have hIncreasing : (candles.map (·.openTime)).Pairwise (· < ·) :=
    pairwise_map.mpr hGrid.increasing
  have hRepeats := Gaps.repeats_eq (hIncreasing.imp le_of_lt)
  rw [dedup_eq_self.mpr (hIncreasing.imp ne_of_lt)] at hRepeats
  omega

/-- The last of unbroken candles opens as many intervals after the first as
there are candles between them. -/
theorem openTime_of_unbroken (hUnbroken : Unbroken timeframe (first :: rest))
    (hLatest : (first :: rest).getLast? = some latest) :
    latest.openTime = first.openTime + rest.length * timeframe.duration := by
  induction rest generalizing first with
  | nil =>
    cases hLatest
    simp
  | cons next rest ih =>
    obtain ⟨hNext, hRest⟩ := isChain_cons_cons.mp hUnbroken
    rw [getLast?_cons_cons] at hLatest
    rw [ih hRest hLatest, hNext, length_cons]
    push_cast
    rw [Int.add_mul, one_mul, Int.add_assoc, Int.add_comm timeframe.duration]

theorem OnTimeframe.first_le (hGrid : OnTimeframe timeframe (first :: rest))
    (hLatest : (first :: rest).getLast? = some latest) : first.openTime ≤ latest.openTime := by
  cases mem_cons.mp (mem_of_getLast? hLatest) with
  | inl hSame => rw [hSame]
  | inr hLater => exact ((pairwise_cons.mp hGrid.increasing).1 latest hLater).le

theorem validate_shadowQualityRequest {symbol : Symbol} (hOrder : first.openTime ≤ latest.openTime) :
    (shadowQualityRequest symbol timeframe first latest).validate = .ok () := by
  have hText : trim symbol.text ≠ "" := by
    rw [symbol.trim_text]
    exact symbol.nonempty
  have hWindow : ¬latest.openTime + timeframe.duration ≤ first.openTime :=
    not_le.mpr (lt_of_le_of_lt hOrder (Int.lt_add_of_pos_right _ (duration_pos timeframe)))
  unfold MarketDataQualityRequest.validate
  simp only [shadowQualityRequest, MarketDataQualityRequest.parsedInterval, if_neg hText,
    CandleInterval.fromStr_asStr, ok_bind, if_neg hWindow, if_neg (not_le.mpr (numSeconds_pos timeframe))]

variable {request : MarketDataQualityRequest}

/-- Without a limit for gaps, a report over candles blocks a run when they have
a gap, if they cover their window without one. -/
theorem continuityStatus_blocks_iff {scan : ContinuityScan} {actual opened expected : Int}
    {coveragePct gapPct : Decimal} (hActual : actual ≠ 0) (hExpected : expected ≠ 0)
    (hLimit : request.maxAllowedGapCount = some 0) (hLimitPct : request.maxAllowedGapPct = some 0)
    (hWhole : ¬0 < scan.gapCount →
      coveragePct = 100 ∧ gapPct = 0 ∧ scan.duplicateCount = 0 ∧ opened = 0) :
    (continuityStatus request scan actual opened expected coveragePct gapPct = .bad ∨
      continuityStatus request scan actual opened expected coveragePct gapPct = .degraded ∨
      continuityStatus request scan actual opened expected coveragePct gapPct = .insufficientData) ↔
      0 < scan.gapCount := by
  rw [continuityStatus, if_neg hActual, if_neg hExpected, hLimit, hLimitPct]
  by_cases hGap : 0 < scan.gapCount
  · refine iff_of_true ?_ hGap
    split
    · exact .inl rfl
    · rw [if_pos (.inr (.inl (by simpa using hGap)))]
      exact .inr (.inl rfl)
  · obtain ⟨rfl, rfl, hDuplicates, rfl⟩ := hWhole hGap
    rw [if_neg (by decide +kernel), if_neg (by simp [hGap, hDuplicates, not_lt]; decide +kernel)]
    simp [hGap]

theorem percentage_self {count : Int} (hCount : 0 < count) : percentage count count = 100 := by
  have hSome : (count : Decimal) ≠ 0 := Int.cast_ne_zero.mpr hCount.ne'
  rw [percentage, if_pos hCount, mul_div_cancel_left₀ _ hSome]

theorem slots_pos {step startTime latestTime : Int} (hStep : 0 < step)
    (hOrder : startTime ≤ latestTime) : 0 < (latestTime + step - startTime) / step :=
  (Int.le_ediv_iff_mul_le hStep).mpr (by omega)

theorem slots_eq {step startTime : Int} (hStep : 0 < step) (count : Nat) :
    (startTime + count * step + step - startTime) / step = (count + 1 : Nat) := by
  have hSpan : startTime + count * step + step - startTime = (count + 1 : Nat) * step := by
    push_cast
    rw [Int.add_mul]
    omega
  rw [hSpan, Int.mul_ediv_cancel _ hStep.ne']

theorem age_le_iff {age limit : Int} (hLimit : 0 ≤ limit) :
    age.tdiv 1000000 ≤ limit ↔ age ≤ DateTime.milliseconds limit + 999999 := by
  rw [DateTime.milliseconds]
  cases le_total 0 age with
  | inl hPast =>
    rw [Int.tdiv_eq_ediv_of_nonneg hPast]
    omega
  | inr hFuture =>
    have hCut : age.tdiv 1000000 ≤ Int.tdiv 0 1000000 := Int.tdiv_le_tdiv (by decide) hFuture
    rw [Int.zero_tdiv] at hCut
    omega

/-- The report over the candles of a run blocks it when they are broken. -/
theorem exists_shadowQuality (display : Decimal → String) (now : DateTime) {symbol : Symbol}
    (hGrid : OnTimeframe timeframe (first :: rest))
    (hLatest : (first :: rest).getLast? = some latest)
    (hRequest : request = shadowQualityRequest symbol timeframe first latest) :
    ∃ report, summarizeCandleContinuity display now request (first :: rest) 5 = .ok report ∧
      (report.status = .bad ∨ report.status = .degraded ∨ report.status = .insufficientData ↔
        ¬Unbroken timeframe (first :: rest)) := by
  have hSeconds : 0 < request.intervalSeconds := hRequest ▸ numSeconds_pos timeframe
  have hSlot : DateTime.seconds request.intervalSeconds = timeframe.duration :=
    hRequest ▸ numSeconds_mul timeframe
  have hValid : request.validate = .ok () :=
    hRequest ▸ validate_shadowQualityRequest (hGrid.first_le hLatest)
  have hStartTime : request.startTime = first.openTime := congrArg _ hRequest
  have hEndTime : request.endTime = latest.openTime + timeframe.duration := congrArg _ hRequest
  obtain ⟨⟨normalized, hSymbol⟩, ⟨interval, hInterval⟩, hWindow, -⟩ := parts_of_validate hValid
  have hFound : Recorded 5 .start [] := ⟨take_nil.symm, rfl⟩
  have hStart : Tallied .start [] 0 := ⟨rfl, rfl⟩
  have hGaps := (hFound.foldl hSeconds (first :: rest)).gapCount
  obtain ⟨hTotal, hDuplicates⟩ := hStart.foldl hSeconds 5 (first :: rest)
  rw [hSlot, nil_append] at hGaps hTotal
  have hScan : 0 < (scanContinuity request.intervalSeconds 5 (first :: rest)).gapCount ↔
      ¬Unbroken timeframe (first :: rest) := by
    rw [← hGrid.gaps_eq_nil_iff, scanContinuity, hGaps, length_map, Int.natCast_pos, length_pos_iff]
  have hExpected : countExpectedCandlesForWindow request.intervalSeconds request.startTime
      request.endTime = (latest.openTime + timeframe.duration - first.openTime) /
        timeframe.duration := by
    rw [countExpectedCandlesForWindow_of_pos hSeconds hWindow, hSlot, hStartTime, hEndTime]
  have hSome := slots_pos (duration_pos timeframe) (hGrid.first_le hLatest)
  simp only [summarizeCandleContinuity, hValid, hSymbol, hInterval, ok_bind, hGrid.sort_eq,
    hGrid.filter_eq]
  refine ⟨_, rfl, ?_⟩
  rw [← hScan]
  dsimp only
  apply continuityStatus_blocks_iff (Int.natCast_ne_zero.mpr (by simp))
    (hExpected ▸ hSome.ne') (hRequest ▸ rfl) (hRequest ▸ rfl)
  intro hNone
  have hUnbroken : Unbroken timeframe (first :: rest) := not_not.mp (mt hScan.mpr hNone)
  rw [hGrid.gaps_eq_nil_iff.mpr hUnbroken] at hTotal
  refine ⟨?_, ?_, ?_, Int.sub_self _⟩
  · rw [hExpected, openTime_of_unbroken hUnbroken hLatest,
      slots_eq (duration_pos timeframe) rest.length, length_cons, min_self,
      percentage_self (by simp)]
    decide +kernel
  · rw [scanContinuity, hTotal]
    simp [percentage]
  · rw [scanContinuity, hDuplicates, hGrid.repeats_eq_zero]
    rfl

/-- The gate lets a run go on for just the lists that are long enough, recent
and unbroken. -/
theorem shadow_candle_gate_exact (display : Decimal → String) (symbol : Symbol)
    (timeframe : CandleInterval) (config : StrategyConfig) (evaluatedAt : DateTime)
    (candles : List Candle) (hGrid : OnTimeframe timeframe candles) :
    ∃ blockReason, shadowCandleBlockReason display symbol timeframe config evaluatedAt candles =
        .ok blockReason ∧
      (blockReason = none ↔ FreshAndUnbroken timeframe config
        (DateTime.milliseconds (max config.maxSignalAgeMs (timeframe.duration / 1000000)) + 999999)
        evaluatedAt candles) := by
  have hLimit : 0 ≤ shadowCandleMaxAgeMs config timeframe :=
    le_max_of_le_right (Int.ediv_nonneg (duration_pos timeframe).le (by decide))
  unfold shadowCandleBlockReason
  split
  · rename_i hShort
    exact ⟨_, rfl, iff_of_false (by simp) fun hPasses => absurd hPasses.enough (not_le.mpr hShort)⟩
  · rename_i hEnough
    cases candles with
    | nil =>
      exact absurd (lt_of_lt_of_le (by decide) (two_le_requiredCandleCount config)) hEnough
    | cons first rest =>
      obtain ⟨latest, hLatest⟩ : ∃ latest, (first :: rest).getLast? = some latest :=
        ⟨_, getLast?_eq_some_getLast (cons_ne_nil first rest)⟩
      obtain ⟨report, hReport, hBlocks⟩ :=
        exists_shadowQuality display evaluatedAt hGrid hLatest rfl
      rw [head?_cons, hLatest]
      dsimp only
      rw [hReport]
      split
      · rename_i hStale
        refine ⟨_, rfl, iff_of_false (by simp) fun hPasses => ?_⟩
        obtain ⟨other, hOther, hFresh⟩ := hPasses.fresh
        cases hLatest.symm.trans hOther
        exact absurd ((age_le_iff hLimit).mpr hFresh) (not_le.mpr hStale)
      · rename_i hFresh
        show ∃ blockReason, (if report.status = .bad ∨ report.status = .degraded ∨
            report.status = .insufficientData then pure (some .dataStale) else pure none :
          Except Fault (Option TestnetShadowRejectionReason)) = .ok blockReason ∧ _
        split
        · rename_i hBroken
          exact ⟨_, rfl, iff_of_false (by simp) fun hPasses =>
            hBlocks.mp hBroken hPasses.unbroken⟩
        · rename_i hWhole
          exact ⟨_, rfl, iff_of_true rfl ⟨not_lt.mp hEnough,
            ⟨latest, hLatest, (age_le_iff hLimit).mp (not_lt.mp hFresh)⟩,
            not_not.mp (mt hBlocks.mpr hWhole)⟩⟩

end Gate

def sampleGateCandles : List Candle := (range 4).map fun i : Nat => sampleMinute (minutes i)

theorem onTimeframe_sample : OnTimeframe .oneMinute sampleGateCandles := by
  constructor
  · decide
  · decide
  · decide

theorem shadow_candle_gate_sample :
    ∃ blockReason, shadowCandleBlockReason (fun _ => "") .btcusdt .oneMinute
        Experiment.sampleBaseConfig (minutes 5) sampleGateCandles = .ok blockReason ∧
      (blockReason = none ↔ FreshAndUnbroken .oneMinute Experiment.sampleBaseConfig
        (DateTime.milliseconds (max 7200000 60000) + 999999) (minutes 5) sampleGateCandles) :=
  shadow_candle_gate_exact _ _ _ _ _ _ onTimeframe_sample

/-- Two hours and a nanosecond after its last candle a run goes on, although
its candles are to be at most two hours old. -/
theorem shadow_candle_gate_cuts_age : OnTimeframe .oneMinute sampleGateCandles ∧
    shadowCandleBlockReason (fun _ => "") .btcusdt .oneMinute Experiment.sampleBaseConfig
      (minutes 124 + 1) sampleGateCandles = .ok none ∧
    ¬FreshAndUnbroken .oneMinute Experiment.sampleBaseConfig
      (DateTime.milliseconds (max Experiment.sampleBaseConfig.maxSignalAgeMs
        (CandleInterval.oneMinute.duration / 1000000))) (minutes 124 + 1) sampleGateCandles := by
  refine ⟨onTimeframe_sample, toOption_eq_some.mp (by decide +kernel), fun hPasses => ?_⟩
  obtain ⟨latest, hLatest, hFresh⟩ := hPasses.fresh
  cases hLatest
  exact absurd hFresh (by decide +kernel)

end AegisQuant.Testnet
