import AegisQuant.Replay.CompressionFunnel
import AegisQuant.Replay.FeatureDecisions
import AegisQuant.Strategy.OpportunityCounts

/-! The funnel of the compression breakout against the strategy. Both read the
same windows. They take the percentile of the earlier ranges at different
ranks, the funnel looks at no average volume below zero, and it does not ask
whether the strategy runs under its configuration. -/
namespace AegisQuant.Replay

open Strategy Fallible List Option

section Conditions
variable (config : CompressionRefinementConfig) (candles : List Candle) (index : Nat)

/-- The average range of the candles that a breakout is to follow. -/
def recentRangePct : Decimal :=
  averageDecimal ((slice (index - config.compressionLookback) index candles).map
    Strategy.candleRangePct)

/-- The ranges of the candles before these, in ascending order. -/
def baselineRangePcts : List Decimal :=
  let baselineWindow := if 0 < config.breakoutLookback then
    slice (index - config.compressionLookback - config.breakoutLookback)
      (index - config.compressionLookback) candles
    else slice (index - config.compressionLookback) index candles
  (baselineWindow.map Strategy.candleRangePct).insertionSort (· ≤ ·)

def breakoutWindow : List Candle := slice (index - config.breakoutLookback) index candles

def averageVolume : Decimal :=
  averageDecimal ((breakoutWindow config candles index).map (·.volume))

def breakoutLevel (latest : Candle) : Decimal :=
  (highest (breakoutWindow config candles index)).getD latest.high

def rangeLow (latest : Candle) : Decimal :=
  (lowest (breakoutWindow config candles index)).getD latest.low

def CompressedTo (threshold rangePct : Decimal) : Prop := 0 < threshold ∧ rangePct ≤ threshold

instance (threshold rangePct : Decimal) : Decidable (CompressedTo threshold rangePct) :=
  inferInstanceAs (Decidable (_ ∧ _))

/-- What both ask of a candle besides the compression and the volume. -/
structure BreaksOut (latest : Candle) : Prop where
  aboveLevel : breakoutLevel config candles index latest < latest.close
  minBreakout : config.minBreakoutPct ≤
    pctChange latest.close (breakoutLevel config candles index latest)
  notOverextended : pctChange latest.close (breakoutLevel config candles index latest) ≤
    config.maxBreakoutExtensionPct
  minRangeWidth : config.minRangeWidthPct ≤
    pctChange (breakoutLevel config candles index latest) (rangeLow config candles index latest)
  maxRangeWidth :
    pctChange (breakoutLevel config candles index latest) (rangeLow config candles index latest) ≤
      config.maxRangeWidthPct
  bullish : latest.open < latest.close

/-- What the funnel asks of a candle with enough candles before it. -/
def FunnelPasses (latest : Candle) : Prop :=
  CompressedTo (decimalPercentile (baselineRangePcts config candles index)
      config.compressionPercentileThreshold) (recentRangePct config candles index) ∧
    BreaksOut config candles index latest ∧
    config.minVolumeExpansionRatio ≤ guardedVolumeRatio latest (averageVolume config candles index)

/-- What the strategy asks of it, with the same thresholds. -/
def StrategyPasses (latest : Candle) : Prop :=
  CompressedTo (percentile (baselineRangePcts config candles index)
      config.compressionPercentileThreshold) (recentRangePct config candles index) ∧
    BreaksOut config candles index latest ∧
    config.minVolumeExpansionRatio ≤ volumeRatio latest (averageVolume config candles index)

end Conditions

section Funnel
variable {config : CompressionRefinementConfig} {candles : List Candle} {index : Nat}
  {latest : Candle} {metrics : CompressionRefinementMetrics}

structure RefinementMeasured (config : CompressionRefinementConfig) (candles : List Candle)
    (index : Nat) (latest : Candle) (metrics : CompressionRefinementMetrics) : Prop where
  compressionPassed : metrics.compressionPassed = decide (CompressedTo
    (decimalPercentile (baselineRangePcts config candles index)
      config.compressionPercentileThreshold) (recentRangePct config candles index))
  breakoutLevel : metrics.breakoutLevel = breakoutLevel config candles index latest
  breakoutPct : metrics.breakoutPct =
    pctChange latest.close (Replay.breakoutLevel config candles index latest)
  volumeRatio : metrics.volumeRatio = guardedVolumeRatio latest (averageVolume config candles index)
  rangeWidthValid : metrics.rangeWidthValid = decide
    (pctChange (Replay.breakoutLevel config candles index latest)
        (rangeLow config candles index latest) ≥ config.minRangeWidthPct ∧
      pctChange (Replay.breakoutLevel config candles index latest)
        (rangeLow config candles index latest) ≤ config.maxRangeWidthPct)
  bullishCandle : metrics.bullishCandle = decide (latest.close > latest.open)

theorem calculateCompressionRefinementMetrics_recent (hLatest : candles[index]? = some latest)
    (hEnough : compressionRequiredCandles config ≤ index + 1) :
    ∃ metrics, calculateCompressionRefinementMetrics config (funnelWindow config candles index) =
        .ok metrics ∧ RefinementMeasured config candles index latest metrics := by
  have hIndex := (List.getElem?_eq_some_iff.mp hLatest).1
  obtain ⟨required, hRequired⟩ : ∃ count, compressionRequiredCandles config = count := ⟨_, rfl⟩
  have hCount : max (config.compressionLookback + config.breakoutLookback + 1) 2 = required := hRequired
  rw [hRequired] at hEnough
  have hLength : (slice (index + 1 - required) (index + 1) candles).length = required := by
    rw [length_slice hIndex]
    omega
  have hRead : readBehind 0 (slice (index + 1 - required) (index + 1) candles) = .ok latest :=
    readLatest_recent hLatest hEnough (by omega)
  have hRecent : slice (required - 1 - config.compressionLookback) (required - 1)
      (slice (index + 1 - required) (index + 1) candles) =
        slice (index - config.compressionLookback) index candles :=
    slice_recent hEnough (by omega) (by omega) (by omega)
  have hBaseline : slice (required - 1 - config.compressionLookback - config.breakoutLookback)
      (required - 1 - config.compressionLookback)
      (slice (index + 1 - required) (index + 1) candles) =
        slice (index - config.compressionLookback - config.breakoutLookback)
          (index - config.compressionLookback) candles :=
    slice_recent hEnough (by omega) (by omega) (by omega)
  have hWindow : slice (required - 1 - config.breakoutLookback) (required - 1)
      (slice (index + 1 - required) (index + 1) candles) = breakoutWindow config candles index :=
    slice_recent hEnough (by omega) (by omega) (by omega)
  have hOrder : required - 1 - config.compressionLookback >
      required - 1 - config.compressionLookback - config.breakoutLookback ↔
        0 < config.breakoutLookback := by omega
  simp only [calculateCompressionRefinementMetrics, funnelWindow, hRequired, hRead, ok_bind,
    hLength, hRecent, hBaseline, hWindow, hOrder, averageDecimalReplay_eq, candleRangePct_eq]
  exact ⟨_, rfl, rfl, rfl, rfl, rfl, rfl, rfl⟩

theorem finalWouldSignal_iff (hMeasured : RefinementMeasured config candles index latest metrics) :
    finalWouldSignal config latest metrics = true ↔ FunnelPasses config candles index latest := by
  simp only [FunnelPasses, finalWouldSignal, hMeasured.compressionPassed, hMeasured.rangeWidthValid,
    hMeasured.breakoutLevel, hMeasured.breakoutPct, hMeasured.volumeRatio, hMeasured.bullishCandle,
    Bool.and_eq_true, decide_eq_true_eq]
  constructor
  · rintro ⟨⟨⟨⟨⟨⟨hCompressed, hMinWidth, hMaxWidth⟩, hAbove⟩, hMin⟩, hMax⟩, hVolume⟩, hBullish⟩
    exact ⟨hCompressed, ⟨hAbove, hMin, hMax, hMinWidth, hMaxWidth, hBullish⟩, hVolume⟩
  · rintro ⟨hCompressed, hBreaks, hVolume⟩
    exact ⟨⟨⟨⟨⟨⟨hCompressed, hBreaks.minRangeWidth, hBreaks.maxRangeWidth⟩, hBreaks.aboveLevel⟩,
      hBreaks.minBreakout⟩, hBreaks.notOverextended⟩, hVolume⟩, hBreaks.bullish⟩

end Funnel

section Counts
variable {config : CompressionRefinementConfig} {candles : List Candle} {maxHolding index count : Nat}
  {feeDragPct : Decimal} {latest : Candle} {state next : FunnelState}
variable {metrics : CompressionRefinementMetrics}

/-- The candle at an index passes `final_would_signal`. -/
def wouldSignalAt (config : CompressionRefinementConfig) (candles : List Candle) (index : Nat) :
    Bool :=
  match candles[index]?, calculateCompressionRefinementMetrics config
    (funnelWindow config candles index) with
  | some latest, .ok metrics =>
    decide (compressionRequiredCandles config ≤ index + 1) && finalWouldSignal config latest metrics
  | _, _ => false

theorem wouldSignalAt_of_short (hShort : index + 1 < compressionRequiredCandles config) :
    wouldSignalAt config candles index = false := by
  unfold wouldSignalAt
  split
  · simp [hShort]
  · rfl

theorem wouldSignalAt_of_metrics (hLatest : candles[index]? = some latest)
    (hEnough : compressionRequiredCandles config ≤ index + 1)
    (hMetrics : calculateCompressionRefinementMetrics config (funnelWindow config candles index) =
      .ok metrics) :
    wouldSignalAt config candles index = finalWouldSignal config latest metrics := by
  simp [wouldSignalAt, hLatest, hMetrics, hEnough]

theorem wouldSignalAt_iff (hLatest : candles[index]? = some latest) :
    wouldSignalAt config candles index = true ↔
      compressionRequiredCandles config ≤ index + 1 ∧ FunnelPasses config candles index latest := by
  rcases lt_or_ge (index + 1) (compressionRequiredCandles config) with hShort | hEnough
  · rw [wouldSignalAt_of_short hShort]
    exact iff_of_false Bool.false_ne_true fun hConditions => absurd hConditions.1 (not_le.mpr hShort)
  · obtain ⟨metrics, hMetrics, hMeasured⟩ :=
      calculateCompressionRefinementMetrics_recent hLatest hEnough
    rw [wouldSignalAt_of_metrics hLatest hEnough hMetrics, finalWouldSignal_iff hMeasured,
      and_iff_right hEnough]

theorem passedCount_funnelSequence (stats : FunnelCondition → FunnelConditionStats)
    (executableSignal forwardPnlAvailable : Bool) :
    (Funnel.recordRow stats true (funnelSequence config latest metrics executableSignal
      forwardPnlAvailable) .finalWouldSignal).passedCount = (stats .finalWouldSignal).passedCount +
          if finalWouldSignal config latest metrics then 1 else 0 := by
  have hSplit : funnelSequence config latest metrics executableSignal forwardPnlAvailable =
      (funnelSequence config latest metrics executableSignal forwardPnlAvailable).take 7 ++
        (.finalWouldSignal, finalWouldSignal config latest metrics) ::
          [(.executableSignal, executableSignal), (.forwardPnlAvailable, forwardPnlAvailable)] := rfl
  have hBefore : ((funnelSequence config latest metrics executableSignal forwardPnlAvailable).take
      7).all (·.2) = finalWouldSignal config latest metrics := by
    simp only [funnelSequence, finalWouldSignal, take_succ_cons, take_zero, all_cons,
      all_nil, Bool.and_true, Bool.and_assoc]
  rw [hSplit, Funnel.passedCount_recordRow (by simp [funnelSequence]) (by simp), hBefore,
    Bool.true_and, Bool.and_self]

theorem funnelAt_finalWouldSignal (hLatest : candles[index]? = some latest) :
    ∃ next, funnelAt config candles maxHolding feeDragPct index latest state = .ok next ∧
      (next.stats .finalWouldSignal).passedCount = (state.stats .finalWouldSignal).passedCount +
        if wouldSignalAt config candles index then 1 else 0 := by
  have hOther (passed : Bool) :
      recordFunnelCondition state.stats .enoughData true passed .finalWouldSignal =
        state.stats .finalWouldSignal := Funnel.record_of_ne (by decide)
  rcases lt_or_ge (index + 1) (compressionRequiredCandles config) with hShort | hEnough
  · have hNotEnough : decide (index + 1 ≥ compressionRequiredCandles config) = false :=
      decide_eq_false (not_le.mpr hShort)
    simp only [funnelAt, hNotEnough, Bool.not_false, if_true, wouldSignalAt_of_short hShort]
    refine ⟨_, rfl, ?_⟩
    simp [hOther]
  · obtain ⟨metrics, hMetrics, -⟩ := calculateCompressionRefinementMetrics_recent hLatest hEnough
    simp only [funnelAt, decide_eq_true hEnough, Bool.not_true, Bool.false_eq_true, if_false, hMetrics,
      ok_bind, wouldSignalAt_of_metrics hLatest hEnough hMetrics]
    refine ⟨_, rfl, ?_⟩
    rw [passedCount_funnelSequence, hOther]

theorem exists_funnelTo_of_step {I : Nat → FunnelState → Prop} (hStart : I 0 .initial)
    (hStep : ∀ index latest state, candles[index]? = some latest → I index state →
      ∃ next, funnelAt config candles maxHolding feeDragPct index latest state = .ok next ∧
        I (index + 1) next)
    (hCount : count ≤ candles.length) :
    ∃ state, funnelTo config candles maxHolding feeDragPct count = .ok state ∧ I count state := by
  induction count with
  | zero => exact ⟨_, rfl, hStart⟩
  | succ earlier ih =>
    obtain ⟨state, hState, hHolds⟩ := ih (Nat.le_of_succ_le hCount)
    have hLatest : candles[earlier]? = some candles[earlier] := getElem?_eq_getElem hCount
    obtain ⟨next, hNext, hLater⟩ := hStep earlier _ state hLatest hHolds
    refine ⟨next, ?_, hLater⟩
    rw [funnelTo, range_succ, foldlM_append_eq_ok]
    refine ⟨state, hState, ?_⟩
    simp only [foldlM_cons, foldlM_nil, funnelStep, hLatest, hNext, ok_bind]
    rfl

theorem funnelTo_finalWouldSignal (hCount : count ≤ candles.length) :
    ∃ state, funnelTo config candles maxHolding feeDragPct count = .ok state ∧
      (state.stats .finalWouldSignal).passedCount =
        (range count).countP (wouldSignalAt config candles) := by
  apply exists_funnelTo_of_step (I := fun count state => (state.stats .finalWouldSignal).passedCount =
    (range count).countP (wouldSignalAt config candles)) rfl _ hCount
  intro index latest state hLatest hPassed
  have hStep : ∃ next, funnelAt config candles maxHolding feeDragPct index latest state = .ok next ∧
      (next.stats .finalWouldSignal).passedCount = (state.stats .finalWouldSignal).passedCount +
        if wouldSignalAt config candles index then 1 else 0 := funnelAt_finalWouldSignal hLatest
  obtain ⟨next, hNext, hCounted⟩ := hStep
  refine ⟨next, hNext, ?_⟩
  rw [hCounted, hPassed, range_succ, countP_append, countP_singleton]
  push_cast
  rfl

end Counts

section Prices
variable {config : CompressionRefinementConfig} {candles : List Candle} {latest : Candle}

section
variable (hPositive : ∀ candle ∈ candles, 0 < candle.high ∧ 0 < candle.low)
  (hMember : latest ∈ candles) (index : Nat)
include hPositive hMember

theorem breakoutLevel_pos : 0 < breakoutLevel config candles index latest := by
  obtain ⟨candle, hCandle, hHigh⟩ := exists_highest_eq hMember (index - config.breakoutLookback) index
  rw [breakoutLevel, breakoutWindow, hHigh]
  exact (hPositive candle hCandle).1

theorem rangeLow_pos : 0 < rangeLow config candles index latest := by
  obtain ⟨candle, hCandle, hLow⟩ := exists_lowest_eq hMember (index - config.breakoutLookback) index
  rw [rangeLow, breakoutWindow, hLow]
  exact (hPositive candle hCandle).2

end

end Prices

section Strategy
variable {signalId : Uuid} {context : StrategyEvaluationContext} {candles : List Candle} {index : Nat}
  {latest : Candle}

/-- The strategy can signal under its configuration. -/
structure StrategyRuns (config : StrategyConfig) : Prop where
  valid : config.validate = .ok ()
  enabled : config.enabled = true
  accepts : validateCompressionBreakoutConfig config = none
  confident : confidencePassed config (71 / 100)

theorem runnable_of_signals (hSignals : signals signalId context = true) :
    context.config.validate = .ok () ∧ context.config.enabled = true ∧
      context.config.strategyId = context.strategyId ∧ AcceptsOwnConfig context.config := by
  unfold signals at hSignals
  cases hEvaluate : evaluate strategyRules signalId context with
  | error fault =>
    rw [hEvaluate] at hSignals
    cases hSignals
  | ok result =>
    rw [hEvaluate] at hSignals
    have hGenerated : result.generated = true := hSignals
    obtain ⟨_, hValid, hRest⟩ := bind_eq_ok.mp hEvaluate
    rw [mapError_eq_ok] at hValid
    have hEnabled : context.config.enabled = true := by
      by_contra hDisabled
      rw [Bool.not_eq_true] at hDisabled
      split at hRest
      · cases hRest
      · simp only [pure_eq_ok] at hRest
        rw [← hRest] at hGenerated
        cases hGenerated
    obtain ⟨hId, decision, hDecision, hRead⟩ := exists_decision hEvaluate hEnabled
    refine ⟨hValid, hEnabled, hId, ?_⟩
    by_contra hProblem
    rw [← hId, strategyRules_of_not_acceptsOwnConfig hProblem] at hDecision
    cases hDecision
    exact (generated_iff_found hRead).mp hGenerated

variable {config : StrategyConfig}

/-- With positive prices the conditions of the strategy are those of the
funnel, but for the compression and the volume. -/
theorem compressionMeasured_passes_iff {metrics : CompressionBreakoutMetrics}
    (hMeasured : CompressionMeasured config candles index latest metrics)
    (hBreakout : 0 < breakoutLookback config) (hMinWidth : config.minRangeWidthPct.isSome)
    (hMaxWidth : config.maxRangeWidthPct.isSome)
    (hPositive : ∀ candle ∈ candles, 0 < candle.high ∧ 0 < candle.low)
    (hMember : latest ∈ candles) :
    ¬(!metrics.compressionPassed ∨ !metrics.rangeWidthWithinBounds ∨
        latest.close ≤ metrics.breakoutLevel ∨ metrics.breakoutPct < minBreakoutPct config ∨
        metrics.breakoutPct > maxBreakoutExtensionPct config ∨
        metrics.volumeRatio < minVolumeExpansionRatio config ∨ latest.close ≤ latest.open) ↔
      StrategyPasses (compressionRefinementConfigFromStrategy config) candles index latest := by
  let refined := compressionRefinementConfigFromStrategy config
  obtain ⟨minWidth, hMinWidth⟩ := isSome_iff_exists.mp hMinWidth
  obtain ⟨maxWidth, hMaxWidth⟩ := isSome_iff_exists.mp hMaxWidth
  have hLevel : 0 < breakoutLevel refined candles index latest := breakoutLevel_pos hPositive hMember _
  have hLow : 0 < rangeLow refined candles index latest := rangeLow_pos hPositive hMember _
  have hCompressed : metrics.compressionPassed = true ↔
      CompressedTo (percentile (baselineRangePcts refined candles index)
        refined.compressionPercentileThreshold) (recentRangePct refined candles index) := by
    rw [hMeasured.compressionPassed, decide_eq_true_eq, hMeasured.compressionThresholdRangePct,
      hMeasured.recentAvgRangePct, baselineRangePcts,
      if_pos (show 0 < refined.breakoutLookback from hBreakout)]
    rfl
  have hBreakoutPct : metrics.breakoutPct =
      pctChange latest.close (breakoutLevel refined candles index latest) := by
    rw [hMeasured.breakoutPct, hMeasured.breakoutLevel]
    exact ((guardedPct_eq_pctRatio_iff _ _).mpr (.inl hLevel.le)).symm
  have hWidth : metrics.rangeWidthPct = pctChange (breakoutLevel refined candles index latest)
      (rangeLow refined candles index latest) := by
    rw [hMeasured.rangeWidthPct, hMeasured.breakoutLevel]
    exact ((guardedPct_eq_pctRatio_iff _ _).mpr (.inl hLow.le)).symm
  have hRefinedMin : refined.minRangeWidthPct = minRangeWidthPct config := by
    simp [refined, compressionRefinementConfigFromStrategy, minRangeWidthPct, hMinWidth]
  have hRefinedMax : refined.maxRangeWidthPct = maxRangeWidthPct config := by
    simp [refined, compressionRefinementConfigFromStrategy, maxRangeWidthPct, hMaxWidth]
  have hLevelEq : metrics.breakoutLevel = breakoutLevel refined candles index latest :=
    hMeasured.breakoutLevel
  have hVolume : metrics.volumeRatio = volumeRatio latest (averageVolume refined candles index) :=
    hMeasured.volumeRatio
  rw [hMeasured.rangeWidthWithinBounds, hBreakoutPct, hWidth, hVolume, hLevelEq, ← hRefinedMin,
    ← hRefinedMax]
  simp only [not_or, Bool.not_eq_true', Bool.not_eq_false, not_le, not_lt, hCompressed,
    decide_eq_true_eq, gt_iff_lt]
  constructor
  · rintro ⟨hCompressed, ⟨hMinWidth, hMaxWidth⟩, hAbove, hMin, hMax, hVolume, hBullish⟩
    exact ⟨hCompressed, ⟨hAbove, hMin, hMax, hMinWidth, hMaxWidth, hBullish⟩, hVolume⟩
  · rintro ⟨hCompressed, hBreaks, hVolume⟩
    exact ⟨hCompressed, ⟨hBreaks.minRangeWidth, hBreaks.maxRangeWidth⟩, hBreaks.aboveLevel,
      hBreaks.minBreakout, hBreaks.notOverextended, hVolume, hBreaks.bullish⟩

section
variable (hId : config.strategyId = .volatilityCompressionBreakoutV1)
  (hConfig : context.config = config)
include hId hConfig

theorem compression_found_iff (hAccepts : validateCompressionBreakoutConfig config = none)
    (hMinWidth : config.minRangeWidthPct.isSome) (hMaxWidth : config.maxRangeWidthPct.isSome)
    (hPositive : ∀ candle ∈ candles, 0 < candle.high ∧ 0 < candle.low)
    (hLatest : candles[index]? = some latest) :
    ∃ decision, strategyRules .volatilityCompressionBreakoutV1 context (candles.take (index + 1)) =
        .ok decision ∧
      (Found config decision ↔ confidencePassed config (71 / 100) ∧
          compressionRequiredCandles (compressionRefinementConfigFromStrategy config) ≤ index + 1 ∧
          StrategyPasses (compressionRefinementConfigFromStrategy config) candles index latest) := by
  have hIndex := (List.getElem?_eq_some_iff.mp hLatest).1
  have hLength : (candles.take (index + 1)).length = index + 1 := by
    rw [length_take, Nat.min_eq_left hIndex]
  obtain ⟨hCompression, hBreakout⟩ := lookbacks_of_compressionConfig hAccepts
  have hRequired : requiredCandleCount config =
      compressionLookback config + breakoutLookback config + 1 := by
    simp only [requiredCandleCount, hId]
    omega
  have hFunnelRequired : compressionRequiredCandles (compressionRefinementConfigFromStrategy config) =
      compressionLookback config + breakoutLookback config + 1 := by
    rw [← hRequired]
    simp only [requiredCandleCount, hId]
    rfl
  rcases lt_or_ge (index + 1) (compressionLookback config + breakoutLookback config + 1) with
    hShort | hEnough
  · refine ⟨.noSignal .insufficientHistory, ?_, ?_⟩
    · simp only [strategyRules, evaluateVolatilityCompressionBreakout, hConfig, hAccepts,
        isSome_none, Bool.false_eq_true, if_false, hRequired, hLength, hShort, if_true]
      rfl
    · refine iff_of_false id fun hFound => ?_
      exact absurd (hFunnelRequired ▸ hFound.2.1) (not_le.mpr hShort)
  · obtain ⟨metrics, hMetrics, hMeasured⟩ := calculateCompressionBreakoutMetrics_recent hLatest
      (show compressionLookback config + breakoutLookback config ≤ index by omega) (by omega)
    have hRead : readBehind 0 (slice (index + 1 - (compressionLookback config + breakoutLookback config + 1))
        (index + 1) candles) = .ok latest := readLatest_recent hLatest hEnough (by omega)
    simp only [strategyRules, evaluateVolatilityCompressionBreakout, hConfig, hAccepts,
      isSome_none, Bool.false_eq_true, if_false, hRequired, hLength, not_lt.mpr hEnough,
      readLast_take hIndex hEnough, hRead, hMetrics, ok_bind]
    rw [← apply_ite pure]
    refine ⟨_, rfl, ?_⟩
    rw [found_ite, hFunnelRequired, and_iff_right hEnough, and_comm,
      compressionMeasured_passes_iff hMeasured (by omega) hMinWidth hMaxWidth hPositive
        (mem_of_getElem? hLatest)]

/-- The strategy signals on the candles up to an index if it can signal at all
and they pass its conditions. -/
theorem signals_compression_iff (hTarget : context.strategyId = config.strategyId)
    (hCandles : context.candles = candles.take (index + 1))
    (hNormal : normalizeClosedCandles (candles.take (index + 1)) = candles.take (index + 1))
    (hMinWidth : config.minRangeWidthPct.isSome) (hMaxWidth : config.maxRangeWidthPct.isSome)
    (hPositive : ∀ candle ∈ candles, 0 < candle.high ∧ 0 < candle.low)
    (hLatest : candles[index]? = some latest) :
    signals signalId context = true ↔ StrategyRuns config ∧
      compressionRequiredCandles (compressionRefinementConfigFromStrategy config) ≤ index + 1 ∧
      StrategyPasses (compressionRefinementConfigFromStrategy config) candles index latest := by
  by_cases hRunnable : config.validate = .ok () ∧ config.enabled = true ∧
      validateCompressionBreakoutConfig config = none
  · obtain ⟨hValid, hEnabled, hAccepts⟩ := hRunnable
    obtain ⟨decision, hDecision, hFound⟩ := compression_found_iff hId hConfig hAccepts hMinWidth
      hMaxWidth hPositive hLatest
    have hWindows : WindowsNonempty context.config := by
      rw [hConfig, WindowsNonempty, hId]
      trivial
    rw [signals_iff_found (hConfig ▸ hValid) (hTarget.trans (congrArg _ hConfig.symm)) hWindows
      (hConfig ▸ hEnabled) (by rw [hTarget, hId, hCandles, hNormal]; exact hDecision), hConfig, hFound]
    exact and_congr_left' ⟨fun hConfident => ⟨hValid, hEnabled, hAccepts, hConfident⟩,
      StrategyRuns.confident⟩
  · refine iff_of_false (fun hSignals => hRunnable ?_) fun hPasses => hRunnable
      ⟨hPasses.1.valid, hPasses.1.enabled, hPasses.1.accepts⟩
    obtain ⟨hValid, hEnabled, -, hAccepts⟩ := runnable_of_signals hSignals
    rw [hConfig] at hValid hEnabled hAccepts
    simp only [AcceptsOwnConfig, hId] at hAccepts
    exact ⟨hValid, hEnabled, hAccepts⟩

end

end Strategy

section Ranks
variable {sorted : List Decimal} {first second : Nat}

theorem getD_le_getD (hSorted : sorted.Pairwise (· ≤ ·)) (hRanks : first ≤ second)
    (hSecond : second < sorted.length) : sorted.getD first 0 ≤ sorted.getD second 0 := by
  rw [getD_eq_getElem?_getD, getD_eq_getElem?_getD, getElem?_eq_getElem hSecond,
    getElem?_eq_getElem (hRanks.trans_lt hSecond), getD_some, getD_some]
  rcases hRanks.eq_or_lt with rfl | hBelow
  · exact le_rfl
  · exact pairwise_iff_getElem.mp hSorted _ _ _ _ hBelow

theorem floor_le_roundDp (rank : Decimal) : rank.floor ≤ (roundDp 0 rank).floor := by
  simp only [roundDp, pow_zero, mul_one, div_one]
  split_ifs
  · exact (Rat.floor_intCast _).ge
  · exact (Int.le_add_one le_rfl).trans (Rat.floor_intCast _).ge
  · exact (Rat.floor_intCast _).ge
  · exact (Int.le_add_one le_rfl).trans (Rat.floor_intCast _).ge

theorem boundedRank_le {maxIndex : Nat} {pct : Decimal} (hRank : 0 ≤ maxIndex * pct / 100) :
    maxIndex * max 0 (min pct 100) / 100 ≤ maxIndex * pct / 100 := by
  rcases lt_or_ge pct 0 with hNegative | hNonneg
  · rw [max_eq_left ((min_le_left _ _).trans hNegative.le), mul_zero, zero_div]
    exact hRank
  · rw [max_eq_right (le_min hNonneg (by norm_num))]
    have hScaled : maxIndex * min pct 100 ≤ maxIndex * pct :=
      mul_le_mul_of_nonneg_left (min_le_left _ _) (Nat.cast_nonneg _)
    exact div_le_div_of_nonneg_right hScaled (by norm_num)

/-- The rank of the funnel is rounded down and its percentile bounded, so it is
not above that of the strategy. -/
theorem decimalPercentile_le_percentile (hSorted : sorted.Pairwise (· ≤ ·)) (pct : Decimal) :
    decimalPercentile sorted pct ≤ percentile sorted pct := by
  cases sorted with
  | nil => simp [decimalPercentile, percentile]
  | cons value rest =>
    have hInRange (rank : Nat) : min rank ((value :: rest).length - 1) < (value :: rest).length := by
      rw [length_cons]
      omega
    unfold decimalPercentile percentile
    apply getD_le_getD hSorted
    · split
      · exact min_le_right _ _
      · rename_i hRank
        have hBounded := Rat.floor_monotone (boundedRank_le (not_lt.mp hRank))
        exact min_le_min_right _ (Int.toNat_le_toNat (hBounded.trans (floor_le_roundDp _)))
    · split
      · exact Nat.sub_lt (Nat.succ_pos _) one_pos
      · exact hInRange _

/-- Where the rank of a percentile is rounded to its floor, both read the same
value. -/
theorem decimalPercentile_eq_percentile {maxIndex : Nat} {pct : Decimal}
    (hLength : sorted.length - 1 = maxIndex) (hPct : 0 ≤ pct ∧ pct ≤ 100)
    (hRank : (roundDp 0 (maxIndex * pct / 100)).floor = (maxIndex * pct / 100 : Decimal).floor) :
    decimalPercentile sorted pct = percentile sorted pct := by
  have hNonneg : ¬(maxIndex * pct / 100 : Decimal) < 0 :=
    not_lt.mpr (div_nonneg (mul_nonneg (Nat.cast_nonneg _) hPct.1) (by norm_num))
  simp only [decimalPercentile, percentile, hLength, min_eq_left hPct.2, max_eq_right hPct.1, hRank,
    if_neg hNonneg]

end Ranks

section Volume
variable {latest : Candle} {threshold average : Decimal}

theorem guardedVolume_expands_iff (hThreshold : 1 ≤ threshold) :
    threshold ≤ guardedVolumeRatio latest average ↔
      threshold ≤ volumeRatio latest average ∧ 0 ≤ average := by
  have hNotZero : ¬threshold ≤ 0 := not_le.mpr (zero_lt_one.trans_le hThreshold)
  unfold guardedVolumeRatio volumeRatio
  rcases lt_trichotomy average 0 with hNegative | rfl | hPositive
  · simp [hNotZero, hNegative.not_gt, hNegative.not_ge]
  · simp [hNotZero]
  · simp [hPositive, hPositive.ne', hPositive.le]

end Volume

/-- The counts of the funnel are those of the signals, after any number of
candles and in the row that is returned. -/
structure FunnelReproduces (config : CompressionRefinementConfig) (candles : List Candle)
    (holdingWindows : List Nat) (feeDragPct : Decimal) (signalled : Nat → Bool) : Prop where
  indices : ∀ count ≤ candles.length, ∀ state,
    funnelTo config candles (holdingWindows.max?.getD 20) feeDragPct count = .ok state →
      (state.stats .finalWouldSignal).passedCount = (range count).countP signalled
  total : ∃ breakdown bottleneck samples,
    buildCompressionRefinementFunnel candles config holdingWindows feeDragPct =
      .ok (breakdown, bottleneck, samples) ∧
    ∃ row ∈ breakdown, row.condition = "final_would_signal" ∧
      row.passedCount = (range candles.length).countP signalled

/-- Two conditions hold equally often up to every index precisely when they
hold at the same ones. -/
theorem countP_range_agree_iff {first second : Nat → Bool} {length : Nat} :
    (∀ count ≤ length, (range count).countP first = (range count).countP second) ↔
      ∀ index < length, first index = second index := by
  constructor
  · intro hCounts index hIndex
    have hBefore := hCounts index hIndex.le
    have hAfter := hCounts (index + 1) hIndex
    rw [range_succ, countP_append, countP_append, countP_singleton,
      countP_singleton, hBefore, Nat.add_right_inj] at hAfter
    cases hFirst : first index with
    | false =>
      cases hSecond : second index with
      | false => rfl
      | true => simp [hFirst, hSecond] at hAfter
    | true =>
      cases hSecond : second index with
      | false => simp [hFirst, hSecond] at hAfter
      | true => rfl
  · intro hSame count hCount
    refine countP_congr fun index hIndex => ?_
    rw [hSame index ((mem_range.mp hIndex).trans_le hCount)]

variable {candles : List Candle}

theorem funnelReproduces_iff {config : CompressionRefinementConfig} {holdingWindows : List Nat}
    {feeDragPct : Decimal} {signalled : Nat → Bool} :
    FunnelReproduces config candles holdingWindows feeDragPct signalled ↔
      ∀ index < candles.length, wouldSignalAt config candles index = signalled index := by
  have hRun (count : Nat) (hCount : count ≤ candles.length) :
      ∃ state, funnelTo config candles (holdingWindows.max?.getD 20) feeDragPct count = .ok state ∧
        (state.stats .finalWouldSignal).passedCount =
          (range count).countP (wouldSignalAt config candles) := funnelTo_finalWouldSignal hCount
  rw [← countP_range_agree_iff]
  constructor
  · intro hReproduces count hCount
    obtain ⟨state, hState, hCounted⟩ := hRun count hCount
    exact Int.ofNat.inj (hCounted.symm.trans (hReproduces.indices count hCount state hState))
  · intro hCounts
    refine ⟨fun count hCount state hState => ?_, ?_⟩
    · obtain ⟨_, hOther, hCounted⟩ := hRun count hCount
      cases hOther.symm.trans hState
      rw [hCounted, hCounts count hCount]
    · obtain ⟨state, hState, hCounted⟩ := hRun candles.length le_rfl
      have hBuild : buildCompressionRefinementFunnel candles config holdingWindows feeDragPct =
          .ok (compressionFunnelConditions.map (conditionBreakdown state.stats),
            topBottleneck (compressionFunnelConditions.map (conditionBreakdown state.stats)),
            state.samples) := by
        rw [buildCompressionRefinementFunnel, hState, ok_bind]
        rfl
      refine ⟨_, _, _, hBuild, conditionBreakdown state.stats .finalWouldSignal, ?_, rfl, ?_⟩
      · exact mem_map_of_mem (by decide)
      · rw [← hCounts _ le_rfl, ← hCounted]
        rfl

/-- The funnel judges a candle that breaks out as the strategy does: one whose
compression and volume the strategy accepts is compressed to the lower rank
too, and its average volume is not negative; and where the strategy cannot
signal at all, no candle is. -/
def JudgesAlike (config : StrategyConfig) (candles : List Candle) (index : Nat) (latest : Candle) :
    Prop :=
  let refined := compressionRefinementConfigFromStrategy config
  let rangePct := recentRangePct refined candles index
  let baseline := baselineRangePcts refined candles index
  let volume := averageVolume refined candles index
  (StrategyRuns config →
    CompressedTo (percentile baseline refined.compressionPercentileThreshold) rangePct →
    refined.minVolumeExpansionRatio ≤ volumeRatio latest volume →
      CompressedTo (decimalPercentile baseline refined.compressionPercentileThreshold) rangePct ∧
        0 ≤ volume) ∧
  (¬StrategyRuns config → refined.minVolumeExpansionRatio ≤ guardedVolumeRatio latest volume →
      ¬CompressedTo (decimalPercentile baseline refined.compressionPercentileThreshold) rangePct)

variable {config : StrategyConfig}

theorem volumeThreshold_of_compressionConfig
    (hAccepts : validateCompressionBreakoutConfig config = none) :
    1 ≤ minVolumeExpansionRatio config := by
  by_contra hLow
  rw [not_le] at hLow
  unfold validateCompressionBreakoutConfig at hAccepts
  simp only [if_pos hLow] at hAccepts
  split at hAccepts
  · cases hAccepts
  · split at hAccepts
    · cases hAccepts
    · split at hAccepts
      · cases hAccepts
      · cases hAccepts

theorem judgesAlike_iff {index : Nat} {latest : Candle} :
    (BreaksOut (compressionRefinementConfigFromStrategy config) candles index latest →
        JudgesAlike config candles index latest) ↔
      (FunnelPasses (compressionRefinementConfigFromStrategy config) candles index latest ↔
        StrategyRuns config ∧
          StrategyPasses (compressionRefinementConfigFromStrategy config) candles index latest) := by
  have hSorted : (baselineRangePcts (compressionRefinementConfigFromStrategy config) candles
      index).Pairwise (· ≤ ·) := pairwise_insertionSort _ _
  have hRanks := decimalPercentile_le_percentile hSorted
    (compressionRefinementConfigFromStrategy config).compressionPercentileThreshold
  unfold JudgesAlike FunnelPasses StrategyPasses
  by_cases hRuns : StrategyRuns config
  · have hThreshold : 1 ≤ (compressionRefinementConfigFromStrategy config).minVolumeExpansionRatio :=
      volumeThreshold_of_compressionConfig hRuns.accepts
    simp only [hRuns, true_imp_iff, not_true_eq_false, false_imp_iff, and_true, true_and,
      guardedVolume_expands_iff hThreshold]
    constructor
    · intro hJudges
      constructor
      · rintro ⟨⟨hPositive, hRange⟩, hBreaks, hVolume, -⟩
        exact ⟨⟨hPositive.trans_le hRanks, hRange.trans hRanks⟩, hBreaks, hVolume⟩
      · rintro ⟨hCompressed, hBreaks, hVolume⟩
        obtain ⟨hLower, hAverage⟩ := hJudges hBreaks hCompressed hVolume
        exact ⟨hLower, hBreaks, hVolume, hAverage⟩
    · intro hPasses hBreaks hCompressed hVolume
      obtain ⟨hLower, -, -, hAverage⟩ := hPasses.mpr ⟨hCompressed, hBreaks, hVolume⟩
      exact ⟨hLower, hAverage⟩
  · simp only [hRuns, false_imp_iff, not_false_eq_true, true_imp_iff, true_and, false_and, iff_false,
      not_and]
    exact ⟨fun hJudges hCompressed hBreaks hVolume => hJudges hBreaks hVolume hCompressed,
      fun hFails hBreaks hVolume hCompressed => hFails hCompressed hBreaks hVolume⟩

theorem normalizeClosedCandles_take_refinementCandles (candles : List Candle) (count : Nat) :
    normalizeClosedCandles ((refinementCandles candles).take count) =
      (refinementCandles candles).take count := by
  have hSorted : (candles.insertionSort (·.openTime ≤ ·.openTime)).Pairwise
      (·.openTime ≤ ·.openTime) := SortByKey.pairwise_sort Candle.openTime candles
  apply normalizeClosedCandles_of_closed
  · intro candle hCandle
    exact (mem_filter.mp (mem_of_mem_take hCandle)).2
  · exact hSorted.sublist ((take_sublist ..).trans filter_sublist)

/-- For a configuration with range widths and for any candles with positive
prices, the funnel counts the prefixes on which the strategy signals, one by
one, precisely when it judges every candle that breaks out alike. -/
theorem funnel_reproduces_strategy_iff {config : StrategyConfig} {candles : List Candle}
    (hId : config.strategyId = .volatilityCompressionBreakoutV1)
    (hMinWidth : config.minRangeWidthPct.isSome) (hMaxWidth : config.maxRangeWidthPct.isSome)
    (hPositive : ∀ candle ∈ candles, 0 < candle.high ∧ 0 < candle.low)
    {contexts : Nat → StrategyEvaluationContext}
    (hContexts : ∀ index, (contexts index).config = config ∧
      (contexts index).strategyId = config.strategyId ∧
      (contexts index).candles = (refinementCandles candles).take (index + 1))
    (drawn : Nat → Uuid) (holdingWindows : List Nat) (feeDragPct : Decimal) :
    FunnelReproduces (compressionRefinementConfigFromStrategy config) (refinementCandles candles)
        holdingWindows feeDragPct (fun index => signals (drawn index) (contexts index)) ↔
      ∀ index latest, (refinementCandles candles)[index]? = some latest →
        compressionRequiredCandles (compressionRefinementConfigFromStrategy config) ≤ index + 1 →
        BreaksOut (compressionRefinementConfigFromStrategy config) (refinementCandles candles) index
          latest →
        JudgesAlike config (refinementCandles candles) index latest := by
  have hRefined : ∀ candle ∈ refinementCandles candles, 0 < candle.high ∧ 0 < candle.low := by
    intro candle hCandle
    exact hPositive candle
      ((perm_insertionSort _ candles).mem_iff.mp (mem_filter.mp hCandle).1)
  have hAt (index : Nat) (latest : Candle) (hLatest : (refinementCandles candles)[index]? = some latest) :
      (wouldSignalAt (compressionRefinementConfigFromStrategy config) (refinementCandles candles)
          index = signals (drawn index) (contexts index)) ↔
        (compressionRequiredCandles (compressionRefinementConfigFromStrategy config) ≤ index + 1 →
          BreaksOut (compressionRefinementConfigFromStrategy config) (refinementCandles candles) index
            latest → JudgesAlike config (refinementCandles candles) index latest) := by
    obtain ⟨hConfig, hTarget, hCandles⟩ := hContexts index
    rw [Bool.eq_iff_iff, wouldSignalAt_iff hLatest, signals_compression_iff hId hConfig hTarget hCandles
      (normalizeClosedCandles_take_refinementCandles candles _) hMinWidth hMaxWidth hRefined hLatest,
      judgesAlike_iff, and_left_comm, and_congr_right_iff]
  rw [funnelReproduces_iff]
  constructor
  · intro hSame index latest hLatest
    exact (hAt index latest hLatest).mp (hSame index (List.getElem?_eq_some_iff.mp hLatest).1)
  · intro hJudges index hIndex
    have hLatest := getElem?_eq_getElem hIndex
    exact (hAt index _ hLatest).mpr (hJudges index _ hLatest)

/-- A configuration whose rank is rounded to its floor agrees on all candles
without negative volumes. -/
theorem judgesAlike_of_rank {index : Nat} {latest : Candle} (hRuns : StrategyRuns config)
    (hVolumes : ∀ candle ∈ candles, 0 ≤ candle.volume)
    (hPct : 0 ≤ compressionPercentileThreshold config ∧ compressionPercentileThreshold config ≤ 100)
    (hRank : (roundDp 0 ((breakoutLookback config - 1 : Nat) * compressionPercentileThreshold config /
      100)).floor = ((breakoutLookback config - 1 : Nat) * compressionPercentileThreshold config /
      100 : Decimal).floor) (hLatest : candles[index]? = some latest)
    (hEnough : compressionRequiredCandles (compressionRefinementConfigFromStrategy config) ≤
      index + 1) : JudgesAlike config candles index latest := by
  have hIndex := (List.getElem?_eq_some_iff.mp hLatest).1
  obtain ⟨-, hBreakout⟩ := lookbacks_of_compressionConfig hRuns.accepts
  have hLookbacks : compressionLookback config + breakoutLookback config + 1 ≤ index + 1 :=
    (le_max_left _ _).trans hEnough
  have hLength : (baselineRangePcts (compressionRefinementConfigFromStrategy config) candles
      index).length - 1 = breakoutLookback config - 1 := by
    have hWindow : (slice (index - compressionLookback config - breakoutLookback config)
        (index - compressionLookback config) candles).length = breakoutLookback config := by
      rw [length_slice (by omega)]
      omega
    rw [baselineRangePcts, if_pos (show 0 < (compressionRefinementConfigFromStrategy config).breakoutLookback
      from (by omega : 0 < breakoutLookback config)), length_insertionSort, length_map]
    exact congrArg (· - 1) hWindow
  refine ⟨fun _ hCompressed _ => ⟨?_, averageDecimal_map_nonneg hVolumes _ _⟩,
    fun hIdle => absurd hRuns hIdle⟩
  exact (decimalPercentile_eq_percentile hLength hPct hRank).symm ▸ hCompressed

section Sample

def sampleCompressionRequest (breakoutLookbackCandles : Nat) : StrategyConfigUpdateRequest :=
  { samplePullbackRequest with
    strategyId := "volatility_compression_breakout_v1"
    compressionLookbackCandles := some 2
    breakoutLookbackCandles := some breakoutLookbackCandles }

def sampleCompressionConfig (breakoutLookbackCandles : Nat) : StrategyConfig :=
  normalizedConfig .volatilityCompressionBreakoutV1
    (sampleCompressionRequest breakoutLookbackCandles) sampleValidation

def sampleRangeCandle (minute : Int) (rangePct : Decimal) : Candle :=
  { sampleCandle minute 100 with high := 100 + rangePct, low := 100 }

/-- Ranges of one percent but for the first, two calmer candles and a breakout
on twice the volume. -/
def sampleBreakout (earlier : Nat) : List Candle :=
  sampleRangeCandle 0 (1 / 2) :: (range earlier).map (fun index => sampleRangeCandle (index + 1) 1) ++
    [sampleRangeCandle (earlier + 1) (8 / 10), sampleRangeCandle (earlier + 2) (8 / 10),
      { sampleRangeCandle (earlier + 3) (16 / 10) with close := 1015 / 10, volume := 2 }]

def samplePrefix (breakoutLookbackCandles earlier index : Nat) : StrategyEvaluationContext where
  correlationId := ⟨1⟩
  strategyId := .volatilityCompressionBreakoutV1
  symbol := .btcusdt
  config := sampleCompressionConfig breakoutLookbackCandles
  candles := (refinementCandles (sampleBreakout earlier)).take (index + 1)
  evaluatedAt := DateTime.seconds 600

theorem sampleCompressionConfig_runs : StrategyRuns (sampleCompressionConfig 5) where
  valid := by with_unfolding_all rfl
  enabled := rfl
  accepts := by decide +kernel
  confident := by decide +kernel

/-- A quarter of the way through five ranges is the second of them. -/
theorem funnel_reproduces_strategy_sample :
    FunnelReproduces (compressionRefinementConfigFromStrategy (sampleCompressionConfig 5))
        (refinementCandles (sampleBreakout 4)) [5] 0
        (fun index => signals ⟨1⟩ (samplePrefix 5 4 index)) ∧
      signals ⟨1⟩ (samplePrefix 5 4 7) = true := by
  have hPositive : ∀ candle ∈ sampleBreakout 4, 0 < candle.high ∧ 0 < candle.low := by
    decide +kernel
  have hContexts (index : Nat) : (samplePrefix 5 4 index).config = sampleCompressionConfig 5 ∧
      (samplePrefix 5 4 index).strategyId = (sampleCompressionConfig 5).strategyId ∧
      (samplePrefix 5 4 index).candles = (refinementCandles (sampleBreakout 4)).take (index + 1) :=
    ⟨rfl, rfl, rfl⟩
  refine ⟨(funnel_reproduces_strategy_iff rfl rfl rfl hPositive hContexts (fun _ => ⟨1⟩) [5] 0).mpr ?_,
    by decide +kernel⟩
  intro index latest hLatest hEnough _
  exact judgesAlike_of_rank sampleCompressionConfig_runs (by decide +kernel) (by decide +kernel)
    (by decide +kernel) hLatest hEnough

/-- A quarter of the way through four ranges the strategy reads the second of
them and the funnel the first. -/
theorem funnel_misses_breakout :
    ¬∀ request validation validatedAt (config : StrategyConfig) (candles : List Candle)
        (contexts : Nat → StrategyEvaluationContext) (drawn : Nat → Uuid) holdingWindows feeDragPct,
      (validateStrategyConfig request validation validatedAt).normalizedConfig = some config →
      config.strategyId = .volatilityCompressionBreakoutV1 →
      (config.compressionPercentileThreshold.isSome ∧ config.minBreakoutPct.isSome ∧
        config.maxBreakoutExtensionPct.isSome ∧ config.minVolumeExpansionRatio.isSome ∧
        config.minRangeWidthPct.isSome ∧ config.maxRangeWidthPct.isSome) →
      (∀ candle ∈ candles, candle.isClosed = true) → (candles.map (·.openTime)).Nodup →
      (∀ candle ∈ candles, 0 < candle.open ∧ 0 < candle.high ∧ 0 < candle.low ∧ 0 < candle.close) →
      (∀ index, (contexts index).config = config ∧ (contexts index).strategyId = config.strategyId ∧
        (contexts index).candles = (refinementCandles candles).take (index + 1)) →
      FunnelReproduces (compressionRefinementConfigFromStrategy config) (refinementCandles candles)
        holdingWindows feeDragPct (fun index => signals (drawn index) (contexts index)) := by
  intro hReproduces
  have hConfig : (validateStrategyConfig (sampleCompressionRequest 4) sampleValidation
      0).normalizedConfig = some (sampleCompressionConfig 4) := by with_unfolding_all rfl
  have hSample := hReproduces _ _ _ (sampleCompressionConfig 4) (sampleBreakout 3) (samplePrefix 4 3)
    (fun _ => ⟨1⟩) [5] 0 hConfig rfl (by decide +kernel) (by decide +kernel) (by decide +kernel)
    (by decide +kernel) fun _ => ⟨rfl, rfl, rfl⟩
  have hSignals : signals ⟨1⟩ (samplePrefix 4 3 6) = true := by decide +kernel
  have hMissed : wouldSignalAt (compressionRefinementConfigFromStrategy (sampleCompressionConfig 4))
      (refinementCandles (sampleBreakout 3)) 6 = false := by decide +kernel
  have hSame := funnelReproduces_iff.mp hSample 6 (by decide +kernel)
  rw [hMissed, hSignals] at hSame
  cases hSame

end Sample

end AegisQuant.Replay
