import AegisQuant.Replay.CashConservation
import AegisQuant.Replay.SignalFeatures
import AegisQuant.Strategy.Ranges
import AegisQuant.Strategy.RecentCandles
import AegisQuant.Strategy.SourceCandle
import Mathlib.Algebra.Order.BigOperators.Group.List
import Mathlib.Algebra.Order.Field.Basic
import Mathlib.Tactic.FieldSimp
import Mathlib.Tactic.Linarith

/-! Whether the features of a signal are those that the strategy decided on.
The windows are the same. The guards differ for what is not positive, and so do
three lookbacks: the defaults of two that may be absent, and the reach of an
average that the strategy takes of its recent candles only. -/
namespace AegisQuant.Replay

open Strategy Fallible List Option

/-- What a strategy measures for its decision on the closed candles, under the
names of the features. -/
def decisionMetrics (config : StrategyConfig) (closed : List Candle) :
    Except Fault (List (String × Decimal)) :=
  match config.strategyId with
  | .trendFilterMomentumV2 => do
      let latest ← readBehind 0 closed
      let trendWindow ← readBeforeLast (trendLookback config) closed
      let sma := averageDecimal (trendWindow.map (·.close))
      let momentumReference ← readBehind (momentumLookback config) closed
      return [("close_vs_sma_pct", pctRatio (latest.close - sma) sma), ("momentum_return_pct",
          pctRatio (latest.close - momentumReference.close) momentumReference.close)]
  | .volatilityCompressionBreakoutV1 => do
      let recent ← readLast (requiredCandleCount config) closed
      let metrics ← calculateCompressionBreakoutMetrics config recent
      return [("compression_ratio", metrics.compressionRatio), ("breakout_pct", metrics.breakoutPct),
        ("volume_ratio", metrics.volumeRatio)]
  | .trendPullbackContinuationV1 => do
      let recent ← readLast (requiredCandleCount config) closed
      let metrics ← calculateTrendPullbackMetrics config recent
      return [("trend_return_pct", metrics.trendReturnPct),
        ("pullback_depth_pct", metrics.pullbackDepthPct),
        ("close_vs_sma_pct", metrics.closeVsSmaPct), ("volume_ratio", metrics.volumeRatio),
        ("choppiness", metrics.choppiness)]
  | .failedBreakdownReclaimV1 => do
      let recent ← readLast (requiredCandleCount config) closed
      let metrics ← calculateFailedBreakdownReclaimMetrics config recent
      return [("breakdown_pct", metrics.breakdownPct), ("volume_ratio", metrics.volumeRatio),
        ("close_vs_sma_pct", metrics.closeVsSmaPct)]
  | _ => return []

/-- Each feature of a signal at `latest` that the strategy also measured for
its decision has the value it had there. -/
def FeaturesAgree (config : StrategyConfig) (candles : List Candle) (index : Nat) (latest : Candle) :
    Prop :=
  ∀ decided, decisionMetrics config (normalizeClosedCandles (candles.take (index + 1))) = .ok decided →
    ∀ metric ∈ extractSignalFeatureMetrics config.strategyId config candles index latest,
      ∀ value, (metric.featureName, value) ∈ decided → metric.value = value

section Guards

/-- A ratio for which it makes no difference to ask for a positive
denominator. -/
def NeedsNoGuard (numerator denominator : Decimal) : Prop := 0 ≤ denominator ∨ numerator = 0

theorem guardedPct_eq_pctRatio_iff (numerator denominator : Decimal) :
    guardedPct numerator denominator = pctRatio numerator denominator ↔
      NeedsNoGuard numerator denominator := by
  unfold guardedPct pctRatio NeedsNoGuard
  rcases lt_trichotomy denominator 0 with hNegative | rfl | hPositive
  · have hRatio : numerator / denominator * 100 = 0 ↔ numerator = 0 := by
      simp [hNegative.ne]
    rw [if_neg (not_lt.mpr hNegative.le), if_neg hNegative.ne, eq_comm, hRatio]
    exact (or_iff_right (not_le.mpr hNegative)).symm
  · simp
  · simp [hPositive, hPositive.ne', hPositive.le]

theorem guardedVolumeRatio_eq_iff (latest : Candle) (averageVolume : Decimal) :
    guardedVolumeRatio latest averageVolume = volumeRatio latest averageVolume ↔
      NeedsNoGuard latest.volume averageVolume := by
  unfold guardedVolumeRatio volumeRatio NeedsNoGuard
  rcases lt_trichotomy averageVolume 0 with hNegative | rfl | hPositive
  · have hRatio : latest.volume / averageVolume = 0 ↔ latest.volume = 0 := by
      simp [hNegative.ne]
    rw [if_neg (not_lt.mpr hNegative.le), if_neg hNegative.ne, eq_comm, hRatio]
    exact (or_iff_right (not_le.mpr hNegative)).symm
  · simp
  · simp [hPositive, hPositive.ne', hPositive.le]

def SameReturn (close reference other : Decimal) : Prop :=
  if 0 < reference then
    if other = 0 then close = reference else reference = other ∨ close = 0
  else other = 0 ∨ close = other

theorem pctChange_eq_pctRatio_iff (close reference other : Decimal) :
    pctChange close reference = pctRatio (close - other) other ↔
      SameReturn close reference other := by
  unfold pctChange guardedPct pctRatio SameReturn
  by_cases hReference : 0 < reference
  · by_cases hOther : other = 0
    · simp [hReference, hOther, hReference.ne', sub_eq_zero]
    · have hSplit (divisor : Decimal) (hDivisor : divisor ≠ 0) :
          (close - divisor) / divisor * 100 = (close / divisor - 1) * 100 := by
        rw [sub_div, div_self hDivisor]
      simp only [gt_iff_lt, hReference, if_true, hOther, if_false, hSplit _ hReference.ne',
        hSplit _ hOther]
      rw [mul_left_inj' (by norm_num), sub_left_inj, div_eq_div_iff hReference.ne' hOther,
        mul_eq_mul_left_iff, eq_comm]
  · by_cases hOther : other = 0
    · simp [hReference, hOther]
    · have hRatio : (close - other) / other * 100 = 0 ↔ close = other := by
        simp [hOther, sub_eq_zero]
      simp only [gt_iff_lt, hReference, if_false, hOther, false_or]
      rw [eq_comm, hRatio]

/-- On one and the same reference the guard alone can make a difference. -/
theorem sameReturn_self (close reference : Decimal) :
    SameReturn close reference reference ↔ NeedsNoGuard (close - reference) reference := by
  rw [← pctChange_eq_pctRatio_iff, ← guardedPct_eq_pctRatio_iff]
  rfl

theorem averageDecimalReplay_eq (values : List Decimal) :
    averageDecimalReplay values = averageDecimal values := by
  unfold averageDecimalReplay averageDecimal
  cases values with
  | nil => rfl
  | cons value rest =>
    have hLength : (0 : Decimal) < ((value :: rest).length : Decimal) :=
      Nat.cast_pos.mpr (Nat.succ_pos _)
    rw [if_pos hLength]
    rfl

theorem averageDecimal_insertionSort (values : List Decimal) :
    averageDecimal (values.insertionSort (· ≤ ·)) = averageDecimal values := by
  have hPerm := perm_insertionSort (· ≤ ·) values
  simp only [averageDecimal, hPerm.isEmpty_eq, hPerm.sum_eq, hPerm.length_eq]

theorem candleRangePct_eq : candleRangePct = Strategy.candleRangePct := rfl

theorem trendEfficiency_eq (close firstClose rangeSum : Decimal) :
    (if rangeSum > 0 then max 0 (min (|close - firstClose| / rangeSum * 100) 100) else 0) =
      if rangeSum = 0 then 0 else max 0 (min (|close - firstClose| / rangeSum * 100) 100) := by
  rcases lt_trichotomy rangeSum 0 with hNegative | rfl | hPositive
  · have hRatio : |close - firstClose| / rangeSum * 100 ≤ 0 :=
      mul_nonpos_of_nonpos_of_nonneg (div_nonpos_of_nonneg_of_nonpos (abs_nonneg _) hNegative.le)
        (by norm_num)
    rw [if_neg (not_lt.mpr hNegative.le), if_neg hNegative.ne,
      max_eq_left ((min_le_left _ _).trans hRatio)]
  · simp
  · rw [if_pos hPositive, if_neg hPositive.ne']

end Guards

section Reads
variable {config : StrategyConfig} {candles : List Candle} {index : Nat} {latest : Candle}

theorem normalizeClosedCandles_of_closed (hClosed : ∀ candle ∈ candles, candle.isClosed = true)
    (hSorted : candles.Pairwise (·.openTime ≤ ·.openTime)) : normalizeClosedCandles candles = candles := by
  rw [normalizeClosedCandles, filter_eq_self.mpr hClosed]
  exact hSorted.insertionSort_eq

/-- Whether the trend filter reads what it decided on: where anything is
extracted, the reference of the momentum return is the strategy's. -/
def TrendFilterReads (config : StrategyConfig) (candles : List Candle) (index : Nat)
    (latest : Candle) : Prop :=
  let momentum := config.momentumLookbackCandles.getD config.lookbackCandles
  let sma := averageDecimal
    ((slice (index - trendLookback config) index candles).map (·.close))
  index < momentum ∨ NeedsNoGuard (latest.close - sma) sma ∧
      SameReturn latest.close (candles.getD (index - momentum) latest).close
        (candles.getD (index - momentumLookback config) latest).close

def CompressionReads (config : StrategyConfig) (candles : List Candle) (index : Nat)
    (latest : Candle) : Prop :=
  let compression := compressionLookback config
  let breakout := breakoutLookback config
  let breakoutWindow := slice (index - breakout) index candles
  let breakoutLevel := (highest breakoutWindow).getD latest.high
  NeedsNoGuard
      (averageDecimal ((slice (index - compression) index candles).map Strategy.candleRangePct))
      (averageDecimal ((slice (index - compression - breakout) (index - compression) candles).map
        Strategy.candleRangePct)) ∧
    NeedsNoGuard (latest.close - breakoutLevel) breakoutLevel ∧
    NeedsNoGuard latest.volume (averageDecimal (breakoutWindow.map (·.volume)))

/-- Whether the pullback reads what it decided on: where anything is extracted,
the reference of the trend return is the strategy's. -/
def PullbackReads (config : StrategyConfig) (candles : List Candle) (index : Nat)
    (latest : Candle) : Prop :=
  let trend := config.trendLookbackCandles.getD 50
  let pullback := pullbackLookback config
  let recentHigh := (highest (slice (index + 1 - pullback) (index + 1) candles)).getD latest.high
  let pullbackSma := averageDecimal
    ((slice (index + 1 - pullbackSmaLookback config) (index + 1) candles).map (·.close))
  index < trend ∨ SameReturn latest.close (candles.getD (index - trend) latest).close
        (candles.getD (index - trendLookback config) latest).close ∧
      NeedsNoGuard (recentHigh - min latest.low latest.close) recentHigh ∧
      NeedsNoGuard (latest.close - pullbackSma) pullbackSma ∧
      NeedsNoGuard latest.volume
        (averageDecimal ((slice (index - pullback) index candles).map (·.volume)))

/-- Whether the reclaim reads what it decided on: the average of the last
twenty closes is that of the recent candles among them. -/
def ReclaimReads (config : StrategyConfig) (candles : List Candle) (index : Nat)
    (latest : Candle) : Prop :=
  let lookback := config.lookbackCandles
  let lookbackWindow := slice (index - lookback) index candles
  let lookbackLow := (lowest lookbackWindow).getD latest.low
  let smaOver (count : Nat) := averageDecimal
    ((slice (index + 1 - count) (index + 1) candles).map (·.close))
  NeedsNoGuard (lookbackLow - latest.low) lookbackLow ∧
    NeedsNoGuard latest.volume (averageDecimal (lookbackWindow.map (·.volume))) ∧
    SameReturn latest.close (smaOver (min 20 (index + 1))) (smaOver (min 20 (lookback + 1)))

/-- The features are read as they were for the decision. -/
def ReadsAlike (config : StrategyConfig) (candles : List Candle) (index : Nat) (latest : Candle) :
    Prop :=
  match config.strategyId with
  | .trendFilterMomentumV2 => TrendFilterReads config candles index latest
  | .volatilityCompressionBreakoutV1 => CompressionReads config candles index latest
  | .trendPullbackContinuationV1 => PullbackReads config candles index latest
  | .failedBreakdownReclaimV1 => ReclaimReads config candles index latest
  | _ => True

theorem decisionMetrics_trendFilter (hId : config.strategyId = .trendFilterMomentumV2)
    (hLatest : candles[index]? = some latest) (hTrend : trendLookback config ≤ index)
    (hMomentum : momentumLookback config ≤ index) :
    decisionMetrics config (candles.take (index + 1)) =
      (let sma := averageDecimal ((slice (index - trendLookback config) index candles).map (·.close))
      let reference := (candles.getD (index - momentumLookback config) latest).close
      .ok [("close_vs_sma_pct", pctRatio (latest.close - sma) sma),
        ("momentum_return_pct", pctRatio (latest.close - reference) reference)]) := by
  have hIndex := (List.getElem?_eq_some_iff.mp hLatest).1
  have hRead : readBehind 0 (candles.take (index + 1)) = .ok latest := by
    rw [readBehind_take hIndex (Nat.zero_le index) latest, Nat.sub_zero, getD_eq_getElem?_getD,
      hLatest, getD_some]
  simp only [decisionMetrics, hId, hRead, readBeforeLast_take hIndex hTrend,
    readBehind_take hIndex hMomentum latest, ok_bind]
  rfl

theorem decisionMetrics_compression (hId : config.strategyId = .volatilityCompressionBreakoutV1)
    (hLatest : candles[index]? = some latest)
    (hLookbacks : compressionLookback config + breakoutLookback config ≤ index)
    (hBreakout : 0 < breakoutLookback config) :
    ∃ metrics, CompressionMeasured config candles index latest metrics ∧
      decisionMetrics config (candles.take (index + 1)) =
        .ok [("compression_ratio", metrics.compressionRatio), ("breakout_pct", metrics.breakoutPct),
          ("volume_ratio", metrics.volumeRatio)] := by
  have hIndex := (List.getElem?_eq_some_iff.mp hLatest).1
  have hRequired : requiredCandleCount config =
      compressionLookback config + breakoutLookback config + 1 := by
    simp only [requiredCandleCount, hId]
    omega
  obtain ⟨metrics, hMetrics, hMeasured⟩ :=
    calculateCompressionBreakoutMetrics_recent hLatest hLookbacks hBreakout
  refine ⟨metrics, hMeasured, ?_⟩
  simp only [decisionMetrics, hId, hRequired, readLast_take hIndex (show compressionLookback config +
    breakoutLookback config + 1 ≤ index + 1 by omega), hMetrics, ok_bind]
  rfl

theorem decisionMetrics_pullback (hId : config.strategyId = .trendPullbackContinuationV1)
    (hLatest : candles[index]? = some latest) (hLength : requiredCandleCount config ≤ index + 1) :
    decisionMetrics config (candles.take (index + 1)) = (let pullback := pullbackLookback config
      let reference := (candles.getD (index - trendLookback config) latest).close
      let recentHigh := (highest (slice (index + 1 - pullback) (index + 1) candles)).getD latest.high
      let pullbackSma := averageDecimal
        ((slice (index + 1 - pullbackSmaLookback config) (index + 1) candles).map (·.close))
      let chopWindow := slice (index + 1 - 20) (index + 1) candles
      let rangeSum := (chopWindow.map fun candle => candle.high - candle.low).sum
      let directionalMove :=
        |latest.close - (chopWindow.head?.map (·.close)).getD latest.close|
      .ok [("trend_return_pct", pctRatio (latest.close - reference) reference),
        ("pullback_depth_pct", pctRatio (recentHigh - min latest.low latest.close) recentHigh),
        ("close_vs_sma_pct", pctRatio (latest.close - pullbackSma) pullbackSma),
        ("volume_ratio", volumeRatio latest
          (averageDecimal ((slice (index - pullback) index candles).map (·.volume)))),
        ("choppiness", 100 - if rangeSum = 0 then 0
          else max 0 (min (directionalMove / rangeSum * 100) 100))]) := by
  have hIndex := (List.getElem?_eq_some_iff.mp hLatest).1
  have hCount := requiredCandleCount.eq_def config
  simp only [hId] at hCount
  obtain ⟨required, hRequired⟩ : ∃ count, requiredCandleCount config = count := ⟨_, rfl⟩
  rw [hRequired] at hLength hCount
  have hRead : readBehind 0 (slice (index + 1 - required) (index + 1) candles) = .ok latest :=
    readLatest_recent hLatest hLength (by omega)
  have hVolume : slice ((slice (index + 1 - required) (index + 1) candles).length -
        (pullbackLookback config + 1))
      ((slice (index + 1 - required) (index + 1) candles).length - 1)
      (slice (index + 1 - required) (index + 1) candles) =
        slice (index - pullbackLookback config) index candles := by
    rw [length_slice hIndex]
    exact slice_recent hLength (by omega) (by omega) (by omega)
  simp only [decisionMetrics, hId, hRequired, readLast_take hIndex hLength,
    calculateTrendPullbackMetrics, hRead, ok_bind,
    readBehind_recent hIndex hLength (show 1 < required by omega) latest,
    readBehind_recent hIndex hLength (show trendLookback config < required by omega) latest,
    readLast_recent hIndex hLength (show pullbackLookback config ≤ required by omega),
    readLast_recent hIndex hLength (show pullbackSmaLookback config ≤ required by omega),
    rtake_recent hIndex (show 20 ≤ required by omega), hVolume]
  rfl

theorem decisionMetrics_reclaim (hId : config.strategyId = .failedBreakdownReclaimV1)
    (hLatest : candles[index]? = some latest) (hLookback : 0 < config.lookbackCandles)
    (hLength : config.lookbackCandles ≤ index) :
    decisionMetrics config (candles.take (index + 1)) = (let lookback := config.lookbackCandles
      let lookbackWindow := slice (index - lookback) index candles
      let lookbackLow := (lowest lookbackWindow).getD latest.low
      let sma := averageDecimal
        ((slice (index + 1 - min 20 (lookback + 1)) (index + 1) candles).map (·.close))
      .ok [("breakdown_pct", pctRatio (lookbackLow - latest.low) lookbackLow),
        ("volume_ratio", volumeRatio latest (averageDecimal (lookbackWindow.map (·.volume)))),
        ("close_vs_sma_pct", pctRatio (latest.close - sma) sma)]) := by
  have hIndex := (List.getElem?_eq_some_iff.mp hLatest).1
  have hRequired : requiredCandleCount config = config.lookbackCandles + 1 := by
    simp only [requiredCandleCount, hId]
    omega
  have hRecent : config.lookbackCandles + 1 ≤ index + 1 := by omega
  have hRead : readBehind 0 (slice (index + 1 - (config.lookbackCandles + 1)) (index + 1) candles) =
      .ok latest := readLatest_recent hLatest hRecent (by omega)
  have hAverage : (slice (index + 1 - (config.lookbackCandles + 1)) (index + 1) candles).rtake 20 =
      slice (index + 1 - min 20 (config.lookbackCandles + 1)) (index + 1) candles := by
    rcases le_total 20 (config.lookbackCandles + 1) with hLong | hShort
    · rw [rtake_recent hIndex hLong, Nat.min_eq_left hLong]
    · rw [Nat.min_eq_right hShort, Window.rtake_of_length_le]
      rw [length_slice hIndex]
      omega
  simp only [decisionMetrics, hId, hRequired, readLast_take hIndex hRecent,
    calculateFailedBreakdownReclaimMetrics, hRead, ok_bind,
    readBeforeLast_recent hIndex hRecent (Nat.lt_succ_self config.lookbackCandles), hAverage]
  rfl

end Reads

section Agreement
variable {config : StrategyConfig} {candles : List Candle} {index : Nat} {latest : Candle}

theorem trendFilter_agrees_iff (hId : config.strategyId = .trendFilterMomentumV2)
    (hLatest : candles[index]? = some latest)
    (hNormal : normalizeClosedCandles (candles.take (index + 1)) = candles.take (index + 1))
    (hTrend : trendLookback config ≤ index) (hMomentum : momentumLookback config ≤ index) :
    FeaturesAgree config candles index latest ↔ TrendFilterReads config candles index latest := by
  have hNotShort : ¬index < config.trendLookbackCandles.getD config.lookbackCandles := not_lt.mpr hTrend
  simp only [FeaturesAgree, hNormal, decisionMetrics_trendFilter hId hLatest hTrend hMomentum,
    Except.ok.injEq, forall_eq', extractSignalFeatureMetrics, strategyFeatures, hId,
    extractTrendFilterMomentumFeatures, hNotShort, false_or, averageDecimalReplay_eq]
  unfold TrendFilterReads
  by_cases hShort : index < config.momentumLookbackCandles.getD config.lookbackCandles
  · simp [hShort]
  · simp only [hShort, if_false, false_or, ← sameReturn_self, ← pctChange_eq_pctRatio_iff]
    simp [decimalFeatureMetric, trendLookback]

theorem compression_agrees_iff (hId : config.strategyId = .volatilityCompressionBreakoutV1)
    (hLatest : candles[index]? = some latest)
    (hNormal : normalizeClosedCandles (candles.take (index + 1)) = candles.take (index + 1))
    (hLookbacks : compressionLookback config + breakoutLookback config ≤ index)
    (hBreakout : 0 < breakoutLookback config) :
    FeaturesAgree config candles index latest ↔ CompressionReads config candles index latest := by
  obtain ⟨metrics, hMeasured, hMetrics⟩ :=
    decisionMetrics_compression hId hLatest hLookbacks hBreakout
  have hLong : ¬(index < config.compressionLookbackCandles.getD config.lookbackCandles +
      config.breakoutLookbackCandles.getD config.lookbackCandles ∨ index = 0) := by
    simp only [compressionLookback, breakoutLookback] at hLookbacks hBreakout
    omega
  have hRatio : metrics.compressionRatio = pctRatio _ _ := hMeasured.compressionRatio
  have hPct : metrics.breakoutPct = pctRatio _ _ := hMeasured.breakoutPct
  rw [hMeasured.recentAvgRangePct, hMeasured.baselineAvgRangePct, averageDecimal_insertionSort]
    at hRatio
  rw [hMeasured.breakoutLevel] at hPct
  simp only [FeaturesAgree, hNormal, hMetrics, Except.ok.injEq, forall_eq',
    extractSignalFeatureMetrics, strategyFeatures, hId, extractVolatilityCompressionBreakoutFeatures,
    if_neg hLong, averageDecimalReplay_eq, candleRangePct_eq, hRatio, hPct, hMeasured.volumeRatio]
  unfold CompressionReads
  simp only [← guardedVolumeRatio_eq_iff]
  simp only [← guardedPct_eq_pctRatio_iff]
  simp [decimalFeatureMetric, compressionLookback, breakoutLookback, pctChange]

theorem pullback_agrees_iff (hId : config.strategyId = .trendPullbackContinuationV1)
    (hLatest : candles[index]? = some latest)
    (hNormal : normalizeClosedCandles (candles.take (index + 1)) = candles.take (index + 1))
    (hLength : requiredCandleCount config ≤ index + 1) :
    FeaturesAgree config candles index latest ↔ PullbackReads config candles index latest := by
  have hCount := requiredCandleCount.eq_def config
  simp only [hId] at hCount
  have hPullback : ¬index + 1 < config.pullbackLookbackCandles.getD 10 := by
    simp only [pullbackLookback] at hCount
    omega
  have hSma : ¬index + 1 < config.pullbackSmaLookbackCandles.getD 20 := by
    simp only [pullbackSmaLookback] at hCount
    omega
  have hChop : min 20 (index + 1) = 20 := by omega
  simp only [FeaturesAgree, hNormal, decisionMetrics_pullback hId hLatest hLength, Except.ok.injEq,
    forall_eq', extractSignalFeatureMetrics, strategyFeatures, hId,
    extractTrendPullbackContinuationFeatures, hPullback, hSma, or_false, hChop, trendEfficiency_eq,
    averageDecimalReplay_eq]
  unfold PullbackReads
  by_cases hShort : index < config.trendLookbackCandles.getD 50
  · simp [hShort]
  · simp only [hShort, if_false, false_or, ← pctChange_eq_pctRatio_iff, ← guardedVolumeRatio_eq_iff]
    simp only [← guardedPct_eq_pctRatio_iff]
    simp [decimalFeatureMetric, pullbackLookback, pullbackSmaLookback, pctChange]

theorem reclaim_agrees_iff (hId : config.strategyId = .failedBreakdownReclaimV1)
    (hLatest : candles[index]? = some latest)
    (hNormal : normalizeClosedCandles (candles.take (index + 1)) = candles.take (index + 1))
    (hLookback : 0 < config.lookbackCandles) (hLength : config.lookbackCandles ≤ index) :
    FeaturesAgree config candles index latest ↔ ReclaimReads config candles index latest := by
  simp only [FeaturesAgree, hNormal, decisionMetrics_reclaim hId hLatest hLookback hLength,
    Except.ok.injEq, forall_eq', extractSignalFeatureMetrics, strategyFeatures, hId,
    extractFailedBreakdownReclaimFeatures, if_neg (not_lt.mpr hLength), averageDecimalReplay_eq]
  unfold ReclaimReads
  simp only [← pctChange_eq_pctRatio_iff, ← guardedVolumeRatio_eq_iff]
  simp only [← guardedPct_eq_pctRatio_iff]
  simp [decimalFeatureMetric]

end Agreement

section Signals
variable {signalId : Uuid} {context : StrategyEvaluationContext} {result : StrategyEvaluationResult}
  {signal : StrategySignal}

theorem strategyId_of_evaluate (hEvaluate : evaluate strategyRules signalId context = .ok result) :
    context.config.strategyId = context.strategyId := by
  obtain ⟨_, -, hEvaluate⟩ := bind_eq_ok.mp hEvaluate
  split at hEvaluate
  · cases hEvaluate
  · rename_i hId
    exact not_ne_iff.mp hId

/-- The strategies with metrics of their own signal on enough candles, and
under a configuration that they accept. -/
theorem required_of_signal {candles : List Candle} {source : Candle} {reason : SignalReason}
    {confidence : Decimal}
    (hMeasured : context.config.strategyId = .trendFilterMomentumV2 ∨
      context.config.strategyId = .volatilityCompressionBreakoutV1 ∨
      context.config.strategyId = .trendPullbackContinuationV1 ∨
      context.config.strategyId = .failedBreakdownReclaimV1)
    (hOutcome : strategyRules context.config.strategyId context candles =
      .ok (.generated source reason confidence)) :
    AcceptsOwnConfig context.config ∧ requiredCandleCount context.config ≤ candles.length := by
  have hAccepts : AcceptsOwnConfig context.config := by
    by_contra hProblem
    rw [strategyRules_of_not_acceptsOwnConfig hProblem] at hOutcome
    cases hOutcome
  refine ⟨hAccepts, ?_⟩
  by_contra hShort
  unfold AcceptsOwnConfig at hAccepts
  rcases hMeasured with hId | hId | hId | hId
  · simp only [hId] at hAccepts
    simp only [hId, strategyRules, evaluateTrendFilterMomentumV2, hAccepts, Bool.false_eq_true,
      if_false, not_le.mp hShort, if_true] at hOutcome
    cases hOutcome
  · simp only [hId] at hAccepts
    simp only [hId, strategyRules, evaluateVolatilityCompressionBreakout, hAccepts, isSome_none,
      Bool.false_eq_true, if_false, not_le.mp hShort, if_true] at hOutcome
    cases hOutcome
  · simp only [hId] at hAccepts
    simp only [hId, strategyRules, evaluateTrendPullbackContinuation, hAccepts, isSome_none,
      Bool.false_eq_true, if_false, not_le.mp hShort, if_true] at hOutcome
    cases hOutcome
  · simp only [hId] at hAccepts
    simp only [hId, strategyRules, evaluateFailedBreakdownReclaim, hAccepts, isSome_none,
      Bool.false_eq_true, if_false, not_le.mp hShort, if_true] at hOutcome
    cases hOutcome

theorem lookbacks_of_compressionConfig {config : StrategyConfig}
    (hAccepts : validateCompressionBreakoutConfig config = none) :
    1 < compressionLookback config ∧ 1 < breakoutLookback config := by
  unfold validateCompressionBreakoutConfig at hAccepts
  simp only at hAccepts
  split at hAccepts
  · cases hAccepts
  · omega

theorem lookback_of_reclaimConfig {config : StrategyConfig}
    (hAccepts : validateFailedBreakdownReclaimConfig config = none) : 1 < config.lookbackCandles := by
  unfold validateFailedBreakdownReclaimConfig at hAccepts
  split at hAccepts
  · cases hAccepts
  · omega

end Signals

section Priced
variable {config : StrategyConfig} {candles : List Candle} {index : Nat} {latest : Candle}

structure MarketPriced (candle : Candle) : Prop where
  low_pos : 0 < candle.low
  low_le_high : candle.low ≤ candle.high
  close_pos : 0 < candle.close
  volume_nonneg : 0 ≤ candle.volume

def LookbacksAlike (config : StrategyConfig) (index : Nat) : Prop :=
  match config.strategyId with
  | .trendFilterMomentumV2 =>
    config.momentumLookbackCandles.getD config.lookbackCandles = momentumLookback config
  | .trendPullbackContinuationV1 => config.trendLookbackCandles.getD 50 = trendLookback config
  | .failedBreakdownReclaimV1 => 19 ≤ config.lookbackCandles ∨ index = config.lookbackCandles
  | _ => True

theorem MarketPriced.high_nonneg {candle : Candle} (hPriced : MarketPriced candle) :
    0 ≤ candle.high :=
  hPriced.low_pos.le.trans hPriced.low_le_high

theorem MarketPriced.candleRangePct_nonneg {candle : Candle} (hPriced : MarketPriced candle) :
    0 ≤ Strategy.candleRangePct candle := by
  unfold Strategy.candleRangePct
  split
  · rename_i hOpen
    have hRange := sub_nonneg.mpr hPriced.low_le_high
    exact mul_nonneg (div_nonneg hRange hOpen.le) (by norm_num)
  · exact le_rfl

theorem averageDecimal_nonneg {values : List Decimal} (hValues : ∀ value ∈ values, 0 ≤ value) :
    0 ≤ averageDecimal values := by
  unfold averageDecimal
  split
  · exact le_rfl
  · exact div_nonneg (sum_nonneg hValues) (Nat.cast_nonneg _)

theorem averageDecimal_map_nonneg {measure : Candle → Decimal}
    (hMeasure : ∀ candle ∈ candles, 0 ≤ measure candle) (start stop : Nat) :
    0 ≤ averageDecimal ((slice start stop candles).map measure) := by
  apply averageDecimal_nonneg
  intro value hValue
  obtain ⟨candle, hCandle, rfl⟩ := mem_map.mp hValue
  exact hMeasure candle (mem_of_mem_slice hCandle)

theorem readsAlike_of_lookbacksAlike (hPriced : ∀ candle ∈ candles, MarketPriced candle)
    (hLatest : candles[index]? = some latest) (hLookbacks : LookbacksAlike config index) :
    ReadsAlike config candles index latest := by
  have hMember := mem_of_getElem? hLatest
  have hClose := averageDecimal_map_nonneg fun candle hCandle => (hPriced candle hCandle).close_pos.le
  have hVolume := averageDecimal_map_nonneg fun candle hCandle => (hPriced candle hCandle).volume_nonneg
  have hRange := averageDecimal_map_nonneg fun candle hCandle =>
    (hPriced candle hCandle).candleRangePct_nonneg
  have hHighest (start stop : Nat) : 0 ≤ (highest (slice start stop candles)).getD latest.high := by
    obtain ⟨candle, hCandle, hHigh⟩ := exists_highest_eq hMember start stop
    exact hHigh ▸ (hPriced candle hCandle).high_nonneg
  have hLowest (start stop : Nat) : 0 ≤ (lowest (slice start stop candles)).getD latest.low := by
    obtain ⟨candle, hCandle, hLow⟩ := exists_lowest_eq hMember start stop
    exact hLow ▸ (hPriced candle hCandle).low_pos.le
  have hReference (offset : Nat) : 0 ≤ (candles.getD offset latest).close := by
    rw [getD_eq_getElem?_getD]
    cases hCandle : candles[offset]? with
    | none => exact (hPriced latest hMember).close_pos.le
    | some candle => exact (hPriced candle (mem_of_getElem? hCandle)).close_pos.le
  unfold ReadsAlike
  unfold LookbacksAlike at hLookbacks
  cases hId : config.strategyId with
  | momentumV1 | volatilityBreakoutV1 | volatilityBreakoutV2 | trendFilterMomentumV1
  | rangeReversionV1 => trivial
  | trendFilterMomentumV2 =>
    simp only [hId] at hLookbacks
    refine .inr ⟨.inl (hClose _ _), ?_⟩
    rw [hLookbacks, sameReturn_self]
    exact .inl (hReference _)
  | volatilityCompressionBreakoutV1 => exact ⟨.inl (hRange _ _), .inl (hHighest _ _), .inl (hVolume _ _)⟩
  | trendPullbackContinuationV1 =>
    simp only [hId] at hLookbacks
    refine .inr ⟨?_, .inl (hHighest _ _), .inl (hClose _ _), .inl (hVolume _ _)⟩
    rw [hLookbacks, sameReturn_self]
    exact .inl (hReference _)
  | failedBreakdownReclaimV1 =>
    simp only [hId] at hLookbacks
    refine ⟨.inl (hLowest _ _), .inl (hVolume _ _), ?_⟩
    have hStart : index + 1 - min 20 (index + 1) =
        index + 1 - min 20 (config.lookbackCandles + 1) := by omega
    beta_reduce
    rw [hStart, sameReturn_self]
    exact .inl (hClose _ _)

end Priced

section Sample

def sampleTrendFilterRequest (momentumLookbackCandles : Option Nat) :
    StrategyConfigUpdateRequest :=
  { samplePullbackRequest with
    strategyId := "trend_filter_momentum_v2"
    timeframe := "1m"
    momentumLookbackCandles := momentumLookbackCandles }

def sampleTrendFilterContext (momentumLookbackCandles : Option Nat) : StrategyEvaluationContext where
  correlationId := ⟨1⟩
  strategyId := .trendFilterMomentumV2
  symbol := .btcusdt
  config := normalizedConfig .trendFilterMomentumV2
    (sampleTrendFilterRequest momentumLookbackCandles) sampleValidation
  candles := [sampleCandle 0 (998 / 10), sampleCandle 1 100, sampleCandle 2 100,
    sampleCandle 3 (1001 / 10), sampleCandle 4 (1002 / 10), sampleCandle 5 (1005 / 10)]
  evaluatedAt := DateTime.seconds 360

theorem sampleTrendFilterContext_sorted (momentumLookbackCandles : Option Nat) :
    (sampleTrendFilterContext momentumLookbackCandles).candles.Pairwise
      (·.openTime ≤ ·.openTime) := by
  simp only [sampleTrendFilterContext]
  decide +kernel

end Sample

end AegisQuant.Replay
