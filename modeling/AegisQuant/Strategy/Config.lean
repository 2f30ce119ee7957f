import AegisQuant.Core.Strategy

/-! The figures of a strategy configuration with their defaults, the number of
closed candles a strategy needs, and the checks a strategy makes of its own
configuration each time it runs. -/
namespace AegisQuant

def CandleInterval.recommendedMaxSignalAgeMs : CandleInterval → Int × Int
  | .oneMinute => (120000, 300000)
  | .fiveMinutes => (600000, 900000)
  | .fifteenMinutes => (1800000, 2700000)
  | .oneHour => (7200000, 10800000)
  | .fourHours => (28800000, 43200000)

end AegisQuant

namespace AegisQuant.Strategy

section Defaults
variable (config : StrategyConfig)

def trendLookback : Nat := config.trendLookbackCandles.getD config.lookbackCandles

def momentumLookback : Nat := config.momentumLookbackCandles.getD 3

def compressionLookback : Nat := config.compressionLookbackCandles.getD config.lookbackCandles

def breakoutLookback : Nat := config.breakoutLookbackCandles.getD config.lookbackCandles

def pullbackLookback : Nat := config.pullbackLookbackCandles.getD 10

def pullbackSmaLookback : Nat := config.pullbackSmaLookbackCandles.getD 20

def compressionPercentileThreshold : Decimal := config.compressionPercentileThreshold.getD 25

def minBreakoutPct : Decimal := config.minBreakoutPct.getD (5 / 100)

def maxBreakoutExtensionPct : Decimal := config.maxBreakoutExtensionPct.getD (15 / 10)

def minVolumeExpansionRatio : Decimal := config.minVolumeExpansionRatio.getD (11 / 10)

def lowerBandPct : Decimal := config.lowerBandPct.getD 20

def minRangeWidthPct : Decimal := config.minRangeWidthPct.getD (15 / 100)

def maxRangeWidthPct : Decimal := config.maxRangeWidthPct.getD 3

def minCloseAboveSmaPct : Decimal := config.minCloseAboveSmaPct.getD 0

def maxCloseAboveSmaPct : Decimal := config.maxCloseAboveSmaPct.getD 1

def minMomentumReturnPct : Decimal := config.minMomentumReturnPct.getD 0

def minTrendReturnPct : Decimal := config.minTrendReturnPct.getD 2

def minTrendSlopePct : Decimal := config.minTrendSlopePct.getD 0

def minPullbackDepthPct : Decimal := config.minPullbackDepthPct.getD (3 / 10)

def maxPullbackDepthPct : Decimal := config.maxPullbackDepthPct.getD 5

def minReclaimPct : Decimal := config.minReclaimPct.getD (5 / 100)

def minBreakdownPct : Decimal := config.minBreakdownPct.getD (5 / 100)

def minReclaimClosePct : Decimal := config.minReclaimClosePct.getD 0

def minLowerWickPct : Decimal := config.minLowerWickPct.getD 1

def minVolumeRatio : Decimal := config.minVolumeRatio.getD (8 / 10)

/-- The same figure under the default of `failed_breakdown_reclaim_v1`. -/
def minVolumeRatioFailedReclaim : Decimal := config.minVolumeRatio.getD 0

def maxChoppiness : Decimal := config.maxChoppiness.getD 60

def requiredCandleCount : Nat :=
  match config.strategyId with
  | .trendFilterMomentumV1 | .trendFilterMomentumV2 =>
    max (max (trendLookback config + 1) (momentumLookback config + 1)) 2
  | .volatilityBreakoutV2 => max (breakoutLookback config + 1) 2
  | .volatilityCompressionBreakoutV1 =>
    max (compressionLookback config + breakoutLookback config + 1) 2
  | .rangeReversionV1 => max (config.lookbackCandles + 1) 2
  | .trendPullbackContinuationV1 =>
    max (max (max (max (trendLookback config + 1) (pullbackLookback config + 1))
      (pullbackSmaLookback config)) 20) 2
  | .failedBreakdownReclaimV1 => max (config.lookbackCandles + 1) 2
  | .momentumV1 | .volatilityBreakoutV1 => max (config.lookbackCandles + 1) 2

end Defaults

/-! The checks at run time. Each gives the problem it finds. -/

def validateFailedBreakdownReclaimConfig (config : StrategyConfig) : Option String :=
  if config.lookbackCandles ≤ 1 then
    some "Invalid failed breakdown reclaim config: lookback_candles must be greater than 1."
  else if minBreakdownPct config < 0 ∨ minReclaimClosePct config < 0 ∨ minLowerWickPct config < 0 ∨
      minVolumeRatioFailedReclaim config < 0 then
    some "Invalid failed breakdown reclaim config: breakdown, reclaim, wick, and volume thresholds must be non-negative."
  else if config.maxSignalAgeMs > config.timeframe.recommendedMaxSignalAgeMs.2 then
    some "Invalid failed breakdown reclaim config: max_signal_age_ms is unreasonable for timeframe."
  else none

def validateTrendPullbackConfig (config : StrategyConfig) : Option String :=
  let trend := trendLookback config
  let pullback := pullbackLookback config
  let sma := pullbackSmaLookback config
  if trend ≤ 1 ∨ pullback ≤ 1 ∨ sma ≤ 1 then
    some "Invalid trend pullback continuation config: lookbacks must be greater than 1."
  else if trend < pullback then
    some "Invalid trend pullback continuation config: trend_lookback_candles must be greater than or equal to pullback_lookback_candles."
  else if maxPullbackDepthPct config ≤ minPullbackDepthPct config then
    some "Invalid trend pullback continuation config: max_pullback_depth_pct must be greater than min_pullback_depth_pct."
  else if maxCloseAboveSmaPct config < 0 ∨ minVolumeRatio config < 0 ∨ maxChoppiness config ≤ 0 then
    some "Invalid trend pullback continuation config: SMA, volume, and choppiness thresholds are invalid."
  else none

def validateCompressionBreakoutConfig (config : StrategyConfig) : Option String :=
  let compression := compressionLookback config
  let breakout := breakoutLookback config
  let minBreakout := minBreakoutPct config
  let maxExtension := maxBreakoutExtensionPct config
  let minWidth := minRangeWidthPct config
  let maxWidth := maxRangeWidthPct config
  if compression ≤ 1 ∨ breakout ≤ 1 then
    some "Invalid volatility compression breakout config: lookbacks must be greater than 1."
  else if compression > breakout then
    some "Invalid volatility compression breakout config: compression_lookback_candles must be less than or equal to breakout_lookback_candles."
  else if minBreakout < 0 ∨ maxExtension ≤ minBreakout then
    some "Invalid volatility compression breakout config: max_breakout_extension_pct must be greater than min_breakout_pct, and min_breakout_pct must be non-negative."
  else if minVolumeExpansionRatio config < 1 then
    some "Invalid volatility compression breakout config: min_volume_expansion_ratio must be at least 1."
  else if minWidth ≤ 0 ∨ maxWidth ≤ minWidth then
    some "Invalid volatility compression breakout config: range width bounds are invalid."
  else if config.maxSignalAgeMs > config.timeframe.recommendedMaxSignalAgeMs.2 then
    some "Invalid volatility compression breakout config: max_signal_age_ms is unreasonable for timeframe."
  else none

theorem volumeThreshold_iff {config : StrategyConfig}
    (hValid : validateFailedBreakdownReclaimConfig config = none) (ratio : Decimal) :
    minVolumeRatioFailedReclaim config = 0 ∨ ratio ≥ minVolumeRatioFailedReclaim config ↔
      ¬(minVolumeRatioFailedReclaim config > 0 ∧ ratio < minVolumeRatioFailedReclaim config) := by
  have hNonneg : 0 ≤ minVolumeRatioFailedReclaim config := by
    by_contra hNegative
    unfold validateFailedBreakdownReclaimConfig at hValid
    split at hValid
    · cases hValid
    · rw [if_pos (.inr (.inr (.inr (not_le.mp hNegative))))] at hValid
      cases hValid
  rcases hNonneg.eq_or_lt with hZero | hPositive
  · simp [← hZero]
  · simp [hPositive, hPositive.ne']

/-- The band check of `trend_filter_momentum_v2`. -/
def bandInverted (config : StrategyConfig) : Bool :=
  maxCloseAboveSmaPct config < minCloseAboveSmaPct config

def AcceptsOwnConfig (config : StrategyConfig) : Prop :=
  match config.strategyId with
  | .trendFilterMomentumV2 => bandInverted config = false
  | .volatilityCompressionBreakoutV1 => validateCompressionBreakoutConfig config = none
  | .trendPullbackContinuationV1 => validateTrendPullbackConfig config = none
  | .failedBreakdownReclaimV1 => validateFailedBreakdownReclaimConfig config = none
  | _ => True

end AegisQuant.Strategy
