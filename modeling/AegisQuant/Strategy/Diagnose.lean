import AegisQuant.Library.Checklist
import AegisQuant.Strategy.Decision

/-! Diagnostics. For each strategy a second body makes the comparisons one by
one, records each as a check, and stops at the first that fails with the reason
for not signalling. -/
namespace AegisQuant.Strategy
open Fallible

inductive StrategyDiagnosticSeverity where
  | info
  | warn
  | error
  deriving DecidableEq, Repr

structure StrategyDiagnosticCheck where
  name : String
  passed : Bool
  severity : StrategyDiagnosticSeverity
  deriving DecidableEq, Repr

inductive StrategyDiagnosticsDecision where
  | wouldSignal
  | noSignal
  | insufficientData
  | strategyDisabled
  | invalidConfig
  | staleData
  deriving DecidableEq, Repr

inductive StrategyNoSignalReason where
  | momentumNotStrictlyHigherCloses
  | trendCloseNotAboveSma
  | closeBelowSma
  | closeTooCloseToSma
  | closeTooExtendedAboveSma
  | momentumNotConfirmed
  | trendNotConfirmed
  | pullbackTooShallow
  | pullbackTooDeep
  | trendMomentumNotPositive
  | trendTooExtended
  | volatilityBelowMinimum
  | breakoutNotAboveRecentHigh
  | breakoutVolumeBelowAverage
  | noCompression
  | noBreakout
  | noBreakdown
  | breakoutTooSmall
  | breakdownTooSmall
  | breakoutTooExtended
  | volumeNotConfirmed
  | lowerWickTooSmall
  | insufficientData
  | rangeTooNarrow
  | rangeTooWide
  | notNearLowerBand
  | noReversalConfirmation
  | reclaimNotConfirmed
  | tooChoppy
  | confidenceBelowFloor
  | insufficientCandles
  | strategyDisabled
  | invalidConfig
  | staleData
  deriving DecidableEq, Repr

structure DiagnosticOutcome where
  finalDecision : StrategyDiagnosticsDecision
  noSignalReason : Option StrategyNoSignalReason
  sourceCandleOpenTime : Option DateTime
  confidence : Option Decimal

abbrev Checks := List StrategyDiagnosticCheck

abbrev CheckEntry := Checklist.Entry StrategyDiagnosticCheck StrategyNoSignalReason

def check (name : String) (passed : Prop) [Decidable passed] : StrategyDiagnosticCheck :=
  ⟨name, passed, if passed then .info else .warn⟩

/-- A figure that is reported and decides nothing. -/
def note (name : String) (passed : Prop) [Decidable passed] : CheckEntry :=
  .record ⟨name, passed, .info⟩

/-- A check that ends the diagnosis when it fails. -/
def requireCheck (name : String) (passed : Prop) [Decidable passed]
    (reason : StrategyNoSignalReason) : List CheckEntry :=
  [.record (check name passed), .gate passed reason]

/-- A check with two bounds, each with a reason of its own. -/
def requireWithin (name : String) (within above below : Prop) [Decidable within] [Decidable above]
    [Decidable below] (aboveReason belowReason : StrategyNoSignalReason) : List CheckEntry :=
  [.record (check name within), .gate above aboveReason, .gate below belowReason]

def noSignalOutcome (reason : StrategyNoSignalReason) : DiagnosticOutcome :=
  ⟨.noSignal, some reason, none, none⟩

def wouldSignalOutcome (openTime : Option DateTime) (confidence : Decimal) : DiagnosticOutcome :=
  ⟨.wouldSignal, none, openTime, some confidence⟩

/-- The outcome when every gate is passed, or the reason of the first that is
not. -/
def conclude (entries : List CheckEntry) (passed : DiagnosticOutcome) (checks : Checks) :
    Checks × DiagnosticOutcome :=
  match Checklist.run entries checks with
  | (recorded, none) => (recorded, passed)
  | (recorded, some reason) => (recorded, noSignalOutcome reason)

def confidenceOutcome (context : StrategyEvaluationContext) (latest : Candle) (confidence : Decimal) :
    DiagnosticOutcome :=
  if confidencePassed context.config confidence then
    wouldSignalOutcome (some latest.openTime) confidence
  else noSignalOutcome .confidenceBelowFloor

def invalidConfigOutcome (checks : Checks) : Checks × DiagnosticOutcome :=
  (checks ++ [⟨"valid_config", false, .error⟩], ⟨.invalidConfig, some .invalidConfig, none, none⟩)

section Bodies
variable (context : StrategyEvaluationContext) (candles : List Candle) (checks : Checks)

def diagnoseMomentum : Except Fault (Checks × DiagnosticOutcome) := do
  let recent ← readLast (requiredCandleCount context.config) candles
  let isHigherCloses := (recent.zip recent.tail).all fun pair => pair.2.close > pair.1.close
  let confidence : Decimal := 65 / 100
  return conclude
    (requireCheck "momentum_higher_closes" isHigherCloses .momentumNotStrictlyHigherCloses ++
      requireCheck "confidence_floor" (confidencePassed context.config confidence)
        .confidenceBelowFloor)
    (wouldSignalOutcome (recent.getLast?.map (·.openTime)) confidence) checks

def diagnoseBreakout : Except Fault (Checks × DiagnosticOutcome) := do
  let recent ← readLast (requiredCandleCount context.config) candles
  let latest ← readBehind 0 recent
  let previousWindow := recent.dropLast
  let recentHigh ← ofOption (highest previousWindow)
    (.message "previous window must be present")
  let confidence : Decimal := 70 / 100
  return conclude
    (requireCheck "breakout_above_recent_high" (latest.close > recentHigh)
        .breakoutNotAboveRecentHigh ++
      requireCheck "confidence_floor" (confidencePassed context.config confidence)
        .confidenceBelowFloor)
    (wouldSignalOutcome (some latest.openTime) confidence) checks

def diagnoseTrendFilterMomentum : Except Fault (Checks × DiagnosticOutcome) := do
  let latest ← readBehind 0 candles
  let previous ← readBehind 1 candles
  let trendWindow ← readBeforeLast (trendLookback context.config) candles
  let sma := averageDecimal (trendWindow.map (·.close))
  let momentumReference ← readBehind (momentumLookback context.config) candles
  return conclude
    (requireCheck "trend_close_above_sma" (latest.close > sma) .trendCloseNotAboveSma ++
      requireCheck "latest_close_above_previous_close" (latest.close > previous.close)
        .trendMomentumNotPositive ++
      requireCheck "momentum_lookback_close_check" (latest.close > momentumReference.close)
        .trendMomentumNotPositive)
    (confidenceOutcome context latest (68 / 100)) checks

def diagnoseTrendFilterMomentumV2 : Except Fault (Checks × DiagnosticOutcome) := do
  let minBand := minCloseAboveSmaPct context.config
  let maxBand := maxCloseAboveSmaPct context.config
  if bandInverted context.config then return (checks, noSignalOutcome .invalidConfig)
  else
    let latest ← readBehind 0 candles
    let trendWindow ← readBeforeLast (trendLookback context.config) candles
    let sma := averageDecimal (trendWindow.map (·.close))
    let momentumReference ← readBehind (momentumLookback context.config) candles
    let closeVsSmaPct := pctRatio (latest.close - sma) sma
    let momentumReturnPct :=
      pctRatio (latest.close - momentumReference.close) momentumReference.close
    let minMomentum := minMomentumReturnPct context.config
    return conclude
      (requireCheck "close_above_sma" (latest.close > sma) .closeBelowSma ++
        requireCheck "close_above_sma_min_band" (closeVsSmaPct ≥ minBand) .closeTooCloseToSma ++
        requireCheck "close_below_sma_max_band" (closeVsSmaPct ≤ maxBand)
          .closeTooExtendedAboveSma ++
        requireCheck "momentum_confirmed"
          (latest.close > momentumReference.close ∧ momentumReturnPct ≥ minMomentum)
          .momentumNotConfirmed ++
        [note "close_within_sma_band" True])
      (confidenceOutcome context latest (68 / 100)) checks

def diagnoseVolumeBreakout : Except Fault (Checks × DiagnosticOutcome) := do
  let lookback := breakoutLookback context.config
  let recent ← readLast (lookback + 1) candles
  let latest ← readBehind 0 recent
  let previousWindow := recent.dropLast
  let breakoutLevel ← ofOption (highest previousWindow)
    (.message "previous window must be present")
  let averageVolume := averageDecimal (previousWindow.map (·.volume))
  return conclude
    (requireCheck "breakout_close_above_prior_high" (latest.close > breakoutLevel)
        .breakoutNotAboveRecentHigh ++
      requireCheck "breakout_volume_above_average" (latest.volume > averageVolume)
        .breakoutVolumeBelowAverage)
    (confidenceOutcome context latest (72 / 100)) checks

def diagnoseVolatilityCompressionBreakout : Except Fault (Checks × DiagnosticOutcome) := do
  if (validateCompressionBreakoutConfig context.config).isSome then
    return invalidConfigOutcome checks
  else
    let recent ← readLast (requiredCandleCount context.config) candles
    let latest ← readBehind 0 recent
    let metrics ← calculateCompressionBreakoutMetrics context.config recent
    let minWidth := minRangeWidthPct context.config
    let maxWidth := maxRangeWidthPct context.config
    return conclude
      ([note "compression_lookback" True, note "breakout_lookback" True] ++
        requireCheck "compression_passed" metrics.compressionPassed .noCompression ++
        requireWithin "range_width_pct" metrics.rangeWidthWithinBounds
          (¬metrics.rangeWidthPct < minWidth) (¬metrics.rangeWidthPct > maxWidth)
          .rangeTooNarrow .rangeTooWide ++
        requireCheck "breakout_passed" (latest.close > metrics.breakoutLevel) .noBreakout ++
        requireCheck "breakout_large_enough" (metrics.breakoutPct ≥ minBreakoutPct context.config)
          .breakoutTooSmall ++
        requireCheck "breakout_not_overextended"
          (metrics.breakoutPct ≤ maxBreakoutExtensionPct context.config) .breakoutTooExtended ++
        requireCheck "volume_confirmed"
          (metrics.volumeRatio ≥ minVolumeExpansionRatio context.config) .volumeNotConfirmed ++
        requireCheck "bullish_close" (latest.close > latest.open) .noBreakout ++
        [note "final_decision" True])
      (confidenceOutcome context latest (71 / 100)) checks

def diagnoseRangeReversion : Except Fault (Checks × DiagnosticOutcome) := do
  let lookback := context.config.lookbackCandles
  let recent ← readLast (lookback + 1) candles
  let latest ← readBehind 0 recent
  let previous ← readBehind 1 recent
  let rangeWindow ← readLast lookback recent
  let range := calculateRangeMetrics rangeWindow
  let reversalConfirmed := latest.close > previous.close ∨ latest.close > latest.open
  let fallingKnifeAvoided := latest.low ≥ previous.low
  return conclude
    ([note "range_lookback_candles_required" True, note "range_high" True, note "range_low" True] ++
      requireCheck "range_width_above_minimum"
        (range.rangeWidthPct ≥ minRangeWidthPct context.config) .rangeTooNarrow ++
      requireCheck "range_width_below_maximum"
        (range.rangeWidthPct ≤ maxRangeWidthPct context.config) .rangeTooWide ++
      requireCheck "range_position_near_lower_band"
        (range.rangePositionPct ≤ lowerBandPct context.config) .notNearLowerBand ++
      [note "latest_close" True, note "previous_close" True] ++
      requireCheck "reversal_confirmation" (reversalConfirmed ∧ fallingKnifeAvoided)
        .noReversalConfirmation ++
      [note "final_decision" True])
    (confidenceOutcome context latest (66 / 100)) checks

def diagnoseTrendPullbackContinuation : Except Fault (Checks × DiagnosticOutcome) := do
  if (validateTrendPullbackConfig context.config).isSome then return invalidConfigOutcome checks
  else
    let recent ← readLast (requiredCandleCount context.config) candles
    let latest ← readBehind 0 recent
    let metrics ← calculateTrendPullbackMetrics context.config recent
    let trendReturnPassed := metrics.trendReturnPct ≥ minTrendReturnPct context.config
    let trendSlopePassed := metrics.trendSlopePct ≥ minTrendSlopePct context.config
    let minDepth := minPullbackDepthPct context.config
    let maxDepth := maxPullbackDepthPct context.config
    let maxAbove := maxCloseAboveSmaPct context.config
    return conclude
      ([note "recent_high" (metrics.recentHigh > 0), note "pullback_sma" (metrics.pullbackSma > 0),
        .record (check "trend_return_pct" trendReturnPassed),
        .record (check "trend_slope_pct" trendSlopePassed),
        .gate (¬(metrics.trendReturnPct < minTrendReturnPct context.config ∨
          metrics.trendSlopePct < minTrendSlopePct context.config)) .trendNotConfirmed] ++
        requireWithin "pullback_depth_pct"
          (metrics.pullbackDepthPct ≥ minDepth ∧ metrics.pullbackDepthPct ≤ maxDepth)
          (¬metrics.pullbackDepthPct < minDepth) (¬metrics.pullbackDepthPct > maxDepth)
          .pullbackTooShallow .pullbackTooDeep ++
        requireWithin "close_vs_sma_pct"
          (metrics.closeVsSmaPct ≥ 0 ∧ metrics.closeVsSmaPct ≤ maxAbove)
          (¬metrics.closeVsSmaPct < 0) (¬metrics.closeVsSmaPct > maxAbove)
          .closeBelowSma .closeTooExtendedAboveSma ++
        requireCheck "reclaim_confirmed" metrics.reclaimConfirmed .reclaimNotConfirmed ++
        requireCheck "volume_ratio" (metrics.volumeRatio ≥ minVolumeRatio context.config)
          .volumeNotConfirmed ++
        requireCheck "choppiness" (metrics.choppiness ≤ maxChoppiness context.config) .tooChoppy ++
        [note "final_decision" True])
      (confidenceOutcome context latest (69 / 100)) checks

def diagnoseFailedBreakdownReclaim : Except Fault (Checks × DiagnosticOutcome) := do
  if (validateFailedBreakdownReclaimConfig context.config).isSome then
    return invalidConfigOutcome checks
  else
    let recent ← readLast (requiredCandleCount context.config) candles
    let latest ← readBehind 0 recent
    let metrics ← calculateFailedBreakdownReclaimMetrics context.config recent
    let minVolume := minVolumeRatioFailedReclaim context.config
    return conclude
      ([note "lookback_low" (metrics.lookbackLow > 0), note "latest_low" (latest.low > 0),
        note "latest_close" (latest.close > 0)] ++
        requireCheck "breakdown_detected" (latest.low < metrics.lookbackLow) .noBreakdown ++
        requireCheck "breakdown_pct" (metrics.breakdownPct ≥ minBreakdownPct context.config)
          .breakdownTooSmall ++
        requireCheck "reclaim_confirmed" (latest.close ≥ metrics.lookbackLow ∧
          metrics.reclaimClosePct ≥ minReclaimClosePct context.config) .reclaimNotConfirmed ++
        requireCheck "lower_wick_pct" (metrics.lowerWickPct ≥ minLowerWickPct context.config)
          .lowerWickTooSmall ++
        requireCheck "volume_ratio" (minVolume = 0 ∨ metrics.volumeRatio ≥ minVolume)
          .volumeNotConfirmed ++
        [note "final_decision" True])
      (confidenceOutcome context latest (70 / 100)) checks

def diagnoseStrategy : StrategyId → Except Fault (Checks × DiagnosticOutcome)
  | .momentumV1 => diagnoseMomentum context candles checks
  | .volatilityBreakoutV1 => diagnoseBreakout context candles checks
  | .trendFilterMomentumV1 => diagnoseTrendFilterMomentum context candles checks
  | .trendFilterMomentumV2 => diagnoseTrendFilterMomentumV2 context candles checks
  | .volatilityBreakoutV2 => diagnoseVolumeBreakout context candles checks
  | .volatilityCompressionBreakoutV1 => diagnoseVolatilityCompressionBreakout context candles checks
  | .rangeReversionV1 => diagnoseRangeReversion context candles checks
  | .trendPullbackContinuationV1 => diagnoseTrendPullbackContinuation context candles checks
  | .failedBreakdownReclaimV1 => diagnoseFailedBreakdownReclaim context candles checks

end Bodies

structure StrategyDataHealth where
  requiredLookbackCandles : Nat
  requiredClosedCandles : Nat
  availableClosedCandles : Nat
  latestClosedCandleTime : Option DateTime
  latestClosedCandleAgeMs : Option Int
  stale : Bool

structure StrategyDiagnosticsResult where
  strategyId : String
  symbol : String
  timeframe : String
  strategyEnabled : Bool
  configValid : Bool
  dataHealth : StrategyDataHealth
  conditionChecks : Checks
  finalDecision : StrategyDiagnosticsDecision
  noSignalReason : Option StrategyNoSignalReason
  sourceCandleOpenTime : Option DateTime
  confidence : Option Decimal
  correlationId : Uuid
  evaluatedAt : DateTime

/-- `num_milliseconds` truncates towards zero. -/
def numMilliseconds (duration : Int) : Int := duration.tdiv 1000000

def dataHealth (context : StrategyEvaluationContext) (candles : List Candle) : StrategyDataHealth :=
  let latestTime := candles.getLast?.map (·.closeTime)
  let ageMs := latestTime.map fun time => numMilliseconds (context.evaluatedAt - time)
  { requiredLookbackCandles := context.config.lookbackCandles
    requiredClosedCandles := requiredCandleCount context.config
    availableClosedCandles := candles.length
    latestClosedCandleTime := latestTime
    latestClosedCandleAgeMs := ageMs
    stale := ageMs.any (· > context.config.maxSignalAgeMs) }

def diagnose (context : StrategyEvaluationContext) : Except Fault StrategyDiagnosticsResult := do
  context.config.validate.mapError Fault.core
  if context.config.strategyId ≠ context.strategyId then
    .error (.core (.unsupportedStrategyId
      ("strategy config does not match evaluation target: " ++ context.config.strategyId.asStr ++
        " != " ++ context.strategyId.asStr)))
  else
    let candles := normalizeClosedCandles context.candles
    let health := dataHealth context candles
    let covered := health.availableClosedCandles ≥ health.requiredClosedCandles
    let checks := [check "strategy_enabled" context.config.enabled,
      check "closed_candle_coverage" covered, check "closed_candle_freshness" (¬health.stale)]
    let (conditionChecks, outcome) ←
      if context.config.enabled = false then
        pure (checks, (⟨.strategyDisabled, some .strategyDisabled, none, none⟩ : DiagnosticOutcome))
      else if health.availableClosedCandles < health.requiredClosedCandles then
        let reason := if context.strategyId = .rangeReversionV1 then .insufficientData
          else .insufficientCandles
        pure (checks, ⟨.insufficientData, some reason, none, none⟩)
      else if health.stale then pure (checks, ⟨.staleData, some .staleData, none, none⟩)
      else diagnoseStrategy context candles checks context.strategyId
    return {
      strategyId := context.strategyId.asStr
      symbol := context.symbol.text
      timeframe := context.config.timeframe.asStr
      strategyEnabled := context.config.enabled
      configValid := true
      dataHealth := health
      conditionChecks := conditionChecks
      finalDecision := outcome.finalDecision
      noSignalReason := outcome.noSignalReason
      sourceCandleOpenTime := outcome.sourceCandleOpenTime
      confidence := outcome.confidence
      correlationId := context.correlationId
      evaluatedAt := context.evaluatedAt }

end AegisQuant.Strategy
