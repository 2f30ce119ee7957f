import AegisQuant.Strategy.Metrics

/-! The decisions of the nine strategies on the closed candles in the order of
their open times. -/
namespace AegisQuant.Strategy
open Option

section Rules
variable (context : StrategyEvaluationContext) (candles : List Candle)

def evaluateBreakout : Except Fault StrategyOutcome := do
  let lookback := context.config.lookbackCandles
  let required := lookback + 1
  if candles.length < required then return .noSignal .insufficientHistory
  else
    let recent ← readLast required candles
    let latest ← readBehind 0 recent
    let previousWindow := recent.dropLast
    let recentHigh ← Fallible.ofOption (highest previousWindow)
      (.message "previous window must be present")
    if latest.close ≤ recentHigh then return .noSignal .conditionsNotMet
    else return .generated latest .breakoutAboveRecentHigh (70 / 100)

def evaluateTrendFilterMomentum : Except Fault StrategyOutcome := do
  let required := requiredCandleCount context.config
  if candles.length < required then return .noSignal .insufficientHistory
  else
    let latest ← readBehind 0 candles
    let previous ← readBehind 1 candles
    let trendWindow ← readBeforeLast (trendLookback context.config) candles
    let sma := averageDecimal (trendWindow.map (·.close))
    let momentumReference ← readBehind (momentumLookback context.config) candles
    if latest.close ≤ sma ∨ latest.close ≤ previous.close ∨ latest.close ≤ momentumReference.close then
      return .noSignal .conditionsNotMet
    else return .generated latest .trendFilterMomentum (68 / 100)

def evaluateTrendFilterMomentumV2 : Except Fault StrategyOutcome := do
  let minBand := minCloseAboveSmaPct context.config
  let maxBand := maxCloseAboveSmaPct context.config
  if bandInverted context.config then return .noSignal .conditionsNotMet
  else
    let required := requiredCandleCount context.config
    if candles.length < required then return .noSignal .insufficientHistory
    else
      let latest ← readBehind 0 candles
      let trendWindow ← readBeforeLast (trendLookback context.config) candles
      let sma := averageDecimal (trendWindow.map (·.close))
      let momentumReference ← readBehind (momentumLookback context.config) candles
      let closeVsSmaPct := pctRatio (latest.close - sma) sma
      let momentumReturnPct :=
        pctRatio (latest.close - momentumReference.close) momentumReference.close
      if latest.close ≤ sma ∨ closeVsSmaPct < minBand ∨ closeVsSmaPct > maxBand ∨
          latest.close ≤ momentumReference.close ∨
          momentumReturnPct < minMomentumReturnPct context.config then
        return .noSignal .conditionsNotMet
      else return .generated latest .trendFilterMomentum (68 / 100)

def evaluateVolumeBreakout : Except Fault StrategyOutcome := do
  let lookback := breakoutLookback context.config
  let required := lookback + 1
  if candles.length < required then return .noSignal .insufficientHistory
  else
    let recent ← readLast required candles
    let latest ← readBehind 0 recent
    let previousWindow := recent.dropLast
    let breakoutLevel ← Fallible.ofOption (highest previousWindow)
      (.message "previous window must be present")
    let averageVolume := averageDecimal (previousWindow.map (·.volume))
    if latest.close ≤ breakoutLevel ∨ latest.volume ≤ averageVolume then
      return .noSignal .conditionsNotMet
    else return .generated latest .volumeConfirmedBreakout (72 / 100)

def evaluateVolatilityCompressionBreakout : Except Fault StrategyOutcome := do
  if (validateCompressionBreakoutConfig context.config).isSome then
    return .noSignal .conditionsNotMet
  else
    let required := requiredCandleCount context.config
    if candles.length < required then return .noSignal .insufficientHistory
    else
      let recent ← readLast required candles
      let latest ← readBehind 0 recent
      let metrics ← calculateCompressionBreakoutMetrics context.config recent
      if !metrics.compressionPassed ∨ !metrics.rangeWidthWithinBounds ∨
          latest.close ≤ metrics.breakoutLevel ∨
          metrics.breakoutPct < minBreakoutPct context.config ∨
          metrics.breakoutPct > maxBreakoutExtensionPct context.config ∨
          metrics.volumeRatio < minVolumeExpansionRatio context.config ∨
          latest.close ≤ latest.open then
        return .noSignal .conditionsNotMet
      else return .generated latest .volatilityCompressionBreakout (71 / 100)

def evaluateRangeReversion : Except Fault StrategyOutcome := do
  let lookback := context.config.lookbackCandles
  let required := lookback + 1
  if candles.length < required then return .noSignal .insufficientHistory
  else
    let recent ← readLast required candles
    let latest ← readBehind 0 recent
    let previous ← readBehind 1 recent
    let rangeWindow ← readLast lookback recent
    let range := calculateRangeMetrics rangeWindow
    if range.rangeWidthPct < minRangeWidthPct context.config then
      return .noSignal .conditionsNotMet
    else if range.rangeWidthPct > maxRangeWidthPct context.config then
      return .noSignal .conditionsNotMet
    else if range.rangePositionPct > lowerBandPct context.config then
      return .noSignal .conditionsNotMet
    else
      let reversalConfirmed := latest.close > previous.close ∨ latest.close > latest.open
      let fallingKnifeAvoided := latest.low ≥ previous.low
      if ¬reversalConfirmed ∨ ¬fallingKnifeAvoided then return .noSignal .conditionsNotMet
      else return .generated latest .rangeReversion (66 / 100)

def evaluateTrendPullbackContinuation : Except Fault StrategyOutcome := do
  if (validateTrendPullbackConfig context.config).isSome then return .noSignal .conditionsNotMet
  else
    let required := requiredCandleCount context.config
    if candles.length < required then return .noSignal .insufficientHistory
    else
      let recent ← readLast required candles
      let latest ← readBehind 0 recent
      let metrics ← calculateTrendPullbackMetrics context.config recent
      if metrics.trendReturnPct < minTrendReturnPct context.config ∨
          metrics.trendSlopePct < minTrendSlopePct context.config ∨
          metrics.pullbackDepthPct < minPullbackDepthPct context.config ∨
          metrics.pullbackDepthPct > maxPullbackDepthPct context.config ∨
          metrics.closeVsSmaPct < 0 ∨
          metrics.closeVsSmaPct > maxCloseAboveSmaPct context.config ∨
          !metrics.reclaimConfirmed ∨
          metrics.volumeRatio < minVolumeRatio context.config ∨
          metrics.choppiness > maxChoppiness context.config then
        return .noSignal .conditionsNotMet
      else return .generated latest .trendPullbackContinuation (69 / 100)

def evaluateFailedBreakdownReclaim : Except Fault StrategyOutcome := do
  if (validateFailedBreakdownReclaimConfig context.config).isSome then
    return .noSignal .conditionsNotMet
  else
    let required := requiredCandleCount context.config
    if candles.length < required then return .noSignal .insufficientHistory
    else
      let recent ← readLast required candles
      let latest ← readBehind 0 recent
      let metrics ← calculateFailedBreakdownReclaimMetrics context.config recent
      if latest.low ≥ metrics.lookbackLow ∨ metrics.breakdownPct < minBreakdownPct context.config ∨
          latest.close < metrics.lookbackLow ∨
          metrics.reclaimClosePct < minReclaimClosePct context.config ∨
          metrics.lowerWickPct < minLowerWickPct context.config ∨
          (minVolumeRatioFailedReclaim context.config > 0 ∧
            metrics.volumeRatio < minVolumeRatioFailedReclaim context.config) then
        return .noSignal .conditionsNotMet
      else return .generated latest .failedBreakdownReclaim (70 / 100)

end Rules

def strategyRules : StrategyRules
  | .momentumV1, context, candles => evaluateMomentum .momentumV1 context candles
  | .volatilityBreakoutV1, context, candles => evaluateBreakout context candles
  | .trendFilterMomentumV1, context, candles => evaluateTrendFilterMomentum context candles
  | .trendFilterMomentumV2, context, candles => evaluateTrendFilterMomentumV2 context candles
  | .volatilityBreakoutV2, context, candles => evaluateVolumeBreakout context candles
  | .volatilityCompressionBreakoutV1, context, candles =>
    evaluateVolatilityCompressionBreakout context candles
  | .rangeReversionV1, context, candles => evaluateRangeReversion context candles
  | .trendPullbackContinuationV1, context, candles =>
    evaluateTrendPullbackContinuation context candles
  | .failedBreakdownReclaimV1, context, candles => evaluateFailedBreakdownReclaim context candles

theorem strategyRules_of_not_acceptsOwnConfig {context : StrategyEvaluationContext}
    (hProblem : ¬AcceptsOwnConfig context.config) (candles : List Candle) :
    strategyRules context.config.strategyId context candles = .ok (.noSignal .conditionsNotMet) := by
  unfold AcceptsOwnConfig at hProblem
  split at hProblem
  · rename_i hId
    simp only [hId, strategyRules, evaluateTrendFilterMomentumV2, Bool.not_eq_false] at hProblem ⊢
    rw [if_pos hProblem]
    rfl
  · rename_i hId
    simp only [hId, strategyRules, evaluateVolatilityCompressionBreakout]
    rw [if_pos (isSome_iff_ne_none.mpr hProblem)]
    rfl
  · rename_i hId
    simp only [hId, strategyRules, evaluateTrendPullbackContinuation]
    rw [if_pos (isSome_iff_ne_none.mpr hProblem)]
    rfl
  · rename_i hId
    simp only [hId, strategyRules, evaluateFailedBreakdownReclaim]
    rw [if_pos (isSome_iff_ne_none.mpr hProblem)]
    rfl
  · exact absurd trivial hProblem

end AegisQuant.Strategy
