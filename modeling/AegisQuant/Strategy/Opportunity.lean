import AegisQuant.Strategy.Decision

/-! Opportunity analysis. A third body of each strategy tells for every window
of the required length whether the strategy would have signalled at its end,
and a tally counts the windows and the conditions that held them back. -/
namespace AegisQuant.Strategy

structure ConditionOutcome where
  name : String
  passed : Bool
  deriving DecidableEq, Repr

structure WindowOutcome where
  openTime : DateTime
  closeTime : DateTime
  wouldSignal : Bool
  blockingCondition : Option String
  conditions : List ConditionOutcome

def condition (name : String) (passed : Prop) [Decidable passed] : ConditionOutcome := ⟨name, passed⟩

def firstFailed (conditions : List ConditionOutcome) : Option String :=
  (conditions.find? fun condition => !condition.passed && condition.name ≠ "final_would_signal").map
    (·.name)

/-- The outcome of a window, whose conditions are framed by the ones every
strategy reports. -/
def windowOutcome (latest : Candle) (conditions : List ConditionOutcome) (finalWouldSignal : Prop)
    [Decidable finalWouldSignal] : WindowOutcome :=
  let all := condition "has_enough_data" True :: conditions ++
    [condition "freshness" True, condition "final_would_signal" finalWouldSignal]
  { openTime := latest.openTime
    closeTime := latest.closeTime
    wouldSignal := finalWouldSignal
    blockingCondition := firstFailed all
    conditions := all }

section Windows
variable (config : StrategyConfig) (window : List Candle)

def analyzeRangeReversionWindow : Except Fault WindowOutcome := do
  let latest ← readBehind 0 window
  let previous ← readBehind 1 window
  let rangeWindow ← readLast config.lookbackCandles window
  let range := calculateRangeMetrics rangeWindow
  let widthWithinBounds := range.rangeWidthPct ≥ minRangeWidthPct config ∧
    range.rangeWidthPct ≤ maxRangeWidthPct config
  let nearLowerBand := range.rangePositionPct ≤ lowerBandPct config
  let reversalConfirmation := latest.close > previous.close ∨ latest.close > latest.open
  let latestLowNotUndercutting := latest.low ≥ previous.low
  let rawWouldSignal := widthWithinBounds ∧ nearLowerBand ∧ reversalConfirmation ∧
    latestLowNotUndercutting
  let confidenceFloorPassed := (66 / 100 : Decimal) ≥ config.confidenceFloor.getD 0
  return windowOutcome latest
    [condition "range_width_within_bounds" widthWithinBounds,
      condition "near_lower_band" nearLowerBand,
      condition "reversal_confirmation" reversalConfirmation,
      condition "latest_low_not_undercutting_previous_low" latestLowNotUndercutting,
      condition "confidence_floor" confidenceFloorPassed]
    (rawWouldSignal ∧ confidenceFloorPassed)

def analyzeTrendFilterWindow : Except Fault WindowOutcome := do
  let latest ← readBehind 0 window
  let previous ← readBehind 1 window
  let trendWindow ← readBeforeLast (trendLookback config) window
  let sma := averageDecimal (trendWindow.map (·.close))
  let momentumReference ← readBehind (momentumLookback config) window
  let closeAboveSma := latest.close > sma
  let latestAbovePrevious := latest.close > previous.close
  let momentumCondition := latest.close > momentumReference.close
  let rawWouldSignal := closeAboveSma ∧ latestAbovePrevious ∧ momentumCondition
  let confidenceFloorPassed := (68 / 100 : Decimal) ≥ config.confidenceFloor.getD 0
  return windowOutcome latest
    [condition "close_above_sma" closeAboveSma,
      condition "latest_close_above_previous_close" latestAbovePrevious,
      condition "momentum_condition" momentumCondition,
      condition "confidence_floor" confidenceFloorPassed]
    (rawWouldSignal ∧ confidenceFloorPassed)

def analyzeTrendFilterV2Window : Except Fault WindowOutcome := do
  let latest ← readBehind 0 window
  let trendWindow ← readBeforeLast (trendLookback config) window
  let sma := averageDecimal (trendWindow.map (·.close))
  let momentumReference ← readBehind (momentumLookback config) window
  let closeVsSmaPct := pctRatio (latest.close - sma) sma
  let momentumReturnPct := pctRatio (latest.close - momentumReference.close) momentumReference.close
  let minBand := minCloseAboveSmaPct config
  let maxBand := maxCloseAboveSmaPct config
  let validConfig := maxBand ≥ minBand
  let closeAboveSma := latest.close > sma
  let closeWithinSmaBand := closeVsSmaPct ≥ minBand ∧ closeVsSmaPct ≤ maxBand ∧ validConfig
  let momentumConfirmed := latest.close > momentumReference.close ∧
    momentumReturnPct ≥ minMomentumReturnPct config
  let rawWouldSignal := validConfig ∧ closeAboveSma ∧ closeWithinSmaBand ∧ momentumConfirmed
  let confidenceFloorPassed := (68 / 100 : Decimal) ≥ config.confidenceFloor.getD 0
  return windowOutcome latest
    [condition "valid_config" validConfig, condition "close_above_sma" closeAboveSma,
      condition "close_within_sma_band" closeWithinSmaBand,
      condition "momentum_confirmed" momentumConfirmed,
      condition "confidence_floor" confidenceFloorPassed]
    (rawWouldSignal ∧ confidenceFloorPassed)

def analyzeVolatilityCompressionBreakoutWindow : Except Fault WindowOutcome := do
  let latest ← readBehind 0 window
  let metrics ← calculateCompressionBreakoutMetrics config window
  let validConfig := validateCompressionBreakoutConfig config = none
  let compressionPassed := validConfig ∧ metrics.compressionPassed
  let rangeWidthPassed := validConfig ∧ metrics.rangeWidthWithinBounds
  let breakoutPassed := validConfig ∧ latest.close > metrics.breakoutLevel
  let breakoutLargeEnough := validConfig ∧ metrics.breakoutPct ≥ minBreakoutPct config
  let breakoutNotOverextended := validConfig ∧ metrics.breakoutPct ≤ maxBreakoutExtensionPct config
  let volumeConfirmed := validConfig ∧ metrics.volumeRatio ≥ minVolumeExpansionRatio config
  let bullishClose := latest.close > latest.open
  return windowOutcome latest
    [condition "valid_config" validConfig, condition "compression_passed" compressionPassed,
      condition "range_width_within_bounds" rangeWidthPassed,
      condition "breakout_passed" breakoutPassed,
      condition "breakout_large_enough" breakoutLargeEnough,
      condition "breakout_not_overextended" breakoutNotOverextended,
      condition "volume_confirmed" volumeConfirmed, condition "bullish_close" bullishClose]
    (compressionPassed ∧ rangeWidthPassed ∧ breakoutPassed ∧ breakoutLargeEnough ∧
      breakoutNotOverextended ∧ volumeConfirmed ∧ bullishClose)

def analyzeTrendPullbackContinuationWindow : Except Fault WindowOutcome := do
  let latest ← readBehind 0 window
  let metrics ← calculateTrendPullbackMetrics config window
  let validConfig := validateTrendPullbackConfig config = none
  let trendConfirmed := validConfig ∧ metrics.trendReturnPct ≥ minTrendReturnPct config ∧
    metrics.trendSlopePct ≥ minTrendSlopePct config
  let pullbackDepthValid := validConfig ∧ metrics.pullbackDepthPct ≥ minPullbackDepthPct config ∧
    metrics.pullbackDepthPct ≤ maxPullbackDepthPct config
  let closeNearSma := validConfig ∧ metrics.closeVsSmaPct ≥ 0 ∧
    metrics.closeVsSmaPct ≤ maxCloseAboveSmaPct config
  let reclaimConfirmed := validConfig ∧ metrics.reclaimConfirmed
  let volumeConfirmed := validConfig ∧ metrics.volumeRatio ≥ minVolumeRatio config
  let choppinessValid := validConfig ∧ metrics.choppiness ≤ maxChoppiness config
  return windowOutcome latest
    [condition "valid_config" validConfig, condition "trend_confirmed" trendConfirmed,
      condition "pullback_depth_valid" pullbackDepthValid,
      condition "close_near_sma" closeNearSma, condition "reclaim_confirmed" reclaimConfirmed,
      condition "volume_confirmed" volumeConfirmed, condition "choppiness_valid" choppinessValid]
    (trendConfirmed ∧ pullbackDepthValid ∧ closeNearSma ∧ reclaimConfirmed ∧ volumeConfirmed ∧
      choppinessValid)

def analyzeFailedBreakdownReclaimWindow : Except Fault WindowOutcome := do
  let latest ← readBehind 0 window
  let metrics ← calculateFailedBreakdownReclaimMetrics config window
  let minVolume := minVolumeRatioFailedReclaim config
  let validConfig := validateFailedBreakdownReclaimConfig config = none
  let breakdownDetected := validConfig ∧ latest.low < metrics.lookbackLow
  let breakdownDepthValid := validConfig ∧ metrics.breakdownPct ≥ minBreakdownPct config
  let reclaimConfirmed := validConfig ∧ latest.close ≥ metrics.lookbackLow ∧
    metrics.reclaimClosePct ≥ minReclaimClosePct config
  let lowerWickValid := validConfig ∧ metrics.lowerWickPct ≥ minLowerWickPct config
  let volumeConfirmed := validConfig ∧ (minVolume = 0 ∨ metrics.volumeRatio ≥ minVolume)
  return windowOutcome latest
    [condition "valid_config" validConfig, condition "breakdown_detected" breakdownDetected,
      condition "breakdown_depth_valid" breakdownDepthValid,
      condition "reclaim_confirmed" reclaimConfirmed, condition "lower_wick_valid" lowerWickValid,
      condition "volume_confirmed" volumeConfirmed]
    (breakdownDetected ∧ breakdownDepthValid ∧ reclaimConfirmed ∧ lowerWickValid ∧ volumeConfirmed)

/-- `i64::MAX`. -/
def maxI64 : Int := 9223372036854775807

/-- The strategies without a body of their own are evaluated on the window,
with identifiers drawn for it. -/
def analyzeGenericWindow (strategyId : StrategyId) (signalId correlationId : Uuid) :
    Except Fault WindowOutcome := do
  let latest ← readBehind 0 window
  let result ← evaluate strategyRules signalId {
    correlationId := correlationId
    strategyId := strategyId
    symbol := latest.symbol
    config := { config with maxSignalAgeMs := maxI64 }
    candles := window
    evaluatedAt := latest.closeTime }
  return windowOutcome latest [] result.generated

def analyzeWindow (strategyId : StrategyId) (signalId correlationId : Uuid) :
    Except Fault WindowOutcome :=
  match strategyId with
  | .rangeReversionV1 => analyzeRangeReversionWindow config window
  | .trendFilterMomentumV1 => analyzeTrendFilterWindow config window
  | .trendFilterMomentumV2 => analyzeTrendFilterV2Window config window
  | .volatilityCompressionBreakoutV1 => analyzeVolatilityCompressionBreakoutWindow config window
  | .trendPullbackContinuationV1 => analyzeTrendPullbackContinuationWindow config window
  | .failedBreakdownReclaimV1 => analyzeFailedBreakdownReclaimWindow config window
  | .momentumV1 | .volatilityBreakoutV1 | .volatilityBreakoutV2 =>
    analyzeGenericWindow config window strategyId signalId correlationId

end Windows

abbrev Counters := List (String × Int)

def increment (name : String) : Counters → Counters
  | [] => [(name, 1)]
  | (key, count) :: rest =>
    if name = key then (key, count + 1) :: rest
    else if name < key then (name, 1) :: (key, count) :: rest
    else (key, count) :: increment name rest

structure ConditionStats where
  passed : Counters := []
  failed : Counters := []
  blockers : Counters := []

def ConditionStats.record (stats : ConditionStats) (outcome : ConditionOutcome) : ConditionStats :=
  if outcome.passed then { stats with passed := increment outcome.name stats.passed }
  else { stats with failed := increment outcome.name stats.failed }

def ConditionStats.recordBlocker (stats : ConditionStats) (blocker : String) : ConditionStats :=
  { stats with blockers := increment blocker stats.blockers }

/-- What the loop over the windows keeps. -/
structure Tally where
  stats : ConditionStats := {}
  passExamples : List WindowOutcome := []
  failExamples : List WindowOutcome := []
  wouldSignalCount : Int := 0

structure StrategyOpportunityAnalysisRequest where
  strategyId : String
  symbol : String
  timeframe : String
  startTime : DateTime
  endTime : DateTime
  limitSamples : Option Nat
  includeExamples : Bool

def Tally.add (request : StrategyOpportunityAnalysisRequest) (tally : Tally)
    (outcome : WindowOutcome) : Tally :=
  let limitSamples := request.limitSamples.getD 5
  let recorded := outcome.conditions.foldl ConditionStats.record tally.stats
  let stats := outcome.blockingCondition.elim recorded recorded.recordBlocker
  if outcome.wouldSignal then
    { tally with
      stats := stats
      wouldSignalCount := tally.wouldSignalCount + 1
      passExamples := if request.includeExamples && tally.passExamples.length < limitSamples then
        tally.passExamples ++ [outcome] else tally.passExamples }
  else
    { tally with
      stats := stats
      failExamples := if request.includeExamples && tally.failExamples.length < limitSamples then
        tally.failExamples ++ [outcome] else tally.failExamples }

def pctI64 (numerator denominator : Int) : Decimal :=
  if denominator ≤ 0 then 0 else numerator / denominator * 100

structure StrategyConditionPassRate where
  condition : String
  passedCount : Int
  failedCount : Int
  passRatePct : Decimal

structure StrategyConditionFailureBreakdown where
  condition : String
  failedCount : Int
  failureRatePct : Decimal

def ConditionStats.allConditions (stats : ConditionStats) : List String :=
  ((stats.passed ++ stats.failed).map (·.1)).dedup.insertionSort (· ≤ ·)

def countOf (counters : Counters) (name : String) : Int := (counters.lookup name).getD 0

def ConditionStats.passRates (stats : ConditionStats) (evaluableWindows : Int) :
    List StrategyConditionPassRate :=
  stats.allConditions.map fun condition =>
    { condition := condition
      passedCount := countOf stats.passed condition
      failedCount := countOf stats.failed condition
      passRatePct := pctI64 (countOf stats.passed condition) evaluableWindows }

/-- The largest counts first, equal ones by name. -/
def sortByFailures (rows : List StrategyConditionFailureBreakdown) :
    List StrategyConditionFailureBreakdown :=
  rows.insertionSort fun left right => right.failedCount < left.failedCount ∨
    right.failedCount = left.failedCount ∧ left.condition ≤ right.condition

def ConditionStats.failureBreakdown (stats : ConditionStats) (evaluableWindows : Int) :
    List StrategyConditionFailureBreakdown :=
  sortByFailures (stats.allConditions.map fun condition =>
    ⟨condition, countOf stats.failed condition,
      pctI64 (countOf stats.failed condition) evaluableWindows⟩)

def ConditionStats.topBlockers (stats : ConditionStats) (evaluableWindows : Int) :
    List StrategyConditionFailureBreakdown :=
  (sortByFailures (stats.blockers.map fun (condition, failedCount) =>
    ⟨condition, failedCount, pctI64 failedCount evaluableWindows⟩)).take 5

inductive StrategyOpportunityStatus where
  | healthyOpportunity
  | tooRestrictive
  | tooLoose
  | insufficientData
  | dataQualityDegraded
  | unknown
  deriving DecidableEq, Repr

structure StrategyOpportunityAnalysisResult where
  strategyId : String
  symbol : String
  timeframe : String
  startTime : DateTime
  endTime : DateTime
  totalClosedCandles : Int
  evaluableWindows : Int
  wouldSignalCount : Int
  noSignalCount : Int
  signalRatePct : Decimal
  topBlockingConditions : List StrategyConditionFailureBreakdown
  conditionPassRates : List StrategyConditionPassRate
  conditionFailureBreakdown : List StrategyConditionFailureBreakdown
  examplePassWindows : List WindowOutcome
  exampleFailWindows : List WindowOutcome
  dataQualityStatus : StrategyOpportunityStatus
  analyzedAt : DateTime

/-- `signalId` and `correlationId` are the identifiers drawn for the window
that ends at an index. -/
def analyzeOpportunity (signalId correlationId : Nat → Uuid)
    (request : StrategyOpportunityAnalysisRequest) (config : StrategyConfig)
    (candles : List Candle) (analyzedAt : DateTime) :
    Except Fault StrategyOpportunityAnalysisResult := do
  config.validate.mapError Fault.core
  let strategyId ← (StrategyId.fromStr request.strategyId).mapError Fault.core
  if strategyId ≠ config.strategyId then
    .error (.core (.unsupportedStrategyId
      ("strategy config does not match opportunity target: " ++ config.strategyId.asStr ++ " != " ++
        strategyId.asStr)))
  else
    let candles := normalizeClosedCandles candles
    let required := requiredCandleCount config
    -- no window ends before there are `required` candles
    let ends := List.range' required (candles.length + 1 - required)
    let tally ← ends.foldlM (fun (tally : Tally) stop => do
      let outcome ← analyzeWindow config (slice (stop - required) stop candles) strategyId
        (signalId stop) (correlationId stop)
      return tally.add request outcome) {}
    let evaluableWindows : Int :=
      if candles.length ≥ required then candles.length - required + 1 else 0
    return {
      strategyId := strategyId.asStr
      symbol := request.symbol
      timeframe := request.timeframe
      startTime := request.startTime
      endTime := request.endTime
      totalClosedCandles := candles.length
      evaluableWindows := evaluableWindows
      wouldSignalCount := tally.wouldSignalCount
      noSignalCount := evaluableWindows - tally.wouldSignalCount
      signalRatePct := pctI64 tally.wouldSignalCount evaluableWindows
      topBlockingConditions := tally.stats.topBlockers evaluableWindows
      conditionPassRates := tally.stats.passRates evaluableWindows
      conditionFailureBreakdown := tally.stats.failureBreakdown evaluableWindows
      examplePassWindows := tally.passExamples
      exampleFailWindows := tally.failExamples
      dataQualityStatus := if candles.length < required then .insufficientData
        else .healthyOpportunity
      analyzedAt := analyzedAt }

end AegisQuant.Strategy
