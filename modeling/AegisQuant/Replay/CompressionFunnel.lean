import AegisQuant.Library.Funnel
import AegisQuant.Replay.ExitAttribution
import AegisQuant.Replay.SignalFeatures

/-! The funnel of the compression breakout: how many candles pass each of its
conditions, measured apart from the strategy. -/
namespace AegisQuant.Replay

structure CompressionRefinementConfig where
  compressionLookback : Nat
  breakoutLookback : Nat
  compressionPercentileThreshold : Decimal
  minBreakoutPct : Decimal
  maxBreakoutExtensionPct : Decimal
  minVolumeExpansionRatio : Decimal
  minRangeWidthPct : Decimal
  maxRangeWidthPct : Decimal

/-- Two defaults differ from those of the strategy: the range may be wider, and
must be. -/
def compressionRefinementConfigFromStrategy (config : StrategyConfig) :
    CompressionRefinementConfig where
  compressionLookback := config.compressionLookbackCandles.getD config.lookbackCandles
  breakoutLookback := config.breakoutLookbackCandles.getD config.lookbackCandles
  compressionPercentileThreshold := config.compressionPercentileThreshold.getD 25
  minBreakoutPct := config.minBreakoutPct.getD (5 / 100)
  maxBreakoutExtensionPct := config.maxBreakoutExtensionPct.getD (15 / 10)
  minVolumeExpansionRatio := config.minVolumeExpansionRatio.getD (11 / 10)
  minRangeWidthPct := config.minRangeWidthPct.getD (2 / 10)
  maxRangeWidthPct := config.maxRangeWidthPct.getD 5

structure CompressionRefinementMetrics where
  recentAvgRangePct : Decimal
  compressionRatio : Decimal
  compressionPassed : Bool
  breakoutLevel : Decimal
  breakoutPct : Decimal
  volumeRatio : Decimal
  rangeWidthValid : Bool
  bullishCandle : Bool
  candleBodyPct : Decimal

/-- The value at the rank of a percentile, rounded down. -/
def decimalPercentile (sorted : List Decimal) (percentile : Decimal) : Decimal :=
  let maxIndex := sorted.length - 1
  let bounded := max 0 (min percentile 100)
  sorted.getD (min (maxIndex * bounded / 100).floor.toNat maxIndex) 0

def compressionRequiredCandles (config : CompressionRefinementConfig) : Nat :=
  max (config.compressionLookback + config.breakoutLookback + 1) 2

def calculateCompressionRefinementMetrics (config : CompressionRefinementConfig)
    (window : List Candle) : Except Fault CompressionRefinementMetrics := do
  let latestIndex := window.length - 1
  let latest ← Strategy.readBehind 0 window
  let recentStart := latestIndex - config.compressionLookback
  let recentWindow := Strategy.slice recentStart latestIndex window
  let baselineStart := recentStart - config.breakoutLookback
  let baselineWindow := if recentStart > baselineStart then
    Strategy.slice baselineStart recentStart window else recentWindow
  let breakoutWindow := Strategy.slice (latestIndex - config.breakoutLookback) latestIndex window
  let recentAvgRangePct := averageDecimalReplay (recentWindow.map candleRangePct)
  let baselineRangePcts := (baselineWindow.map candleRangePct).insertionSort (· ≤ ·)
  let baselineAvgRangePct := averageDecimalReplay baselineRangePcts
  let compressionThresholdRangePct :=
    decimalPercentile baselineRangePcts config.compressionPercentileThreshold
  let breakoutLevel := (Strategy.highest breakoutWindow).getD latest.high
  let averageVolume := averageDecimalReplay (breakoutWindow.map (·.volume))
  let rangeLow := (Strategy.lowest breakoutWindow).getD latest.low
  let rangeWidthPct := pctChange breakoutLevel rangeLow
  return {
    recentAvgRangePct := recentAvgRangePct
    compressionRatio := guardedPct recentAvgRangePct baselineAvgRangePct
    compressionPassed := compressionThresholdRangePct > 0 ∧
      recentAvgRangePct ≤ compressionThresholdRangePct
    breakoutLevel := breakoutLevel
    breakoutPct := pctChange latest.close breakoutLevel
    volumeRatio := guardedVolumeRatio latest averageVolume
    rangeWidthValid := rangeWidthPct ≥ config.minRangeWidthPct ∧
      rangeWidthPct ≤ config.maxRangeWidthPct
    bullishCandle := latest.close > latest.open
    candleBodyPct := candleBodyPct latest }

def forwardNetPnlPct (entryPrice exitPrice feeDragPct : Decimal) : Decimal :=
  if entryPrice > 0 then (exitPrice - entryPrice) / entryPrice * 100 - feeDragPct else 0

def pctI64Replay (numerator denominator : Int) : Decimal :=
  if denominator > 0 then numerator / denominator * 100 else 0

inductive FunnelCondition where
  | enoughData
  | compressionPassed
  | rangeWidthValid
  | breakoutPassed
  | breakoutMinPassed
  | breakoutNotOverextended
  | volumeConfirmed
  | bullishCandleConfirmed
  | finalWouldSignal
  | executableSignal
  | forwardPnlAvailable
  deriving DecidableEq, Repr

def FunnelCondition.asStr : FunnelCondition → String
  | .enoughData => "enough_data"
  | .compressionPassed => "compression_passed"
  | .rangeWidthValid => "range_width_valid"
  | .breakoutPassed => "breakout_passed"
  | .breakoutMinPassed => "breakout_min_passed"
  | .breakoutNotOverextended => "breakout_not_overextended"
  | .volumeConfirmed => "volume_confirmed"
  | .bullishCandleConfirmed => "bullish_candle_confirmed"
  | .finalWouldSignal => "final_would_signal"
  | .executableSignal => "executable_signal"
  | .forwardPnlAvailable => "forward_pnl_available"

def compressionFunnelConditions : List FunnelCondition :=
  [.enoughData, .compressionPassed, .rangeWidthValid, .breakoutPassed, .breakoutMinPassed,
    .breakoutNotOverextended, .volumeConfirmed, .bullishCandleConfirmed, .finalWouldSignal,
    .executableSignal, .forwardPnlAvailable]

abbrev FunnelConditionStats := Funnel.Count

def recordFunnelCondition (stats : FunnelCondition → FunnelConditionStats)
    (condition : FunnelCondition) (reached passed : Bool) :
    FunnelCondition → FunnelConditionStats :=
  Funnel.record stats condition reached passed

structure CompressionSignalSample where
  index : Nat
  metrics : CompressionRefinementMetrics
  forwardNetPnlPct : Decimal

/-- What the loop over the candles keeps. -/
structure FunnelState where
  stats : FunnelCondition → FunnelConditionStats
  lastExecutedEntryTime : Option DateTime
  openUntilIndex : Option Nat
  samples : List CompressionSignalSample

def FunnelState.initial : FunnelState where
  stats := fun _ => Funnel.Count.zero
  lastExecutedEntryTime := none
  openUntilIndex := none
  samples := []

def finalWouldSignal (config : CompressionRefinementConfig) (latest : Candle)
    (metrics : CompressionRefinementMetrics) : Bool :=
  metrics.compressionPassed && metrics.rangeWidthValid &&
    decide (latest.close > metrics.breakoutLevel) &&
    decide (metrics.breakoutPct ≥ config.minBreakoutPct) &&
    decide (metrics.breakoutPct ≤ config.maxBreakoutExtensionPct) &&
    decide (metrics.volumeRatio ≥ config.minVolumeExpansionRatio) && metrics.bullishCandle

/-- The conditions after the first, in their order. -/
def funnelSequence (config : CompressionRefinementConfig) (latest : Candle)
    (metrics : CompressionRefinementMetrics) (executableSignal forwardPnlAvailable : Bool) :
    List (FunnelCondition × Bool) :=
  [(.compressionPassed, metrics.compressionPassed), (.rangeWidthValid, metrics.rangeWidthValid),
    (.breakoutPassed, decide (latest.close > metrics.breakoutLevel)),
    (.breakoutMinPassed, decide (metrics.breakoutPct ≥ config.minBreakoutPct)),
    (.breakoutNotOverextended, decide (metrics.breakoutPct ≤ config.maxBreakoutExtensionPct)),
    (.volumeConfirmed, decide (metrics.volumeRatio ≥ config.minVolumeExpansionRatio)),
    (.bullishCandleConfirmed, metrics.bullishCandle),
    (.finalWouldSignal, finalWouldSignal config latest metrics),
    (.executableSignal, executableSignal), (.forwardPnlAvailable, forwardPnlAvailable)]

/-- The recent candles up to an index, enough of them for the windows. -/
def funnelWindow (config : CompressionRefinementConfig) (candles : List Candle) (index : Nat) :
    List Candle :=
  Strategy.slice (index + 1 - compressionRequiredCandles config) (index + 1) candles

/-- The candle at an index on its way through the conditions. -/
def funnelAt (config : CompressionRefinementConfig) (candles : List Candle) (maxHolding : Nat)
    (feeDragPct : Decimal) (index : Nat) (latest : Candle) (state : FunnelState) :
    Except Fault FunnelState := do
  let openUntilIndex := state.openUntilIndex.filter (index < ·)
  let enoughData : Bool := index + 1 ≥ compressionRequiredCandles config
  let stats := recordFunnelCondition state.stats .enoughData true enoughData
  if !enoughData then return { state with stats := stats, openUntilIndex := openUntilIndex }
  else
    let metrics ← calculateCompressionRefinementMetrics config (funnelWindow config candles index)
    let wouldSignal := finalWouldSignal config latest metrics
    let entry := candles[index + 1]?
    let exit := candles[index + 1 + maxHolding]?
    let executableSignal := wouldSignal && entry.isSome &&
      !cooldownActive state.lastExecutedEntryTime latest.closeTime 0 && openUntilIndex.isNone
    let forwardPnlAvailable := executableSignal && exit.isSome
    return {
      stats := Funnel.recordRow stats true
        (funnelSequence config latest metrics executableSignal forwardPnlAvailable)
      lastExecutedEntryTime := if executableSignal then entry.map (·.openTime)
        else state.lastExecutedEntryTime
      openUntilIndex := if executableSignal then some (index + maxHolding) else openUntilIndex
      samples := match entry, exit with
        | some entry, some exit =>
          if forwardPnlAvailable then
            state.samples ++ [{
              index := index
              metrics := metrics
              forwardNetPnlPct := forwardNetPnlPct entry.open exit.close feeDragPct }]
          else state.samples
        | _, _ => state.samples }

/-- The step at an index, which does nothing behind the last candle. -/
def funnelStep (config : CompressionRefinementConfig) (candles : List Candle) (maxHolding : Nat)
    (feeDragPct : Decimal) (state : FunnelState) (index : Nat) : Except Fault FunnelState :=
  match candles[index]? with
  | none => .ok state
  | some latest => funnelAt config candles maxHolding feeDragPct index latest state

/-- The funnel of the candles before `count`. -/
def funnelTo (config : CompressionRefinementConfig) (candles : List Candle) (maxHolding : Nat)
    (feeDragPct : Decimal) (count : Nat) : Except Fault FunnelState :=
  (List.range count).foldlM (funnelStep config candles maxHolding feeDragPct) .initial

structure CompressionBreakoutConditionBreakdown where
  condition : String
  reachedCount : Int
  passedCount : Int
  failedCount : Int
  passRatePct : Decimal
  dropOffPct : Decimal
  deriving DecidableEq, Repr

def conditionBreakdown (stats : FunnelCondition → FunnelConditionStats)
    (condition : FunnelCondition) : CompressionBreakoutConditionBreakdown :=
  let stat := stats condition
  let failedCount := stat.reachedCount - stat.passedCount
  { condition := condition.asStr
    reachedCount := stat.reachedCount
    passedCount := stat.passedCount
    failedCount := failedCount
    passRatePct := pctI64Replay stat.passedCount stat.reachedCount
    dropOffPct := pctI64Replay failedCount stat.reachedCount }

/-- The condition that the greatest share of its candles fails, and of these
the one that most candles fail. -/
def topBottleneck (breakdown : List CompressionBreakoutConditionBreakdown) : Option String :=
  (maxBy (fun left right => (compare left.dropOffPct right.dropOffPct).then
    (compare left.failedCount right.failedCount))
    (breakdown.filter fun row => row.condition ≠ "enough_data" ∧ row.reachedCount > 0)).map
      (·.condition)

def buildCompressionRefinementFunnel (candles : List Candle) (config : CompressionRefinementConfig)
    (holdingWindows : List Nat) (feeDragPct : Decimal) :
    Except Fault (List CompressionBreakoutConditionBreakdown × Option String ×
      List CompressionSignalSample) := do
  let maxHolding := holdingWindows.max?.getD 20
  let state ← funnelTo config candles maxHolding feeDragPct candles.length
  let breakdown := compressionFunnelConditions.map (conditionBreakdown state.stats)
  return (breakdown, topBottleneck breakdown, state.samples)

/-- The candles that the funnel gets of those loaded for a request. -/
def refinementCandles (candles : List Candle) : List Candle :=
  (candles.insertionSort (·.openTime ≤ ·.openTime)).filter (·.isClosed)

end AegisQuant.Replay
