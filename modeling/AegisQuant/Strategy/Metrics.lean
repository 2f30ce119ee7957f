import AegisQuant.Library.Window
import AegisQuant.Strategy.Config
import Mathlib.Algebra.Order.Group.Abs

/-! What the strategies measure in a window of candles. A read outside the
window is a panic, and so a fault here. -/
namespace AegisQuant.Strategy
open Fallible

def outOfRange : Fault := .message "slice index out of range"

/-- `candles[candles.len() - 1 - steps]`. -/
def readBehind (steps : Nat) (candles : List Candle) : Except Fault Candle :=
  ofOption (Window.behind? steps candles) outOfRange

/-- `candles[candles.len() - count..]`. -/
def readLast (count : Nat) (candles : List Candle) : Except Fault (List Candle) :=
  ofOption (Window.last? count candles) outOfRange

/-- `candles[candles.len() - 1 - count..candles.len() - 1]`. -/
def readBeforeLast (count : Nat) (candles : List Candle) : Except Fault (List Candle) :=
  ofOption (Window.beforeLast? count candles) outOfRange

/-- `candles[start..stop]` for a range within the list. -/
def slice (start stop : Nat) (candles : List Candle) : List Candle := (candles.take stop).drop start

def pctRatio (numerator denominator : Decimal) : Decimal :=
  if denominator = 0 then 0 else numerator / denominator * 100

def averageDecimal (values : List Decimal) : Decimal :=
  if values.isEmpty then 0 else values.sum / values.length

def highest (candles : List Candle) : Option Decimal := (candles.map (·.high)).max?

def lowest (candles : List Candle) : Option Decimal := (candles.map (·.low)).min?

/-- The volume of the latest candle against the average volume of others. -/
def volumeRatio (latest : Candle) (averageVolume : Decimal) : Decimal :=
  if averageVolume = 0 then 0 else latest.volume / averageVolume

def candleRangePct (candle : Candle) : Decimal :=
  if candle.open > 0 then (candle.high - candle.low) / candle.open * 100 else 0

/-- A negative rank has no `usize` and falls back to the last index. -/
def percentile (sorted : List Decimal) (percentile : Decimal) : Decimal :=
  let maxIndex := sorted.length - 1
  let rank := maxIndex * percentile / 100
  let index := if rank < 0 then maxIndex else min (roundDp 0 rank).floor.toNat maxIndex
  sorted.getD index 0

structure RangeMetrics where
  rangeHigh : Decimal
  rangeLow : Decimal
  rangeWidthPct : Decimal
  rangePositionPct : Decimal

def calculateRangeMetrics (candles : List Candle) : RangeMetrics :=
  let rangeHigh := (highest candles).getD 0
  let rangeLow := (lowest candles).getD 0
  let rangeWidth := rangeHigh - rangeLow
  let latestClose := (candles.getLast?.map (·.close)).getD 0
  { rangeHigh := rangeHigh
    rangeLow := rangeLow
    rangeWidthPct := pctRatio rangeWidth rangeLow
    rangePositionPct := pctRatio (latestClose - rangeLow) rangeWidth }

structure FailedBreakdownReclaimMetrics where
  lookbackLow : Decimal
  latestLow : Decimal
  latestClose : Decimal
  breakdownPct : Decimal
  reclaimClosePct : Decimal
  lowerWickPct : Decimal
  volumeRatio : Decimal
  averageVolume : Decimal
  candleBodyPct : Decimal
  candleRangePct : Decimal
  closeVsSmaPct : Decimal

def calculateFailedBreakdownReclaimMetrics (config : StrategyConfig) (window : List Candle) :
    Except Fault FailedBreakdownReclaimMetrics := do
  let latest ← readBehind 0 window
  let previousWindow ← readBeforeLast config.lookbackCandles window
  let lookbackLow := (lowest previousWindow).getD latest.low
  let bodyFloor := min latest.open latest.close
  let averageVolume := averageDecimal (previousWindow.map (·.volume))
  let sma := averageDecimal ((window.rtake 20).map (·.close))
  return {
    lookbackLow := lookbackLow
    latestLow := latest.low
    latestClose := latest.close
    breakdownPct := pctRatio (lookbackLow - latest.low) lookbackLow
    reclaimClosePct := pctRatio (latest.close - lookbackLow) lookbackLow
    lowerWickPct := pctRatio (bodyFloor - latest.low) latest.open
    volumeRatio := volumeRatio latest averageVolume
    averageVolume := averageVolume
    candleBodyPct := pctRatio |latest.close - latest.open| latest.open
    candleRangePct := candleRangePct latest
    closeVsSmaPct := pctRatio (latest.close - sma) sma }

structure TrendPullbackMetrics where
  trendReturnPct : Decimal
  trendSlopePct : Decimal
  recentHigh : Decimal
  pullbackDepthPct : Decimal
  pullbackSma : Decimal
  closeVsSmaPct : Decimal
  reclaimConfirmed : Bool
  volumeRatio : Decimal
  choppiness : Decimal

def calculateTrendPullbackMetrics (config : StrategyConfig) (window : List Candle) :
    Except Fault TrendPullbackMetrics := do
  let latest ← readBehind 0 window
  let previous ← readBehind 1 window
  let pullback := pullbackLookback config
  let trendReference ← readBehind (trendLookback config) window
  let trendReturnPct := pctRatio (latest.close - trendReference.close) trendReference.close
  let pullbackWindow ← readLast pullback window
  let recentHigh := (highest pullbackWindow).getD latest.high
  let pullbackReference := min latest.low latest.close
  let smaWindow ← readLast (pullbackSmaLookback config) window
  let pullbackSma := averageDecimal (smaWindow.map (·.close))
  let reclaimReturnPct := pctRatio (latest.close - previous.close) previous.close
  let reclaimConfirmed := latest.close > previous.close ∧ latest.close > latest.open ∧
    reclaimReturnPct ≥ minReclaimPct config
  let volumeWindow := slice (window.length - (pullback + 1)) (window.length - 1) window
  let averageVolume := averageDecimal (volumeWindow.map (·.volume))
  let chopWindow := window.rtake 20
  let rangeSum := (chopWindow.map fun candle => candle.high - candle.low).sum
  let firstClose := (chopWindow.head?.map (·.close)).getD latest.close
  let directionalMove := |latest.close - firstClose|
  let trendEfficiency := if rangeSum = 0 then 0
    else max 0 (min (directionalMove / rangeSum * 100) 100)
  return {
    trendReturnPct := trendReturnPct
    trendSlopePct := trendReturnPct
    recentHigh := recentHigh
    pullbackDepthPct := pctRatio (recentHigh - pullbackReference) recentHigh
    pullbackSma := pullbackSma
    closeVsSmaPct := pctRatio (latest.close - pullbackSma) pullbackSma
    reclaimConfirmed := reclaimConfirmed
    volumeRatio := volumeRatio latest averageVolume
    choppiness := 100 - trendEfficiency }

structure CompressionBreakoutMetrics where
  recentAvgRangePct : Decimal
  baselineAvgRangePct : Decimal
  compressionThresholdRangePct : Decimal
  compressionRatio : Decimal
  compressionPassed : Bool
  breakoutLevel : Decimal
  breakoutPct : Decimal
  volumeRatio : Decimal
  rangeWidthPct : Decimal
  rangeWidthWithinBounds : Bool

def calculateCompressionBreakoutMetrics (config : StrategyConfig) (window : List Candle) :
    Except Fault CompressionBreakoutMetrics := do
  let compression := compressionLookback config
  let breakout := breakoutLookback config
  let latestIndex := window.length - 1
  let latest ← readBehind 0 window
  let recentStart := latestIndex - compression
  let recentWindow := slice recentStart latestIndex window
  let baselineStart := recentStart - breakout
  let baselineWindow := if recentStart > baselineStart then slice baselineStart recentStart window
    else recentWindow
  let breakoutWindow := slice (latestIndex - breakout) latestIndex window
  let recentAvgRangePct := averageDecimal (recentWindow.map candleRangePct)
  let baselineRangePcts := (baselineWindow.map candleRangePct).insertionSort (· ≤ ·)
  let baselineAvgRangePct := averageDecimal baselineRangePcts
  let compressionThresholdRangePct :=
    percentile baselineRangePcts (compressionPercentileThreshold config)
  let breakoutLevel := (highest breakoutWindow).getD latest.high
  let averageVolume := averageDecimal (breakoutWindow.map (·.volume))
  let rangeLow := (lowest breakoutWindow).getD latest.low
  let rangeWidthPct := pctRatio (breakoutLevel - rangeLow) rangeLow
  return {
    recentAvgRangePct := recentAvgRangePct
    baselineAvgRangePct := baselineAvgRangePct
    compressionThresholdRangePct := compressionThresholdRangePct
    compressionRatio := pctRatio recentAvgRangePct baselineAvgRangePct
    compressionPassed := compressionThresholdRangePct > 0 ∧
      recentAvgRangePct ≤ compressionThresholdRangePct
    breakoutLevel := breakoutLevel
    breakoutPct := pctRatio (latest.close - breakoutLevel) breakoutLevel
    volumeRatio := volumeRatio latest averageVolume
    rangeWidthPct := rangeWidthPct
    rangeWidthWithinBounds := rangeWidthPct ≥ minRangeWidthPct config ∧
      rangeWidthPct ≤ maxRangeWidthPct config }

section Reads
variable {steps count within : Nat} {candles : List Candle}

theorem readBehind_rtake (hSteps : steps < within) :
    readBehind steps (candles.rtake within) = readBehind steps candles := by
  rw [readBehind, Window.behind?_rtake hSteps, readBehind]

theorem readLast_rtake (hCount : count ≤ within) :
    readLast count (candles.rtake within) = readLast count candles := by
  rw [readLast, Window.last?_rtake hCount, readLast]

theorem readBeforeLast_rtake (hCount : count < within) :
    readBeforeLast count (candles.rtake within) = readBeforeLast count candles := by
  rw [readBeforeLast, Window.beforeLast?_rtake hCount, readBeforeLast]

theorem exists_readBehind (hSteps : steps < candles.length) :
    ∃ candle, readBehind steps candles = .ok candle := by
  obtain ⟨candle, hCandle⟩ := Window.exists_behind? hSteps
  exact ⟨candle, ofOption_eq_ok.mpr hCandle⟩

theorem readLast_of_le (hCount : count ≤ candles.length) :
    readLast count candles = .ok (candles.rtake count) :=
  ofOption_eq_ok.mpr (Window.last?_of_le hCount)

theorem readBeforeLast_of_lt (hCount : count < candles.length) :
    readBeforeLast count candles = .ok (candles.dropLast.rtake count) :=
  ofOption_eq_ok.mpr (Window.beforeLast?_of_lt hCount)

end Reads

end AegisQuant.Strategy
