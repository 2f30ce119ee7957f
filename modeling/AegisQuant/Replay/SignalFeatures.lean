import AegisQuant.Strategy.Metrics

/-! The features of a signal. They are measured anew in the candles up to the
signal, with lookback defaults and guards of their own. -/
namespace AegisQuant

def DateTime.hour (time : DateTime) : Nat := (time / 3600000000000 % 24).toNat

inductive Weekday where
  | mon
  | tue
  | wed
  | thu
  | fri
  | sat
  | sun
  deriving DecidableEq, Repr

/-- The epoch is a Thursday. -/
def DateTime.weekday (time : DateTime) : Weekday :=
  match (time / 86400000000000 + 3) % 7 with
  | 0 => .mon
  | 1 => .tue
  | 2 => .wed
  | 3 => .thu
  | 4 => .fri
  | 5 => .sat
  | _ => .sun

def Weekday.numDaysFromMonday : Weekday → Nat
  | .mon => 0
  | .tue => 1
  | .wed => 2
  | .thu => 3
  | .fri => 4
  | .sat => 5
  | .sun => 6

def Weekday.debug : Weekday → String
  | .mon => "Mon"
  | .tue => "Tue"
  | .wed => "Wed"
  | .thu => "Thu"
  | .fri => "Fri"
  | .sat => "Sat"
  | .sun => "Sun"

end AegisQuant

namespace AegisQuant.Replay

structure StrategySignalFeatureMetric where
  featureName : String
  value : Decimal
  bucketLabel : String
  deriving DecidableEq, Repr

def bucketLabelForFeature (featureName : String) (value : Decimal) : String :=
  match featureName with
  | "range_position_pct" =>
    if value < 20 then "0-20"
    else if value < 40 then "20-40"
    else if value < 60 then "40-60"
    else if value < 80 then "60-80"
    else "80-100"
  | "close_vs_sma_pct" =>
    if value < -1 then "below -1%"
    else if value < 0 then "-1% to 0%"
    else if value ≤ 1 then "0% to 1%"
    else "above 1%"
  | _ =>
    if value < 0 then "LOW"
    else if value < 1 then "MID"
    else if value < 3 then "HIGH"
    else "EXTREME"

def decimalFeatureMetric (featureName : String) (value : Decimal) : StrategySignalFeatureMetric where
  featureName := featureName
  value := value
  bucketLabel := bucketLabelForFeature featureName value

/-- A ratio in percent, which is zero unless the denominator is positive. -/
def guardedPct (numerator denominator : Decimal) : Decimal :=
  if denominator > 0 then numerator / denominator * 100 else 0

def pctChange (value reference : Decimal) : Decimal := guardedPct (value - reference) reference

def candleBodyPct (candle : Candle) : Decimal :=
  guardedPct |candle.close - candle.open| candle.open

def candleRangePct (candle : Candle) : Decimal :=
  guardedPct (candle.high - candle.low) candle.open

def averageDecimalReplay (values : List Decimal) : Decimal :=
  if (values.length : Decimal) > 0 then values.sum / values.length else 0

/-- The volume of the latest candle against the average volume of others. -/
def guardedVolumeRatio (latest : Candle) (averageVolume : Decimal) : Decimal :=
  if averageVolume > 0 then latest.volume / averageVolume else 0

section Features
variable (config : StrategyConfig) (candles : List Candle) (index : Nat) (latest : Candle)

open Strategy

def extractTrendFilterMomentumFeatures : List StrategySignalFeatureMetric :=
  let trend := config.trendLookbackCandles.getD config.lookbackCandles
  let momentum := config.momentumLookbackCandles.getD config.lookbackCandles
  if index < trend ∨ index < momentum then []
  else
    let trendWindow := slice (index - trend) index candles
    let sma := averageDecimalReplay (trendWindow.map (·.close))
    let momentumReference := candles.getD (index - momentum) latest
    let recentHigh := (highest trendWindow).getD latest.high
    let recentLow := (lowest trendWindow).getD latest.low
    let recentVolatilityPct := averageDecimalReplay (trendWindow.map candleRangePct)
    [decimalFeatureMetric "close_vs_sma_pct" (pctChange latest.close sma),
      decimalFeatureMetric "momentum_return_pct" (pctChange latest.close momentumReference.close),
      decimalFeatureMetric "recent_volatility_pct" recentVolatilityPct,
      decimalFeatureMetric "candle_body_pct" (candleBodyPct latest),
      decimalFeatureMetric "candle_range_pct" (candleRangePct latest),
      decimalFeatureMetric "distance_from_recent_high_pct" (pctChange latest.close recentHigh),
      decimalFeatureMetric "distance_from_recent_low_pct" (pctChange latest.close recentLow)]

def extractRangeReversionFeatures : List StrategySignalFeatureMetric :=
  let lookback := config.lookbackCandles
  if index + 1 < lookback ∨ index = 0 then []
  else
    let previous := candles.getD (index - 1) latest
    let rangeWindow := slice (index + 1 - lookback) (index + 1) candles
    let rangeHigh := (highest rangeWindow).getD latest.high
    let rangeLow := (lowest rangeWindow).getD latest.low
    let rangeWidth := rangeHigh - rangeLow
    [decimalFeatureMetric "range_position_pct" (guardedPct (latest.close - rangeLow) rangeWidth),
      decimalFeatureMetric "range_width_pct" (guardedPct rangeWidth rangeLow),
      decimalFeatureMetric "close_vs_range_low_pct" (pctChange latest.close rangeLow),
      decimalFeatureMetric "close_vs_range_high_pct" (pctChange latest.close rangeHigh),
      decimalFeatureMetric "reversal_strength_pct" (pctChange latest.close previous.close),
      decimalFeatureMetric "latest_low_vs_previous_low_pct" (pctChange latest.low previous.low),
      decimalFeatureMetric "candle_body_pct" (candleBodyPct latest),
      decimalFeatureMetric "candle_range_pct" (candleRangePct latest)]

def extractVolatilityCompressionBreakoutFeatures : List StrategySignalFeatureMetric :=
  let compression := config.compressionLookbackCandles.getD config.lookbackCandles
  let breakout := config.breakoutLookbackCandles.getD config.lookbackCandles
  if index < compression + breakout ∨ index = 0 then []
  else
    let recentWindow := slice (index - compression) index candles
    let baselineWindow :=
      slice (index - compression - breakout) (index - compression) candles
    let breakoutWindow := slice (index - breakout) index candles
    let recentAvgRangePct := averageDecimalReplay (recentWindow.map candleRangePct)
    let baselineAvgRangePct := averageDecimalReplay (baselineWindow.map candleRangePct)
    let breakoutLevel := (highest breakoutWindow).getD latest.high
    let averageVolume := averageDecimalReplay (breakoutWindow.map (·.volume))
    let recentHigh := (highest breakoutWindow).getD latest.high
    [decimalFeatureMetric "compression_ratio" (guardedPct recentAvgRangePct baselineAvgRangePct),
      decimalFeatureMetric "recent_avg_range_pct" recentAvgRangePct,
      decimalFeatureMetric "baseline_avg_range_pct" baselineAvgRangePct,
      decimalFeatureMetric "breakout_pct" (pctChange latest.close breakoutLevel),
      decimalFeatureMetric "volume_ratio" (guardedVolumeRatio latest averageVolume),
      decimalFeatureMetric "candle_body_pct" (candleBodyPct latest),
      decimalFeatureMetric "candle_range_pct" (candleRangePct latest),
      decimalFeatureMetric "distance_from_recent_high_pct" (pctChange latest.close recentHigh)]

def extractTrendPullbackContinuationFeatures : List StrategySignalFeatureMetric :=
  let trend := config.trendLookbackCandles.getD 50
  let pullback := config.pullbackLookbackCandles.getD 10
  let smaLookback := config.pullbackSmaLookbackCandles.getD 20
  if index < trend ∨ index + 1 < pullback ∨ index + 1 < smaLookback then []
  else
    let trendReference := candles.getD (index - trend) latest
    let pullbackWindow := slice (index + 1 - pullback) (index + 1) candles
    let recentHigh := (highest pullbackWindow).getD latest.high
    let pullbackReference := min latest.low latest.close
    let smaWindow := slice (index + 1 - smaLookback) (index + 1) candles
    let pullbackSma := averageDecimalReplay (smaWindow.map (·.close))
    let volumeWindow := slice (index - pullback) index candles
    let averageVolume := averageDecimalReplay (volumeWindow.map (·.volume))
    let chopLookback := min 20 (index + 1)
    let chopWindow := slice (index + 1 - chopLookback) (index + 1) candles
    let rangeSum := (chopWindow.map fun candle => candle.high - candle.low).sum
    let firstClose := (chopWindow.head?.map (·.close)).getD latest.close
    let directionalMove := |latest.close - firstClose|
    let trendEfficiency := if rangeSum > 0 then max 0 (min (directionalMove / rangeSum * 100) 100)
      else 0
    [decimalFeatureMetric "trend_return_pct" (pctChange latest.close trendReference.close),
      decimalFeatureMetric "pullback_depth_pct"
        (guardedPct (recentHigh - pullbackReference) recentHigh),
      decimalFeatureMetric "close_vs_sma_pct" (pctChange latest.close pullbackSma),
      decimalFeatureMetric "volume_ratio" (guardedVolumeRatio latest averageVolume),
      decimalFeatureMetric "choppiness" (100 - trendEfficiency),
      decimalFeatureMetric "candle_body_pct" (candleBodyPct latest),
      decimalFeatureMetric "candle_range_pct" (candleRangePct latest)]

def extractFailedBreakdownReclaimFeatures : List StrategySignalFeatureMetric :=
  let lookback := config.lookbackCandles
  if index < lookback then []
  else
    let lookbackWindow := slice (index - lookback) index candles
    let lookbackLow := (lowest lookbackWindow).getD latest.low
    let bodyFloor := min latest.open latest.close
    let averageVolume := averageDecimalReplay (lookbackWindow.map (·.volume))
    let smaWindowLen := min 20 (index + 1)
    let smaWindow := slice (index + 1 - smaWindowLen) (index + 1) candles
    let sma := averageDecimalReplay (smaWindow.map (·.close))
    [decimalFeatureMetric "breakdown_pct" (guardedPct (lookbackLow - latest.low) lookbackLow),
      decimalFeatureMetric "reclaim_close_pct" (pctChange latest.close lookbackLow),
      decimalFeatureMetric "lower_wick_pct" (guardedPct (bodyFloor - latest.low) latest.open),
      decimalFeatureMetric "volume_ratio" (guardedVolumeRatio latest averageVolume),
      decimalFeatureMetric "candle_body_pct" (candleBodyPct latest),
      decimalFeatureMetric "candle_range_pct" (candleRangePct latest),
      decimalFeatureMetric "close_vs_sma_pct" (pctChange latest.close sma)]

end Features

def strategyFeatures (strategyId : StrategyId) (config : StrategyConfig) (candles : List Candle)
    (index : Nat) (latest : Candle) : List StrategySignalFeatureMetric :=
  match strategyId with
  | .trendFilterMomentumV1 | .trendFilterMomentumV2 =>
    extractTrendFilterMomentumFeatures config candles index latest
  | .rangeReversionV1 => extractRangeReversionFeatures config candles index latest
  | .volatilityCompressionBreakoutV1 =>
    extractVolatilityCompressionBreakoutFeatures config candles index latest
  | .trendPullbackContinuationV1 =>
    extractTrendPullbackContinuationFeatures config candles index latest
  | .failedBreakdownReclaimV1 => extractFailedBreakdownReclaimFeatures config candles index latest
  | .momentumV1 | .volatilityBreakoutV1 | .volatilityBreakoutV2 => []

/-- The features of a signal at `latest`, the candle at `index`. -/
def extractSignalFeatureMetrics (strategyId : StrategyId) (config : StrategyConfig)
    (candles : List Candle) (index : Nat) (latest : Candle) : List StrategySignalFeatureMetric :=
  let hour := latest.closeTime.hour
  let weekday := latest.closeTime.weekday
  strategyFeatures strategyId config candles index latest ++
    [{ featureName := "hour_of_day_utc", value := hour
       bucketLabel := (if hour < 10 then "0" else "") ++ toString hour },
      { featureName := "day_of_week", value := weekday.numDaysFromMonday
        bucketLabel := weekday.debug }]

end AegisQuant.Replay
