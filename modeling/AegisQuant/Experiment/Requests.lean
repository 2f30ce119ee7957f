import AegisQuant.Core.Strategy
import AegisQuant.Market.CandleBuilder

/-! A strategy experiment: the request with its lists of candidate values, the
check it passes before anything runs, and the candidates it is made of. A list
that is absent or empty has a default. -/
namespace AegisQuant.Experiment

structure StrategyExperimentCandidate where
  lookbackCandles : Nat
  trendLookbackCandles : Option Nat := none
  momentumLookbackCandles : Option Nat := none
  compressionLookbackCandles : Option Nat := none
  breakoutLookbackCandles : Option Nat := none
  pullbackLookbackCandles : Option Nat := none
  pullbackSmaLookbackCandles : Option Nat := none
  compressionPercentileThreshold : Option Decimal := none
  minBreakoutPct : Option Decimal := none
  maxBreakoutExtensionPct : Option Decimal := none
  minVolumeExpansionRatio : Option Decimal := none
  lowerBandPct : Option Decimal := none
  upperBandPct : Option Decimal := none
  minRangeWidthPct : Option Decimal := none
  maxRangeWidthPct : Option Decimal := none
  minCloseAboveSmaPct : Option Decimal := none
  maxCloseAboveSmaPct : Option Decimal := none
  minMomentumReturnPct : Option Decimal := none
  minTrendReturnPct : Option Decimal := none
  minTrendSlopePct : Option Decimal := none
  minPullbackDepthPct : Option Decimal := none
  maxPullbackDepthPct : Option Decimal := none
  minReclaimPct : Option Decimal := none
  minBreakdownPct : Option Decimal := none
  minReclaimClosePct : Option Decimal := none
  minLowerWickPct : Option Decimal := none
  minVolumeRatio : Option Decimal := none
  maxChoppiness : Option Decimal := none
  holdingCandles : Option Nat := none
  stopLossPct : Option Decimal := none
  takeProfitPct : Option Decimal := none
  confirmationCandles : Nat := 0
  requireConfirmationCloseAboveLookbackLow : Bool := false
  requireConfirmationLowAboveBreakdownLow : Bool := false
  maxSignalAgeMs : Option Int := none
  deriving DecidableEq

structure StrategyExperimentRequest where
  strategyId : String
  symbol : String
  timeframe : String
  startTime : DateTime
  endTime : DateTime
  initialCapital : Decimal
  feeBps : Decimal
  slippageBps : Decimal
  lookbackCandidates : List Nat
  trendLookbackCandidates : Option (List Nat) := none
  momentumLookbackCandidates : Option (List Nat) := none
  compressionLookbackCandidates : Option (List Nat) := none
  breakoutLookbackCandidates : Option (List Nat) := none
  pullbackLookbackCandidates : Option (List Nat) := none
  pullbackSmaLookbackCandidates : Option (List Nat) := none
  compressionPercentileThresholdCandidates : Option (List Decimal) := none
  minBreakoutPctCandidates : Option (List Decimal) := none
  maxBreakoutExtensionPctCandidates : Option (List Decimal) := none
  minVolumeExpansionRatioCandidates : Option (List Decimal) := none
  lowerBandPctCandidates : Option (List Decimal) := none
  upperBandPctCandidates : Option (List Decimal) := none
  minRangeWidthPctCandidates : Option (List Decimal) := none
  maxRangeWidthPctCandidates : Option (List Decimal) := none
  minCloseAboveSmaPctCandidates : Option (List Decimal) := none
  maxCloseAboveSmaPctCandidates : Option (List Decimal) := none
  minMomentumReturnPctCandidates : Option (List Decimal) := none
  minTrendReturnPctCandidates : Option (List Decimal) := none
  minTrendSlopePctCandidates : Option (List Decimal) := none
  minPullbackDepthPctCandidates : Option (List Decimal) := none
  maxPullbackDepthPctCandidates : Option (List Decimal) := none
  minReclaimPctCandidates : Option (List Decimal) := none
  minBreakdownPctCandidates : Option (List Decimal) := none
  minReclaimClosePctCandidates : Option (List Decimal) := none
  minLowerWickPctCandidates : Option (List Decimal) := none
  minVolumeRatioCandidates : Option (List Decimal) := none
  maxChoppinessCandidates : Option (List Decimal) := none
  holdingCandlesCandidates : Option (List Nat) := none
  stopLossPctCandidates : Option (List Decimal) := none
  takeProfitPctCandidates : Option (List Decimal) := none
  confirmationCandlesCandidates : Option (List Nat) := none
  requireConfirmationCloseAboveLookbackLowCandidates : Option (List Bool) := none
  requireConfirmationLowAboveBreakdownLowCandidates : Option (List Bool) := none
  maxSignalAgeMs : Option Int := none
  maxRuns : Option Nat := none

def nonEmptyOr {α : Type} (values : Option (List α)) (fallback : List α) : List α :=
  (values.filter fun values => !values.isEmpty).getD fallback

/-- A value that is kept on a condition. -/
def thenSome {α : Type} (keep : Bool) (value : α) : Option α := if keep then some value else none

def checkMaxSignalAge : Option Int → Except CoreError Unit
  | some maxSignalAgeMs =>
    if maxSignalAgeMs ≤ 0 then .error (.invalidStrategyMaxSignalAgeMs maxSignalAgeMs) else .ok ()
  | none => .ok ()

namespace StrategyExperimentRequest
variable (request : StrategyExperimentRequest)

/-- The lookbacks besides the main one that are checked together. -/
def optionalLookbacks : List Nat :=
  request.trendLookbackCandidates.getD [] ++ request.momentumLookbackCandidates.getD [] ++
    request.compressionLookbackCandidates.getD [] ++ request.breakoutLookbackCandidates.getD [] ++
    request.pullbackLookbackCandidates.getD [] ++ request.pullbackSmaLookbackCandidates.getD []

def validate : Except CoreError Unit :=
  if trim request.strategyId = "" then .error .emptyStrategyExperimentStrategyId
  else if trim request.symbol = "" then .error .emptyStrategyExperimentSymbol
  else if trim request.timeframe = "" then .error .emptyStrategyExperimentTimeframe
  else if request.endTime ≤ request.startTime then .error .invalidStrategyExperimentTimeRange
  else if request.initialCapital ≤ 0 then .error .invalidStrategyExperimentInitialCapital
  else do
    let _ ← CandleInterval.fromStr request.timeframe
    if request.feeBps < 0 then .error (.invalidBacktestBps "fee_bps")
    else if request.slippageBps < 0 then .error (.invalidBacktestBps "slippage_bps")
    else if request.lookbackCandidates = [] then .error .emptyStrategyExperimentCandidates
    else if 0 ∈ request.optionalLookbacks then .error .emptyStrategyExperimentCandidates
    else if request.maxRuns = some 0 then .error .invalidStrategyExperimentMaxRuns
    else if 0 ∈ request.holdingCandlesCandidates.getD [] then .error .invalidHoldingCandles
    else checkMaxSignalAge request.maxSignalAgeMs

/-! The lists that the grid runs through. -/

def holdings : List Nat := nonEmptyOr request.holdingCandlesCandidates [0]

def stopLosses : List Decimal := nonEmptyOr request.stopLossPctCandidates [0]

def takeProfits : List Decimal := nonEmptyOr request.takeProfitPctCandidates [0]

def confirmationCandles : List Nat := nonEmptyOr request.confirmationCandlesCandidates [0]

def confirmationCloseFlags : List Bool :=
  nonEmptyOr request.requireConfirmationCloseAboveLookbackLowCandidates [false]

def confirmationLowFlags : List Bool :=
  nonEmptyOr request.requireConfirmationLowAboveBreakdownLowCandidates [false]

def trendLookbacks : List Nat :=
  nonEmptyOr request.trendLookbackCandidates request.lookbackCandidates

def momentumLookbacks : List Nat := nonEmptyOr request.momentumLookbackCandidates [0]

def compressionLookbacks : List Nat :=
  nonEmptyOr request.compressionLookbackCandidates request.lookbackCandidates

def breakoutLookbacks : List Nat :=
  nonEmptyOr request.breakoutLookbackCandidates request.lookbackCandidates

def compressionThresholds : List Decimal :=
  nonEmptyOr request.compressionPercentileThresholdCandidates [25]

def minBreakouts : List Decimal := nonEmptyOr request.minBreakoutPctCandidates [0]

def maxExtensions : List Decimal := nonEmptyOr request.maxBreakoutExtensionPctCandidates [0]

def volumeRatios : List Decimal := nonEmptyOr request.minVolumeExpansionRatioCandidates [0]

def lowerBands : List Decimal := nonEmptyOr request.lowerBandPctCandidates [20]

def upperBands : List Decimal := nonEmptyOr request.upperBandPctCandidates [80]

def minRangeWidths : List Decimal := nonEmptyOr request.minRangeWidthPctCandidates [0]

def maxRangeWidths : List Decimal := nonEmptyOr request.maxRangeWidthPctCandidates [0]

def minCloseAboveSmaValues : List Decimal := nonEmptyOr request.minCloseAboveSmaPctCandidates [0]

def maxCloseAboveSmaValues : List Decimal := nonEmptyOr request.maxCloseAboveSmaPctCandidates [0]

def minMomentumReturnValues : List Decimal := nonEmptyOr request.minMomentumReturnPctCandidates [0]

/-! Those of `failed_breakdown_reclaim_v1` only. -/

def minBreakdowns : List Decimal := nonEmptyOr request.minBreakdownPctCandidates [5 / 100]

def minReclaimCloses : List Decimal := nonEmptyOr request.minReclaimClosePctCandidates [0]

def minLowerWicks : List Decimal := nonEmptyOr request.minLowerWickPctCandidates [1]

def reclaimMinVolumes : List Decimal := nonEmptyOr request.minVolumeRatioCandidates [0]

/-! Those of `trend_pullback_continuation_v1` only. -/

def pullbackLookbacks : List Nat :=
  nonEmptyOr request.pullbackLookbackCandidates request.lookbackCandidates

def pullbackSmaLookbacks : List Nat := nonEmptyOr request.pullbackSmaLookbackCandidates [20]

def minTrendReturns : List Decimal := nonEmptyOr request.minTrendReturnPctCandidates [2]

def minTrendSlopes : List Decimal := nonEmptyOr request.minTrendSlopePctCandidates [0]

def minPullbackDepths : List Decimal := nonEmptyOr request.minPullbackDepthPctCandidates [3 / 10]

def maxPullbackDepths : List Decimal := nonEmptyOr request.maxPullbackDepthPctCandidates [5]

def minReclaims : List Decimal := nonEmptyOr request.minReclaimPctCandidates [5 / 100]

def pullbackMinVolumes : List Decimal := nonEmptyOr request.minVolumeRatioCandidates [8 / 10]

def maxChoppinessValues : List Decimal := nonEmptyOr request.maxChoppinessCandidates [60]

end StrategyExperimentRequest

end AegisQuant.Experiment
