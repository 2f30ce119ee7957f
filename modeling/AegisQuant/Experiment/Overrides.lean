import AegisQuant.Exchange.Orders
import AegisQuant.Experiment.Candidates
import AegisQuant.Strategy.Validation

/-! The configuration an experiment runs a candidate with, and the one a
walk-forward run gives the same candidate. The two are built by two functions,
field by field; the candidate passes from one to the other through a third. -/
namespace AegisQuant.Experiment
open Strategy

structure StrategyWalkForwardCandidate where
  lookbackCandles : Nat
  trendLookbackCandles : Option Nat := none
  momentumLookbackCandles : Option Nat := none
  compressionLookbackCandles : Option Nat := none
  breakoutLookbackCandles : Option Nat := none
  pullbackLookbackCandles : Option Nat := none
  pullbackSmaLookbackCandles : Option Nat := none
  compressionPercentileThreshold : Option Decimal := none
  minBreakoutPct : Option Decimal := none
  maxBreakoutExtensionPct : Option Decimal := none
  minVolumeExpansionRatio : Option Decimal := none
  lowerBandPct : Option Decimal := none
  upperBandPct : Option Decimal := none
  minRangeWidthPct : Option Decimal := none
  maxRangeWidthPct : Option Decimal := none
  minCloseAboveSmaPct : Option Decimal := none
  maxCloseAboveSmaPct : Option Decimal := none
  minMomentumReturnPct : Option Decimal := none
  minTrendReturnPct : Option Decimal := none
  minTrendSlopePct : Option Decimal := none
  minPullbackDepthPct : Option Decimal := none
  maxPullbackDepthPct : Option Decimal := none
  minReclaimPct : Option Decimal := none
  minBreakdownPct : Option Decimal := none
  minReclaimClosePct : Option Decimal := none
  minLowerWickPct : Option Decimal := none
  minVolumeRatio : Option Decimal := none
  maxChoppiness : Option Decimal := none
  holdingCandles : Option Nat := none
  stopLossPct : Option Decimal := none
  takeProfitPct : Option Decimal := none
  confirmationCandles : Option Nat := none
  requireConfirmationCloseAboveLookbackLow : Option Bool := none
  requireConfirmationLowAboveBreakdownLow : Option Bool := none
  maxSignalAgeMs : Option Int := none
  deriving DecidableEq

structure StrategyWalkForwardRequest where
  strategyId : String
  symbol : String
  timeframe : String
  config : Option Value := none
  experimentRunId : Option Uuid := none
  startTime : DateTime
  endTime : DateTime
  windowTrainSizeHours : Int
  windowTestSizeHours : Int
  stepSizeHours : Int
  initialCapital : Decimal
  feeBps : Decimal
  slippageBps : Decimal
  candidateConfig : StrategyWalkForwardCandidate
  minRequiredTestWindows : Option UInt32 := none

/-- A value that only some strategies, by their own spelling, are given. -/
def onlyFor {α : Type} (strategyId : String) (strategies : List StrategyId) (value : Option α) :
    Option α :=
  value.filter fun _ => strategies.any fun strategy => strategyId = strategy.asStr

def strategyConfigUpdateFromCandidate (baseConfig : StrategyConfig)
    (strategyId symbol timeframe : String) (candidate : StrategyExperimentCandidate) :
    StrategyConfigUpdateRequest where
  strategyId := strategyId
  enabled := baseConfig.enabled
  mode := baseConfig.mode
  symbols := [symbol]
  timeframe := timeframe
  suggestedNotional := baseConfig.suggestedNotional
  maxSignalAgeMs := candidate.maxSignalAgeMs.getD baseConfig.maxSignalAgeMs
  cooldownSeconds := baseConfig.cooldownSeconds
  lookbackCandles := candidate.lookbackCandles
  trendLookbackCandles :=
    (onlyFor strategyId [.trendFilterMomentumV1, .trendFilterMomentumV2, .trendPullbackContinuationV1]
      (candidate.trendLookbackCandles.or (some candidate.lookbackCandles))).or
        baseConfig.trendLookbackCandles
  momentumLookbackCandles :=
    (onlyFor strategyId [.trendFilterMomentumV1, .trendFilterMomentumV2]
      candidate.momentumLookbackCandles).or baseConfig.momentumLookbackCandles
  compressionLookbackCandles :=
    (onlyFor strategyId [.volatilityCompressionBreakoutV1]
      (candidate.compressionLookbackCandles.or (some candidate.lookbackCandles))).or
        baseConfig.compressionLookbackCandles
  breakoutLookbackCandles :=
    (onlyFor strategyId [.volatilityBreakoutV2, .volatilityCompressionBreakoutV1]
      (candidate.breakoutLookbackCandles.or (some candidate.lookbackCandles))).or
        baseConfig.breakoutLookbackCandles
  pullbackLookbackCandles :=
    (onlyFor strategyId [.trendPullbackContinuationV1]
      candidate.pullbackLookbackCandles).or baseConfig.pullbackLookbackCandles
  pullbackSmaLookbackCandles :=
    (onlyFor strategyId [.trendPullbackContinuationV1]
      candidate.pullbackSmaLookbackCandles).or baseConfig.pullbackSmaLookbackCandles
  compressionPercentileThreshold :=
    (onlyFor strategyId [.volatilityCompressionBreakoutV1]
      candidate.compressionPercentileThreshold).or baseConfig.compressionPercentileThreshold
  minBreakoutPct :=
    (onlyFor strategyId [.volatilityCompressionBreakoutV1]
      candidate.minBreakoutPct).or baseConfig.minBreakoutPct
  maxBreakoutExtensionPct :=
    (onlyFor strategyId [.volatilityCompressionBreakoutV1]
      candidate.maxBreakoutExtensionPct).or baseConfig.maxBreakoutExtensionPct
  minVolumeExpansionRatio :=
    (onlyFor strategyId [.volatilityCompressionBreakoutV1]
      candidate.minVolumeExpansionRatio).or baseConfig.minVolumeExpansionRatio
  lowerBandPct :=
    (onlyFor strategyId [.rangeReversionV1] candidate.lowerBandPct).or baseConfig.lowerBandPct
  upperBandPct :=
    (onlyFor strategyId [.rangeReversionV1] candidate.upperBandPct).or baseConfig.upperBandPct
  minRangeWidthPct :=
    (onlyFor strategyId [.rangeReversionV1]
      candidate.minRangeWidthPct).or baseConfig.minRangeWidthPct
  maxRangeWidthPct :=
    (onlyFor strategyId [.rangeReversionV1]
      candidate.maxRangeWidthPct).or baseConfig.maxRangeWidthPct
  minCloseAboveSmaPct :=
    (onlyFor strategyId [.trendFilterMomentumV2]
      candidate.minCloseAboveSmaPct).or baseConfig.minCloseAboveSmaPct
  maxCloseAboveSmaPct :=
    (onlyFor strategyId [.trendFilterMomentumV2]
      candidate.maxCloseAboveSmaPct).or baseConfig.maxCloseAboveSmaPct
  minMomentumReturnPct :=
    (onlyFor strategyId [.trendFilterMomentumV2]
      candidate.minMomentumReturnPct).or baseConfig.minMomentumReturnPct
  minTrendReturnPct :=
    (onlyFor strategyId [.trendPullbackContinuationV1]
      candidate.minTrendReturnPct).or baseConfig.minTrendReturnPct
  minTrendSlopePct :=
    (onlyFor strategyId [.trendPullbackContinuationV1]
      candidate.minTrendSlopePct).or baseConfig.minTrendSlopePct
  minPullbackDepthPct :=
    (onlyFor strategyId [.trendPullbackContinuationV1]
      candidate.minPullbackDepthPct).or baseConfig.minPullbackDepthPct
  maxPullbackDepthPct :=
    (onlyFor strategyId [.trendPullbackContinuationV1]
      candidate.maxPullbackDepthPct).or baseConfig.maxPullbackDepthPct
  minReclaimPct :=
    (onlyFor strategyId [.trendPullbackContinuationV1]
      candidate.minReclaimPct).or baseConfig.minReclaimPct
  minBreakdownPct :=
    (onlyFor strategyId [.failedBreakdownReclaimV1]
      candidate.minBreakdownPct).or baseConfig.minBreakdownPct
  minReclaimClosePct :=
    (onlyFor strategyId [.failedBreakdownReclaimV1]
      candidate.minReclaimClosePct).or baseConfig.minReclaimClosePct
  minLowerWickPct :=
    (onlyFor strategyId [.failedBreakdownReclaimV1]
      candidate.minLowerWickPct).or baseConfig.minLowerWickPct
  minVolumeRatio :=
    (onlyFor strategyId [.trendPullbackContinuationV1, .failedBreakdownReclaimV1]
      candidate.minVolumeRatio).or baseConfig.minVolumeRatio
  maxChoppiness :=
    (onlyFor strategyId [.trendPullbackContinuationV1]
      candidate.maxChoppiness).or baseConfig.maxChoppiness
  confidenceFloor := baseConfig.confidenceFloor
  stopLossPct := candidate.stopLossPct.or baseConfig.stopLossPct
  takeProfitPct := candidate.takeProfitPct.or baseConfig.takeProfitPct
  holdingCandles := candidate.holdingCandles.or baseConfig.holdingCandles
  confirmationCandles := candidate.confirmationCandles
  requireConfirmationCloseAboveLookbackLow := candidate.requireConfirmationCloseAboveLookbackLow
  requireConfirmationLowAboveBreakdownLow := candidate.requireConfirmationLowAboveBreakdownLow
  notes := baseConfig.notes

def experimentStrategyOverride (baseConfig : StrategyConfig) (request : StrategyExperimentRequest)
    (candidate : StrategyExperimentCandidate) : StrategyConfigUpdateRequest :=
  strategyConfigUpdateFromCandidate baseConfig request.strategyId request.symbol request.timeframe
    candidate

def walkForwardStrategyOverride (baseConfig : StrategyConfig) (request : StrategyWalkForwardRequest) :
    StrategyConfigUpdateRequest where
  strategyId := request.strategyId
  enabled := baseConfig.enabled
  mode := baseConfig.mode
  symbols := [request.symbol]
  timeframe := request.timeframe
  suggestedNotional := baseConfig.suggestedNotional
  maxSignalAgeMs := request.candidateConfig.maxSignalAgeMs.getD baseConfig.maxSignalAgeMs
  cooldownSeconds := baseConfig.cooldownSeconds
  lookbackCandles := request.candidateConfig.lookbackCandles
  trendLookbackCandles :=
    (onlyFor request.strategyId
      [.trendFilterMomentumV1, .trendFilterMomentumV2, .trendPullbackContinuationV1]
      (request.candidateConfig.trendLookbackCandles.or
        (some request.candidateConfig.lookbackCandles))).or baseConfig.trendLookbackCandles
  momentumLookbackCandles :=
    (onlyFor request.strategyId [.trendFilterMomentumV1, .trendFilterMomentumV2]
      request.candidateConfig.momentumLookbackCandles).or baseConfig.momentumLookbackCandles
  compressionLookbackCandles :=
    (onlyFor request.strategyId [.volatilityCompressionBreakoutV1]
      (request.candidateConfig.compressionLookbackCandles.or
        (some request.candidateConfig.lookbackCandles))).or baseConfig.compressionLookbackCandles
  breakoutLookbackCandles :=
    (onlyFor request.strategyId [.volatilityBreakoutV2, .volatilityCompressionBreakoutV1]
      (request.candidateConfig.breakoutLookbackCandles.or
        (some request.candidateConfig.lookbackCandles))).or baseConfig.breakoutLookbackCandles
  pullbackLookbackCandles :=
    (onlyFor request.strategyId [.trendPullbackContinuationV1]
      request.candidateConfig.pullbackLookbackCandles).or baseConfig.pullbackLookbackCandles
  pullbackSmaLookbackCandles :=
    (onlyFor request.strategyId [.trendPullbackContinuationV1]
      request.candidateConfig.pullbackSmaLookbackCandles).or baseConfig.pullbackSmaLookbackCandles
  compressionPercentileThreshold :=
    (onlyFor request.strategyId [.volatilityCompressionBreakoutV1]
      request.candidateConfig.compressionPercentileThreshold).or
        baseConfig.compressionPercentileThreshold
  minBreakoutPct :=
    (onlyFor request.strategyId [.volatilityCompressionBreakoutV1]
      request.candidateConfig.minBreakoutPct).or baseConfig.minBreakoutPct
  maxBreakoutExtensionPct :=
    (onlyFor request.strategyId [.volatilityCompressionBreakoutV1]
      request.candidateConfig.maxBreakoutExtensionPct).or baseConfig.maxBreakoutExtensionPct
  minVolumeExpansionRatio :=
    (onlyFor request.strategyId [.volatilityCompressionBreakoutV1]
      request.candidateConfig.minVolumeExpansionRatio).or baseConfig.minVolumeExpansionRatio
  lowerBandPct :=
    (onlyFor request.strategyId [.rangeReversionV1]
      request.candidateConfig.lowerBandPct).or baseConfig.lowerBandPct
  upperBandPct :=
    (onlyFor request.strategyId [.rangeReversionV1]
      request.candidateConfig.upperBandPct).or baseConfig.upperBandPct
  minRangeWidthPct :=
    (onlyFor request.strategyId [.rangeReversionV1]
      request.candidateConfig.minRangeWidthPct).or baseConfig.minRangeWidthPct
  maxRangeWidthPct :=
    (onlyFor request.strategyId [.rangeReversionV1]
      request.candidateConfig.maxRangeWidthPct).or baseConfig.maxRangeWidthPct
  minCloseAboveSmaPct :=
    (onlyFor request.strategyId [.trendFilterMomentumV2]
      request.candidateConfig.minCloseAboveSmaPct).or baseConfig.minCloseAboveSmaPct
  maxCloseAboveSmaPct :=
    (onlyFor request.strategyId [.trendFilterMomentumV2]
      request.candidateConfig.maxCloseAboveSmaPct).or baseConfig.maxCloseAboveSmaPct
  minMomentumReturnPct :=
    (onlyFor request.strategyId [.trendFilterMomentumV2]
      request.candidateConfig.minMomentumReturnPct).or baseConfig.minMomentumReturnPct
  minTrendReturnPct :=
    (onlyFor request.strategyId [.trendPullbackContinuationV1]
      request.candidateConfig.minTrendReturnPct).or baseConfig.minTrendReturnPct
  minTrendSlopePct :=
    (onlyFor request.strategyId [.trendPullbackContinuationV1]
      request.candidateConfig.minTrendSlopePct).or baseConfig.minTrendSlopePct
  minPullbackDepthPct :=
    (onlyFor request.strategyId [.trendPullbackContinuationV1]
      request.candidateConfig.minPullbackDepthPct).or baseConfig.minPullbackDepthPct
  maxPullbackDepthPct :=
    (onlyFor request.strategyId [.trendPullbackContinuationV1]
      request.candidateConfig.maxPullbackDepthPct).or baseConfig.maxPullbackDepthPct
  minReclaimPct :=
    (onlyFor request.strategyId [.trendPullbackContinuationV1]
      request.candidateConfig.minReclaimPct).or baseConfig.minReclaimPct
  minBreakdownPct :=
    (onlyFor request.strategyId [.failedBreakdownReclaimV1]
      request.candidateConfig.minBreakdownPct).or baseConfig.minBreakdownPct
  minReclaimClosePct :=
    (onlyFor request.strategyId [.failedBreakdownReclaimV1]
      request.candidateConfig.minReclaimClosePct).or baseConfig.minReclaimClosePct
  minLowerWickPct :=
    (onlyFor request.strategyId [.failedBreakdownReclaimV1]
      request.candidateConfig.minLowerWickPct).or baseConfig.minLowerWickPct
  minVolumeRatio :=
    (onlyFor request.strategyId [.trendPullbackContinuationV1, .failedBreakdownReclaimV1]
      request.candidateConfig.minVolumeRatio).or baseConfig.minVolumeRatio
  maxChoppiness :=
    (onlyFor request.strategyId [.trendPullbackContinuationV1]
      request.candidateConfig.maxChoppiness).or baseConfig.maxChoppiness
  confidenceFloor := baseConfig.confidenceFloor
  stopLossPct := request.candidateConfig.stopLossPct.or baseConfig.stopLossPct
  takeProfitPct := request.candidateConfig.takeProfitPct.or baseConfig.takeProfitPct
  holdingCandles := request.candidateConfig.holdingCandles.or baseConfig.holdingCandles
  confirmationCandles := request.candidateConfig.confirmationCandles.getD 0
  requireConfirmationCloseAboveLookbackLow :=
    request.candidateConfig.requireConfirmationCloseAboveLookbackLow.getD false
  requireConfirmationLowAboveBreakdownLow :=
    request.candidateConfig.requireConfirmationLowAboveBreakdownLow.getD false
  notes := baseConfig.notes

def strategyWalkForwardCandidateFromExperiment (candidate : StrategyExperimentCandidate) :
    StrategyWalkForwardCandidate where
  lookbackCandles := candidate.lookbackCandles
  trendLookbackCandles := candidate.trendLookbackCandles
  momentumLookbackCandles := candidate.momentumLookbackCandles
  compressionLookbackCandles := candidate.compressionLookbackCandles
  breakoutLookbackCandles := candidate.breakoutLookbackCandles
  pullbackLookbackCandles := candidate.pullbackLookbackCandles
  pullbackSmaLookbackCandles := candidate.pullbackSmaLookbackCandles
  compressionPercentileThreshold := candidate.compressionPercentileThreshold
  minBreakoutPct := candidate.minBreakoutPct
  maxBreakoutExtensionPct := candidate.maxBreakoutExtensionPct
  minVolumeExpansionRatio := candidate.minVolumeExpansionRatio
  lowerBandPct := candidate.lowerBandPct
  upperBandPct := candidate.upperBandPct
  minRangeWidthPct := candidate.minRangeWidthPct
  maxRangeWidthPct := candidate.maxRangeWidthPct
  minCloseAboveSmaPct := candidate.minCloseAboveSmaPct
  maxCloseAboveSmaPct := candidate.maxCloseAboveSmaPct
  minMomentumReturnPct := candidate.minMomentumReturnPct
  minTrendReturnPct := candidate.minTrendReturnPct
  minTrendSlopePct := candidate.minTrendSlopePct
  minPullbackDepthPct := candidate.minPullbackDepthPct
  maxPullbackDepthPct := candidate.maxPullbackDepthPct
  minReclaimPct := candidate.minReclaimPct
  minBreakdownPct := candidate.minBreakdownPct
  minReclaimClosePct := candidate.minReclaimClosePct
  minLowerWickPct := candidate.minLowerWickPct
  minVolumeRatio := candidate.minVolumeRatio
  maxChoppiness := candidate.maxChoppiness
  holdingCandles := candidate.holdingCandles
  stopLossPct := candidate.stopLossPct
  takeProfitPct := candidate.takeProfitPct
  confirmationCandles := some candidate.confirmationCandles
  requireConfirmationCloseAboveLookbackLow :=
    some candidate.requireConfirmationCloseAboveLookbackLow
  requireConfirmationLowAboveBreakdownLow := some candidate.requireConfirmationLowAboveBreakdownLow
  maxSignalAgeMs := candidate.maxSignalAgeMs

/-- A walk-forward run of a candidate of an experiment with the same strategy has
the configuration of the experiment in everything but its own market. -/
theorem override_builders_agree (baseConfig : StrategyConfig)
    (experiment : StrategyExperimentRequest) (candidate : StrategyExperimentCandidate)
    (walkForward : StrategyWalkForwardRequest)
    (hStrategy : walkForward.strategyId = experiment.strategyId) :
    walkForwardStrategyOverride baseConfig { walkForward with
        candidateConfig := strategyWalkForwardCandidateFromExperiment candidate } =
      { experimentStrategyOverride baseConfig experiment candidate with
        symbols := [walkForward.symbol]
        timeframe := walkForward.timeframe } := by
  unfold walkForwardStrategyOverride experimentStrategyOverride
  rw [hStrategy]
  rfl

def sampleBaseConfig : StrategyConfig where
  strategyId := .momentumV1
  enabled := true
  mode := .paper
  symbols := [.btcusdt]
  timeframe := .oneHour
  suggestedNotional := 100
  maxSignalAgeMs := 7200000
  cooldownSeconds := 0
  lookbackCandles := 3

def sampleWalkForward : StrategyWalkForwardRequest where
  strategyId := "failed_breakdown_reclaim_v1"
  symbol := "ETHUSDT"
  timeframe := "1h"
  startTime := 0
  endTime := DateTime.seconds (48 * 3600)
  windowTrainSizeHours := 12
  windowTestSizeHours := 12
  stepSizeHours := 12
  initialCapital := 1000
  feeBps := 10
  slippageBps := 5
  candidateConfig := { lookbackCandles := 10 }

/-- A confirmed candidate keeps its confirmation. -/
theorem override_builders_agree_sample :
    walkForwardStrategyOverride sampleBaseConfig { sampleWalkForward with
        candidateConfig := strategyWalkForwardCandidateFromExperiment
          { lookbackCandles := 10, confirmationCandles := 2 } } =
      { experimentStrategyOverride sampleBaseConfig sampleExperiment
          { lookbackCandles := 10, confirmationCandles := 2 } with symbols := ["ETHUSDT"] } :=
  override_builders_agree sampleBaseConfig sampleExperiment _ sampleWalkForward rfl

end AegisQuant.Experiment
