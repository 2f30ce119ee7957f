import AegisQuant.Experiment.Requests
import AegisQuant.Library.NestedLoops

/-! The candidates of an experiment. Two strategies have a grid of their own,
whose loops return at the limit of runs. The grid of the others is built whole
and cut off, and leaves out of a candidate what its strategy does not read. -/
namespace AegisQuant.Experiment
open NestedLoops StrategyExperimentRequest Fallible

namespace StrategyExperimentRequest
variable (request : StrategyExperimentRequest)

def reclaimCandidate (lookbackCandles : Nat) (minBreakdownPct minReclaimClosePct minLowerWickPct
    minVolumeRatio : Decimal) (holdingCandles : Nat) (takeProfitPct : Decimal)
    (confirmationCandles : Nat) (requireConfirmationCloseAboveLookbackLow
      requireConfirmationLowAboveBreakdownLow : Bool) : StrategyExperimentCandidate where
  lookbackCandles := lookbackCandles
  minBreakdownPct := some minBreakdownPct
  minReclaimClosePct := some minReclaimClosePct
  minLowerWickPct := some minLowerWickPct
  minVolumeRatio := some minVolumeRatio
  holdingCandles := thenSome (holdingCandles ≠ 0) holdingCandles
  takeProfitPct := thenSome (takeProfitPct ≠ 0) takeProfitPct
  confirmationCandles := confirmationCandles
  requireConfirmationCloseAboveLookbackLow := requireConfirmationCloseAboveLookbackLow
  requireConfirmationLowAboveBreakdownLow := requireConfirmationLowAboveBreakdownLow
  maxSignalAgeMs := request.maxSignalAgeMs

/-- The loops of `failed_breakdown_reclaim_v1`. -/
def reclaimCandidates : List StrategyExperimentCandidate :=
  run <| each request.lookbackCandidates fun lookbackCandles =>
    each request.minBreakdowns fun minBreakdownPct =>
    each request.minReclaimCloses fun minReclaimClosePct =>
    each request.minLowerWicks fun minLowerWickPct =>
    each request.reclaimMinVolumes fun minVolumeRatio =>
    each request.holdings fun holdingCandles =>
    each request.takeProfits fun takeProfitPct =>
    each request.confirmationCandles fun confirmationCandles =>
    each request.confirmationCloseFlags fun requireConfirmationCloseAboveLookbackLow =>
    each request.confirmationLowFlags fun requireConfirmationLowAboveBreakdownLow =>
      push request.maxRuns <|
        request.reclaimCandidate lookbackCandles minBreakdownPct minReclaimClosePct minLowerWickPct
          minVolumeRatio holdingCandles takeProfitPct confirmationCandles
          requireConfirmationCloseAboveLookbackLow requireConfirmationLowAboveBreakdownLow

def pullbackCandidate (trendLookbackCandles pullbackLookbackCandles pullbackSmaLookbackCandles : Nat)
    (minTrendReturnPct minTrendSlopePct minPullbackDepthPct maxPullbackDepthPct
      maxCloseAboveSmaPct minReclaimPct minVolumeRatio maxChoppiness : Decimal)
    (holdingCandles : Nat) : StrategyExperimentCandidate where
  lookbackCandles := pullbackSmaLookbackCandles
  trendLookbackCandles := some trendLookbackCandles
  pullbackLookbackCandles := some pullbackLookbackCandles
  pullbackSmaLookbackCandles := some pullbackSmaLookbackCandles
  minCloseAboveSmaPct := some 0
  maxCloseAboveSmaPct := some maxCloseAboveSmaPct
  minTrendReturnPct := some minTrendReturnPct
  minTrendSlopePct := some minTrendSlopePct
  minPullbackDepthPct := some minPullbackDepthPct
  maxPullbackDepthPct := some maxPullbackDepthPct
  minReclaimPct := some minReclaimPct
  minVolumeRatio := some minVolumeRatio
  maxChoppiness := some maxChoppiness
  holdingCandles := thenSome (holdingCandles ≠ 0) holdingCandles
  maxSignalAgeMs := request.maxSignalAgeMs

/-- The loops of `trend_pullback_continuation_v1`. -/
def pullbackCandidates : List StrategyExperimentCandidate :=
  run <| each request.trendLookbacks fun trendLookbackCandles =>
    each request.pullbackLookbacks fun pullbackLookbackCandles =>
    each request.pullbackSmaLookbacks fun pullbackSmaLookbackCandles =>
    each request.minTrendReturns fun minTrendReturnPct =>
    each request.minTrendSlopes fun minTrendSlopePct =>
    each request.minPullbackDepths fun minPullbackDepthPct =>
    each request.maxPullbackDepths fun maxPullbackDepthPct =>
    each request.maxCloseAboveSmaValues fun maxCloseAboveSmaPct =>
    each request.minReclaims fun minReclaimPct =>
    each request.pullbackMinVolumes fun minVolumeRatio =>
    each request.maxChoppinessValues fun maxChoppiness =>
    each request.holdings fun holdingCandles =>
      push request.maxRuns <| request.pullbackCandidate trendLookbackCandles pullbackLookbackCandles
          pullbackSmaLookbackCandles minTrendReturnPct minTrendSlopePct minPullbackDepthPct
          maxPullbackDepthPct maxCloseAboveSmaPct minReclaimPct minVolumeRatio maxChoppiness
          holdingCandles

def isCompression : Bool := request.strategyId = "volatility_compression_breakout_v1"

def isRange : Bool := request.strategyId = "range_reversion_v1"

def isTrendV2 : Bool := request.strategyId = "trend_filter_momentum_v2"

def gridCandidate (lookbackCandles trendLookbackCandles momentumLookbackCandles
      compressionLookbackCandles breakoutLookbackCandles : Nat)
    (compressionThreshold minBreakoutPct maxExtensionPct volumeRatio lowerBandPct upperBandPct
      minRangeWidthPct maxRangeWidthPct minCloseAboveSmaPct maxCloseAboveSmaPct
      minMomentumReturnPct : Decimal) (holdingCandles : Nat) (stopLossPct takeProfitPct : Decimal) :
    StrategyExperimentCandidate where
  lookbackCandles := lookbackCandles
  trendLookbackCandles := some trendLookbackCandles
  momentumLookbackCandles := thenSome (momentumLookbackCandles ≠ 0) momentumLookbackCandles
  compressionLookbackCandles := thenSome request.isCompression compressionLookbackCandles
  breakoutLookbackCandles := some breakoutLookbackCandles
  compressionPercentileThreshold := thenSome request.isCompression compressionThreshold
  minBreakoutPct := thenSome (request.isCompression && minBreakoutPct ≠ 0) minBreakoutPct
  maxBreakoutExtensionPct := thenSome (request.isCompression && maxExtensionPct ≠ 0) maxExtensionPct
  minVolumeExpansionRatio := thenSome (request.isCompression && volumeRatio ≠ 0) volumeRatio
  lowerBandPct := thenSome request.isRange lowerBandPct
  upperBandPct := thenSome request.isRange upperBandPct
  minRangeWidthPct :=
    thenSome ((request.isRange || request.isCompression) && minRangeWidthPct ≠ 0) minRangeWidthPct
  maxRangeWidthPct :=
    thenSome ((request.isRange || request.isCompression) && maxRangeWidthPct ≠ 0) maxRangeWidthPct
  minCloseAboveSmaPct := thenSome request.isTrendV2 minCloseAboveSmaPct
  maxCloseAboveSmaPct := thenSome (request.isTrendV2 && maxCloseAboveSmaPct ≠ 0) maxCloseAboveSmaPct
  minMomentumReturnPct := thenSome request.isTrendV2 minMomentumReturnPct
  holdingCandles := thenSome (holdingCandles ≠ 0) holdingCandles
  stopLossPct := thenSome (stopLossPct ≠ 0) stopLossPct
  takeProfitPct := thenSome (takeProfitPct ≠ 0) takeProfitPct
  maxSignalAgeMs := request.maxSignalAgeMs

/-- The loops of the other strategies. -/
def gridCandidates : List StrategyExperimentCandidate :=
  run <| each request.lookbackCandidates fun lookbackCandles =>
    each request.trendLookbacks fun trendLookbackCandles =>
    each request.momentumLookbacks fun momentumLookbackCandles =>
    each request.compressionLookbacks fun compressionLookbackCandles =>
    each request.breakoutLookbacks fun breakoutLookbackCandles =>
    each request.compressionThresholds fun compressionThreshold =>
    each request.minBreakouts fun minBreakoutPct =>
    each request.maxExtensions fun maxExtensionPct =>
    each request.volumeRatios fun volumeRatio =>
    each request.lowerBands fun lowerBandPct =>
    each request.upperBands fun upperBandPct =>
    each request.minRangeWidths fun minRangeWidthPct =>
    each request.maxRangeWidths fun maxRangeWidthPct =>
    each request.minCloseAboveSmaValues fun minCloseAboveSmaPct =>
    each request.maxCloseAboveSmaValues fun maxCloseAboveSmaPct =>
    each request.minMomentumReturnValues fun minMomentumReturnPct =>
    each request.holdings fun holdingCandles =>
    each request.stopLosses fun stopLossPct =>
    each request.takeProfits fun takeProfitPct =>
      push none <|
        request.gridCandidate lookbackCandles trendLookbackCandles momentumLookbackCandles
          compressionLookbackCandles breakoutLookbackCandles compressionThreshold minBreakoutPct
          maxExtensionPct volumeRatio lowerBandPct upperBandPct minRangeWidthPct maxRangeWidthPct
          minCloseAboveSmaPct maxCloseAboveSmaPct minMomentumReturnPct holdingCandles stopLossPct
          takeProfitPct

def candidates : List StrategyExperimentCandidate :=
  if request.strategyId = "failed_breakdown_reclaim_v1" then request.reclaimCandidates
  else if request.strategyId = "trend_pullback_continuation_v1" then request.pullbackCandidates
  else
    match request.maxRuns with
    | some maxRuns => request.gridCandidates.take maxRuns
    | none => request.gridCandidates

end StrategyExperimentRequest

section Grids
variable (request : StrategyExperimentRequest)

/-! The grids of the loops, and what is built from their points. -/

def reclaimGrid :=
  request.lookbackCandidates ×ˢ request.minBreakdowns ×ˢ request.minReclaimCloses ×ˢ
    request.minLowerWicks ×ˢ request.reclaimMinVolumes ×ˢ request.holdings ×ˢ request.takeProfits ×ˢ
    request.confirmationCandles ×ˢ request.confirmationCloseFlags ×ˢ request.confirmationLowFlags

def pullbackGrid :=
  request.trendLookbacks ×ˢ request.pullbackLookbacks ×ˢ request.pullbackSmaLookbacks ×ˢ
    request.minTrendReturns ×ˢ request.minTrendSlopes ×ˢ request.minPullbackDepths ×ˢ
    request.maxPullbackDepths ×ˢ request.maxCloseAboveSmaValues ×ˢ request.minReclaims ×ˢ
    request.pullbackMinVolumes ×ˢ request.maxChoppinessValues ×ˢ request.holdings

def fullGrid :=
  request.lookbackCandidates ×ˢ request.trendLookbacks ×ˢ request.momentumLookbacks ×ˢ
    request.compressionLookbacks ×ˢ request.breakoutLookbacks ×ˢ request.compressionThresholds ×ˢ
    request.minBreakouts ×ˢ request.maxExtensions ×ˢ request.volumeRatios ×ˢ request.lowerBands ×ˢ
    request.upperBands ×ˢ request.minRangeWidths ×ˢ request.maxRangeWidths ×ˢ
    request.minCloseAboveSmaValues ×ˢ request.maxCloseAboveSmaValues ×ˢ
    request.minMomentumReturnValues ×ˢ request.holdings ×ˢ request.stopLosses ×ˢ request.takeProfits

def allReclaimCandidates : List StrategyExperimentCandidate :=
  (reclaimGrid request).map fun (lookbackCandles, minBreakdownPct, minReclaimClosePct,
      minLowerWickPct, minVolumeRatio, holdingCandles, takeProfitPct, confirmationCandles,
      closeAbove, lowAbove) =>
    request.reclaimCandidate lookbackCandles minBreakdownPct minReclaimClosePct minLowerWickPct
      minVolumeRatio holdingCandles takeProfitPct confirmationCandles closeAbove lowAbove

def allPullbackCandidates : List StrategyExperimentCandidate :=
  (pullbackGrid request).map fun (trendLookback, pullbackLookback, pullbackSmaLookback,
      minTrendReturn, minTrendSlope, minPullbackDepth, maxPullbackDepth, maxCloseAboveSma,
      minReclaim, minVolumeRatio, maxChoppiness, holdingCandles) =>
    request.pullbackCandidate trendLookback pullbackLookback pullbackSmaLookback minTrendReturn
      minTrendSlope minPullbackDepth maxPullbackDepth maxCloseAboveSma minReclaim minVolumeRatio
      maxChoppiness holdingCandles

def allGridCandidates : List StrategyExperimentCandidate :=
  (fullGrid request).map fun (lookback, trendLookback, momentumLookback, compressionLookback,
      breakoutLookback, compressionThreshold, minBreakout, maxExtension, volumeRatio, lowerBand,
      upperBand, minRangeWidth, maxRangeWidth, minCloseAboveSma, maxCloseAboveSma,
      minMomentumReturn, holdingCandles, stopLoss, takeProfit) =>
    request.gridCandidate lookback trendLookback momentumLookback compressionLookback
      breakoutLookback compressionThreshold minBreakout maxExtension volumeRatio lowerBand upperBand
      minRangeWidth maxRangeWidth minCloseAboveSma maxCloseAboveSma minMomentumReturn holdingCandles
      stopLoss takeProfit

theorem reclaimCandidates_eq :
    request.reclaimCandidates = run (collect request.maxRuns (allReclaimCandidates request)) := by
  simp only [reclaimCandidates, each_push, each_grid]
  rfl

theorem pullbackCandidates_eq :
    request.pullbackCandidates = run (collect request.maxRuns (allPullbackCandidates request)) := by
  simp only [pullbackCandidates, each_push, each_grid]
  rfl

theorem gridCandidates_eq : request.gridCandidates = allGridCandidates request := by
  have hCollect : request.gridCandidates = run (collect none (allGridCandidates request)) := by
    simp only [gridCandidates, each_push, each_grid]
    rfl
  rw [hCollect, run_collect (by decide)]
  rfl

/-- The candidates of the grid of a strategy, without a limit. -/
def allCandidates : List StrategyExperimentCandidate :=
  if request.strategyId = "failed_breakdown_reclaim_v1" then allReclaimCandidates request
  else if request.strategyId = "trend_pullback_continuation_v1" then allPullbackCandidates request
  else allGridCandidates request

theorem candidates_eq (hLimit : request.maxRuns ≠ some 0) :
    request.candidates = upTo request.maxRuns (allCandidates request) := by
  unfold candidates allCandidates
  split
  · rw [reclaimCandidates_eq, run_collect hLimit]
  · split
    · rw [pullbackCandidates_eq, run_collect hLimit]
    · rw [gridCandidates_eq]
      cases request.maxRuns <;> rfl

theorem mem_allCandidates {candidate : StrategyExperimentCandidate}
    (hCandidate : candidate ∈ request.candidates) : candidate ∈ allCandidates request := by
  unfold candidates at hCandidate
  unfold allCandidates
  split at hCandidate
  · rename_i hReclaim
    rw [if_pos hReclaim]
    rw [reclaimCandidates_eq] at hCandidate
    exact mem_of_mem_run_collect hCandidate
  · rename_i hReclaim
    rw [if_neg hReclaim]
    split at hCandidate
    · rename_i hPullback
      rw [if_pos hPullback]
      rw [pullbackCandidates_eq] at hCandidate
      exact mem_of_mem_run_collect hCandidate
    · rename_i hPullback
      rw [if_neg hPullback, ← gridCandidates_eq]
      split at hCandidate
      · exact List.mem_of_mem_take hCandidate
      · exact hCandidate

/-- How many values each loop of a strategy runs through. -/
def effectiveLengths : List Nat :=
  if request.strategyId = "failed_breakdown_reclaim_v1" then
    [request.lookbackCandidates.length, request.minBreakdowns.length,
      request.minReclaimCloses.length, request.minLowerWicks.length,
      request.reclaimMinVolumes.length, request.holdings.length, request.takeProfits.length,
      request.confirmationCandles.length, request.confirmationCloseFlags.length,
      request.confirmationLowFlags.length]
  else if request.strategyId = "trend_pullback_continuation_v1" then
    [request.trendLookbacks.length, request.pullbackLookbacks.length,
      request.pullbackSmaLookbacks.length, request.minTrendReturns.length,
      request.minTrendSlopes.length, request.minPullbackDepths.length,
      request.maxPullbackDepths.length, request.maxCloseAboveSmaValues.length,
      request.minReclaims.length, request.pullbackMinVolumes.length,
      request.maxChoppinessValues.length, request.holdings.length]
  else
    [request.lookbackCandidates.length, request.trendLookbacks.length,
      request.momentumLookbacks.length, request.compressionLookbacks.length,
      request.breakoutLookbacks.length, request.compressionThresholds.length,
      request.minBreakouts.length, request.maxExtensions.length, request.volumeRatios.length,
      request.lowerBands.length, request.upperBands.length, request.minRangeWidths.length,
      request.maxRangeWidths.length, request.minCloseAboveSmaValues.length,
      request.maxCloseAboveSmaValues.length, request.minMomentumReturnValues.length,
      request.holdings.length, request.stopLosses.length, request.takeProfits.length]

theorem length_allCandidates : (allCandidates request).length = (effectiveLengths request).prod := by
  unfold allCandidates effectiveLengths
  split
  · simp only [allReclaimCandidates, reclaimGrid, List.length_map, List.length_product,
      List.prod_cons, List.prod_nil, mul_one]
  · split
    · simp only [allPullbackCandidates, pullbackGrid, List.length_map, List.length_product,
        List.prod_cons, List.prod_nil, mul_one]
    · simp only [allGridCandidates, fullGrid, List.length_map, List.length_product,
        List.prod_cons, List.prod_nil, mul_one]

end Grids

def StrategyExperimentRequest.unlimited (request : StrategyExperimentRequest) :
    StrategyExperimentRequest :=
  { request with maxRuns := none }

section MaxRuns
variable {request : StrategyExperimentRequest}

structure PassedExperimentChecks (request : StrategyExperimentRequest) : Prop where
  lookbackCandidates : request.lookbackCandidates ≠ []
  maxRuns : request.maxRuns ≠ some 0

theorem passedExperimentChecks_of_validate (hValid : request.validate = .ok ()) :
    PassedExperimentChecks request := by
  unfold validate at hValid
  obtain ⟨-, hValid⟩ := error_else_eq_ok.mp hValid
  obtain ⟨-, hValid⟩ := error_else_eq_ok.mp hValid
  obtain ⟨-, hValid⟩ := error_else_eq_ok.mp hValid
  obtain ⟨-, hValid⟩ := error_else_eq_ok.mp hValid
  obtain ⟨-, hValid⟩ := error_else_eq_ok.mp hValid
  obtain ⟨_, -, hValid⟩ := bind_eq_ok.mp hValid
  obtain ⟨-, hValid⟩ := error_else_eq_ok.mp hValid
  obtain ⟨-, hValid⟩ := error_else_eq_ok.mp hValid
  obtain ⟨hLookbacks, hValid⟩ := error_else_eq_ok.mp hValid
  obtain ⟨-, hValid⟩ := error_else_eq_ok.mp hValid
  obtain ⟨hMaxRuns, -⟩ := error_else_eq_ok.mp hValid
  exact ⟨hLookbacks, hMaxRuns⟩

/-- The limit of runs keeps the first candidates of the unlimited request, of
which there is one for each combination of the values. -/
theorem candidates_take_prefix (hValid : request.validate = .ok ()) {maxRuns : Nat}
    (hMaxRuns : request.maxRuns = some maxRuns) :
    request.candidates =
        request.unlimited.candidates.take (min maxRuns request.unlimited.candidates.length) ∧
      request.unlimited.candidates.length = (effectiveLengths request).prod := by
  have hUnlimited : request.unlimited.candidates = allCandidates request :=
    candidates_eq request.unlimited (by nofun)
  rw [hUnlimited]
  refine ⟨?_, length_allCandidates request⟩
  rw [candidates_eq request (passedExperimentChecks_of_validate hValid).maxRuns, hMaxRuns, upTo_some]

end MaxRuns

def sampleExperiment : StrategyExperimentRequest where
  strategyId := "failed_breakdown_reclaim_v1"
  symbol := "BTCUSDT"
  timeframe := "1h"
  startTime := 0
  endTime := DateTime.seconds 86400
  initialCapital := 1000
  feeBps := 10
  slippageBps := 5
  lookbackCandidates := [10, 40]
  holdingCandlesCandidates := some [5, 8]
  takeProfitPctCandidates := some [1, 2]
  maxRuns := some 3

theorem candidates_take_prefix_sample :
    sampleExperiment.candidates = sampleExperiment.unlimited.candidates.take 3 ∧
      sampleExperiment.unlimited.candidates.length = 8 := by
  have hValid : sampleExperiment.validate = .ok () := by decide +kernel
  have hMaxRuns : sampleExperiment.maxRuns = some 3 := rfl
  obtain ⟨hPrefix, hLength⟩ := candidates_take_prefix hValid hMaxRuns
  have hEight : (effectiveLengths sampleExperiment).prod = 8 := by decide +kernel
  rw [hLength, hEight] at hPrefix
  exact ⟨hPrefix, hLength.trans hEight⟩

end AegisQuant.Experiment
