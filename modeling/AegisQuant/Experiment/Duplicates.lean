import AegisQuant.Experiment.Candidates

/-! Which experiments list a candidate twice. The two strategies with a grid of
their own keep every value they run through. The grid of the others also runs
through the values it leaves out, and repeats a candidate for each of them. -/
namespace AegisQuant.Experiment
open NestedLoops List Option

structure DistinctValues (request : StrategyExperimentRequest) : Prop where
  lookback : request.lookbackCandidates.Nodup
  trendLookback : (request.trendLookbackCandidates.getD []).Nodup
  momentumLookback : (request.momentumLookbackCandidates.getD []).Nodup
  compressionLookback : (request.compressionLookbackCandidates.getD []).Nodup
  breakoutLookback : (request.breakoutLookbackCandidates.getD []).Nodup
  pullbackLookback : (request.pullbackLookbackCandidates.getD []).Nodup
  pullbackSmaLookback : (request.pullbackSmaLookbackCandidates.getD []).Nodup
  compressionThreshold : (request.compressionPercentileThresholdCandidates.getD []).Nodup
  minBreakout : (request.minBreakoutPctCandidates.getD []).Nodup
  maxExtension : (request.maxBreakoutExtensionPctCandidates.getD []).Nodup
  volumeRatio : (request.minVolumeExpansionRatioCandidates.getD []).Nodup
  lowerBand : (request.lowerBandPctCandidates.getD []).Nodup
  upperBand : (request.upperBandPctCandidates.getD []).Nodup
  minRangeWidth : (request.minRangeWidthPctCandidates.getD []).Nodup
  maxRangeWidth : (request.maxRangeWidthPctCandidates.getD []).Nodup
  minCloseAboveSma : (request.minCloseAboveSmaPctCandidates.getD []).Nodup
  maxCloseAboveSma : (request.maxCloseAboveSmaPctCandidates.getD []).Nodup
  minMomentumReturn : (request.minMomentumReturnPctCandidates.getD []).Nodup
  minTrendReturn : (request.minTrendReturnPctCandidates.getD []).Nodup
  minTrendSlope : (request.minTrendSlopePctCandidates.getD []).Nodup
  minPullbackDepth : (request.minPullbackDepthPctCandidates.getD []).Nodup
  maxPullbackDepth : (request.maxPullbackDepthPctCandidates.getD []).Nodup
  minReclaim : (request.minReclaimPctCandidates.getD []).Nodup
  minBreakdown : (request.minBreakdownPctCandidates.getD []).Nodup
  minReclaimClose : (request.minReclaimClosePctCandidates.getD []).Nodup
  minLowerWick : (request.minLowerWickPctCandidates.getD []).Nodup
  minVolumeRatio : (request.minVolumeRatioCandidates.getD []).Nodup
  maxChoppiness : (request.maxChoppinessCandidates.getD []).Nodup
  holding : (request.holdingCandlesCandidates.getD []).Nodup
  stopLoss : (request.stopLossPctCandidates.getD []).Nodup
  takeProfit : (request.takeProfitPctCandidates.getD []).Nodup
  confirmation : (request.confirmationCandlesCandidates.getD []).Nodup
  closeAbove : (request.requireConfirmationCloseAboveLookbackLowCandidates.getD []).Nodup
  lowAbove : (request.requireConfirmationLowAboveBreakdownLowCandidates.getD []).Nodup

section Values
variable {α : Type} {values : Option (List α)} {fallback : List α}

theorem nonEmptyOr_eq (values : Option (List α)) (fallback : List α) :
    nonEmptyOr values fallback = if values.getD [] = [] then fallback else values.getD [] := by
  cases values with
  | none => rfl
  | some values => cases values <;> rfl

theorem nonEmptyOr_ne_nil (hFallback : fallback ≠ []) : nonEmptyOr values fallback ≠ [] := by
  rw [nonEmptyOr_eq]
  split
  · exact hFallback
  · assumption

theorem nodup_nonEmptyOr (hValues : (values.getD []).Nodup) (hFallback : fallback.Nodup) :
    (nonEmptyOr values fallback).Nodup := by
  rw [nonEmptyOr_eq]
  split
  · exact hFallback
  · exact hValues

theorem nodup_nonEmptyOr_default {default : α} (hValues : (values.getD []).Nodup) :
    (nonEmptyOr values [default]).Nodup :=
  nodup_nonEmptyOr hValues (nodup_singleton default)

variable [Zero α] [DecidableEq α]

@[simp] theorem getD_thenSome_ne_zero (value : α) : (thenSome (value ≠ 0) value).getD 0 = value := by
  by_cases hZero : value = 0 <;> simp [thenSome, hZero]

theorem thenSome_ne_zero_injective :
    Function.Injective fun value : α => thenSome (value ≠ 0) value :=
  Function.LeftInverse.injective (g := fun kept : Option α => kept.getD 0) getD_thenSome_ne_zero

end Values

section Branches
variable {request : StrategyExperimentRequest}

/-- The values a candidate of `failed_breakdown_reclaim_v1` was built from. -/
def reclaimValues (candidate : StrategyExperimentCandidate) :
    Nat × Decimal × Decimal × Decimal × Decimal × Nat × Decimal × Nat × Bool × Bool :=
  (candidate.lookbackCandles, candidate.minBreakdownPct.getD 0, candidate.minReclaimClosePct.getD 0,
    candidate.minLowerWickPct.getD 0, candidate.minVolumeRatio.getD 0,
    candidate.holdingCandles.getD 0, candidate.takeProfitPct.getD 0, candidate.confirmationCandles,
    candidate.requireConfirmationCloseAboveLookbackLow,
    candidate.requireConfirmationLowAboveBreakdownLow)

theorem nodup_allReclaimCandidates (hDistinct : DistinctValues request) :
    (allReclaimCandidates request).Nodup := by
  have hGrid : (reclaimGrid request).Nodup :=
    hDistinct.lookback.product <| (nodup_nonEmptyOr_default hDistinct.minBreakdown).product <|
    (nodup_nonEmptyOr_default hDistinct.minReclaimClose).product <|
    (nodup_nonEmptyOr_default hDistinct.minLowerWick).product <|
    (nodup_nonEmptyOr_default hDistinct.minVolumeRatio).product <|
    (nodup_nonEmptyOr_default hDistinct.holding).product <|
    (nodup_nonEmptyOr_default hDistinct.takeProfit).product <|
    (nodup_nonEmptyOr_default hDistinct.confirmation).product <|
    (nodup_nonEmptyOr_default hDistinct.closeAbove).product <|
    nodup_nonEmptyOr_default hDistinct.lowAbove
  refine hGrid.map (Function.LeftInverse.injective (g := reclaimValues) ?_)
  rintro ⟨lookback, minBreakdown, minReclaimClose, minLowerWick, minVolume, holding, takeProfit, rest⟩
  simp only [reclaimValues, StrategyExperimentRequest.reclaimCandidate, getD_thenSome_ne_zero,
    getD_some]

/-- The values a candidate of `trend_pullback_continuation_v1` was built from. -/
def pullbackValues (candidate : StrategyExperimentCandidate) :
    Nat × Nat × Nat × Decimal × Decimal × Decimal × Decimal × Decimal × Decimal × Decimal × Decimal ×
      Nat :=
  (candidate.trendLookbackCandles.getD 0, candidate.pullbackLookbackCandles.getD 0,
    candidate.lookbackCandles, candidate.minTrendReturnPct.getD 0,
    candidate.minTrendSlopePct.getD 0, candidate.minPullbackDepthPct.getD 0,
    candidate.maxPullbackDepthPct.getD 0, candidate.maxCloseAboveSmaPct.getD 0,
    candidate.minReclaimPct.getD 0, candidate.minVolumeRatio.getD 0,
    candidate.maxChoppiness.getD 0, candidate.holdingCandles.getD 0)

theorem nodup_allPullbackCandidates (hDistinct : DistinctValues request) :
    (allPullbackCandidates request).Nodup := by
  have hGrid : (pullbackGrid request).Nodup :=
    (nodup_nonEmptyOr hDistinct.trendLookback hDistinct.lookback).product <|
    (nodup_nonEmptyOr hDistinct.pullbackLookback hDistinct.lookback).product <|
    (nodup_nonEmptyOr_default hDistinct.pullbackSmaLookback).product <|
    (nodup_nonEmptyOr_default hDistinct.minTrendReturn).product <|
    (nodup_nonEmptyOr_default hDistinct.minTrendSlope).product <|
    (nodup_nonEmptyOr_default hDistinct.minPullbackDepth).product <|
    (nodup_nonEmptyOr_default hDistinct.maxPullbackDepth).product <|
    (nodup_nonEmptyOr_default hDistinct.maxCloseAboveSma).product <|
    (nodup_nonEmptyOr_default hDistinct.minReclaim).product <|
    (nodup_nonEmptyOr_default hDistinct.minVolumeRatio).product <|
    (nodup_nonEmptyOr_default hDistinct.maxChoppiness).product <|
    nodup_nonEmptyOr_default hDistinct.holding
  refine hGrid.map (Function.LeftInverse.injective (g := pullbackValues) ?_)
  rintro ⟨trend, pullback, sma, minReturn, minSlope, minDepth, maxDepth, maxClose, minReclaim,
    minVolume, maxChoppiness, holding⟩
  simp only [pullbackValues, StrategyExperimentRequest.pullbackCandidate, getD_thenSome_ne_zero,
    getD_some]

/-! The grid of the other strategies. -/

/-- The loops, and which of their values the candidates keep. -/
def gridAxes (request : StrategyExperimentRequest) : Axes :=
  [(request.lookbackCandidates.length, true), (request.trendLookbacks.length, true),
    (request.momentumLookbacks.length, true),
    (request.compressionLookbacks.length, request.isCompression),
    (request.breakoutLookbacks.length, true),
    (request.compressionThresholds.length, request.isCompression),
    (request.minBreakouts.length, request.isCompression),
    (request.maxExtensions.length, request.isCompression),
    (request.volumeRatios.length, request.isCompression),
    (request.lowerBands.length, request.isRange),
    (request.upperBands.length, request.isRange),
    (request.minRangeWidths.length, request.isRange || request.isCompression),
    (request.maxRangeWidths.length, request.isRange || request.isCompression),
    (request.minCloseAboveSmaValues.length, request.isTrendV2),
    (request.maxCloseAboveSmaValues.length, request.isTrendV2),
    (request.minMomentumReturnValues.length, request.isTrendV2),
    (request.holdings.length, true),
    (request.stopLosses.length, true),
    (request.takeProfits.length, true)]

/-- What a candidate keeps of a point of the grid. -/
def gridFields (request : StrategyExperimentRequest) :=
  Prod.map (id : Nat → Nat) <|
  Prod.map (some : Nat → Option Nat) <|
  Prod.map (fun momentum : Nat => thenSome (momentum ≠ 0) momentum) <|
  Prod.map (thenSome request.isCompression : Nat → Option Nat) <|
  Prod.map (some : Nat → Option Nat) <|
  Prod.map (thenSome request.isCompression : Decimal → Option Decimal) <|
  Prod.map (fun breakout : Decimal => thenSome (request.isCompression && breakout ≠ 0) breakout) <|
  Prod.map (fun extension : Decimal =>
    thenSome (request.isCompression && extension ≠ 0) extension) <|
  Prod.map (fun ratio : Decimal => thenSome (request.isCompression && ratio ≠ 0) ratio) <|
  Prod.map (thenSome request.isRange : Decimal → Option Decimal) <|
  Prod.map (thenSome request.isRange : Decimal → Option Decimal) <|
  Prod.map (fun width : Decimal =>
    thenSome ((request.isRange || request.isCompression) && width ≠ 0) width) <|
  Prod.map (fun width : Decimal =>
    thenSome ((request.isRange || request.isCompression) && width ≠ 0) width) <|
  Prod.map (thenSome request.isTrendV2 : Decimal → Option Decimal) <|
  Prod.map (fun close : Decimal => thenSome (request.isTrendV2 && close ≠ 0) close) <|
  Prod.map (thenSome request.isTrendV2 : Decimal → Option Decimal) <|
  Prod.map (fun holding : Nat => thenSome (holding ≠ 0) holding) <|
  Prod.map (fun stop : Decimal => thenSome (stop ≠ 0) stop)
    (fun take : Decimal => thenSome (take ≠ 0) take)

section Axis
variable {α δ ε : Type} {limit : Option Nat} {items : List α} {grid : List δ} {build : δ → ε}
  {axes : Axes}

theorem axis_kept {β : Type} {field : α → β} (hItems : items ≠ []) (hNodup : items.Nodup)
    (hField : Function.Injective field) (inner : HasAxes limit grid build axes) :
    HasAxes limit (items ×ˢ grid) (Prod.map field build) ((items.length, true) :: axes) :=
  inner.axis hItems (fun _ => hNodup.map hField) (fun hOut => by cases hOut)

theorem axis_thenSome {keep : Bool} (hItems : items ≠ []) (hNodup : items.Nodup)
    (inner : HasAxes limit grid build axes) :
    HasAxes limit (items ×ˢ grid) (Prod.map (thenSome keep) build) ((items.length, keep) :: axes) := by
  refine inner.axis hItems ?_ ?_
  · rintro rfl
    exact hNodup.map (some_injective α)
  · rintro rfl value - other -
    rfl

theorem axis_thenSome_ne_zero [Zero α] [DecidableEq α] {keep : Bool} (hItems : items ≠ [])
    (hNodup : items.Nodup) (inner : HasAxes limit grid build axes) :
    HasAxes limit (items ×ˢ grid)
      (Prod.map (fun value => thenSome (keep && value ≠ 0) value) build)
      ((items.length, keep) :: axes) := by
  refine inner.axis hItems ?_ ?_
  · rintro rfl
    exact hNodup.map thenSome_ne_zero_injective
  · rintro rfl value - other -
    rfl

end Axis

theorem hasAxes_fullGrid (hLookbacks : request.lookbackCandidates ≠ [])
    (hDistinct : DistinctValues request) :
    HasAxes request.maxRuns (fullGrid request) (gridFields request) (gridAxes request) := by
  have hOne {α : Type} {values : Option (List α)} {default : α} :
      nonEmptyOr values [default] ≠ [] := nonEmptyOr_ne_nil (cons_ne_nil _ _)
  exact
    axis_kept hLookbacks hDistinct.lookback Function.injective_id <|
    axis_kept (nonEmptyOr_ne_nil hLookbacks)
      (nodup_nonEmptyOr hDistinct.trendLookback hDistinct.lookback) (some_injective _) <|
    axis_kept hOne (nodup_nonEmptyOr_default hDistinct.momentumLookback)
      thenSome_ne_zero_injective <|
    axis_thenSome (nonEmptyOr_ne_nil hLookbacks)
      (nodup_nonEmptyOr hDistinct.compressionLookback hDistinct.lookback) <|
    axis_kept (nonEmptyOr_ne_nil hLookbacks)
      (nodup_nonEmptyOr hDistinct.breakoutLookback hDistinct.lookback) (some_injective _) <|
    axis_thenSome hOne (nodup_nonEmptyOr_default hDistinct.compressionThreshold) <|
    axis_thenSome_ne_zero hOne (nodup_nonEmptyOr_default hDistinct.minBreakout) <|
    axis_thenSome_ne_zero hOne (nodup_nonEmptyOr_default hDistinct.maxExtension) <|
    axis_thenSome_ne_zero hOne (nodup_nonEmptyOr_default hDistinct.volumeRatio) <|
    axis_thenSome hOne (nodup_nonEmptyOr_default hDistinct.lowerBand) <|
    axis_thenSome hOne (nodup_nonEmptyOr_default hDistinct.upperBand) <|
    axis_thenSome_ne_zero hOne (nodup_nonEmptyOr_default hDistinct.minRangeWidth) <|
    axis_thenSome_ne_zero hOne (nodup_nonEmptyOr_default hDistinct.maxRangeWidth) <|
    axis_thenSome hOne (nodup_nonEmptyOr_default hDistinct.minCloseAboveSma) <|
    axis_thenSome_ne_zero hOne (nodup_nonEmptyOr_default hDistinct.maxCloseAboveSma) <|
    axis_thenSome hOne (nodup_nonEmptyOr_default hDistinct.minMomentumReturn) <|
    axis_kept hOne (nodup_nonEmptyOr_default hDistinct.holding) thenSome_ne_zero_injective <|
    axis_kept hOne (nodup_nonEmptyOr_default hDistinct.stopLoss) thenSome_ne_zero_injective <|
    hasAxes_innermost hOne
      ((nodup_nonEmptyOr_default hDistinct.takeProfit).map thenSome_ne_zero_injective)

def fieldsOf (candidate : StrategyExperimentCandidate) :=
  (candidate.lookbackCandles, candidate.trendLookbackCandles, candidate.momentumLookbackCandles,
    candidate.compressionLookbackCandles, candidate.breakoutLookbackCandles,
    candidate.compressionPercentileThreshold, candidate.minBreakoutPct,
    candidate.maxBreakoutExtensionPct, candidate.minVolumeExpansionRatio, candidate.lowerBandPct,
    candidate.upperBandPct, candidate.minRangeWidthPct, candidate.maxRangeWidthPct,
    candidate.minCloseAboveSmaPct, candidate.maxCloseAboveSmaPct, candidate.minMomentumReturnPct,
    candidate.holdingCandles, candidate.stopLossPct, candidate.takeProfitPct)

def candidateWith (request : StrategyExperimentRequest) :=
  fun (lookback, trendLookback, momentumLookback, compressionLookback, breakoutLookback,
      compressionThreshold, minBreakout, maxExtension, volumeRatio, lowerBand, upperBand,
      minRangeWidth, maxRangeWidth, minCloseAboveSma, maxCloseAboveSma, minMomentumReturn,
      holdingCandles, stopLoss, takeProfit) =>
    ({ lookbackCandles := lookback
       trendLookbackCandles := trendLookback
       momentumLookbackCandles := momentumLookback
       compressionLookbackCandles := compressionLookback
       breakoutLookbackCandles := breakoutLookback
       compressionPercentileThreshold := compressionThreshold
       minBreakoutPct := minBreakout
       maxBreakoutExtensionPct := maxExtension
       minVolumeExpansionRatio := volumeRatio
       lowerBandPct := lowerBand
       upperBandPct := upperBand
       minRangeWidthPct := minRangeWidth
       maxRangeWidthPct := maxRangeWidth
       minCloseAboveSmaPct := minCloseAboveSma
       maxCloseAboveSmaPct := maxCloseAboveSma
       minMomentumReturnPct := minMomentumReturn
       holdingCandles := holdingCandles
       stopLossPct := stopLoss
       takeProfitPct := takeProfit
       maxSignalAgeMs := request.maxSignalAgeMs } : StrategyExperimentCandidate)

theorem candidateWith_injective : Function.Injective (candidateWith request) :=
  Function.LeftInverse.injective (g := fieldsOf) fun _ => rfl

theorem allGridCandidates_eq : allGridCandidates request =
    ((fullGrid request).map (gridFields request)).map (candidateWith request) := by
  rw [List.map_map]
  rfl

/-- The candidates are told apart by their own strategy, or no loop over values
that are left out is run through twice. -/
def SpendsRunsOnce (request : StrategyExperimentRequest) : Prop :=
  request.strategyId = "failed_breakdown_reclaim_v1" ∨
    request.strategyId = "trend_pullback_continuation_v1" ∨
    (gridAxes request).NoneRepeated request.maxRuns

/-- An accepted experiment lists no candidate twice exactly when no loop over
values its strategy leaves out gets to a second value. -/
theorem candidates_nodup_iff (hValid : request.validate = .ok ()) (hDistinct : DistinctValues request) :
    request.candidates.Nodup ↔ SpendsRunsOnce request := by
  obtain ⟨hLookbacks, hMaxRuns⟩ := passedExperimentChecks_of_validate hValid
  rw [candidates_eq request hMaxRuns, SpendsRunsOnce, allCandidates]
  split
  · rename_i hReclaim
    exact iff_of_true ((nodup_allReclaimCandidates hDistinct).sublist (upTo_sublist _))
      (Or.inl hReclaim)
  · rename_i hReclaim
    split
    · rename_i hPullback
      exact iff_of_true ((nodup_allPullbackCandidates hDistinct).sublist (upTo_sublist _))
        (Or.inr (Or.inl hPullback))
    · rename_i hPullback
      rw [or_iff_right hReclaim, or_iff_right hPullback,
        ← (hasAxes_fullGrid hLookbacks hDistinct).nodup_iff, allGridCandidates_eq, upTo_map]
      exact nodup_map_iff candidateWith_injective

end Branches

/-- Two lookbacks for `momentum_v1`. -/
def sampleGrid (maxRuns : Option Nat) : StrategyExperimentRequest where
  strategyId := "momentum_v1"
  symbol := "BTCUSDT"
  timeframe := "1h"
  startTime := 0
  endTime := DateTime.seconds 86400
  initialCapital := 1000
  feeBps := 10
  slippageBps := 5
  lookbackCandidates := [10, 20]
  maxRuns := maxRuns

theorem distinctValues_sampleGrid (maxRuns : Option Nat) : DistinctValues (sampleGrid maxRuns) := by
  constructor <;> simp [sampleGrid]

/-- The first two runs differ. -/
theorem candidates_nodup_sample : (sampleGrid (some 2)).candidates.Nodup := by
  have hValid : (sampleGrid (some 2)).validate = .ok () := by decide +kernel
  refine (candidates_nodup_iff hValid (distinctValues_sampleGrid _)).mpr (Or.inr (Or.inr ?_))
  decide +kernel

/-- Of every four runs in a row the last two repeat the first two. -/
theorem candidates_repeated : (sampleGrid none).validate = .ok () ∧
    DistinctValues (sampleGrid none) ∧ ¬(sampleGrid none).candidates.Nodup := by
  refine ⟨by decide +kernel, distinctValues_sampleGrid none, ?_⟩
  decide +kernel

end AegisQuant.Experiment
