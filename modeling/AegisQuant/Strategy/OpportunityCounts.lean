import AegisQuant.Strategy.Opportunity
import AegisQuant.Strategy.Ranges
import AegisQuant.Strategy.RecentCandles

/-! Opportunity analysis counts real signals. The body that analyzes a window
agrees with the evaluation of the window, and the evaluation of the window with
that of all candles up to its end. -/
namespace AegisQuant.Strategy
open Fallible List Option

/-- The decision gives a signal. -/
def Found (config : StrategyConfig) (decision : StrategyOutcome) : Prop :=
  match decision with
  | .noSignal _ => False
  | .generated _ _ confidence => confidencePassed config confidence

theorem generated_iff_found {config : StrategyConfig} {decision : StrategyOutcome}
    {result : StrategyEvaluationResult} (hResult : ResultOf config decision result) :
    result.generated = true ↔ Found config decision := by
  cases decision with
  | noSignal reason =>
    rw [show result.generated = false from hResult]
    exact iff_of_false (by decide) id
  | generated source reason confidence =>
    simp only [ResultOf] at hResult
    split at hResult
    · rename_i hPassed
      exact iff_of_true hResult.1 hPassed
    · rename_i hPassed
      rw [hResult]
      exact iff_of_false (by decide) hPassed

theorem floor_iff {config : StrategyConfig} {confidence : Decimal} (hNonneg : 0 ≤ confidence) :
    confidence ≥ config.confidenceFloor.getD 0 ↔ confidencePassed config confidence := by
  unfold confidencePassed
  cases config.confidenceFloor with
  | none => simp [hNonneg]
  | some floor => simp

section Windows
variable {context : StrategyEvaluationContext} {window : List Candle} {decision : StrategyOutcome}
variable {strategyId : StrategyId} {request : StrategyConfigUpdateRequest}
  {validation : StrategyValidationContext}

/-- An analysis that goes through and tells whether there is a signal. -/
def AnalyzedAs (config : StrategyConfig) (decision : StrategyOutcome)
    (analysis : Except Fault WindowOutcome) : Prop :=
  ∃ outcome, analysis = .ok outcome ∧ (outcome.wouldSignal = true ↔ Found config decision)

theorem found_ite {config : StrategyConfig} {failed : Prop} [Decidable failed] {latest : Candle}
    {reason generatedReason : SignalReason} {confidence : Decimal} :
    Found config (if failed then .noSignal reason else .generated latest generatedReason confidence) ↔
      ¬failed ∧ confidencePassed config confidence := by
  split
  · rename_i hFailed
    exact iff_of_false id (fun hFound => hFound.1 hFailed)
  · rename_i hPassed
    exact (and_iff_right hPassed).symm

theorem readLast_length : readLast window.length window = .ok window := by
  rw [readLast_of_le le_rfl, Window.rtake_of_length_le le_rfl]

theorem analyzeTrendFilterWindow_spec (hLength : requiredCandleCount context.config = window.length)
    (hDecision : evaluateTrendFilterMomentum context window = .ok decision) :
    AnalyzedAs context.config decision (analyzeTrendFilterWindow context.config window) := by
  simp only [evaluateTrendFilterMomentum, hLength, lt_irrefl, if_false, bind_eq_ok] at hDecision
  obtain ⟨latest, hLatest, previous, hPrevious, trend, hTrend, reference, hReference, hDecision⟩ :=
    hDecision
  simp only [analyzeTrendFilterWindow, hLatest, hPrevious, hTrend, hReference, ok_bind]
  rw [← apply_ite pure, pure_eq_ok] at hDecision
  refine ⟨_, rfl, ?_⟩
  rw [← hDecision, found_ite, ← floor_iff (by decide +kernel)]
  simp [windowOutcome]

theorem analyzeTrendFilterV2Window_spec (hLength : requiredCandleCount context.config = window.length)
    (hBand : bandInverted context.config = false)
    (hDecision : evaluateTrendFilterMomentumV2 context window = .ok decision) :
    AnalyzedAs context.config decision (analyzeTrendFilterV2Window context.config window) := by
  simp only [evaluateTrendFilterMomentumV2, hBand, Bool.false_eq_true, hLength, lt_irrefl, if_false,
    bind_eq_ok] at hDecision
  obtain ⟨latest, hLatest, trend, hTrend, reference, hReference, hDecision⟩ := hDecision
  simp only [analyzeTrendFilterV2Window, hLatest, hTrend, hReference, ok_bind]
  rw [← apply_ite pure, pure_eq_ok] at hDecision
  refine ⟨_, rfl, ?_⟩
  have hOrder : minCloseAboveSmaPct context.config ≤ maxCloseAboveSmaPct context.config := by
    simpa [bandInverted] using hBand
  rw [← hDecision, found_ite, ← floor_iff (by decide +kernel)]
  simp [windowOutcome, hOrder, and_assoc]

theorem analyzeRangeReversionWindow_spec
    (hLength : context.config.lookbackCandles + 1 = window.length)
    (hDecision : evaluateRangeReversion context window = .ok decision) :
    AnalyzedAs context.config decision (analyzeRangeReversionWindow context.config window) := by
  simp only [evaluateRangeReversion, hLength, lt_irrefl, if_false, readLast_length, ok_bind,
    bind_eq_ok] at hDecision
  obtain ⟨latest, hLatest, previous, hPrevious, range, hRange, hDecision⟩ := hDecision
  simp only [analyzeRangeReversionWindow, hLatest, hPrevious, hRange, ok_bind]
  rw [← ite_or, ← ite_or, ← ite_or, ← apply_ite pure, pure_eq_ok] at hDecision
  refine ⟨_, rfl, ?_⟩
  rw [← hDecision, found_ite, ← floor_iff (by decide +kernel)]
  have hReversal : (latest.close ≤ previous.close → latest.open < latest.close) ↔
      (previous.close < latest.close ∨ latest.open < latest.close) := by
    rw [or_iff_not_imp_left, not_lt]
  simp [windowOutcome, hReversal, and_assoc]

section
variable (hLength : requiredCandleCount context.config = window.length)
include hLength

theorem analyzeVolatilityCompressionBreakoutWindow_spec
    (hFloor : confidencePassed context.config (71 / 100))
    (hValid : validateCompressionBreakoutConfig context.config = none)
    (hDecision : evaluateVolatilityCompressionBreakout context window = .ok decision) :
    AnalyzedAs context.config decision
      (analyzeVolatilityCompressionBreakoutWindow context.config window) := by
  simp only [evaluateVolatilityCompressionBreakout, hValid, isSome_none, Bool.false_eq_true,
    hLength, lt_irrefl, if_false, readLast_length, ok_bind, bind_eq_ok] at hDecision
  obtain ⟨latest, hLatest, metrics, hMetrics, hDecision⟩ := hDecision
  simp only [analyzeVolatilityCompressionBreakoutWindow, hLatest, hMetrics, hValid, ok_bind]
  rw [← apply_ite pure, pure_eq_ok] at hDecision
  refine ⟨_, rfl, ?_⟩
  rw [← hDecision, found_ite, and_iff_left hFloor]
  simp [windowOutcome]

/-- A pullback configuration that the strategy refuses has no signal in either
body. -/
theorem analyzeTrendPullbackContinuationWindow_spec
    (hFloor : confidencePassed context.config (69 / 100))
    (hDecision : evaluateTrendPullbackContinuation context window = .ok decision)
    (hMetrics : ∃ metrics, calculateTrendPullbackMetrics context.config window = .ok metrics) :
    AnalyzedAs context.config decision
      (analyzeTrendPullbackContinuationWindow context.config window) := by
  obtain ⟨metrics, hMetrics⟩ := hMetrics
  obtain ⟨latest, hLatest, -⟩ := bind_eq_ok.mp hMetrics
  simp only [analyzeTrendPullbackContinuationWindow, hLatest, hMetrics, ok_bind]
  refine ⟨_, rfl, ?_⟩
  cases hProblem : validateTrendPullbackConfig context.config with
  | some problem =>
    simp only [evaluateTrendPullbackContinuation, hProblem, isSome_some, if_true] at hDecision
    cases hDecision
    simp [windowOutcome, Found]
  | none =>
    simp only [evaluateTrendPullbackContinuation, hProblem, isSome_none, Bool.false_eq_true,
      hLength, lt_irrefl, if_false, readLast_length, hLatest, hMetrics, ok_bind] at hDecision
    rw [← apply_ite pure, pure_eq_ok] at hDecision
    rw [← hDecision, found_ite, and_iff_left hFloor]
    simp [windowOutcome, and_assoc]

theorem analyzeFailedBreakdownReclaimWindow_spec
    (hFloor : confidencePassed context.config (70 / 100))
    (hValid : validateFailedBreakdownReclaimConfig context.config = none)
    (hDecision : evaluateFailedBreakdownReclaim context window = .ok decision) :
    AnalyzedAs context.config decision
      (analyzeFailedBreakdownReclaimWindow context.config window) := by
  simp only [evaluateFailedBreakdownReclaim, hValid, isSome_none, Bool.false_eq_true,
    hLength, lt_irrefl, if_false, readLast_length, ok_bind, bind_eq_ok] at hDecision
  obtain ⟨latest, hLatest, metrics, hMetrics, hDecision⟩ := hDecision
  simp only [analyzeFailedBreakdownReclaimWindow, hLatest, hMetrics, hValid, ok_bind]
  rw [← apply_ite pure, pure_eq_ok] at hDecision
  refine ⟨_, rfl, ?_⟩
  rw [← hDecision, found_ite, and_iff_left hFloor]
  simp only [windowOutcome, true_and, decide_eq_true_eq, volumeThreshold_iff hValid, not_or,
    ge_iff_le, not_le, not_lt, and_assoc]

end

/-- A window that is sorted and closed is evaluated as it is, and neither the
identifiers nor the signal age change what is decided. -/
theorem analyzeGenericWindow_spec {signalId correlationId : Uuid}
    (hId : context.config.strategyId = strategyId) (hValid : context.config.validate = .ok ())
    (hEnabled : context.config.enabled = true) (hWindows : WindowsNonempty context.config)
    (hSorted : normalizeClosedCandles window = window) (hNonempty : 0 < window.length)
    (hSame : ∀ other : StrategyEvaluationContext,
      other.config = { context.config with maxSignalAgeMs := maxI64 } →
      strategyRules strategyId other window = strategyRules strategyId context window)
    (hDecision : strategyRules strategyId context window = .ok decision) :
    AnalyzedAs context.config decision
      (analyzeGenericWindow context.config window strategyId signalId correlationId) := by
  obtain ⟨latest, hLatest⟩ := exists_readBehind hNonempty
  let onWindow : StrategyEvaluationContext := {
    correlationId := correlationId
    strategyId := strategyId
    symbol := latest.symbol
    config := { context.config with maxSignalAgeMs := maxI64 }
    candles := window
    evaluatedAt := latest.closeTime }
  have hOnWindow : onWindow.config.validate = .ok () := by
    simp only [StrategyConfig.validate] at hValid ⊢
    split at hValid
    · cases hValid
    · rename_i hNotional
      rw [if_neg hNotional, if_neg (show ¬maxI64 ≤ 0 by decide)]
      split at hValid
      · cases hValid
      · exact hValid
  obtain ⟨result, hResult⟩ : ∃ result, evaluate strategyRules signalId onWindow = .ok result :=
    exists_evaluate hOnWindow hId.symm hWindows
  obtain ⟨-, other, hOther, hRead⟩ := exists_decision hResult hEnabled
  rw [show normalizeClosedCandles onWindow.candles = window from hSorted, hSame onWindow rfl] at hOther
  cases hOther.symm.trans hDecision
  simp only [analyzeGenericWindow, hLatest, ok_bind]
  rw [show evaluate strategyRules signalId _ = .ok result from hResult]
  refine ⟨_, rfl, ?_⟩
  rw [← show Found onWindow.config decision ↔ Found context.config decision from Iff.rfl,
    ← generated_iff_found hRead]
  simp [windowOutcome]

theorem confidencePassed_of_passedChecks (hPassed : PassedChecks strategyId request validation) :
    confidencePassed (normalizedConfig strategyId request validation)
      (maxStrategyConfidence strategyId) := by
  have hFloor := hPassed.confidenceFloor
  unfold confidencePassed
  simp only [validateConfidenceFloor] at hFloor
  cases hGiven : request.confidenceFloor with
  | none => simp [normalizedConfig, hGiven]
  | some floor =>
    simp only [hGiven, Option.elim] at hFloor
    split at hFloor
    · cases hFloor
    · simp only [hasError_errorIf, decide_eq_false_iff_not, gt_iff_lt, not_lt] at hFloor
      simpa [normalizedConfig, hGiven] using hFloor

/-- Fewer candles than required never make a signal. -/
theorem strategyRules_short (hWindows : WindowsNonempty context.config)
    (hLookback : 1 ≤ context.config.lookbackCandles) {candles : List Candle}
    (hShort : candles.length < requiredCandleCount context.config) :
    ∃ reason, strategyRules context.config.strategyId context candles = .ok (.noSignal reason) := by
  have hCount := requiredCandleCount.eq_def context.config
  unfold WindowsNonempty at hWindows
  cases hId : context.config.strategyId with
  | momentumV1 =>
    simp only [hId] at hCount
    exact ⟨_, if_pos (show candles.length < context.config.lookbackCandles + 1 by omega)⟩
  | volatilityBreakoutV1 =>
    simp only [hId] at hCount
    exact ⟨_, if_pos (show candles.length < context.config.lookbackCandles + 1 by omega)⟩
  | trendFilterMomentumV1 => exact ⟨_, if_pos hShort⟩
  | trendFilterMomentumV2 =>
    simp only [strategyRules, evaluateTrendFilterMomentumV2, if_pos hShort]
    split
    · exact ⟨_, rfl⟩
    · exact ⟨_, rfl⟩
  | volatilityBreakoutV2 =>
    simp only [hId] at hCount hWindows
    exact ⟨_, if_pos (show candles.length < breakoutLookback context.config + 1 by omega)⟩
  | volatilityCompressionBreakoutV1 =>
    simp only [strategyRules, evaluateVolatilityCompressionBreakout, if_pos hShort]
    split
    · exact ⟨_, rfl⟩
    · exact ⟨_, rfl⟩
  | rangeReversionV1 =>
    simp only [hId] at hCount
    exact ⟨_, if_pos (show candles.length < context.config.lookbackCandles + 1 by omega)⟩
  | trendPullbackContinuationV1 =>
    simp only [strategyRules, evaluateTrendPullbackContinuation, if_pos hShort]
    split
    · exact ⟨_, rfl⟩
    · exact ⟨_, rfl⟩
  | failedBreakdownReclaimV1 =>
    simp only [strategyRules, evaluateFailedBreakdownReclaim, if_pos hShort]
    split
    · exact ⟨_, rfl⟩
    · exact ⟨_, rfl⟩

theorem two_le_requiredCandleCount (config : StrategyConfig) : 2 ≤ requiredCandleCount config := by
  unfold requiredCandleCount
  split
  all_goals omega

theorem analyzeWindow_spec (hPassed : PassedChecks strategyId request validation)
    (hConfig : context.config = normalizedConfig strategyId request validation)
    (hEnabled : context.config.enabled = true)
    (hLength : requiredCandleCount context.config = window.length)
    (hSorted : normalizeClosedCandles window = window)
    (hDecision : strategyRules strategyId context window = .ok decision)
    (signalId correlationId : Uuid) :
    AnalyzedAs context.config decision
      (analyzeWindow context.config window strategyId signalId correlationId) := by
  have hFloor : confidencePassed context.config (maxStrategyConfidence strategyId) :=
    hConfig ▸ confidencePassed_of_passedChecks hPassed
  have hLookback : 2 ≤ context.config.lookbackCandles := hConfig ▸ lookback_of_passedChecks hPassed
  have hId : context.config.strategyId = strategyId := by rw [hConfig]; rfl
  have hValid : context.config.validate = .ok () := hConfig ▸ validate_of_passedChecks hPassed
  have hWindows : WindowsNonempty context.config :=
    hConfig ▸ windowsNonempty_of_passedChecks hPassed
  have hCount := requiredCandleCount.eq_def context.config
  have hNonempty : 0 < window.length := hLength ▸ Nat.zero_lt_of_lt (two_le_requiredCandleCount ..)
  cases strategyId with
  | momentumV1 =>
    refine analyzeGenericWindow_spec hId hValid hEnabled hWindows hSorted hNonempty ?_ hDecision
    intro other hOther
    simp only [strategyRules, evaluateMomentum, hOther]
  | volatilityBreakoutV1 =>
    refine analyzeGenericWindow_spec hId hValid hEnabled hWindows hSorted hNonempty ?_ hDecision
    intro other hOther
    simp only [strategyRules, evaluateBreakout, hOther]
  | volatilityBreakoutV2 =>
    refine analyzeGenericWindow_spec hId hValid hEnabled hWindows hSorted hNonempty ?_ hDecision
    intro other hOther
    have hLookback : breakoutLookback other.config = breakoutLookback context.config := by
      rw [hOther]
      rfl
    simp only [strategyRules, evaluateVolumeBreakout, hLookback]
  | trendFilterMomentumV1 => exact analyzeTrendFilterWindow_spec hLength hDecision
  | trendFilterMomentumV2 =>
    exact analyzeTrendFilterV2Window_spec hLength (hConfig ▸ bandInverted_of_passedChecks hPassed)
      hDecision
  | volatilityCompressionBreakoutV1 =>
    exact analyzeVolatilityCompressionBreakoutWindow_spec hLength hFloor
      (hConfig ▸ validateCompressionBreakoutConfig_of_passedChecks hPassed) hDecision
  | rangeReversionV1 =>
    simp only [hId] at hCount
    exact analyzeRangeReversionWindow_spec (by omega) hDecision
  | trendPullbackContinuationV1 =>
    simp only [hId] at hCount
    exact analyzeTrendPullbackContinuationWindow_spec hLength hFloor hDecision
      (exists_calculateTrendPullbackMetrics (by omega) (by omega) (by omega) (by omega))
  | failedBreakdownReclaimV1 =>
    exact analyzeFailedBreakdownReclaimWindow_spec hLength hFloor
      (hConfig ▸ validateFailedBreakdownReclaimConfig_of_passedChecks hPassed) hDecision

end Windows

section Counts

def signals (signalId : Uuid) (context : StrategyEvaluationContext) : Bool :=
  match evaluate strategyRules signalId context with
  | .ok result => result.generated
  | .error _ => false

theorem signals_iff_found {signalId : Uuid} {context : StrategyEvaluationContext}
    {decision : StrategyOutcome} (hValid : context.config.validate = .ok ())
    (hId : context.strategyId = context.config.strategyId)
    (hWindows : WindowsNonempty context.config) (hEnabled : context.config.enabled = true)
    (hDecision : strategyRules context.strategyId context (normalizeClosedCandles context.candles) =
      .ok decision) :
    signals signalId context = true ↔ Found context.config decision := by
  obtain ⟨result, hResult⟩ : ∃ result, evaluate strategyRules signalId context = .ok result :=
    exists_evaluate hValid hId hWindows
  obtain ⟨-, other, hOther, hRead⟩ := exists_decision hResult hEnabled
  cases hOther.symm.trans hDecision
  simp only [signals, hResult]
  exact generated_iff_found hRead

/-- Every window adds one to the count when it would have signalled. -/
theorem tally_fold (request : StrategyOpportunityAnalysisRequest)
    {analysis : Nat → Except Fault WindowOutcome} {signalled : Nat → Bool} {ends : List Nat}
    (hAnalysis : ∀ stop ∈ ends, ∃ outcome, analysis stop = .ok outcome ∧
      outcome.wouldSignal = signalled stop) (start : Tally) :
    ∃ finish, ends.foldlM (fun (tally : Tally) stop => do
        let outcome ← analysis stop
        return tally.add request outcome) start = .ok finish ∧
      finish.wouldSignalCount = start.wouldSignalCount + ends.countP signalled := by
  induction ends generalizing start with
  | nil => exact ⟨start, rfl, by simp⟩
  | cons stop rest ih =>
    obtain ⟨outcome, hOutcome, hSignalled⟩ := hAnalysis stop (mem_cons_self ..)
    obtain ⟨finish, hFinish, hCount⟩ :=
      ih (fun other hOther => hAnalysis other (mem_cons_of_mem _ hOther))
        (start.add request outcome)
    refine ⟨finish, ?_, ?_⟩
    · rw [foldlM_cons, hOutcome]
      exact hFinish
    · rw [hCount, countP_cons, ← hSignalled]
      cases hWould : outcome.wouldSignal with
      | true =>
        simp only [Tally.add, hWould, if_true]
        omega
      | false => simp [Tally.add, hWould]

theorem countP_range_of_none {signalled : Nat → Bool} {first count : Nat}
    (hNone : ∀ stop < first, signalled stop = false) :
    (range count).countP signalled = (range' first (count - first)).countP signalled := by
  rcases Nat.le_total first count with hFirst | hCount
  · have hSplit : range count = range first ++ range' first (count - first) := by
      calc range count
          = range' 0 (first + (count - first)) := by
            rw [Nat.add_sub_cancel' hFirst, range_eq_range']
        _ = range' 0 first ++ range' (0 + first) (count - first) :=
            range'_append_1.symm
        _ = range first ++ range' first (count - first) := by
            rw [Nat.zero_add, range_eq_range']
    rw [hSplit, countP_append, countP_eq_zero.mpr, Nat.zero_add]
    intro stop hStop
    simp [hNone stop (mem_range.mp hStop)]
  · rw [Nat.sub_eq_zero_of_le hCount, countP_eq_zero.mpr]
    · rfl
    · intro stop hStop
      have hBefore := mem_range.mp hStop
      simp [hNone stop (by omega)]

section Analysis
variable {update : StrategyConfigUpdateRequest} {validation : StrategyValidationContext}
  {strategyId : StrategyId} {context : StrategyEvaluationContext} {candles : List Candle}
  {required stop : Nat}

section
variable (hPassed : PassedChecks strategyId update validation)
  (hConfig : context.config = normalizedConfig strategyId update validation)
  (hEnabled : context.config.enabled = true) (hTarget : context.strategyId = strategyId)
  (hCandles : context.candles = (normalizeClosedCandles candles).take stop)
include hPassed hConfig hEnabled hTarget hCandles

/-- The analysis of the window that ends at an index tells whether the
evaluation of everything up to that index signals. -/
theorem analysis_of_prefix (hRequired : required = requiredCandleCount context.config)
    (hFrom : required ≤ stop) (hStop : stop ≤ (normalizeClosedCandles candles).length)
    (signalId drawn correlationId : Uuid) :
    ∃ outcome, analyzeWindow context.config
        (slice (stop - required) stop (normalizeClosedCandles candles)) strategyId signalId
        correlationId = .ok outcome ∧
      outcome.wouldSignal = signals drawn context := by
  have hId : context.config.strategyId = strategyId := by rw [hConfig]; rfl
  have hWindows : WindowsNonempty context.config :=
    hConfig ▸ windowsNonempty_of_passedChecks hPassed
  have hPrefix : normalizeClosedCandles context.candles = context.candles :=
    normalizeClosedCandles_of_sublist (hCandles ▸ take_sublist ..)
  have hWindow : slice (stop - required) stop (normalizeClosedCandles candles) =
      context.candles.rtake required := by
    rw [slice_eq_rtake hStop, hCandles]
  have hLength : requiredCandleCount context.config = (context.candles.rtake required).length := by
    rw [Window.length_rtake, hCandles, length_take, ← hRequired]
    omega
  have hSorted : normalizeClosedCandles (context.candles.rtake required) =
      context.candles.rtake required :=
    normalizeClosedCandles_of_sublist
      ((drop_sublist ..).trans (hCandles ▸ take_sublist ..))
  obtain ⟨decision, hDecision, -⟩ := strategyRules_ok hWindows context.candles
  have hOnWindow : strategyRules strategyId context (context.candles.rtake required) =
      .ok decision := by
    rw [← hId, hRequired, strategyRules_rtake, hDecision]
  obtain ⟨outcome, hOutcome, hFound⟩ := analyzeWindow_spec hPassed hConfig hEnabled hLength hSorted
    hOnWindow signalId correlationId
  have hSignals : signals drawn context = true ↔ Found context.config decision := by
    apply signals_iff_found (hConfig ▸ validate_of_passedChecks hPassed) (hTarget.trans hId.symm)
      hWindows hEnabled
    rw [hPrefix, hTarget, ← hId, hDecision]
  refine ⟨outcome, hWindow ▸ hOutcome, ?_⟩
  rw [Bool.eq_iff_iff, hFound, hSignals]

theorem not_signals_of_short (hStop : stop < requiredCandleCount context.config) (drawn : Uuid) :
    signals drawn context = false := by
  have hId : context.config.strategyId = strategyId := by rw [hConfig]; rfl
  have hWindows : WindowsNonempty context.config :=
    hConfig ▸ windowsNonempty_of_passedChecks hPassed
  have hLookback : 2 ≤ context.config.lookbackCandles := hConfig ▸ lookback_of_passedChecks hPassed
  have hPrefix : normalizeClosedCandles context.candles = context.candles :=
    normalizeClosedCandles_of_sublist (hCandles ▸ take_sublist ..)
  have hShort : context.candles.length < requiredCandleCount context.config := by
    rw [hCandles, length_take]
    omega
  obtain ⟨reason, hReason⟩ := strategyRules_short hWindows (by omega) hShort
  have hSignals : signals drawn context = true ↔ Found context.config (.noSignal reason) := by
    apply signals_iff_found (hConfig ▸ validate_of_passedChecks hPassed) (hTarget.trans hId.symm)
      hWindows hEnabled
    rw [hPrefix, hTarget, ← hId, hReason]
  exact Bool.eq_false_iff.mpr hSignals.mp

end

end Analysis

/-- For an accepted and enabled configuration the analysis returns, its signal
count is the number of prefixes of the closed candles, in the order of their
open times, on which the evaluation generates a signal, and the counts add up
to the number of windows. -/
theorem opportunities_are_signals {update : StrategyConfigUpdateRequest}
    {validation : StrategyValidationContext} {validatedAt : DateTime} {config : StrategyConfig}
    (hConfig : (validateStrategyConfig update validation validatedAt).normalizedConfig = some config)
    (hEnabled : config.enabled = true) {request : StrategyOpportunityAnalysisRequest}
    (hTarget : StrategyId.fromStr request.strategyId = .ok config.strategyId)
    (candles : List Candle) (signalId correlationId : Nat → Uuid) (analyzedAt : DateTime)
    {contextAt : Nat → StrategyEvaluationContext}
    (hContexts : ∀ stop, (contextAt stop).config = config ∧
      (contextAt stop).strategyId = config.strategyId ∧
      (contextAt stop).candles = (normalizeClosedCandles candles).take stop) (drawn : Nat → Uuid) :
    ∃ result, analyzeOpportunity signalId correlationId request config candles analyzedAt =
        .ok result ∧
      result.wouldSignalCount = (range ((normalizeClosedCandles candles).length + 1)).countP
        (fun stop => signals (drawn stop) (contextAt stop)) ∧
      result.evaluableWindows =
        max 0 ((normalizeClosedCandles candles).length - requiredCandleCount config + 1 : Int) ∧
      result.wouldSignalCount + result.noSignalCount = result.evaluableWindows := by
  obtain ⟨strategyId, -, hIssues, hNormalized⟩ := normalizedConfig_eq_some.mp hConfig
  have hPassed := passedChecks_of_no_error hIssues
  have hId : config.strategyId = strategyId := by rw [hNormalized]; rfl
  have hValid : config.validate = .ok () := hNormalized ▸ validate_of_passedChecks hPassed
  have hAnalysis : ∀ stop ∈ range' (requiredCandleCount config)
      ((normalizeClosedCandles candles).length + 1 - requiredCandleCount config),
      ∃ outcome, analyzeWindow config (slice (stop - requiredCandleCount config) stop
          (normalizeClosedCandles candles)) strategyId (signalId stop) (correlationId stop) =
        .ok outcome ∧ outcome.wouldSignal = signals (drawn stop) (contextAt stop) := by
    intro stop hStop
    obtain ⟨hSame, hStrategy, hCandles⟩ := hContexts stop
    rw [mem_range'_1] at hStop
    rw [← hSame] at hNormalized hEnabled hStop ⊢
    exact analysis_of_prefix hPassed hNormalized hEnabled (hStrategy.trans hId) hCandles rfl
      hStop.1 (by omega) _ _ _
  have hShort : ∀ stop < requiredCandleCount config,
      signals (drawn stop) (contextAt stop) = false := by
    intro stop hStop
    obtain ⟨hSame, hStrategy, hCandles⟩ := hContexts stop
    rw [← hSame] at hNormalized hEnabled hStop
    exact not_signals_of_short hPassed hNormalized hEnabled (hStrategy.trans hId) hCandles hStop _
  obtain ⟨tally, hTally, hCount⟩ := tally_fold request hAnalysis {}
  simp only [analyzeOpportunity, hValid, hTarget, Except.mapError, ok_bind, hId, ne_eq,
    not_true_eq_false, if_false, hTally]
  refine ⟨_, rfl, ?_, ?_, ?_⟩
  · rw [countP_range_of_none hShort, hCount]
    simp
  · simp only
    split
    · omega
    · omega
  · simp

end Counts

section Sample

def sampleMomentumRequest : StrategyConfigUpdateRequest :=
  { samplePullbackRequest with strategyId := "momentum_v1" }

def sampleOpportunityRequest : StrategyOpportunityAnalysisRequest where
  strategyId := "momentum_v1"
  symbol := "BTCUSDT"
  timeframe := "1m"
  startTime := DateTime.seconds 0
  endTime := DateTime.seconds 3600
  limitSamples := none
  includeExamples := true

def samplePrefixContext (closes : List Decimal) (stop : Nat) : StrategyEvaluationContext where
  correlationId := ⟨1⟩
  strategyId := .momentumV1
  symbol := Symbol.btcusdt
  config := normalizedConfig .momentumV1 sampleMomentumRequest sampleValidation
  candles := (normalizeClosedCandles (sampleCloses closes)).take stop
  evaluatedAt := DateTime.seconds 3600

theorem opportunities_are_signals_sample : ∃ result,
    analyzeOpportunity (fun _ => ⟨1⟩) (fun _ => ⟨2⟩) sampleOpportunityRequest
      (normalizedConfig .momentumV1 sampleMomentumRequest sampleValidation)
      (sampleCloses [100, 101, 102, 103, 104, 105, 104, 106]) 0 = .ok result ∧
    result.wouldSignalCount = 1 ∧ result.evaluableWindows = 3 := by
  have hConfig : (validateStrategyConfig sampleMomentumRequest sampleValidation 0).normalizedConfig =
      some (normalizedConfig .momentumV1 sampleMomentumRequest sampleValidation) := by
    with_unfolding_all rfl
  have hEnabled : (normalizedConfig .momentumV1 sampleMomentumRequest sampleValidation).enabled = true :=
    rfl
  obtain ⟨result, hResult, hCount, hWindows, -⟩ := opportunities_are_signals hConfig hEnabled
    (show StrategyId.fromStr sampleOpportunityRequest.strategyId = .ok .momentumV1 by decide)
    (sampleCloses [100, 101, 102, 103, 104, 105, 104, 106]) (fun _ => ⟨1⟩) (fun _ => ⟨2⟩) 0
    (fun stop => ⟨rfl, rfl, rfl⟩ : ∀ stop, (samplePrefixContext _ stop).config = _ ∧ _ ∧ _)
    (fun _ => ⟨3⟩)
  refine ⟨result, hResult, ?_, ?_⟩
  · rw [hCount]
    decide +kernel
  · rw [hWindows]
    decide +kernel

end Sample

end AegisQuant.Strategy
