import AegisQuant.Strategy.Diagnose
import AegisQuant.Strategy.RecentCandles

/-! Diagnostics explain the decision that is made. Wherever a strategy decides,
its diagnosis passes all its gates precisely if the strategy signals. The one
exception is `momentum_v1` with a lookback of zero, which signals on a single
candle where its diagnosis compares two. -/
namespace AegisQuant.Strategy
open Fallible List Option Checklist

/-- What a diagnosis has to say about a decision. -/
def Explains (config : StrategyConfig) (decision : StrategyOutcome) (outcome : DiagnosticOutcome) :
    Prop :=
  match decision with
  | .noSignal _ => outcome.finalDecision ≠ .wouldSignal
  | .generated source _ confidence =>
    if confidencePassed config confidence then
      outcome = wouldSignalOutcome (some source.openTime) confidence
    else outcome.finalDecision ≠ .wouldSignal

section Conclusions
variable {context : StrategyEvaluationContext} {entries : List CheckEntry} {checks : Checks}

theorem conclude_of_allPassed (hPassed : allPassed entries = true)
    (outcome : DiagnosticOutcome) : (conclude entries outcome checks).2 = outcome := by
  have hNone := (run_snd_eq_none_iff entries checks).mpr hPassed
  unfold conclude
  rcases hRun : run entries checks with ⟨recorded, reason⟩
  rw [hRun] at hNone
  cases hNone
  rfl

theorem conclude_of_not_allPassed (hFailed : allPassed entries = false)
    (outcome : DiagnosticOutcome) :
    (conclude entries outcome checks).2.finalDecision ≠ .wouldSignal := by
  have hSome : (run entries checks).2 ≠ none := fun hNone => by
    rw [run_snd_eq_none_iff, hFailed] at hNone
    cases hNone
  unfold conclude
  rcases hRun : run entries checks with ⟨recorded, reason⟩
  rw [hRun] at hSome
  cases reason with
  | none => exact absurd rfl hSome
  | some reason =>
    intro hSignal
    cases hSignal

/-- Gates that are passed precisely where the strategy does not turn down the
candle, followed by the confidence. -/
theorem explains_conclude {failed : Prop} [Decidable failed] {latest : Candle}
    {reason generatedReason : SignalReason} {confidence : Decimal}
    (hGates : allPassed entries = true ↔ ¬failed) :
    Explains context.config
      (if failed then .noSignal reason else .generated latest generatedReason confidence)
      (conclude entries (confidenceOutcome context latest confidence) checks).2 := by
  by_cases hFailed : failed
  · rw [if_pos hFailed]
    exact conclude_of_not_allPassed (Bool.eq_false_iff.mpr fun hAll => hGates.mp hAll hFailed) _
  · rw [if_neg hFailed, conclude_of_allPassed (hGates.mpr hFailed)]
    simp only [Explains, confidenceOutcome]
    split
    · rfl
    · intro hSignal
      cases hSignal

/-- A signal whose confidence is among the gates. -/
theorem explains_generated {latest : Candle} {reason : SignalReason} {confidence : Decimal}
    {openTime : Option DateTime} (hOpenTime : openTime = some latest.openTime)
    (hGates : allPassed entries = true ↔ confidencePassed context.config confidence) :
    Explains context.config (.generated latest reason confidence)
      (conclude entries (wouldSignalOutcome openTime confidence) checks).2 := by
  by_cases hConfidence : confidencePassed context.config confidence
  · rw [conclude_of_allPassed (hGates.mpr hConfidence), Explains, if_pos hConfidence, hOpenTime]
  · rw [Explains, if_neg hConfidence]
    exact conclude_of_not_allPassed (Bool.eq_false_iff.mpr fun hAll => hConfidence (hGates.mp hAll)) _

variable (name : String)

@[simp] theorem allPassed_requireCheck (passed : Prop) [Decidable passed]
    (reason : StrategyNoSignalReason) :
    allPassed (requireCheck name passed reason) = decide passed := by
  simp [requireCheck]

@[simp] theorem allPassed_requireWithin (within above below : Prop) [Decidable within]
    [Decidable above] [Decidable below] (aboveReason belowReason : StrategyNoSignalReason) :
    allPassed (requireWithin name within above below aboveReason belowReason) =
      (decide above && decide below) := by
  simp [requireWithin]

@[simp] theorem passed_note (passed : Prop) [Decidable passed] :
    (note name passed).passed = true := rfl

end Conclusions

section Bodies
variable {context : StrategyEvaluationContext} {candles : List Candle} {checks : Checks}
  {decision : StrategyOutcome}

/-- A diagnosis that goes through and explains the decision. -/
def Diagnosed (context : StrategyEvaluationContext) (decision : StrategyOutcome)
    (diagnosis : Except Fault (Checks × DiagnosticOutcome)) : Prop :=
  ∃ reported, diagnosis = .ok reported ∧ Explains context.config decision reported.2

theorem diagnoseTrendFilterMomentum_explains
    (hLength : requiredCandleCount context.config ≤ candles.length)
    (hDecision : evaluateTrendFilterMomentum context candles = .ok decision) :
    Diagnosed context decision (diagnoseTrendFilterMomentum context candles checks) := by
  simp only [evaluateTrendFilterMomentum, if_neg (not_lt.mpr hLength), bind_eq_ok] at hDecision
  obtain ⟨latest, hLatest, previous, hPrevious, trend, hTrend, reference, hReference, hDecision⟩ :=
    hDecision
  simp only [diagnoseTrendFilterMomentum, hLatest, hPrevious, hTrend, hReference, ok_bind]
  rw [← apply_ite pure, pure_eq_ok] at hDecision
  refine ⟨_, rfl, ?_⟩
  rw [← hDecision]
  apply explains_conclude
  simp

theorem diagnoseTrendFilterMomentumV2_explains
    (hLength : requiredCandleCount context.config ≤ candles.length)
    (hDecision : evaluateTrendFilterMomentumV2 context candles = .ok decision) :
    Diagnosed context decision (diagnoseTrendFilterMomentumV2 context candles checks) := by
  simp only [evaluateTrendFilterMomentumV2, if_neg (not_lt.mpr hLength)] at hDecision
  split at hDecision
  · rename_i hInverted
    cases hDecision
    simp only [diagnoseTrendFilterMomentumV2, if_pos hInverted]
    exact ⟨_, rfl, fun hSignal => by cases hSignal⟩
  · rename_i hBand
    simp only [bind_eq_ok] at hDecision
    obtain ⟨latest, hLatest, trend, hTrend, reference, hReference, hDecision⟩ := hDecision
    simp only [diagnoseTrendFilterMomentumV2, if_neg hBand, hLatest, hTrend, hReference, ok_bind]
    rw [← apply_ite pure, pure_eq_ok] at hDecision
    refine ⟨_, rfl, ?_⟩
    rw [← hDecision]
    apply explains_conclude
    simp

theorem diagnoseVolumeBreakout_explains (hLength : breakoutLookback context.config + 1 ≤ candles.length)
    (hDecision : evaluateVolumeBreakout context candles = .ok decision) :
    Diagnosed context decision (diagnoseVolumeBreakout context candles checks) := by
  simp only [evaluateVolumeBreakout, if_neg (not_lt.mpr hLength), bind_eq_ok] at hDecision
  obtain ⟨recent, hRecent, latest, hLatest, level, hLevel, hDecision⟩ := hDecision
  simp only [diagnoseVolumeBreakout, hRecent, hLatest, hLevel, ok_bind]
  rw [← apply_ite pure, pure_eq_ok] at hDecision
  refine ⟨_, rfl, ?_⟩
  rw [← hDecision]
  apply explains_conclude
  simp

/-- A window whose earlier candles have a highest price is not just the
latest candle. -/
theorem one_le_of_highest {lookback : Nat} {recent : List Candle} {level : Decimal} {fault : Fault}
    (hRecent : readLast (lookback + 1) candles = .ok recent)
    (hLevel : ofOption (highest recent.dropLast) fault = .ok level) : 1 ≤ lookback := by
  have hWindow := ofOption_eq_ok.mp hRecent
  simp only [Window.last?, ite_none_right_eq_some, some.injEq] at hWindow
  obtain ⟨hLength, rfl⟩ := hWindow
  have hSome := isSome_max?_iff.mp
    (isSome_iff_exists.mpr ⟨level, ofOption_eq_ok.mp hLevel⟩)
  rw [Ne, map_eq_nil_iff, ← length_eq_zero_iff, length_dropLast, Window.length_rtake] at hSome
  omega

theorem diagnoseBreakout_explains (hLength : requiredCandleCount context.config ≤ candles.length)
    (hId : context.config.strategyId = .volatilityBreakoutV1)
    (hDecision : evaluateBreakout context candles = .ok decision) :
    Diagnosed context decision (diagnoseBreakout context candles checks) := by
  have hCount := requiredCandleCount.eq_def context.config
  simp only [hId] at hCount
  simp only [evaluateBreakout, if_neg (show ¬candles.length < context.config.lookbackCandles + 1 by omega),
    bind_eq_ok] at hDecision
  obtain ⟨recent, hRecent, latest, hLatest, level, hLevel, hDecision⟩ := hDecision
  have hLookback := one_le_of_highest hRecent hLevel
  rw [show max (context.config.lookbackCandles + 1) 2 = context.config.lookbackCandles + 1 by omega]
    at hCount
  simp only [diagnoseBreakout, hCount, hRecent, hLatest, hLevel, ok_bind]
  refine ⟨_, rfl, ?_⟩
  split at hDecision
  · rename_i hBelow
    cases hDecision
    apply conclude_of_not_allPassed
    simp [hBelow]
  · rename_i hAbove
    cases hDecision
    apply explains_generated rfl
    simp [not_le.mp hAbove]

theorem diagnoseMomentum_explains (hLookback : 1 ≤ context.config.lookbackCandles)
    (hLength : requiredCandleCount context.config ≤ candles.length)
    (hId : context.config.strategyId = .momentumV1)
    (hDecision : evaluateMomentum .momentumV1 context candles = .ok decision) :
    Diagnosed context decision (diagnoseMomentum context candles checks) := by
  have hCount := requiredCandleCount.eq_def context.config
  simp only [hId] at hCount
  rw [show max (context.config.lookbackCandles + 1) 2 = context.config.lookbackCandles + 1 by omega]
    at hCount
  rw [hCount] at hLength
  simp only [diagnoseMomentum, hCount, readLast_of_le hLength, ok_bind]
  simp only [evaluateMomentum, if_neg (not_lt.mpr hLength)] at hDecision
  refine ⟨_, rfl, ?_⟩
  split at hDecision
  · rename_i hHigher
    split at hDecision
    · cases hDecision
    · rename_i latest hLatest
      cases hDecision
      apply explains_generated
      · rw [rtake, hLatest]
        rfl
      · simp only [allPassed_append, allPassed_requireCheck, rtake, hHigher]
        simp
  · rename_i hBroken
    cases hDecision
    apply conclude_of_not_allPassed
    simp only [allPassed_append, allPassed_requireCheck, rtake, hBroken]
    simp

theorem rangeWidthWithinBounds_iff {config : StrategyConfig} {window : List Candle}
    {metrics : CompressionBreakoutMetrics}
    (hMetrics : calculateCompressionBreakoutMetrics config window = .ok metrics) :
    metrics.rangeWidthWithinBounds = true ↔ minRangeWidthPct config ≤ metrics.rangeWidthPct ∧
        metrics.rangeWidthPct ≤ maxRangeWidthPct config := by
  obtain ⟨latest, -, hMetrics⟩ := bind_eq_ok.mp hMetrics
  cases hMetrics
  simp

theorem diagnoseVolatilityCompressionBreakout_explains
    (hLength : requiredCandleCount context.config ≤ candles.length)
    (hDecision : evaluateVolatilityCompressionBreakout context candles = .ok decision) :
    Diagnosed context decision (diagnoseVolatilityCompressionBreakout context candles checks) := by
  simp only [evaluateVolatilityCompressionBreakout, if_neg (not_lt.mpr hLength)] at hDecision
  split at hDecision
  · rename_i hInvalid
    cases hDecision
    simp only [diagnoseVolatilityCompressionBreakout, if_pos hInvalid]
    exact ⟨_, rfl, fun hSignal => by cases hSignal⟩
  · rename_i hValid
    simp only [bind_eq_ok] at hDecision
    obtain ⟨recent, hRecent, latest, hLatest, metrics, hMetrics, hDecision⟩ := hDecision
    simp only [diagnoseVolatilityCompressionBreakout, if_neg hValid, hRecent, hLatest, hMetrics,
      ok_bind]
    rw [← apply_ite pure, pure_eq_ok] at hDecision
    refine ⟨_, rfl, ?_⟩
    rw [← hDecision]
    apply explains_conclude
    have hWidth := rangeWidthWithinBounds_iff hMetrics
    simp [hWidth, and_assoc, ← Bool.not_eq_true]

theorem diagnoseRangeReversion_explains (hLength : context.config.lookbackCandles + 1 ≤ candles.length)
    (hDecision : evaluateRangeReversion context candles = .ok decision) :
    Diagnosed context decision (diagnoseRangeReversion context candles checks) := by
  simp only [evaluateRangeReversion, if_neg (not_lt.mpr hLength), bind_eq_ok] at hDecision
  obtain ⟨recent, hRecent, latest, hLatest, previous, hPrevious, range, hRange, hDecision⟩ := hDecision
  simp only [diagnoseRangeReversion, hRecent, hLatest, hPrevious, hRange, ok_bind]
  rw [← ite_or, ← ite_or, ← ite_or, ← apply_ite pure, pure_eq_ok] at hDecision
  refine ⟨_, rfl, ?_⟩
  rw [← hDecision]
  apply explains_conclude
  simp [and_assoc]
  intro _ _ _ _
  rw [or_iff_not_imp_left, not_lt]

theorem diagnoseTrendPullbackContinuation_explains
    (hLength : requiredCandleCount context.config ≤ candles.length)
    (hDecision : evaluateTrendPullbackContinuation context candles = .ok decision) :
    Diagnosed context decision (diagnoseTrendPullbackContinuation context candles checks) := by
  simp only [evaluateTrendPullbackContinuation, if_neg (not_lt.mpr hLength)] at hDecision
  split at hDecision
  · rename_i hInvalid
    cases hDecision
    simp only [diagnoseTrendPullbackContinuation, if_pos hInvalid]
    exact ⟨_, rfl, fun hSignal => by cases hSignal⟩
  · rename_i hValid
    simp only [bind_eq_ok] at hDecision
    obtain ⟨recent, hRecent, latest, hLatest, metrics, hMetrics, hDecision⟩ := hDecision
    simp only [diagnoseTrendPullbackContinuation, if_neg hValid, hRecent, hLatest, hMetrics,
      ok_bind]
    rw [← apply_ite pure, pure_eq_ok] at hDecision
    refine ⟨_, rfl, ?_⟩
    rw [← hDecision]
    apply explains_conclude
    simp [and_assoc]

theorem diagnoseFailedBreakdownReclaim_explains
    (hLength : requiredCandleCount context.config ≤ candles.length)
    (hDecision : evaluateFailedBreakdownReclaim context candles = .ok decision) :
    Diagnosed context decision (diagnoseFailedBreakdownReclaim context candles checks) := by
  simp only [evaluateFailedBreakdownReclaim, if_neg (not_lt.mpr hLength)] at hDecision
  split at hDecision
  · rename_i hInvalid
    cases hDecision
    simp only [diagnoseFailedBreakdownReclaim, if_pos hInvalid]
    exact ⟨_, rfl, fun hSignal => by cases hSignal⟩
  · rename_i hValid
    simp only [bind_eq_ok] at hDecision
    obtain ⟨recent, hRecent, latest, hLatest, metrics, hMetrics, hDecision⟩ := hDecision
    simp only [diagnoseFailedBreakdownReclaim, if_neg hValid, hRecent, hLatest, hMetrics, ok_bind]
    rw [← apply_ite pure, pure_eq_ok] at hDecision
    refine ⟨_, rfl, ?_⟩
    rw [← hDecision]
    apply explains_conclude
    simp only [allPassed_append, allPassed_cons, allPassed_nil,
      allPassed_requireCheck, passed_note, volumeThreshold_iff (not_isSome_iff_eq_none.mp hValid), Bool.and_true, Bool.true_and,
      Bool.and_eq_true, decide_eq_true_eq, not_or, ge_iff_le, not_le, not_lt, and_assoc]

theorem diagnoseStrategy_explains
    (hMomentum : context.config.strategyId = .momentumV1 → 1 ≤ context.config.lookbackCandles)
    (hLength : requiredCandleCount context.config ≤ candles.length)
    (hDecision : strategyRules context.config.strategyId context candles = .ok decision) :
    Diagnosed context decision (diagnoseStrategy context candles checks context.config.strategyId) := by
  have hCount := requiredCandleCount.eq_def context.config
  cases hId : context.config.strategyId with
  | momentumV1 =>
    rw [hId] at hDecision
    exact diagnoseMomentum_explains (hMomentum hId) hLength hId hDecision
  | volatilityBreakoutV1 =>
    rw [hId] at hDecision
    exact diagnoseBreakout_explains hLength hId hDecision
  | trendFilterMomentumV1 =>
    rw [hId] at hDecision
    exact diagnoseTrendFilterMomentum_explains hLength hDecision
  | trendFilterMomentumV2 =>
    rw [hId] at hDecision
    exact diagnoseTrendFilterMomentumV2_explains hLength hDecision
  | volatilityBreakoutV2 =>
    rw [hId] at hDecision
    simp only [hId] at hCount
    exact diagnoseVolumeBreakout_explains (by omega) hDecision
  | volatilityCompressionBreakoutV1 =>
    rw [hId] at hDecision
    exact diagnoseVolatilityCompressionBreakout_explains hLength hDecision
  | rangeReversionV1 =>
    rw [hId] at hDecision
    simp only [hId] at hCount
    exact diagnoseRangeReversion_explains (by omega) hDecision
  | trendPullbackContinuationV1 =>
    rw [hId] at hDecision
    exact diagnoseTrendPullbackContinuation_explains hLength hDecision
  | failedBreakdownReclaimV1 =>
    rw [hId] at hDecision
    exact diagnoseFailedBreakdownReclaim_explains hLength hDecision

end Bodies

section Results
variable {signalId : Uuid} {context : StrategyEvaluationContext} {result : StrategyEvaluationResult}
  {report : StrategyDiagnosticsResult} {decision : StrategyOutcome}

/-- Both report a signal, with the same source candle and confidence, or
neither does. -/
def Agrees (result : StrategyEvaluationResult) (report : StrategyDiagnosticsResult) : Prop :=
  (report.finalDecision = .wouldSignal ↔ result.generated = true) ∧
    (result.generated = true → ∃ signal, result.signal = some signal ∧
      report.sourceCandleOpenTime = some signal.sourceCandleOpenTime ∧
      report.confidence = some signal.confidence.value)

/-- A report on an enabled strategy with enough candles, none of them stale. -/
theorem exists_diagnosis (hDiagnose : diagnose context = .ok report)
    (hEnabled : context.config.enabled = true)
    (hCovered : requiredCandleCount context.config ≤ (normalizeClosedCandles context.candles).length)
    (hFresh : (dataHealth context (normalizeClosedCandles context.candles)).stale = false) :
    ∃ checks diagnosis, diagnoseStrategy context (normalizeClosedCandles context.candles) checks
        context.strategyId = .ok diagnosis ∧
      report.finalDecision = diagnosis.2.finalDecision ∧
      report.sourceCandleOpenTime = diagnosis.2.sourceCandleOpenTime ∧
      report.confidence = diagnosis.2.confidence := by
  obtain ⟨_, -, hDiagnose⟩ := bind_eq_ok.mp hDiagnose
  split at hDiagnose
  · cases hDiagnose
  · have hEnough : ¬(dataHealth context (normalizeClosedCandles context.candles)).availableClosedCandles <
        (dataHealth context (normalizeClosedCandles context.candles)).requiredClosedCandles :=
      not_lt.mpr hCovered
    simp only [hEnabled, Bool.true_eq_false, if_false, if_neg hEnough, hFresh,
      Bool.false_eq_true] at hDiagnose
    obtain ⟨diagnosis, hDiagnosis, hDiagnose⟩ := bind_eq_ok.mp hDiagnose
    cases hDiagnose
    exact ⟨_, diagnosis, hDiagnosis, rfl, rfl, rfl⟩

theorem agrees_of_explains {outcome : DiagnosticOutcome} (hResult : ResultOf context.config decision result)
    (hExplains : Explains context.config decision outcome)
    (hFinal : report.finalDecision = outcome.finalDecision)
    (hSource : report.sourceCandleOpenTime = outcome.sourceCandleOpenTime)
    (hConfidence : report.confidence = outcome.confidence) : Agrees result report := by
  have hNone (hGenerated : result.generated = false) (hOther : outcome.finalDecision ≠ .wouldSignal) :
      Agrees result report := by
    refine ⟨?_, fun hSignal => ?_⟩
    · rw [hFinal, hGenerated]
      exact iff_of_false hOther (by decide)
    · rw [hGenerated] at hSignal
      cases hSignal
  cases decision with
  | noSignal reason => exact hNone hResult hExplains
  | generated source reason confidence =>
    simp only [ResultOf, Explains] at hResult hExplains
    split at hResult
    · rename_i hPassed
      rw [if_pos hPassed] at hExplains
      obtain ⟨hGenerated, signal, hSignal, hTime, hValue⟩ := hResult
      subst hExplains
      refine ⟨?_, fun _ => ⟨signal, hSignal, ?_, ?_⟩⟩
      · rw [hFinal]
        exact iff_of_true rfl hGenerated
      · rw [hSource, hTime]
        rfl
      · rw [hConfidence, hValue]
        rfl
    · rename_i hPassed
      rw [if_neg hPassed] at hExplains
      exact hNone hResult hExplains

/-- With a lookback of zero `momentum_v1` signals whatever the closes are. -/
theorem evaluateMomentum_of_lookback_zero (hLookback : context.config.lookbackCandles = 0)
    (earlier : List Candle) (latest : Candle) :
    evaluateMomentum .momentumV1 context (earlier ++ [latest]) =
      .ok (.generated latest .momentumHigherCloses (65 / 100)) := by
  have hRecent : (earlier ++ [latest]).drop ((earlier ++ [latest]).length - (0 + 1)) = [latest] := by
    simp
  simp only [evaluateMomentum, hLookback, hRecent]
  rw [if_neg (by simp)]
  rfl

theorem diagnoseMomentum_of_lookback_zero (hId : context.config.strategyId = .momentumV1)
    (hLookback : context.config.lookbackCandles = 0) {earlier : List Candle}
    {previous latest : Candle} {checks : Checks} :
    diagnoseMomentum context (earlier ++ [previous, latest]) checks = .ok (conclude
      (requireCheck "momentum_higher_closes" (latest.close > previous.close)
          .momentumNotStrictlyHigherCloses ++
        requireCheck "confidence_floor" (confidencePassed context.config (65 / 100))
          .confidenceBelowFloor)
      (wouldSignalOutcome (some latest.openTime) (65 / 100)) checks) := by
  have hCount : requiredCandleCount context.config = 2 := by
    simp only [requiredCandleCount, hId, hLookback]
    rfl
  have hRecent : (earlier ++ [previous, latest]).rtake 2 = [previous, latest] := by
    simp [rtake]
  simp only [diagnoseMomentum, hCount, readLast_of_le (show 2 ≤ (earlier ++ [previous, latest]).length by
    simp), hRecent, ok_bind]
  simp [pure, Except.pure]

/-- `momentum_v1` with a lookback of zero, where the latest close is not above
the one before and the confidence floor lets the signal through. -/
def SignalsWithoutRise (context : StrategyEvaluationContext) : Prop :=
  context.config.strategyId = .momentumV1 ∧ context.config.lookbackCandles = 0 ∧
    confidencePassed context.config (65 / 100) ∧
    ∃ earlier previous latest,
      normalizeClosedCandles context.candles = earlier ++ [previous, latest] ∧
      latest.close ≤ previous.close

theorem exists_latest_two {candles : List Candle} (hLength : 2 ≤ candles.length) :
    ∃ earlier previous latest, candles = earlier ++ [previous, latest] := by
  rcases eq_nil_or_concat candles with rfl | ⟨before, latest, rfl⟩
  · cases hLength
  · rcases eq_nil_or_concat before with rfl | ⟨earlier, previous, rfl⟩
    · simp at hLength
    · exact ⟨earlier, previous, latest, by simp⟩

/-- On an enabled strategy with enough closed candles, the latest of them
fresh, the diagnosis reports the decision that is made, with one exception. -/
theorem diagnose_agrees_iff (hEvaluate : evaluate strategyRules signalId context = .ok result)
    (hDiagnose : diagnose context = .ok report) (hEnabled : context.config.enabled = true)
    (hCovered : requiredCandleCount context.config ≤ (context.candles.filter (·.isClosed)).length)
    (hFresh : ∀ latest, (normalizeClosedCandles context.candles).getLast? = some latest →
      numMilliseconds (context.evaluatedAt - latest.closeTime) ≤ context.config.maxSignalAgeMs) :
    Agrees result report ↔ ¬SignalsWithoutRise context := by
  have hLength : requiredCandleCount context.config ≤
      (normalizeClosedCandles context.candles).length :=
    hCovered.trans_eq (SortByKey.perm_sort _ _).length_eq.symm
  have hStale : (dataHealth context (normalizeClosedCandles context.candles)).stale = false := by
    cases hLatest : (normalizeClosedCandles context.candles).getLast? with
    | none => simp [dataHealth, hLatest]
    | some latest => simpa [dataHealth, hLatest] using hFresh latest hLatest
  obtain ⟨hId, decision, hDecision, hResult⟩ := exists_decision hEvaluate hEnabled
  obtain ⟨checks, diagnosis, hDiagnosis, hFinal, hSource, hConfidence⟩ :=
    exists_diagnosis hDiagnose hEnabled hLength hStale
  rw [← hId] at hDecision hDiagnosis
  by_cases hZero : context.config.strategyId = .momentumV1 ∧ context.config.lookbackCandles = 0
  · obtain ⟨hMomentum, hLookback⟩ := hZero
    have hTwo : 2 ≤ (normalizeClosedCandles context.candles).length := by
      refine le_trans ?_ hLength
      simp only [requiredCandleCount, hMomentum]
      omega
    obtain ⟨earlier, previous, latest, hCandles⟩ := exists_latest_two hTwo
    have hDecided := evaluateMomentum_of_lookback_zero hLookback (earlier ++ [previous]) latest
    rw [append_assoc, singleton_append] at hDecided
    rw [hMomentum, hCandles] at hDecision hDiagnosis
    cases hDecided.symm.trans hDecision
    cases (diagnoseMomentum_of_lookback_zero hMomentum hLookback).symm.trans hDiagnosis
    by_cases hRise : latest.close > previous.close
    · refine iff_of_true (agrees_of_explains hResult (explains_generated rfl ?_) hFinal hSource
        hConfidence) ?_
      · simp [hRise]
      · rintro ⟨-, -, -, otherEarlier, otherPrevious, otherLatest, hOther, hFall⟩
        rw [hCandles] at hOther
        have hSame := append_inj_right' hOther rfl
        cases hSame
        exact absurd hRise (not_lt.mpr hFall)
    · have hSilent : report.finalDecision ≠ .wouldSignal := by
        rw [hFinal]
        apply conclude_of_not_allPassed
        simp [hRise]
      by_cases hPassed : confidencePassed context.config (65 / 100)
      · simp only [ResultOf, if_pos hPassed] at hResult
        refine iff_of_false (fun hAgrees => hSilent (hAgrees.1.mpr hResult.1)) (not_not.mpr ?_)
        exact ⟨hMomentum, hLookback, hPassed, earlier, previous, latest, hCandles, not_lt.mp hRise⟩
      · refine iff_of_true (agrees_of_explains hResult ?_ hFinal hSource hConfidence)
          (fun hSignals => hPassed hSignals.2.2.1)
        rw [Explains, if_neg hPassed, ← hFinal]
        exact hSilent
  · obtain ⟨reported, hReported, hExplains⟩ := diagnoseStrategy_explains
      (fun hMomentum => Nat.one_le_iff_ne_zero.mpr fun hLookback => hZero ⟨hMomentum, hLookback⟩)
      hLength hDecision
    cases hReported.symm.trans hDiagnosis
    exact iff_of_true (agrees_of_explains hResult hExplains hFinal hSource hConfidence)
      (fun hSignals => hZero ⟨hSignals.1, hSignals.2.1⟩)

end Results

section Sample

theorem diagnose_agrees_sample : ∃ result report,
    evaluate strategyRules ⟨2⟩ (sampleMomentumContext 2 [100, 101, 102]) = .ok result ∧
    diagnose (sampleMomentumContext 2 [100, 101, 102]) = .ok report ∧ Agrees result report := by
  obtain ⟨result, hEvaluate⟩ : ∃ result,
      evaluate strategyRules ⟨2⟩ (sampleMomentumContext 2 [100, 101, 102]) = .ok result :=
    ⟨_, by with_unfolding_all rfl⟩
  obtain ⟨report, hDiagnose⟩ : ∃ report,
      diagnose (sampleMomentumContext 2 [100, 101, 102]) = .ok report :=
    ⟨_, by with_unfolding_all rfl⟩
  refine ⟨result, report, hEvaluate, hDiagnose, ?_⟩
  apply (diagnose_agrees_iff hEvaluate hDiagnose rfl (by decide) ?_).mpr
  · intro hSignals
    exact absurd hSignals.2.1 (by decide)
  · intro latest hLatest
    cases hLatest
    decide

/-- With a lookback of zero and falling closes the strategy signals, and the
diagnosis says it would not. -/
theorem diagnose_contradicts_evaluate :
    ¬∀ signalId context result report, evaluate strategyRules signalId context = .ok result →
      diagnose context = .ok report → context.config.enabled = true →
      requiredCandleCount context.config ≤ (context.candles.filter (·.isClosed)).length →
      (∀ latest, (normalizeClosedCandles context.candles).getLast? = some latest →
        numMilliseconds (context.evaluatedAt - latest.closeTime) ≤ context.config.maxSignalAgeMs) →
      Agrees result report := by
  intro hAgrees
  have hFresh : ∀ latest, (normalizeClosedCandles
      (sampleMomentumContext 0 [102, 101, 100]).candles).getLast? = some latest →
      numMilliseconds (DateTime.seconds 180 - latest.closeTime) ≤ 120000 := by
    intro latest hLatest
    cases hLatest
    decide
  have hSame := hAgrees ⟨2⟩ (sampleMomentumContext 0 [102, 101, 100]) _ _ (by with_unfolding_all rfl)
    (by with_unfolding_all rfl) rfl (by decide) hFresh
  exact absurd (hSame.1.mpr rfl) (by decide)

end Sample

end AegisQuant.Strategy
