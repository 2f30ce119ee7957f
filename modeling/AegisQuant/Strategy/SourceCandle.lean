import AegisQuant.Strategy.Evaluate

/-! A strategy signals on the latest of the candles it is given. -/
namespace AegisQuant.Strategy
open Fallible List

/-- Where a decision is a signal, it is made on the last candle. -/
def SignalsOnLatest (candles : List Candle) (decision : Except Fault StrategyOutcome) : Prop :=
  ∀ source reason confidence, decision = .ok (.generated source reason confidence) →
    candles.getLast? = some source

section Rules
variable {context : StrategyEvaluationContext} {candles recent : List Candle} {latest : Candle}

theorem signalsOnLatest_noSignal (reason : SignalReason) :
    SignalsOnLatest candles (pure (.noSignal reason)) := by
  intro source generatedReason confidence hSame
  cases hSame

theorem signalsOnLatest_generated (hLatest : candles.getLast? = some latest) (reason : SignalReason)
    (confidence : Decimal) : SignalsOnLatest candles (pure (.generated latest reason confidence)) := by
  intro source generatedReason otherConfidence hSame
  cases hSame
  exact hLatest

theorem signalsOnLatest_bind {α : Type} {read : Except Fault α}
    {decide : α → Except Fault StrategyOutcome}
    (hDecide : ∀ value, read = .ok value → SignalsOnLatest candles (decide value)) :
    SignalsOnLatest candles (read >>= decide) := by
  intro source reason confidence hSame
  obtain ⟨value, hRead, hOutcome⟩ := bind_eq_ok.mp hSame
  exact hDecide value hRead source reason confidence hOutcome

theorem signalsOnLatest_ite {failed : Prop} [Decidable failed]
    {refused decided : Except Fault StrategyOutcome} (hRefused : SignalsOnLatest candles refused)
    (hDecided : SignalsOnLatest candles decided) :
    SignalsOnLatest candles (if failed then refused else decided) := by
  split
  · exact hRefused
  · exact hDecided

theorem getLast?_of_readBehind (hLatest : readBehind 0 candles = .ok latest) :
    candles.getLast? = some latest := by
  rw [getLast?_eq_head?_reverse, head?_eq_getElem?]
  exact ofOption_eq_ok.mp hLatest

theorem getLast?_of_readLast {count : Nat} (hRecent : readLast count candles = .ok recent)
    (hLatest : readBehind 0 recent = .ok latest) : candles.getLast? = some latest := by
  have hLast := getLast?_of_readBehind hLatest
  have hWindow : Window.last? count candles = some recent := ofOption_eq_ok.mp hRecent
  unfold Window.last? at hWindow
  split at hWindow
  · cases hWindow
    rw [rtake, getLast?_drop] at hLast
    split at hLast
    · cases hLast
    · exact hLast
  · cases hWindow

theorem evaluateMomentum_latest (strategyId : StrategyId) :
    SignalsOnLatest candles (evaluateMomentum strategyId context candles) := by
  intro source reason confidence hSame
  simp only [evaluateMomentum] at hSame
  split at hSame
  · cases hSame
  split at hSame
  · split at hSame
    · cases hSame
    · rename_i latest hLatest
      cases hSame
      rw [getLast?_drop] at hLatest
      split at hLatest
      · cases hLatest
      · exact hLatest
  · cases hSame

theorem evaluateBreakout_latest : SignalsOnLatest candles (evaluateBreakout context candles) := by
  refine signalsOnLatest_ite (signalsOnLatest_noSignal _) ?_
  refine signalsOnLatest_bind fun recent hRecent => ?_
  refine signalsOnLatest_bind fun latest hLatest => ?_
  refine signalsOnLatest_bind fun level _ => ?_
  exact signalsOnLatest_ite (signalsOnLatest_noSignal _)
    (signalsOnLatest_generated (getLast?_of_readLast hRecent hLatest) _ _)

theorem evaluateTrendFilterMomentum_latest :
    SignalsOnLatest candles (evaluateTrendFilterMomentum context candles) := by
  refine signalsOnLatest_ite (signalsOnLatest_noSignal _) ?_
  refine signalsOnLatest_bind fun latest hLatest => ?_
  refine signalsOnLatest_bind fun previous _ => ?_
  refine signalsOnLatest_bind fun trendWindow _ => ?_
  refine signalsOnLatest_bind fun reference _ => ?_
  exact signalsOnLatest_ite (signalsOnLatest_noSignal _)
    (signalsOnLatest_generated (getLast?_of_readBehind hLatest) _ _)

theorem evaluateTrendFilterMomentumV2_latest :
    SignalsOnLatest candles (evaluateTrendFilterMomentumV2 context candles) := by
  refine signalsOnLatest_ite (signalsOnLatest_noSignal _) ?_
  refine signalsOnLatest_ite (signalsOnLatest_noSignal _) ?_
  refine signalsOnLatest_bind fun latest hLatest => ?_
  refine signalsOnLatest_bind fun trendWindow _ => ?_
  refine signalsOnLatest_bind fun reference _ => ?_
  exact signalsOnLatest_ite (signalsOnLatest_noSignal _)
    (signalsOnLatest_generated (getLast?_of_readBehind hLatest) _ _)

theorem evaluateVolumeBreakout_latest :
    SignalsOnLatest candles (evaluateVolumeBreakout context candles) := by
  refine signalsOnLatest_ite (signalsOnLatest_noSignal _) ?_
  refine signalsOnLatest_bind fun recent hRecent => ?_
  refine signalsOnLatest_bind fun latest hLatest => ?_
  refine signalsOnLatest_bind fun level _ => ?_
  exact signalsOnLatest_ite (signalsOnLatest_noSignal _)
    (signalsOnLatest_generated (getLast?_of_readLast hRecent hLatest) _ _)

theorem measured_latest {Metrics : Type} {problem : Prop} [Decidable problem]
    {count : Nat} {measure : List Candle → Except Fault Metrics} {fails : Candle → Metrics → Prop}
    [∀ latest metrics, Decidable (fails latest metrics)] (reason : SignalReason) (confidence : Decimal) :
    SignalsOnLatest candles (if problem then pure (.noSignal .conditionsNotMet)
      else if candles.length < count then pure (.noSignal .insufficientHistory)
      else do
        let recent ← readLast count candles
        let latest ← readBehind 0 recent
        let metrics ← measure recent
        if fails latest metrics then pure (.noSignal .conditionsNotMet)
        else pure (.generated latest reason confidence)) := by
  refine signalsOnLatest_ite (signalsOnLatest_noSignal _) ?_
  refine signalsOnLatest_ite (signalsOnLatest_noSignal _) ?_
  refine signalsOnLatest_bind fun recent hRecent => ?_
  refine signalsOnLatest_bind fun latest hLatest => ?_
  refine signalsOnLatest_bind fun metrics _ => ?_
  exact signalsOnLatest_ite (signalsOnLatest_noSignal _)
    (signalsOnLatest_generated (getLast?_of_readLast hRecent hLatest) _ _)

theorem evaluateVolatilityCompressionBreakout_latest :
    SignalsOnLatest candles (evaluateVolatilityCompressionBreakout context candles) :=
  measured_latest _ _

theorem evaluateTrendPullbackContinuation_latest :
    SignalsOnLatest candles (evaluateTrendPullbackContinuation context candles) :=
  measured_latest _ _

theorem evaluateFailedBreakdownReclaim_latest :
    SignalsOnLatest candles (evaluateFailedBreakdownReclaim context candles) :=
  measured_latest _ _

theorem evaluateRangeReversion_latest :
    SignalsOnLatest candles (evaluateRangeReversion context candles) := by
  refine signalsOnLatest_ite (signalsOnLatest_noSignal _) ?_
  refine signalsOnLatest_bind fun recent hRecent => ?_
  refine signalsOnLatest_bind fun latest hLatest => ?_
  refine signalsOnLatest_bind fun previous _ => ?_
  refine signalsOnLatest_bind fun rangeWindow _ => ?_
  refine signalsOnLatest_ite (signalsOnLatest_noSignal _) ?_
  refine signalsOnLatest_ite (signalsOnLatest_noSignal _) ?_
  refine signalsOnLatest_ite (signalsOnLatest_noSignal _) ?_
  exact signalsOnLatest_ite (signalsOnLatest_noSignal _)
    (signalsOnLatest_generated (getLast?_of_readLast hRecent hLatest) _ _)

theorem strategyRules_latest (strategyId : StrategyId) (context : StrategyEvaluationContext)
    (candles : List Candle) :
    SignalsOnLatest candles (strategyRules strategyId context candles) := by
  cases strategyId with
  | momentumV1 => exact evaluateMomentum_latest .momentumV1
  | volatilityBreakoutV1 => exact evaluateBreakout_latest
  | trendFilterMomentumV1 => exact evaluateTrendFilterMomentum_latest
  | trendFilterMomentumV2 => exact evaluateTrendFilterMomentumV2_latest
  | volatilityBreakoutV2 => exact evaluateVolumeBreakout_latest
  | volatilityCompressionBreakoutV1 => exact evaluateVolatilityCompressionBreakout_latest
  | rangeReversionV1 => exact evaluateRangeReversion_latest
  | trendPullbackContinuationV1 => exact evaluateTrendPullbackContinuation_latest
  | failedBreakdownReclaimV1 => exact evaluateFailedBreakdownReclaim_latest

end Rules

/-- A signal carries the open time of the latest closed candle. -/
theorem sourceCandle_of_evaluate {signalId : Uuid} {context : StrategyEvaluationContext}
    {result : StrategyEvaluationResult} {signal : StrategySignal}
    (hResult : evaluate strategyRules signalId context = .ok result)
    (hSignal : result.signal = some signal) :
    (normalizeClosedCandles context.candles).getLast?.map (·.openTime) =
      some signal.sourceCandleOpenTime := by
  obtain ⟨source, confidence, hOutcome, hTime⟩ := (generated_of_evaluate hResult hSignal).outcome
  rw [strategyRules_latest _ _ _ source _ confidence hOutcome, hTime]
  rfl

end AegisQuant.Strategy
