import AegisQuant.Strategy.Evaluate

/-! From the decision of a strategy to the result of its evaluation. A signal
is generated when the strategy finds one and its confidence reaches the
configured floor. -/
namespace AegisQuant.Strategy
open Fallible

def confidencePassed (config : StrategyConfig) (confidence : Decimal) : Prop :=
  config.confidenceFloor.all (confidence ≥ ·)

instance (config : StrategyConfig) (confidence : Decimal) :
    Decidable (confidencePassed config confidence) :=
  inferInstanceAs (Decidable (config.confidenceFloor.all (confidence ≥ ·) = true))

section Results
variable {signalId : Uuid} {context : StrategyEvaluationContext} {result : StrategyEvaluationResult}

theorem confidencePassed_iff (config : StrategyConfig) (confidence : Decimal) :
    confidencePassed config confidence ↔ ¬config.confidenceFloor.any (confidence < ·) := by
  unfold confidencePassed
  cases config.confidenceFloor with
  | none => simp
  | some floor => simp

/-- The result of a decision, from which its signal can be read off. -/
def ResultOf (config : StrategyConfig) (decision : StrategyOutcome)
    (result : StrategyEvaluationResult) : Prop :=
  match decision with
  | .noSignal _ => result.generated = false
  | .generated source _ confidence =>
    if confidencePassed config confidence then
      result.generated = true ∧ ∃ signal, result.signal = some signal ∧
        signal.sourceCandleOpenTime = source.openTime ∧ signal.confidence.value = confidence
    else result.generated = false

theorem value_of_confidence {value : Decimal} {confidence : SignalConfidence}
    (hNew : SignalConfidence.new value = .ok confidence) : confidence.value = value := by
  unfold SignalConfidence.new at hNew
  split at hNew
  · cases hNew
  · rw [← Except.ok.inj hNew]

theorem resultOf_generatedResult {source : Candle} {reason : SignalReason} {confidence : Decimal}
    (hResult : generatedResult signalId context source reason confidence = .ok result) :
    ResultOf context.config (.generated source reason confidence) result := by
  simp only [generatedResult] at hResult
  split at hResult
  · rename_i hBelow
    cases hResult
    rw [ResultOf, if_neg (fun hPassed => (confidencePassed_iff ..).mp hPassed hBelow)]
    rfl
  · rename_i hAbove
    obtain ⟨checked, hChecked, hResult⟩ := bind_eq_ok.mp hResult
    cases hResult
    rw [ResultOf, if_pos ((confidencePassed_iff ..).mpr hAbove)]
    exact ⟨rfl, _, rfl, rfl, value_of_confidence (mapError_eq_ok.mp hChecked)⟩

/-- An evaluation of an enabled strategy has decided. -/
theorem exists_decision (hEvaluate : evaluate strategyRules signalId context = .ok result)
    (hEnabled : context.config.enabled = true) :
    context.config.strategyId = context.strategyId ∧
    ∃ decision, strategyRules context.strategyId context (normalizeClosedCandles context.candles) =
      .ok decision ∧ ResultOf context.config decision result := by
  obtain ⟨_, -, hEvaluate⟩ := bind_eq_ok.mp hEvaluate
  split at hEvaluate
  · cases hEvaluate
  · rename_i hId
    simp only [hEnabled, Bool.true_eq_false, if_false] at hEvaluate
    obtain ⟨decision, hDecision, hResult⟩ := bind_eq_ok.mp hEvaluate
    refine ⟨not_ne_iff.mp hId, decision, hDecision, ?_⟩
    cases decision with
    | noSignal reason =>
      cases hResult
      rfl
    | generated source reason confidence => exact resultOf_generatedResult hResult

end Results

end AegisQuant.Strategy
