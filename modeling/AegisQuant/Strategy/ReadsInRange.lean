import AegisQuant.Strategy.AcceptedConfigs
import AegisQuant.Strategy.Evaluate

/-! The strategies read within the candles they have. A window that reaches
behind the first candle would be a panic, and only a lookback of zero lets that
happen. -/
namespace AegisQuant.Strategy
open Fallible List

/-- The windows that must not be empty have a candle. -/
def WindowsNonempty (config : StrategyConfig) : Prop :=
  match config.strategyId with
  | .volatilityBreakoutV1 | .rangeReversionV1 => 1 ≤ config.lookbackCandles
  | .volatilityBreakoutV2 => 1 ≤ breakoutLookback config
  | _ => True

section Reads
variable {context : StrategyEvaluationContext} {candles : List Candle}

variable {window : List Candle}

theorem exists_highest_dropLast (hLength : 2 ≤ window.length) :
    ∃ level, highest window.dropLast = some level := by
  have hPrevious : window.dropLast.map (·.high) ≠ [] := by
    rw [Ne, map_eq_nil_iff, ← length_eq_zero_iff, length_dropLast]
    omega
  exact Option.isSome_iff_exists.mp (isSome_max?_of_ne_nil hPrevious)

theorem exists_calculateCompressionBreakoutMetrics (config : StrategyConfig)
    (hLength : 0 < window.length) :
    ∃ metrics, calculateCompressionBreakoutMetrics config window = .ok metrics := by
  obtain ⟨latest, hLatest⟩ := exists_readBehind hLength
  simp only [calculateCompressionBreakoutMetrics, hLatest]
  exact ⟨_, rfl⟩

theorem exists_calculateFailedBreakdownReclaimMetrics {config : StrategyConfig}
    (hLength : config.lookbackCandles < window.length) :
    ∃ metrics, calculateFailedBreakdownReclaimMetrics config window = .ok metrics := by
  obtain ⟨latest, hLatest⟩ := exists_readBehind (Nat.zero_lt_of_lt hLength)
  simp only [calculateFailedBreakdownReclaimMetrics, hLatest, readBeforeLast_of_lt hLength]
  exact ⟨_, rfl⟩

theorem exists_calculateTrendPullbackMetrics {config : StrategyConfig} (hTwo : 2 ≤ window.length)
    (hTrend : trendLookback config < window.length)
    (hPullback : pullbackLookback config ≤ window.length)
    (hSma : pullbackSmaLookback config ≤ window.length) :
    ∃ metrics, calculateTrendPullbackMetrics config window = .ok metrics := by
  obtain ⟨latest, hLatest⟩ := exists_readBehind (show 0 < window.length by omega)
  obtain ⟨previous, hPrevious⟩ := exists_readBehind (show 1 < window.length by omega)
  obtain ⟨reference, hReference⟩ := exists_readBehind hTrend
  simp only [calculateTrendPullbackMetrics, hLatest, hPrevious, hReference, readLast_of_le hPullback,
    readLast_of_le hSma]
  exact ⟨_, rfl⟩

def OutcomeOf (strategyId : StrategyId) : StrategyOutcome → Prop
  | .noSignal _ => True
  | .generated _ _ confidence => confidence = maxStrategyConfidence strategyId

theorem exists_outcome_ite {strategyId : StrategyId} {failed : Prop} [Decidable failed]
    {reason generatedReason : SignalReason} {latest : Candle} {confidence : Decimal}
    (hConfidence : confidence = maxStrategyConfidence strategyId) :
    ∃ outcome, (if failed then (pure (.noSignal reason) : Except Fault StrategyOutcome)
        else pure (.generated latest generatedReason confidence)) = .ok outcome ∧
      OutcomeOf strategyId outcome := by
  split
  · exact ⟨_, rfl, trivial⟩
  · exact ⟨_, rfl, hConfidence⟩

theorem evaluateMomentum_ok : ∃ outcome,
    evaluateMomentum .momentumV1 context candles = .ok outcome ∧ OutcomeOf .momentumV1 outcome := by
  simp only [evaluateMomentum]
  split
  · exact ⟨_, rfl, trivial⟩
  · split
    · rename_i hLength _
      cases hLatest : (candles.drop
          (candles.length - (context.config.lookbackCandles + 1))).getLast? with
      | none =>
        rw [getLast?_eq_none_iff, drop_eq_nil_iff] at hLatest
        omega
      | some latest => exact ⟨_, rfl, rfl⟩
    · exact ⟨_, rfl, trivial⟩

theorem exists_recent {count : Nat} (hShort : ¬candles.length < count) :
    ∃ recent, readLast count candles = .ok recent ∧ recent.length = count :=
  ⟨_, readLast_of_le (not_lt.mp hShort),
    (Window.length_rtake ..).trans (Nat.min_eq_left (not_lt.mp hShort))⟩

theorem exists_breakoutReads {count : Nat} (hShort : ¬candles.length < count) (hTwo : 2 ≤ count) :
    ∃ recent latest level, readLast count candles = .ok recent ∧
      readBehind 0 recent = .ok latest ∧ highest recent.dropLast = some level := by
  obtain ⟨recent, hRead, hRecent⟩ := exists_recent hShort
  obtain ⟨latest, hLatest⟩ := exists_readBehind (show 0 < recent.length by omega)
  obtain ⟨level, hLevel⟩ := exists_highest_dropLast (show 2 ≤ recent.length by omega)
  exact ⟨recent, latest, level, hRead, hLatest, hLevel⟩

theorem evaluateBreakout_ok (hLookback : 1 ≤ context.config.lookbackCandles) : ∃ outcome,
    evaluateBreakout context candles = .ok outcome ∧ OutcomeOf .volatilityBreakoutV1 outcome := by
  simp only [evaluateBreakout]
  split
  · exact ⟨_, rfl, trivial⟩
  · rename_i hShort
    obtain ⟨recent, latest, level, hRead, hLatest, hLevel⟩ := exists_breakoutReads hShort (by omega)
    simp only [hRead, ok_bind, hLatest, hLevel, ofOption]
    exact exists_outcome_ite rfl

theorem evaluateVolumeBreakout_ok (hLookback : 1 ≤ breakoutLookback context.config) : ∃ outcome,
    evaluateVolumeBreakout context candles = .ok outcome ∧
      OutcomeOf .volatilityBreakoutV2 outcome := by
  simp only [evaluateVolumeBreakout]
  split
  · exact ⟨_, rfl, trivial⟩
  · rename_i hShort
    obtain ⟨recent, latest, level, hRead, hLatest, hLevel⟩ := exists_breakoutReads hShort (by omega)
    simp only [hRead, ok_bind, hLatest, hLevel, ofOption]
    exact exists_outcome_ite rfl

theorem exists_trendFilterReads (hId : context.config.strategyId = .trendFilterMomentumV1 ∨
      context.config.strategyId = .trendFilterMomentumV2)
    (hLength : requiredCandleCount context.config ≤ candles.length) :
    ∃ latest previous reference, readBehind 0 candles = .ok latest ∧
      readBehind 1 candles = .ok previous ∧
      readBeforeLast (trendLookback context.config) candles =
        .ok (candles.dropLast.rtake (trendLookback context.config)) ∧
      readBehind (momentumLookback context.config) candles = .ok reference := by
  have hCount : max (max (trendLookback context.config + 1) (momentumLookback context.config + 1)) 2 ≤
      candles.length := by
    rcases hId with hId | hId
    · simpa only [requiredCandleCount, hId] using hLength
    · simpa only [requiredCandleCount, hId] using hLength
  obtain ⟨latest, hLatest⟩ := exists_readBehind (show 0 < candles.length by omega)
  obtain ⟨previous, hPrevious⟩ := exists_readBehind (show 1 < candles.length by omega)
  obtain ⟨reference, hReference⟩ :=
    exists_readBehind (show momentumLookback context.config < candles.length by omega)
  exact ⟨latest, previous, reference, hLatest, hPrevious, readBeforeLast_of_lt (by omega), hReference⟩

theorem evaluateTrendFilterMomentum_ok (hId : context.config.strategyId = .trendFilterMomentumV1) :
    ∃ outcome, evaluateTrendFilterMomentum context candles = .ok outcome ∧
      OutcomeOf .trendFilterMomentumV1 outcome := by
  simp only [evaluateTrendFilterMomentum]
  split
  · exact ⟨_, rfl, trivial⟩
  · rename_i hShort
    obtain ⟨latest, previous, reference, hLatest, hPrevious, hTrend, hReference⟩ :=
      exists_trendFilterReads (.inl hId) (not_lt.mp hShort)
    simp only [hLatest, hPrevious, hTrend, hReference, ok_bind]
    exact exists_outcome_ite rfl

theorem evaluateTrendFilterMomentumV2_ok (hId : context.config.strategyId = .trendFilterMomentumV2) :
    ∃ outcome, evaluateTrendFilterMomentumV2 context candles = .ok outcome ∧
      OutcomeOf .trendFilterMomentumV2 outcome := by
  simp only [evaluateTrendFilterMomentumV2]
  split
  · exact ⟨_, rfl, trivial⟩
  · split
    · exact ⟨_, rfl, trivial⟩
    · rename_i hShort
      obtain ⟨latest, previous, reference, hLatest, -, hTrend, hReference⟩ :=
        exists_trendFilterReads (.inr hId) (not_lt.mp hShort)
      simp only [hLatest, hTrend, hReference, ok_bind]
      exact exists_outcome_ite rfl

theorem evaluateVolatilityCompressionBreakout_ok
    (hId : context.config.strategyId = .volatilityCompressionBreakoutV1) : ∃ outcome,
    evaluateVolatilityCompressionBreakout context candles = .ok outcome ∧
      OutcomeOf .volatilityCompressionBreakoutV1 outcome := by
  simp only [evaluateVolatilityCompressionBreakout]
  split
  · exact ⟨_, rfl, trivial⟩
  · split
    · exact ⟨_, rfl, trivial⟩
    · rename_i hShort
      have hCount := requiredCandleCount.eq_def context.config
      simp only [hId] at hCount
      obtain ⟨recent, hRead, hRecent⟩ := exists_recent hShort
      obtain ⟨latest, hLatest⟩ := exists_readBehind (show 0 < recent.length by omega)
      obtain ⟨metrics, hMetrics⟩ := exists_calculateCompressionBreakoutMetrics context.config
        (show 0 < recent.length by omega)
      simp only [hRead, ok_bind, hLatest, hMetrics]
      exact exists_outcome_ite rfl

theorem evaluateRangeReversion_ok (hLookback : 1 ≤ context.config.lookbackCandles) : ∃ outcome,
    evaluateRangeReversion context candles = .ok outcome ∧ OutcomeOf .rangeReversionV1 outcome := by
  simp only [evaluateRangeReversion]
  split
  · exact ⟨_, rfl, trivial⟩
  · rename_i hShort
    obtain ⟨recent, hRead, hRecent⟩ := exists_recent hShort
    obtain ⟨latest, hLatest⟩ := exists_readBehind (show 0 < recent.length by omega)
    obtain ⟨previous, hPrevious⟩ := exists_readBehind (show 1 < recent.length by omega)
    have hRange := readLast_of_le (show context.config.lookbackCandles ≤ recent.length by omega)
    simp only [hRead, ok_bind, hLatest, hPrevious, hRange]
    split
    · exact ⟨_, rfl, trivial⟩
    · split
      · exact ⟨_, rfl, trivial⟩
      · split
        · exact ⟨_, rfl, trivial⟩
        · exact exists_outcome_ite rfl

theorem evaluateTrendPullbackContinuation_ok
    (hId : context.config.strategyId = .trendPullbackContinuationV1) : ∃ outcome,
    evaluateTrendPullbackContinuation context candles = .ok outcome ∧
      OutcomeOf .trendPullbackContinuationV1 outcome := by
  simp only [evaluateTrendPullbackContinuation]
  split
  · exact ⟨_, rfl, trivial⟩
  · split
    · exact ⟨_, rfl, trivial⟩
    · rename_i hShort
      have hCount := requiredCandleCount.eq_def context.config
      simp only [hId] at hCount
      obtain ⟨recent, hRead, hRecent⟩ := exists_recent hShort
      obtain ⟨latest, hLatest⟩ := exists_readBehind (show 0 < recent.length by omega)
      obtain ⟨metrics, hMetrics⟩ := exists_calculateTrendPullbackMetrics
        (show 2 ≤ recent.length by omega)
        (show trendLookback context.config < recent.length by omega)
        (show pullbackLookback context.config ≤ recent.length by omega)
        (show pullbackSmaLookback context.config ≤ recent.length by omega)
      simp only [hRead, ok_bind, hLatest, hMetrics]
      exact exists_outcome_ite rfl

theorem evaluateFailedBreakdownReclaim_ok
    (hId : context.config.strategyId = .failedBreakdownReclaimV1) : ∃ outcome,
    evaluateFailedBreakdownReclaim context candles = .ok outcome ∧
      OutcomeOf .failedBreakdownReclaimV1 outcome := by
  simp only [evaluateFailedBreakdownReclaim]
  split
  · exact ⟨_, rfl, trivial⟩
  · split
    · exact ⟨_, rfl, trivial⟩
    · rename_i hShort
      have hCount := requiredCandleCount.eq_def context.config
      simp only [hId] at hCount
      obtain ⟨recent, hRead, hRecent⟩ := exists_recent hShort
      obtain ⟨latest, hLatest⟩ := exists_readBehind (show 0 < recent.length by omega)
      obtain ⟨metrics, hMetrics⟩ := exists_calculateFailedBreakdownReclaimMetrics
        (show context.config.lookbackCandles < recent.length by omega)
      simp only [hRead, ok_bind, hLatest, hMetrics]
      exact exists_outcome_ite rfl

theorem strategyRules_ok (hWindows : WindowsNonempty context.config) (candles : List Candle) :
    ∃ outcome, strategyRules context.config.strategyId context candles = .ok outcome ∧
      OutcomeOf context.config.strategyId outcome := by
  unfold WindowsNonempty at hWindows
  cases hId : context.config.strategyId with
  | momentumV1 => exact evaluateMomentum_ok
  | volatilityBreakoutV1 => exact evaluateBreakout_ok (by simpa only [hId] using hWindows)
  | trendFilterMomentumV1 => exact evaluateTrendFilterMomentum_ok hId
  | trendFilterMomentumV2 => exact evaluateTrendFilterMomentumV2_ok hId
  | volatilityBreakoutV2 => exact evaluateVolumeBreakout_ok (by simpa only [hId] using hWindows)
  | volatilityCompressionBreakoutV1 => exact evaluateVolatilityCompressionBreakout_ok hId
  | rangeReversionV1 => exact evaluateRangeReversion_ok (by simpa only [hId] using hWindows)
  | trendPullbackContinuationV1 => exact evaluateTrendPullbackContinuation_ok hId
  | failedBreakdownReclaimV1 => exact evaluateFailedBreakdownReclaim_ok hId

end Reads

end AegisQuant.Strategy
