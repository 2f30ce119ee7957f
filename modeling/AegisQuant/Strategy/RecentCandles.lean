import AegisQuant.Library.SortByKey
import AegisQuant.Strategy.ReadsInRange

/-! A strategy decides by the most recent closed candles, of which it reads no
more than its required number. So a pipeline that loads that many candles and
a replay that passes everything up to the current candle decide alike. -/
namespace AegisQuant.Strategy
open Fallible SortByKey List

section Windows
variable {context : StrategyEvaluationContext} {candles : List Candle} {within : Nat}

theorem length_rtake_lt_iff {required : Nat} (hRequired : required ≤ within) :
    (candles.rtake within).length < required ↔ candles.length < required := by
  rw [Window.length_rtake]
  omega

theorem evaluateMomentum_rtake (strategyId : StrategyId)
    (hWithin : context.config.lookbackCandles + 1 ≤ within) :
    evaluateMomentum strategyId context (candles.rtake within) =
      evaluateMomentum strategyId context candles := by
  have hRecent : (candles.rtake within).drop
      ((candles.rtake within).length - (context.config.lookbackCandles + 1)) =
      candles.drop (candles.length - (context.config.lookbackCandles + 1)) :=
    Window.rtake_rtake hWithin candles
  simp only [evaluateMomentum, length_rtake_lt_iff hWithin, hRecent]

theorem evaluateBreakout_rtake (hWithin : context.config.lookbackCandles + 1 ≤ within) :
    evaluateBreakout context (candles.rtake within) = evaluateBreakout context candles := by
  simp only [evaluateBreakout, length_rtake_lt_iff hWithin, readLast_rtake hWithin]

section
variable (hWithin : requiredCandleCount context.config ≤ within) (hTwo : 2 ≤ within)
  (hTrend : trendLookback context.config < within)
  (hMomentum : momentumLookback context.config < within)
include hWithin hTwo hTrend hMomentum

theorem evaluateTrendFilterMomentum_rtake :
    evaluateTrendFilterMomentum context (candles.rtake within) =
      evaluateTrendFilterMomentum context candles := by
  simp only [evaluateTrendFilterMomentum, length_rtake_lt_iff hWithin,
    readBehind_rtake (show 0 < within by omega), readBehind_rtake (show 1 < within by omega),
    readBeforeLast_rtake hTrend, readBehind_rtake hMomentum]

theorem evaluateTrendFilterMomentumV2_rtake :
    evaluateTrendFilterMomentumV2 context (candles.rtake within) =
      evaluateTrendFilterMomentumV2 context candles := by
  simp only [evaluateTrendFilterMomentumV2, length_rtake_lt_iff hWithin,
    readBehind_rtake (show 0 < within by omega), readBeforeLast_rtake hTrend,
    readBehind_rtake hMomentum]

end

theorem evaluateVolumeBreakout_rtake (hWithin : breakoutLookback context.config + 1 ≤ within) :
    evaluateVolumeBreakout context (candles.rtake within) = evaluateVolumeBreakout context candles := by
  simp only [evaluateVolumeBreakout, length_rtake_lt_iff hWithin, readLast_rtake hWithin]

theorem evaluateVolatilityCompressionBreakout_rtake
    (hWithin : requiredCandleCount context.config ≤ within) :
    evaluateVolatilityCompressionBreakout context (candles.rtake within) =
      evaluateVolatilityCompressionBreakout context candles := by
  simp only [evaluateVolatilityCompressionBreakout, length_rtake_lt_iff hWithin,
    readLast_rtake hWithin]

theorem evaluateRangeReversion_rtake (hWithin : context.config.lookbackCandles + 1 ≤ within) :
    evaluateRangeReversion context (candles.rtake within) = evaluateRangeReversion context candles := by
  simp only [evaluateRangeReversion, length_rtake_lt_iff hWithin, readLast_rtake hWithin]

theorem evaluateTrendPullbackContinuation_rtake
    (hWithin : requiredCandleCount context.config ≤ within) :
    evaluateTrendPullbackContinuation context (candles.rtake within) =
      evaluateTrendPullbackContinuation context candles := by
  simp only [evaluateTrendPullbackContinuation, length_rtake_lt_iff hWithin, readLast_rtake hWithin]

theorem evaluateFailedBreakdownReclaim_rtake
    (hWithin : requiredCandleCount context.config ≤ within) :
    evaluateFailedBreakdownReclaim context (candles.rtake within) =
      evaluateFailedBreakdownReclaim context candles := by
  simp only [evaluateFailedBreakdownReclaim, length_rtake_lt_iff hWithin, readLast_rtake hWithin]

/-- No window of a strategy reaches further back than its required candle
count. -/
theorem strategyRules_rtake (context : StrategyEvaluationContext) (candles : List Candle) :
    strategyRules context.config.strategyId context
        (candles.rtake (requiredCandleCount context.config)) =
      strategyRules context.config.strategyId context candles := by
  have hCount := requiredCandleCount.eq_def context.config
  cases hId : context.config.strategyId with
  | momentumV1 =>
    simp only [hId] at hCount
    exact evaluateMomentum_rtake .momentumV1 (by omega)
  | volatilityBreakoutV1 =>
    simp only [hId] at hCount
    exact evaluateBreakout_rtake (by omega)
  | trendFilterMomentumV1 =>
    simp only [hId] at hCount
    exact evaluateTrendFilterMomentum_rtake le_rfl (by omega) (by omega) (by omega)
  | trendFilterMomentumV2 =>
    simp only [hId] at hCount
    exact evaluateTrendFilterMomentumV2_rtake le_rfl (by omega) (by omega) (by omega)
  | volatilityBreakoutV2 =>
    simp only [hId] at hCount
    exact evaluateVolumeBreakout_rtake (by omega)
  | volatilityCompressionBreakoutV1 => exact evaluateVolatilityCompressionBreakout_rtake le_rfl
  | rangeReversionV1 =>
    simp only [hId] at hCount
    exact evaluateRangeReversion_rtake (by omega)
  | trendPullbackContinuationV1 => exact evaluateTrendPullbackContinuation_rtake le_rfl
  | failedBreakdownReclaimV1 => exact evaluateFailedBreakdownReclaim_rtake le_rfl

end Windows

/-- What an evaluation decides, apart from the identifiers it draws. -/
structure StrategyDecision where
  generated : Bool
  reason : SignalReason
  signal : Option (SignalSide × SignalConfidence × DateTime)

def decisionOf (result : StrategyEvaluationResult) : StrategyDecision where
  generated := result.generated
  reason := result.reason
  signal := result.signal.map fun signal =>
    (signal.side, signal.confidence, signal.sourceCandleOpenTime)

def decisionOn (signalId : Uuid) (context : StrategyEvaluationContext) (candles : List Candle) :
    Except Fault StrategyDecision :=
  (evaluate strategyRules signalId { context with candles := candles }).map decisionOf

section Decisions
variable {signalId other : Uuid} {context : StrategyEvaluationContext} {first second : List Candle}

theorem strategyRules_with_candles (strategyId : StrategyId) (candles window : List Candle) :
    strategyRules strategyId { context with candles := candles } window =
      strategyRules strategyId context window := by
  cases strategyId <;> rfl

theorem decisionOf_generatedResult {live replay : StrategyEvaluationContext}
    (hConfig : live.config = replay.config) (source : Candle) (reason : SignalReason)
    (confidence : Decimal) :
    (generatedResult signalId live source reason confidence).map decisionOf =
      (generatedResult other replay source reason confidence).map decisionOf := by
  simp only [generatedResult, hConfig]
  split
  · rfl
  · cases (SignalConfidence.new confidence).mapError Fault.core with
    | error fault => rfl
    | ok checked => rfl

/-- Lists on which the strategy decides alike are evaluated alike. -/
theorem decisionOn_congr (hRules : strategyRules context.config.strategyId context
        (normalizeClosedCandles first) =
      strategyRules context.config.strategyId context (normalizeClosedCandles second)) :
    decisionOn signalId context first = decisionOn other context second := by
  simp only [decisionOn, evaluate, strategyRules_with_candles]
  cases context.config.validate.mapError Fault.core with
  | error fault => rfl
  | ok _ =>
    simp only [ok_bind]
    split
    · rfl
    · rename_i hId
      split
      · rfl
      · rw [← not_ne_iff.mp hId, hRules]
        cases strategyRules context.config.strategyId context (normalizeClosedCandles second) with
        | error fault => rfl
        | ok outcome =>
          cases outcome with
          | noSignal reason => rfl
          | generated source reason confidence =>
            exact decisionOf_generatedResult rfl source reason confidence

end Decisions

section Arrangements
variable {candles : List Candle}

section
variable (hDistinct : (candles.map (·.openTime)).Nodup)
include hDistinct

theorem distinct_closed : ((candles.filter (·.isClosed)).map (·.openTime)).Nodup :=
  hDistinct.sublist (filter_sublist.map _)

theorem distinct_normalizeClosedCandles :
    ((normalizeClosedCandles candles).map (·.openTime)).Nodup :=
  nodup_sort (distinct_closed hDistinct)

theorem normalizeClosedCandles_of_perm {other : List Candle}
    (hPerm : (other.filter (·.isClosed)).Perm (candles.filter (·.isClosed))) :
    normalizeClosedCandles other = normalizeClosedCandles candles :=
  sort_eq_of_perm hPerm (distinct_closed hDistinct)

end

theorem normalizeClosedCandles_of_sublist {part : List Candle}
    (hSublist : part.Sublist (normalizeClosedCandles candles)) :
    normalizeClosedCandles part = part := by
  have hSorted := pairwise_sort (·.openTime) (candles.filter (·.isClosed))
  have hClosed : part.filter (·.isClosed) = part := by
    rw [filter_eq_self]
    intro candle hMem
    have hNormal := (perm_sort ..).mem_iff.mp (hSublist.subset hMem)
    exact (mem_filter.mp hNormal).2
  calc normalizeClosedCandles part
      = sort (·.openTime) part := congrArg _ hClosed
    _ = part := sort_of_pairwise (hSorted.sublist hSublist)

theorem normalizeClosedCandles_recent (hDistinct : (candles.map (·.openTime)).Nodup) {count : Nat}
    {recent : List Candle}
    (hRecent : (recent.filter (·.isClosed)).Perm ((normalizeClosedCandles candles).rtake count)) :
    normalizeClosedCandles recent = (normalizeClosedCandles candles).rtake count := by
  have hSublist : ((normalizeClosedCandles candles).rtake count).Sublist
      (normalizeClosedCandles candles) := drop_sublist ..
  have hSorted := pairwise_sort (·.openTime) (candles.filter (·.isClosed))
  calc normalizeClosedCandles recent
      = sort (·.openTime) ((normalizeClosedCandles candles).rtake count) :=
        sort_eq_of_perm hRecent
          ((distinct_normalizeClosedCandles hDistinct).sublist (hSublist.map _))
    _ = (normalizeClosedCandles candles).rtake count :=
        sort_of_pairwise (hSorted.sublist hSublist)

end Arrangements

theorem windowsNonempty_of_passedChecks {strategyId : StrategyId}
    {request : StrategyConfigUpdateRequest} {validation : StrategyValidationContext}
    (hPassed : PassedChecks strategyId request validation) :
    WindowsNonempty (normalizedConfig strategyId request validation) := by
  have hLookback := lookback_of_passedChecks hPassed
  cases strategyId with
  | volatilityBreakoutV1 | rangeReversionV1 => exact Nat.one_le_of_lt hLookback
  | volatilityBreakoutV2 =>
    have hBreakout := lt_getD_of_not_any hPassed.breakoutLookback hLookback
    have hOther : StrategyId.volatilityBreakoutV2 ≠ .volatilityCompressionBreakoutV1 := by decide
    simp only [WindowsNonempty, breakoutLookback, normalizedConfig, orFor_of_ne hOther]
    omega
  | momentumV1 | trendFilterMomentumV1 | trendFilterMomentumV2 | volatilityCompressionBreakoutV1
  | trendPullbackContinuationV1 | failedBreakdownReclaimV1 => trivial

theorem maxStrategyConfidence_mem (strategyId : StrategyId) :
    0 ≤ maxStrategyConfidence strategyId ∧ maxStrategyConfidence strategyId ≤ 1 := by
  cases strategyId <;> decide +kernel

/-- A strategy that reads within its candles gives a result. -/
theorem exists_evaluate {signalId : Uuid} {context : StrategyEvaluationContext}
    (hValid : context.config.validate = .ok ()) (hId : context.strategyId = context.config.strategyId)
    (hWindows : WindowsNonempty context.config) :
    ∃ result, evaluate strategyRules signalId context = .ok result := by
  simp only [evaluate, hValid, Except.mapError, ok_bind, hId, ne_eq, not_true_eq_false, if_false]
  split
  · exact ⟨_, rfl⟩
  · obtain ⟨outcome, hOutcome, hConfidence⟩ :=
      strategyRules_ok hWindows (normalizeClosedCandles context.candles)
    rw [hOutcome, ok_bind]
    cases outcome with
    | noSignal reason => exact ⟨_, rfl⟩
    | generated source reason confidence =>
      obtain ⟨hNonneg, hLeOne⟩ := maxStrategyConfidence_mem context.config.strategyId
      have hUnit : ¬(confidence < 0 ∨ confidence > 1) := by
        rw [show confidence = _ from hConfidence, not_or, not_lt, gt_iff_lt, not_lt]
        exact ⟨hNonneg, hLeOne⟩
      simp only [generatedResult, SignalConfidence.new, dif_neg hUnit]
      split
      · exact ⟨_, rfl⟩
      · exact ⟨_, rfl⟩

/-- What is decided depends on the most recent closed candles only, as many as
the strategy requires: not on the order in which the candles come, not on
candles that are not closed, and not on what lies further back. No accepted
configuration reaches outside the candles. -/
theorem live_and_replay_decide_alike (signalId other : Uuid) (context : StrategyEvaluationContext)
    (hDistinct : (context.candles.map (·.openTime)).Nodup) :
    (∀ permuted : List Candle, permuted.Perm context.candles →
      decisionOn other context permuted = decisionOn signalId context context.candles) ∧
    (∀ added extended : List Candle, (∀ candle ∈ added, candle.isClosed = false) →
      extended.Perm (context.candles ++ added) →
      decisionOn other context extended = decisionOn signalId context context.candles) ∧
    (∀ recent : List Candle, (recent.filter (·.isClosed)).Perm
        ((normalizeClosedCandles context.candles).rtake (requiredCandleCount context.config)) →
      decisionOn other context recent = decisionOn signalId context context.candles) ∧
    (∀ request validation validatedAt,
      (validateStrategyConfig request validation validatedAt).normalizedConfig = some context.config →
      context.strategyId = context.config.strategyId →
      ∃ result, evaluate strategyRules signalId context = .ok result) := by
  refine ⟨?_, ?_, ?_, ?_⟩
  · intro permuted hPerm
    apply decisionOn_congr
    rw [normalizeClosedCandles_of_perm hDistinct (hPerm.filter _)]
  · intro added extended hAdded hPerm
    have hOpen : added.filter (·.isClosed) = [] :=
      filter_eq_nil_iff.mpr fun candle hMem => by simp [hAdded candle hMem]
    have hClosed := hPerm.filter (·.isClosed)
    rw [filter_append, hOpen, append_nil] at hClosed
    apply decisionOn_congr
    rw [normalizeClosedCandles_of_perm hDistinct hClosed]
  · intro recent hRecent
    apply decisionOn_congr
    rw [normalizeClosedCandles_recent hDistinct hRecent, strategyRules_rtake]
  · intro request validation validatedAt hConfig hId
    obtain ⟨strategyId, -, hIssues, hNormalized⟩ := normalizedConfig_eq_some.mp hConfig
    have hPassed := passedChecks_of_no_error hIssues
    exact exists_evaluate (hNormalized ▸ validate_of_passedChecks hPassed) hId
      (hNormalized ▸ windowsNonempty_of_passedChecks hPassed)

section Sample

def sampleCloses (closes : List Decimal) : List Candle :=
  closes.mapIdx fun index close => {
    symbol := Symbol.btcusdt
    interval := .oneMinute
    openTime := DateTime.seconds (60 * index)
    closeTime := DateTime.seconds (60 * index + 59)
    «open» := close
    high := close + 1
    low := close - 1
    close := close
    volume := 1
    quoteVolume := none
    tradeCount := 1
    isClosed := true }

def sampleMomentumContext (lookback : Nat) (closes : List Decimal) : StrategyEvaluationContext where
  correlationId := ⟨1⟩
  strategyId := .momentumV1
  symbol := Symbol.btcusdt
  config := {
    strategyId := .momentumV1
    enabled := true
    mode := .paper
    symbols := [Symbol.btcusdt]
    timeframe := .oneMinute
    suggestedNotional := 100
    maxSignalAgeMs := 120000
    cooldownSeconds := 0
    lookbackCandles := lookback }
  candles := sampleCloses closes
  evaluatedAt := DateTime.seconds 180

theorem live_and_replay_decide_alike_sample :
    decisionOn ⟨3⟩ (sampleMomentumContext 2 [100, 101, 102]) (sampleCloses [100, 101, 102]).reverse =
      decisionOn ⟨2⟩ (sampleMomentumContext 2 [100, 101, 102]) (sampleCloses [100, 101, 102]) :=
  (live_and_replay_decide_alike ⟨2⟩ ⟨3⟩ (sampleMomentumContext 2 [100, 101, 102]) (by decide)).1 _
    (reverse_perm _)

end Sample

end AegisQuant.Strategy
