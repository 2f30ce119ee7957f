import AegisQuant.Strategy.Validation

/-! What a configuration has passed once the validator accepts it, and whether
the strategy then accepts it as well. The two rule sets fill in their own
defaults; they disagree on one of them. -/
namespace AegisQuant.Strategy
open List Option

section Errors

@[simp] theorem hasError_append (first second : List StrategyConfigValidationIssue) :
    hasError (first ++ second) = (hasError first || hasError second) := any_append

@[simp] theorem hasError_errorIf (failed : Prop) [Decidable failed] (code field message : String) :
    hasError (errorIf failed code field message) = decide failed := by
  unfold errorIf
  split <;> simp_all [hasError]

@[simp] theorem hasError_warnIf (noticed : Prop) [Decidable noticed] (code field message : String) :
    hasError (warnIf noticed code field message) = false := by
  unfold warnIf
  split <;> simp [hasError]

theorem hasError_flatMap {α : Type} (items : List α)
    (issues : α → List StrategyConfigValidationIssue) :
    hasError (items.flatMap issues) = items.any fun item => hasError (issues item) :=
  any_flatMap

end Errors

structure PassedChecks (strategyId : StrategyId) (request : StrategyConfigUpdateRequest)
    (context : StrategyValidationContext) : Prop where
  symbols : hasError (validateSymbols request context) = false
  notional : 0 < request.suggestedNotional
  signalAge : 1000 ≤ request.maxSignalAgeMs
  lookback : hasError (validateLookback strategyId request) = false
  momentumLookback : ¬request.momentumLookbackCandles.any (· ≤ 0)
  trendFilterV2 : strategyId = .trendFilterMomentumV2 →
    hasError (validateTrendFilterV2 request) = false
  breakoutLookback : ¬request.breakoutLookbackCandles.any (· ≤ 1)
  compressionLookback : ¬request.compressionLookbackCandles.any (· ≤ 1)
  trendPullback : strategyId = .trendPullbackContinuationV1 →
    hasError (validateTrendPullback (requestedTimeframe request) request) = false
  failedReclaim : strategyId = .failedBreakdownReclaimV1 →
    hasError (validateFailedReclaim (requestedTimeframe request) request) = false
  compressionBreakout : strategyId = .volatilityCompressionBreakoutV1 →
    hasError (validateCompressionBreakout (requestedTimeframe request) request) = false
  confidenceFloor : hasError (validateConfidenceFloor strategyId request context) = false

section Accepted
variable {strategyId : StrategyId} {request : StrategyConfigUpdateRequest}
  {context : StrategyValidationContext} {validatedAt : DateTime} {config : StrategyConfig}

theorem passedChecks_of_no_error (hIssues : hasError (configIssues strategyId request context) = false) :
    PassedChecks strategyId request context := by
  unfold configIssues at hIssues
  simp only [hasError_append, Bool.or_eq_false_iff] at hIssues
  have hFor {strategy : StrategyId} {issues : List StrategyConfigValidationIssue}
      (hNone : hasError (checkedFor strategyId strategy issues) = false)
      (hStrategy : strategyId = strategy) : hasError issues = false := by
    rw [checkedFor, if_pos hStrategy] at hNone
    exact hNone
  obtain ⟨⟨⟨⟨⟨⟨⟨⟨⟨⟨⟨⟨⟨⟨⟨⟨⟨⟨⟨⟨⟨⟨⟨-, hSymbols⟩, -⟩, hNotional⟩, hAge⟩, -⟩, hLookback⟩, -⟩, hMomentum⟩,
    hCompression⟩, hTrendV2⟩, hBreakout⟩, -⟩, -⟩, hPullback⟩, hReclaim⟩, hCompressionBreakout⟩, -⟩, -⟩,
    -⟩, -⟩, -⟩, hFloor⟩, -⟩ := hIssues
  constructor
  · exact hSymbols
  · simp only [validateNotional, hasError_append, hasError_errorIf, Bool.or_eq_false_iff,
      decide_eq_false_iff_not] at hNotional
    exact not_le.mp hNotional.1
  · simp only [validateSignalAge, hasError_append, hasError_errorIf, hasError_warnIf,
      Bool.or_eq_false_iff, decide_eq_false_iff_not] at hAge
    exact not_lt.mp hAge.1.1
  · exact hLookback
  · simpa [validateOptionalLookback] using hMomentum
  · exact hFor hTrendV2
  · simpa [validateOptionalLookback] using hBreakout
  · simpa [validateOptionalLookback] using hCompression
  · exact hFor hPullback
  · exact hFor hReclaim
  · exact hFor hCompressionBreakout
  · exact hFloor

theorem normalizedConfig_eq_some :
    (validateStrategyConfig request context validatedAt).normalizedConfig = some config ↔
      ∃ strategyId, StrategyId.fromStr request.strategyId = .ok strategyId ∧
        hasError (configIssues strategyId request context) = false ∧
        config = normalizedConfig strategyId request context := by
  unfold validateStrategyConfig
  cases hId : StrategyId.fromStr request.strategyId with
  | error fault =>
    constructor
    · intro hSome
      cases hSome
    · rintro ⟨strategyId, hOther, -⟩
      cases hOther
  | ok strategyId =>
    simp only [ite_none_left_eq_some, Bool.not_eq_true, some.injEq]
    constructor
    · rintro ⟨hIssues, rfl⟩
      exact ⟨strategyId, rfl, hIssues, rfl⟩
    · rintro ⟨other, hOther, hIssues, rfl⟩
      cases hOther
      exact ⟨hIssues, rfl⟩

theorem valid_of_normalizedConfig
    (hConfig : (validateStrategyConfig request context validatedAt).normalizedConfig = some config) :
    (validateStrategyConfig request context validatedAt).valid = true := by
  obtain ⟨strategyId, hId, hIssues, -⟩ := normalizedConfig_eq_some.mp hConfig
  simp only [validateStrategyConfig, hId, hIssues, Bool.not_false]

theorem validateSymbol_isSome {rawSymbol : String}
    (hIssues : hasError (validateSymbol context rawSymbol).1 = false) :
    (validateSymbol context rawSymbol).2.isSome := by
  simp only [validateSymbol] at hIssues ⊢
  split at hIssues
  · cases hIssues
  · rename_i hTrimmed
    rw [if_neg hTrimmed]
    split at hIssues
    · cases hIssues
    · rename_i hUpper
      rw [if_neg hUpper]
      cases hSymbol : Symbol.new (trim rawSymbol) with
      | ok symbol => rfl
      | error fault =>
        rw [hSymbol] at hIssues
        cases hIssues

theorem validSymbols_ne_nil (hIssues : hasError (validateSymbols request context) = false) :
    validSymbols request context ≠ [] := by
  unfold validateSymbols at hIssues
  split at hIssues
  · cases hIssues
  · rename_i hSymbols
    obtain ⟨rawSymbol, rest, hRaw⟩ := exists_cons_of_ne_nil hSymbols
    rw [hasError_flatMap, List.any_eq_false] at hIssues
    have hSome := validateSymbol_isSome (Bool.eq_false_iff.mpr (hIssues rawSymbol (by simp [hRaw])))
    obtain ⟨symbol, hSymbol⟩ := isSome_iff_exists.mp hSome
    exact ne_nil_of_mem (mem_filterMap.mpr ⟨rawSymbol, by simp [hRaw], hSymbol⟩)

theorem validate_of_passedChecks (hPassed : PassedChecks strategyId request context) :
    (normalizedConfig strategyId request context).validate = .ok () := by
  have hSymbols : (validSymbols request context).isEmpty = false :=
    isEmpty_eq_false_iff.mpr (validSymbols_ne_nil hPassed.symbols)
  have hAge := hPassed.signalAge
  simp only [StrategyConfig.validate, normalizedConfig, if_neg (not_le.mpr hPassed.notional),
    if_neg (not_le.mpr (show (0 : Int) < request.maxSignalAgeMs by omega)), hSymbols, if_false,
    Bool.false_eq_true]

theorem lookback_of_passedChecks (hPassed : PassedChecks strategyId request context) :
    2 ≤ request.lookbackCandles := by
  have hLookback := hPassed.lookback
  simp only [validateLookback, hasError_errorIf, decide_eq_false_iff_not] at hLookback
  have hLeast : 2 ≤ (lookbackRange strategyId).1 := by cases strategyId <;> decide
  omega

/-! The strategies' own checks under the defaults the validator has filled
in. -/

@[simp] theorem orFor_self {α : Type} (strategy : StrategyId) (value : Option α) (fallback : α) :
    orFor strategy value strategy fallback = some (value.getD fallback) := by
  cases value <;> simp [orFor]

theorem orFor_of_ne {α : Type} {strategy : StrategyId} (hOther : strategyId ≠ strategy)
    (value : Option α) (fallback : α) : orFor strategyId value strategy fallback = value := by
  simp [orFor, hOther]

theorem lt_getD_of_not_any {value : Option Nat} {bound fallback : Nat}
    (hValue : ¬value.any (· ≤ bound)) (hFallback : bound < fallback) : bound < value.getD fallback := by
  cases value with
  | none => exact hFallback
  | some given => simpa using hValue

theorem bandInverted_of_passedChecks (hPassed : PassedChecks .trendFilterMomentumV2 request context) :
    bandInverted (normalizedConfig .trendFilterMomentumV2 request context) = false := by
  have hBand := hPassed.trendFilterV2 rfl
  simp only [validateTrendFilterV2, hasError_append, hasError_errorIf, Bool.or_eq_false_iff] at hBand
  simpa only [bandInverted, maxCloseAboveSmaPct, minCloseAboveSmaPct, normalizedConfig, orFor_self,
    getD_some] using hBand.1.2

theorem validateCompressionBreakoutConfig_of_passedChecks
    (hPassed : PassedChecks .volatilityCompressionBreakoutV1 request context) :
    validateCompressionBreakoutConfig
      (normalizedConfig .volatilityCompressionBreakoutV1 request context) = none := by
  have hCompression := lt_getD_of_not_any hPassed.compressionLookback (show 1 < 20 by decide)
  have hBreakout := lt_getD_of_not_any hPassed.breakoutLookback (show 1 < 20 by decide)
  have hRanges := hPassed.compressionBreakout rfl
  simp only [validateCompressionBreakout, validateReasonableAge, hasError_append, hasError_errorIf,
    Bool.or_eq_false_iff, decide_eq_false_iff_not, not_or, not_lt, not_le] at hRanges
  obtain ⟨⟨⟨⟨⟨⟨⟨hOrder, -⟩, hMin⟩, hExtension⟩, hVolume⟩, hWidth⟩, hWidths⟩, hAge⟩ := hRanges
  have hNarrow : StrategyId.volatilityCompressionBreakoutV1 ≠ .rangeReversionV1 := by decide
  simp only [validateCompressionBreakoutConfig, compressionLookback, breakoutLookback,
    minBreakoutPct, maxBreakoutExtensionPct, minRangeWidthPct, maxRangeWidthPct,
    minVolumeExpansionRatio, normalizedConfig, orFor_self, orFor_of_ne hNarrow, getD_some]
  rw [if_neg (by omega), if_neg (by omega), if_neg (not_or.mpr ⟨not_lt.mpr hMin, not_le.mpr hExtension⟩),
    if_neg (not_lt.mpr hVolume), if_neg (not_or.mpr ⟨not_le.mpr hWidth, not_le.mpr hWidths⟩),
    if_neg (not_lt.mpr hAge)]

theorem validateFailedBreakdownReclaimConfig_of_passedChecks
    (hPassed : PassedChecks .failedBreakdownReclaimV1 request context) :
    validateFailedBreakdownReclaimConfig
      (normalizedConfig .failedBreakdownReclaimV1 request context) = none := by
  have hThresholds := hPassed.failedReclaim rfl
  simp only [validateFailedReclaim, validateReasonableAge, hasError_append, hasError_errorIf,
    Bool.or_eq_false_iff, decide_eq_false_iff_not, not_lt, not_le] at hThresholds
  obtain ⟨⟨⟨⟨⟨hLookback, hBreakdown⟩, hReclaim⟩, hWick⟩, hVolume⟩, hAge⟩ := hThresholds
  have hPullback : StrategyId.failedBreakdownReclaimV1 ≠ .trendPullbackContinuationV1 := by decide
  simp only [validateFailedBreakdownReclaimConfig, minBreakdownPct, minReclaimClosePct,
    minLowerWickPct, minVolumeRatioFailedReclaim, normalizedConfig, orFor_self,
    orFor_of_ne hPullback, getD_some]
  rw [if_neg (not_le.mpr hLookback), if_neg, if_neg (not_lt.mpr hAge)]
  simp only [not_or, not_lt]
  exact ⟨hBreakdown, hReclaim, hWick, hVolume⟩

/-- The trend lookback is the one figure for which the two rule sets have
different defaults. -/
theorem validateTrendPullbackConfig_iff_of_passedChecks
    (hPassed : PassedChecks .trendPullbackContinuationV1 request context) :
    validateTrendPullbackConfig (normalizedConfig .trendPullbackContinuationV1 request context) = none ↔
      ¬(request.trendLookbackCandles = none ∧
        request.lookbackCandles < request.pullbackLookbackCandles.getD 10) := by
  have hLookback := lookback_of_passedChecks hPassed
  have hChecks := hPassed.trendPullback rfl
  simp only [validateTrendPullback, validateReasonableAge, hasError_append, hasError_errorIf,
    Bool.or_eq_false_iff, decide_eq_false_iff_not, not_or, not_lt, not_le] at hChecks
  obtain ⟨⟨⟨⟨⟨⟨⟨hTrend, hPullback, hSma⟩, hOrder⟩, hDepth⟩, hAbove⟩, hVolume⟩, hChoppy⟩, -⟩ := hChecks
  have hV2 : StrategyId.trendPullbackContinuationV1 ≠ .trendFilterMomentumV2 := by decide
  have hReclaim : StrategyId.trendPullbackContinuationV1 ≠ .failedBreakdownReclaimV1 := by decide
  simp only [validateTrendPullbackConfig, trendLookback, pullbackLookback, pullbackSmaLookback,
    maxPullbackDepthPct, minPullbackDepthPct, maxCloseAboveSmaPct, minVolumeRatio, maxChoppiness,
    normalizedConfig, orFor_self, orFor_of_ne hV2, orFor_of_ne hReclaim, getD_some]
  have hThresholds : ¬(request.maxCloseAboveSmaPct.getD 1 < 0 ∨
      request.minVolumeRatio.getD (8 / 10) < 0 ∨ request.maxChoppiness.getD 60 ≤ 0) := by
    simp only [not_or, not_lt, not_le]
    exact ⟨hAbove, hVolume, hChoppy⟩
  cases hGiven : request.trendLookbackCandles with
  | some trend =>
    rw [hGiven] at hTrend hOrder
    simp only [getD_some] at hTrend hOrder ⊢
    rw [if_neg (by omega), if_neg (by omega), if_neg (not_le.mpr hDepth), if_neg hThresholds]
    simp
  | none =>
    simp only [getD_none, true_and, not_lt]
    rw [if_neg (by omega)]
    by_cases hShort : request.lookbackCandles < request.pullbackLookbackCandles.getD 10
    · rw [if_pos hShort]
      constructor
      · intro hNone
        cases hNone
      · intro hLong
        exact absurd hShort (not_lt.mpr hLong)
    · rw [if_neg hShort, if_neg (not_le.mpr hDepth), if_neg hThresholds]
      exact ⟨fun _ => not_lt.mp hShort, fun _ => rfl⟩

/-- An accepted configuration passes `StrategyConfig::validate`, and the
strategy accepts it too, unless `trend_pullback_continuation_v1` is left
without a trend lookback while its lookback is shorter than its pullback
lookback. The validator compares the pullback lookback with a default of 50
there, and the strategy compares it with the lookback itself. -/
theorem accepted_config_runs_iff
    (hConfig : (validateStrategyConfig request context validatedAt).normalizedConfig = some config) :
    config.validate = .ok () ∧ AcceptsOwnConfig config ↔
      ¬(StrategyId.fromStr request.strategyId = .ok .trendPullbackContinuationV1 ∧
        request.trendLookbackCandles = none ∧
        request.lookbackCandles < request.pullbackLookbackCandles.getD 10) := by
  obtain ⟨strategyId, hId, hIssues, rfl⟩ := normalizedConfig_eq_some.mp hConfig
  have hPassed := passedChecks_of_no_error hIssues
  rw [hId, and_iff_right (validate_of_passedChecks hPassed)]
  cases strategyId with
  | trendPullbackContinuationV1 =>
    rw [and_iff_right rfl]
    exact validateTrendPullbackConfig_iff_of_passedChecks hPassed
  | trendFilterMomentumV2 =>
    exact iff_of_true (bandInverted_of_passedChecks hPassed) (fun hPullback => by cases hPullback.1)
  | volatilityCompressionBreakoutV1 =>
    exact iff_of_true (validateCompressionBreakoutConfig_of_passedChecks hPassed)
      (fun hPullback => by cases hPullback.1)
  | failedBreakdownReclaimV1 =>
    exact iff_of_true (validateFailedBreakdownReclaimConfig_of_passedChecks hPassed)
      (fun hPullback => by cases hPullback.1)
  | momentumV1 | volatilityBreakoutV1 | trendFilterMomentumV1 | volatilityBreakoutV2 | rangeReversionV1 =>
    exact iff_of_true trivial (fun hPullback => by cases hPullback.1)

end Accepted

section Sample

def samplePullbackRequest : StrategyConfigUpdateRequest where
  strategyId := "trend_pullback_continuation_v1"
  enabled := true
  mode := .research
  symbols := ["BTCUSDT"]
  timeframe := "15m"
  suggestedNotional := 100
  maxSignalAgeMs := 2700000
  cooldownSeconds := 1800
  lookbackCandles := 5

def sampleValidation : StrategyValidationContext where
  supportedSymbols := [Symbol.btcusdt]
  maxPositionNotional := some 1000
  displayDecimal := fun _ => ""

theorem accepted_config_runs_sample :
    AcceptsOwnConfig (normalizedConfig .trendPullbackContinuationV1
      { samplePullbackRequest with trendLookbackCandles := some 12 } sampleValidation) := by
  have hConfig : (validateStrategyConfig { samplePullbackRequest with trendLookbackCandles := some 12 }
      sampleValidation 0).normalizedConfig = some (normalizedConfig .trendPullbackContinuationV1
        { samplePullbackRequest with trendLookbackCandles := some 12 } sampleValidation) := by
    with_unfolding_all rfl
  have hRuns := accepted_config_runs_iff hConfig
  exact (hRuns.mpr (by simp)).2

/-- The validator accepts a lookback of 5 candles without a trend lookback,
and the strategy refuses to run with it. -/
theorem accepted_config_refused_by_strategy : ¬∀ request context validatedAt config,
      (validateStrategyConfig request context validatedAt).valid = true →
      (validateStrategyConfig request context validatedAt).normalizedConfig = some config →
      config.validate = .ok () ∧ AcceptsOwnConfig config := by
  intro hRuns
  have hConfig : (validateStrategyConfig samplePullbackRequest sampleValidation 0).normalizedConfig =
      some (normalizedConfig .trendPullbackContinuationV1 samplePullbackRequest sampleValidation) := by
    with_unfolding_all rfl
  have hAccepts : validateTrendPullbackConfig (normalizedConfig .trendPullbackContinuationV1
      samplePullbackRequest sampleValidation) = none :=
    (hRuns _ _ _ _ (valid_of_normalizedConfig hConfig) hConfig).2
  exact absurd hAccepts (by decide +kernel)

end Sample

end AegisQuant.Strategy
