import AegisQuant.Strategy.StoredConfigs

/-! A configuration that the validator has normalized is given back to it. Every
default it has filled in passes the check it was filled in for, so it finds no
error and changes nothing. -/
namespace AegisQuant.Strategy
open List Option

/-- The request that the API validates a stored configuration with. The row has
no columns for the entry confirmation, and the request asks for none. -/
def strategyUpdateRequestFromConfig (config : StrategyConfig) : StrategyConfigUpdateRequest where
  strategyId := config.strategyId.asStr
  enabled := config.enabled
  mode := config.mode
  symbols := config.symbols.map (·.text)
  timeframe := config.timeframe.asStr
  suggestedNotional := config.suggestedNotional
  maxSignalAgeMs := config.maxSignalAgeMs
  cooldownSeconds := config.cooldownSeconds
  lookbackCandles := config.lookbackCandles
  trendLookbackCandles := config.trendLookbackCandles
  momentumLookbackCandles := config.momentumLookbackCandles
  compressionLookbackCandles := config.compressionLookbackCandles
  breakoutLookbackCandles := config.breakoutLookbackCandles
  pullbackLookbackCandles := config.pullbackLookbackCandles
  pullbackSmaLookbackCandles := config.pullbackSmaLookbackCandles
  compressionPercentileThreshold := config.compressionPercentileThreshold
  minBreakoutPct := config.minBreakoutPct
  maxBreakoutExtensionPct := config.maxBreakoutExtensionPct
  minVolumeExpansionRatio := config.minVolumeExpansionRatio
  lowerBandPct := config.lowerBandPct
  upperBandPct := config.upperBandPct
  minRangeWidthPct := config.minRangeWidthPct
  maxRangeWidthPct := config.maxRangeWidthPct
  minCloseAboveSmaPct := config.minCloseAboveSmaPct
  maxCloseAboveSmaPct := config.maxCloseAboveSmaPct
  minMomentumReturnPct := config.minMomentumReturnPct
  minTrendReturnPct := config.minTrendReturnPct
  minTrendSlopePct := config.minTrendSlopePct
  minPullbackDepthPct := config.minPullbackDepthPct
  maxPullbackDepthPct := config.maxPullbackDepthPct
  minReclaimPct := config.minReclaimPct
  minBreakdownPct := config.minBreakdownPct
  minReclaimClosePct := config.minReclaimClosePct
  minLowerWickPct := config.minLowerWickPct
  minVolumeRatio := config.minVolumeRatio
  maxChoppiness := config.maxChoppiness
  confidenceFloor := config.confidenceFloor
  stopLossPct := config.stopLossPct
  takeProfitPct := config.takeProfitPct
  holdingCandles := config.holdingCandles
  confirmationCandles := 0
  requireConfirmationCloseAboveLookbackLow := false
  requireConfirmationLowAboveBreakdownLow := false
  notes := config.notes

def confirmedRequest (config : StrategyConfig) (confirmationCandles : Nat)
    (closeAboveLookbackLow lowAboveBreakdownLow : Bool) : StrategyConfigUpdateRequest :=
  { strategyUpdateRequestFromConfig config with
    confirmationCandles := confirmationCandles
    requireConfirmationCloseAboveLookbackLow := closeAboveLookbackLow
    requireConfirmationLowAboveBreakdownLow := lowAboveBreakdownLow }

def updateRequestOf (config : StrategyConfig) : StrategyConfigUpdateRequest :=
  confirmedRequest config config.confirmationCandles config.requireConfirmationCloseAboveLookbackLow
    config.requireConfirmationLowAboveBreakdownLow

section Defaults
variable {α : Type} {strategyId strategy : StrategyId} {value : Option α} {fallback : α}

/-- A check that assumes the default sees no difference once it is filled in. -/
@[simp] theorem getD_orFor (strategyId strategy : StrategyId) (value : Option α) (fallback : α) :
    (orFor strategyId value strategy fallback).getD fallback = value.getD fallback := by
  cases value with
  | some given => rfl
  | none =>
    unfold orFor
    split <;> rfl

theorem getD_getD (value : Option α) (fallback : α) :
    value.getD (value.getD fallback) = value.getD fallback := by
  cases value <;> rfl

theorem isSome_orFor (hStrategy : strategyId = strategy) :
    (orFor strategyId value strategy fallback).isSome := by
  subst hStrategy
  rw [orFor_self]
  rfl

theorem isSome_orFor_of_isSome (hValue : value.isSome) :
    (orFor strategyId value strategy fallback).isSome := by
  obtain ⟨given, rfl⟩ := isSome_iff_exists.mp hValue
  rfl

theorem orFor_eq_self (hFilled : strategyId = strategy → value.isSome) :
    orFor strategyId value strategy fallback = value := by
  by_cases hStrategy : strategyId = strategy
  · obtain ⟨given, rfl⟩ := isSome_iff_exists.mp (hFilled hStrategy)
    rfl
  · exact orFor_of_ne hStrategy value fallback

@[simp] theorem orFor_orFor (strategyId strategy : StrategyId) (value : Option α)
    (fallback other : α) :
    orFor strategyId (orFor strategyId value strategy fallback) strategy other =
      orFor strategyId value strategy fallback := orFor_eq_self isSome_orFor

/-- The same for a figure that two strategies are given. -/
@[simp] theorem orFor_orFor_orFor (strategyId first second : StrategyId) (value : Option α)
    (fallback fallback' other other' : α) :
    orFor strategyId (orFor strategyId
        (orFor strategyId (orFor strategyId value first fallback) second fallback') first other)
      second other' =
        orFor strategyId (orFor strategyId value first fallback) second fallback' := by
  rw [orFor_eq_self fun hSecond => isSome_orFor_of_isSome (isSome_orFor hSecond)]
  exact orFor_eq_self fun hFirst => isSome_orFor_of_isSome (isSome_orFor hFirst)

end Defaults

theorem normalizeNotes_normalizeNotes (notes : Option String) :
    normalizeNotes (normalizeNotes notes) = normalizeNotes notes := by
  cases notes with
  | none => rfl
  | some text =>
    unfold normalizeNotes
    rw [map_some]
    by_cases hBlank : trim text = ""
    · simp [Option.filter, hBlank]
    · simp [Option.filter, hBlank, trim_trim]

section Symbols
variable {request : StrategyConfigUpdateRequest}
  {context : StrategyValidationContext} {rawSymbol : String} {symbol : Symbol}

theorem validateSymbol_text (hSymbol : (validateSymbol context rawSymbol).2 = some symbol) :
    validateSymbol context symbol.text = validateSymbol context rawSymbol := by
  have hSame : validateSymbol context symbol.text =
      (errorIf (context.supportedSymbols ≠ [] ∧ symbol ∉ context.supportedSymbols)
        "unsupported_symbol" "symbols" ("symbol " ++ symbol.text ++ " is not supported"),
        some symbol) := by
    simp only [validateSymbol, symbol.trim_text, symbol.toAsciiUppercase_text, if_neg symbol.nonempty,
      ne_eq, not_true_eq_false, if_false, Symbol.new_text]
  rw [hSame]
  simp only [validateSymbol] at hSymbol ⊢
  split at hSymbol
  · cases hSymbol
  · rename_i hTrimmed
    rw [if_neg hTrimmed]
    split at hSymbol
    · cases hSymbol
    · rename_i hUpper
      rw [if_neg hUpper]
      cases hNew : Symbol.new (trim rawSymbol) with
      | error fault =>
        rw [hNew] at hSymbol
        cases hSymbol
      | ok found =>
        rw [hNew] at hSymbol
        cases hSymbol
        rfl

theorem filterMap_text_validSymbols : ((validSymbols request context).map (·.text)).filterMap
      (fun rawSymbol => (validateSymbol context rawSymbol).2) = validSymbols request context := by
  have hSelf : ∀ symbol ∈ validSymbols request context,
      (validateSymbol context symbol.text).2 = some symbol := by
    intro symbol hSymbol
    obtain ⟨rawSymbol, -, hRaw⟩ := mem_filterMap.mp hSymbol
    rw [validateSymbol_text hRaw, hRaw]
  rw [filterMap_map]
  calc (validSymbols request context).filterMap (fun symbol => (validateSymbol context symbol.text).2)
      = (validSymbols request context).filterMap some := filterMap_congr hSelf
    _ = validSymbols request context := filterMap_some

end Symbols

/-- The request made from what a request is normalized to, whatever entry
confirmation it asks for. -/
def requestAgain (strategyId : StrategyId) (request : StrategyConfigUpdateRequest)
    (context : StrategyValidationContext) (candles : Nat) (close low : Bool) :
    StrategyConfigUpdateRequest :=
  confirmedRequest (normalizedConfig strategyId request context) candles close low

section Again
variable {strategyId : StrategyId} {request : StrategyConfigUpdateRequest}
  {context : StrategyValidationContext} {candles : Nat} {close low : Bool}

theorem requestedTimeframe_requestAgain :
    requestedTimeframe (requestAgain strategyId request context candles close low) =
      requestedTimeframe request := by
  rw [requestedTimeframe, requestAgain, confirmedRequest, strategyUpdateRequestFromConfig,
    CandleInterval.fromStr_asStr]
  show (normalizedConfig strategyId request context).timeframe = requestedTimeframe request
  rw [normalizedConfig]

theorem normalizedConfig_requestAgain :
    normalizedConfig strategyId (requestAgain strategyId request context candles close low) context =
      { normalizedConfig strategyId request context with
        confirmationCandles := if strategyId = .failedBreakdownReclaimV1 then candles else 0
        requireConfirmationCloseAboveLookbackLow :=
          strategyId = .failedBreakdownReclaimV1 && close
        requireConfirmationLowAboveBreakdownLow :=
          strategyId = .failedBreakdownReclaimV1 && low } := by
  have hSymbols : validSymbols (requestAgain strategyId request context candles close low) context =
      validSymbols request context := filterMap_text_validSymbols
  rw [normalizedConfig, requestedTimeframe_requestAgain, hSymbols]
  simp only [requestAgain, confirmedRequest, strategyUpdateRequestFromConfig, normalizedConfig,
    orFor_orFor, orFor_orFor_orFor, normalizeNotes_normalizeNotes]

theorem hasError_validateSymbols_requestAgain
    (hIssues : hasError (validateSymbols request context) = false) :
    hasError (validateSymbols (requestAgain strategyId request context candles close low) context) =
      false := by
  have hNonempty : (requestAgain strategyId request context candles close low).symbols ≠ [] := by
    intro hNone
    exact validSymbols_ne_nil hIssues (map_eq_nil_iff.mp hNone)
  unfold validateSymbols at hIssues ⊢
  split at hIssues
  · cases hIssues
  · rw [hasError_flatMap, List.any_eq_false] at hIssues
    rw [if_neg hNonempty, hasError_flatMap, List.any_eq_false]
    intro text hText
    obtain ⟨symbol, hSymbol, rfl⟩ := List.mem_map.mp hText
    obtain ⟨rawSymbol, hMem, hRaw⟩ := mem_filterMap.mp hSymbol
    rw [validateSymbol_text hRaw]
    exact hIssues rawSymbol hMem

theorem hasError_validateOptionalLookback_orFor {strategy : StrategyId} {value : Option Nat}
    {bound fallback : Nat} {field boundText : String} (hFallback : bound < fallback)
    (hValue : hasError (validateOptionalLookback value bound field boundText) = false) :
    hasError (validateOptionalLookback (orFor strategyId value strategy fallback) bound field
      boundText) = false := by
  cases value with
  | some given => exact hValue
  | none =>
    unfold orFor
    split
    · simp [validateOptionalLookback, hFallback]
    · exact hValue

theorem unchangedChecks_requestAgain (strategyId : StrategyId)
    (request : StrategyConfigUpdateRequest) (context : StrategyValidationContext) (candles : Nat)
    (close low : Bool) (timeframe : CandleInterval) :
    let again := requestAgain strategyId request context candles close low
    validateNotional again context = validateNotional request context ∧
      validateSignalAge timeframe again = validateSignalAge timeframe request ∧
      validateCooldown again = validateCooldown request ∧
      validateLookback strategyId again = validateLookback strategyId request ∧
      validateHolding again = validateHolding request ∧
      validateConfidenceFloor strategyId again context =
        validateConfidenceFloor strategyId request context ∧
      validateStopBelowTake again = validateStopBelowTake request := by
  simp only [validateNotional, validateSignalAge, validateCooldown, validateLookback, validateHolding,
    validateConfidenceFloor, validateStopBelowTake, requestAgain, confirmedRequest,
    strategyUpdateRequestFromConfig, normalizedConfig]
  exact ⟨rfl, rfl, rfl, rfl, rfl, trivial, rfl⟩

/-! The checks of one strategy see the same figures in the configuration as in
the request. -/

theorem validateTrendFilterV2_requestAgain :
    validateTrendFilterV2 (requestAgain strategyId request context candles close low) =
      validateTrendFilterV2 request := by
  simp only [validateTrendFilterV2, requestAgain, confirmedRequest, strategyUpdateRequestFromConfig,
    normalizedConfig, getD_orFor]

variable (timeframe : CandleInterval)

theorem validateTrendPullback_requestAgain : validateTrendPullback timeframe
        (requestAgain .trendPullbackContinuationV1 request context candles close low) =
      validateTrendPullback timeframe request := by
  have hReclaim : StrategyId.trendPullbackContinuationV1 ≠ .failedBreakdownReclaimV1 := by decide
  simp only [validateTrendPullback, validateReasonableAge, requestAgain, confirmedRequest,
    strategyUpdateRequestFromConfig, normalizedConfig, getD_orFor, orFor_of_ne hReclaim]

theorem validateFailedReclaim_requestAgain : validateFailedReclaim timeframe
        (requestAgain .failedBreakdownReclaimV1 request context candles close low) =
      validateFailedReclaim timeframe request := by
  have hPullback : StrategyId.failedBreakdownReclaimV1 ≠ .trendPullbackContinuationV1 := by decide
  simp only [validateFailedReclaim, validateReasonableAge, requestAgain, confirmedRequest,
    strategyUpdateRequestFromConfig, normalizedConfig, getD_orFor, orFor_of_ne hPullback]

theorem validateCompressionBreakout_requestAgain : validateCompressionBreakout timeframe
        (requestAgain .volatilityCompressionBreakoutV1 request context candles close low) =
      validateCompressionBreakout timeframe request := by
  have hRange : StrategyId.volatilityCompressionBreakoutV1 ≠ .rangeReversionV1 := by decide
  simp only [validateCompressionBreakout, validateReasonableAge, requestAgain, confirmedRequest,
    strategyUpdateRequestFromConfig, normalizedConfig, getD_orFor, orFor_of_ne hRange]

theorem validateRangeReversion_requestAgain :
    validateRangeReversion (requestAgain .rangeReversionV1 request context candles close low) =
      validateRangeReversion request := by
  have hCompression : StrategyId.rangeReversionV1 ≠ .volatilityCompressionBreakoutV1 := by decide
  simp only [validateRangeReversion, requestAgain, confirmedRequest, strategyUpdateRequestFromConfig,
    normalizedConfig, orFor_self, orFor_of_ne hCompression, getD_some, getD_getD]

theorem hasError_checkedFor {strategy : StrategyId} {issues : List StrategyConfigValidationIssue} :
    hasError (checkedFor strategyId strategy issues) = false ↔
      (strategyId = strategy → hasError issues = false) := by
  unfold checkedFor
  split
  · rename_i hStrategy
    exact ⟨fun hIssues _ => hIssues, fun hIssues => hIssues hStrategy⟩
  · rename_i hOther
    exact iff_of_true rfl fun hStrategy => absurd hStrategy hOther

theorem hasError_configIssues_requestAgain
    (hIssues : hasError (configIssues strategyId request context) = false)
    (hConfirmed : hasError (validateConfirmation strategyId
      (requestAgain strategyId request context candles close low)) = false) :
    hasError (configIssues strategyId (requestAgain strategyId request context candles close low)
      context) = false := by
  obtain ⟨hSameNotional, hSameAge, hSameCooldown, hSameLookback, hSameHolding, hSameFloor,
    hSameStopTake⟩ := unchangedChecks_requestAgain strategyId request context candles close low
      (requestedTimeframe request)
  unfold configIssues at hIssues ⊢
  simp only [hasError_append, Bool.or_eq_false_iff, requestedTimeframe_requestAgain,
    hasError_checkedFor, hSameNotional, hSameAge, hSameCooldown, hSameLookback, hSameHolding,
    hSameFloor, hSameStopTake] at hIssues ⊢
  obtain ⟨⟨⟨⟨⟨⟨⟨⟨⟨⟨⟨⟨⟨⟨⟨⟨⟨⟨⟨⟨⟨⟨⟨hMode, hSymbols⟩, -⟩, hNotional⟩, hAge⟩, hCooldown⟩, hLookback⟩,
    hTrend⟩, hMomentum⟩, hCompression⟩, hTrendV2⟩, hBreakout⟩, hPullback⟩, hSma⟩, hTrendPullback⟩,
    hReclaim⟩, hCompressionBreakout⟩, hRange⟩, hStop⟩, hTake⟩, hHolding⟩, -⟩, hFloor⟩, hStopTake⟩ :=
      hIssues
  refine ⟨⟨⟨⟨⟨⟨⟨⟨⟨⟨⟨⟨⟨⟨⟨⟨⟨⟨⟨⟨⟨⟨⟨hMode, ?symbols⟩, ?interval⟩, hNotional⟩, hAge⟩, hCooldown⟩, hLookback⟩,
    hTrend⟩, hMomentum⟩, ?compression⟩, ?trendV2⟩, ?breakout⟩, ?pullback⟩, ?sma⟩, ?trendPullback⟩,
    ?reclaim⟩, ?compressionBreakout⟩, ?range⟩, hStop⟩, hTake⟩, hHolding⟩, hConfirmed⟩, hFloor⟩,
    hStopTake⟩
  case symbols => exact hasError_validateSymbols_requestAgain hSymbols
  case interval =>
    rw [validateTimeframe, requestAgain, confirmedRequest, strategyUpdateRequestFromConfig,
      CandleInterval.fromStr_asStr]
    rfl
  case compression => exact hasError_validateOptionalLookback_orFor (by decide) hCompression
  case breakout => exact hasError_validateOptionalLookback_orFor (by decide) hBreakout
  case pullback => exact hasError_validateOptionalLookback_orFor (by decide) hPullback
  case sma => exact hasError_validateOptionalLookback_orFor (by decide) hSma
  case trendV2 =>
    rw [validateTrendFilterV2_requestAgain]
    exact hTrendV2
  case trendPullback =>
    rintro rfl
    rw [validateTrendPullback_requestAgain]
    exact hTrendPullback rfl
  case reclaim =>
    rintro rfl
    rw [validateFailedReclaim_requestAgain]
    exact hReclaim rfl
  case compressionBreakout =>
    rintro rfl
    rw [validateCompressionBreakout_requestAgain]
    exact hCompressionBreakout rfl
  case range =>
    rintro rfl
    rw [validateRangeReversion_requestAgain]
    exact hRange rfl

theorem hasError_validateConfirmation
    (hIssues : hasError (configIssues strategyId request context) = false) :
    hasError (validateConfirmation strategyId request) = false := by
  unfold configIssues at hIssues
  simp only [hasError_append, Bool.or_eq_false_iff] at hIssues
  exact hIssues.1.1.2

end Again

section Revalidation
variable {strategyId : StrategyId} {request : StrategyConfigUpdateRequest}
  {context : StrategyValidationContext} {validatedAt : DateTime} {config : StrategyConfig}

theorem updateRequestOf_normalizedConfig : updateRequestOf (normalizedConfig strategyId request context) =
    requestAgain strategyId request context
      (normalizedConfig strategyId request context).confirmationCandles
      (normalizedConfig strategyId request context).requireConfirmationCloseAboveLookbackLow
      (normalizedConfig strategyId request context).requireConfirmationLowAboveBreakdownLow := rfl

theorem hasError_validateConfirmation_updateRequestOf
    (hIssues : hasError (validateConfirmation strategyId request) = false) :
    hasError (validateConfirmation strategyId
      (updateRequestOf (normalizedConfig strategyId request context))) = false := by
  by_cases hReclaim : strategyId = .failedBreakdownReclaimV1
  · subst hReclaim
    exact hIssues
  · rw [validateConfirmation, if_neg hReclaim, hasError_warnIf]

theorem normalizedConfig_updateRequestOf :
    normalizedConfig strategyId (updateRequestOf (normalizedConfig strategyId request context))
      context = normalizedConfig strategyId request context := by
  rw [updateRequestOf_normalizedConfig, normalizedConfig_requestAgain]
  by_cases hReclaim : strategyId = .failedBreakdownReclaimV1
  · simp [normalizedConfig, hReclaim]
  · simp [normalizedConfig, hReclaim]

/-- A configuration that the validator has normalized is accepted as it is. -/
theorem revalidation_changes_nothing
    (hConfig : (validateStrategyConfig request context validatedAt).normalizedConfig = some config)
    (revalidatedAt : DateTime) :
    let again := validateStrategyConfig (updateRequestOf config) context revalidatedAt
    again.valid = true ∧ (∀ issue ∈ again.issues, issue.severity ≠ .error) ∧
      again.normalizedConfig = some config := by
  obtain ⟨strategyId, -, hIssues, rfl⟩ := normalizedConfig_eq_some.mp hConfig
  have hId : StrategyId.fromStr (updateRequestOf (normalizedConfig strategyId request
      context)).strategyId = .ok strategyId := StrategyId.fromStr_asStr strategyId
  have hAgain := hasError_configIssues_requestAgain hIssues
    (hasError_validateConfirmation_updateRequestOf (hasError_validateConfirmation hIssues))
  have hNormalized : (validateStrategyConfig (updateRequestOf (normalizedConfig strategyId request
      context)) context revalidatedAt).normalizedConfig =
        some (normalizedConfig strategyId request context) :=
    normalizedConfig_eq_some.mpr ⟨strategyId, hId, hAgain, normalizedConfig_updateRequestOf.symm⟩
  refine ⟨valid_of_normalizedConfig hNormalized, ?_, hNormalized⟩
  intro issue hIssue
  simp only [validateStrategyConfig, hId] at hIssue
  simpa using any_eq_false.mp hAgain issue hIssue

/-- Three candles of confirmation are kept. -/
theorem revalidation_changes_nothing_sample :
    (validateStrategyConfig (updateRequestOf (sampleReclaimConfig 3)) sampleValidation
      1).normalizedConfig = some (sampleReclaimConfig 3) := by
  have hAccepted : (validateStrategyConfig (sampleReclaimRequest 3) sampleValidation
      0).normalizedConfig = some (sampleReclaimConfig 3) := by
    with_unfolding_all rfl
  exact (revalidation_changes_nothing hAccepted 1).2.2

end Revalidation

end AegisQuant.Strategy
