import AegisQuant.Strategy.Config

/-! The validator of strategy configurations. It collects every issue it finds
and gives a normalized configuration when none of them is an error. -/
namespace AegisQuant.Strategy

inductive StrategyConfigValidationSeverity where
  | error
  | warn
  deriving DecidableEq, Repr

structure StrategyConfigValidationIssue where
  severity : StrategyConfigValidationSeverity
  code : String
  field : String
  message : String
  deriving DecidableEq, Repr

structure StrategyConfigUpdateRequest where
  strategyId : String
  enabled : Bool
  mode : StrategyMode
  symbols : List String
  timeframe : String
  suggestedNotional : Decimal
  maxSignalAgeMs : Int
  cooldownSeconds : Nat
  lookbackCandles : Nat
  trendLookbackCandles : Option Nat := none
  momentumLookbackCandles : Option Nat := none
  compressionLookbackCandles : Option Nat := none
  breakoutLookbackCandles : Option Nat := none
  pullbackLookbackCandles : Option Nat := none
  pullbackSmaLookbackCandles : Option Nat := none
  compressionPercentileThreshold : Option Decimal := none
  minBreakoutPct : Option Decimal := none
  maxBreakoutExtensionPct : Option Decimal := none
  minVolumeExpansionRatio : Option Decimal := none
  lowerBandPct : Option Decimal := none
  upperBandPct : Option Decimal := none
  minRangeWidthPct : Option Decimal := none
  maxRangeWidthPct : Option Decimal := none
  minCloseAboveSmaPct : Option Decimal := none
  maxCloseAboveSmaPct : Option Decimal := none
  minMomentumReturnPct : Option Decimal := none
  minTrendReturnPct : Option Decimal := none
  minTrendSlopePct : Option Decimal := none
  minPullbackDepthPct : Option Decimal := none
  maxPullbackDepthPct : Option Decimal := none
  minReclaimPct : Option Decimal := none
  minBreakdownPct : Option Decimal := none
  minReclaimClosePct : Option Decimal := none
  minLowerWickPct : Option Decimal := none
  minVolumeRatio : Option Decimal := none
  maxChoppiness : Option Decimal := none
  confidenceFloor : Option Decimal := none
  stopLossPct : Option Decimal := none
  takeProfitPct : Option Decimal := none
  holdingCandles : Option Nat := none
  confirmationCandles : Nat := 0
  requireConfirmationCloseAboveLookbackLow : Bool := false
  requireConfirmationLowAboveBreakdownLow : Bool := false
  notes : Option String := none

/-- `displayDecimal` is the text of a decimal, whose scale the exact values do
not carry. -/
structure StrategyValidationContext where
  supportedSymbols : List Symbol
  maxPositionNotional : Option Decimal
  displayDecimal : Decimal → String

structure StrategyConfigValidationResult where
  strategyId : String
  valid : Bool
  issues : List StrategyConfigValidationIssue
  normalizedConfig : Option StrategyConfig
  validatedAt : DateTime

def errorIf (failed : Prop) [Decidable failed] (code field message : String) :
    List StrategyConfigValidationIssue :=
  if failed then [⟨.error, code, field, message⟩] else []

def warnIf (noticed : Prop) [Decidable noticed] (code field message : String) :
    List StrategyConfigValidationIssue :=
  if noticed then [⟨.warn, code, field, message⟩] else []

def hasError (issues : List StrategyConfigValidationIssue) : Bool :=
  issues.any (·.severity = .error)

section Checks
variable (strategyId : StrategyId) (timeframe : CandleInterval)
  (request : StrategyConfigUpdateRequest) (context : StrategyValidationContext)

def validateSymbol (context : StrategyValidationContext) (rawSymbol : String) :
    List StrategyConfigValidationIssue × Option Symbol :=
  let trimmed := trim rawSymbol
  if trimmed = "" then
    (errorIf True "symbol_empty" "symbols" "symbols cannot contain empty entries", none)
  else if trimmed ≠ toAsciiUppercase trimmed then
    (errorIf True "symbol_not_uppercase" "symbols" "symbols must be uppercase", none)
  else
    match Symbol.new trimmed with
    | .ok symbol =>
      (errorIf (context.supportedSymbols ≠ [] ∧ symbol ∉ context.supportedSymbols)
        "unsupported_symbol" "symbols" ("symbol " ++ symbol.text ++ " is not supported"), some symbol)
    | .error _ => (errorIf True "invalid_symbol" "symbols" "symbol cannot be empty", none)

def validateSymbols : List StrategyConfigValidationIssue :=
  if request.symbols = [] then
    errorIf True "symbols_empty" "symbols" "at least one symbol is required"
  else request.symbols.flatMap fun rawSymbol => (validateSymbol context rawSymbol).1

def validSymbols : List Symbol :=
  request.symbols.filterMap fun rawSymbol => (validateSymbol context rawSymbol).2

def validateTimeframe : List StrategyConfigValidationIssue :=
  errorIf (¬(CandleInterval.fromStr request.timeframe).isOk) "unsupported_timeframe" "timeframe"
    "timeframe must be one of 1m, 5m, 15m, or 1h"

/-- The interval the request names, or the one a failed parse leaves. -/
def requestedTimeframe : CandleInterval :=
  (CandleInterval.fromStr request.timeframe).toOption.getD .oneMinute

def validateNotional : List StrategyConfigValidationIssue :=
  errorIf (request.suggestedNotional ≤ 0) "invalid_suggested_notional" "suggested_notional"
    "suggested_notional must be greater than zero" ++
  context.maxPositionNotional.elim [] fun limit =>
    errorIf (request.suggestedNotional > limit) "suggested_notional_above_risk_limit"
      "suggested_notional"
      ("suggested_notional exceeds risk max_position_notional " ++ context.displayDecimal limit)

def validateSignalAge : List StrategyConfigValidationIssue :=
  let (recommendedMin, recommendedMax) := timeframe.recommendedMaxSignalAgeMs
  let range := toString recommendedMin ++ "-" ++ toString recommendedMax ++ "ms"
  errorIf (request.maxSignalAgeMs < 1000) "invalid_max_signal_age_ms" "max_signal_age_ms"
    "max_signal_age_ms must be greater than or equal to 1_000" ++
  warnIf (request.maxSignalAgeMs < recommendedMin)
    ("max_signal_age_ms_too_low_for_" ++ timeframe.asStr) "max_signal_age_ms"
    (timeframe.asStr ++ " candle strategies should use at least " ++ toString recommendedMin ++
      "ms; recommended range is " ++ range) ++
  warnIf (request.maxSignalAgeMs > recommendedMax)
    ("max_signal_age_ms_high_for_" ++ timeframe.asStr) "max_signal_age_ms"
    (timeframe.asStr ++ " candle strategies typically use at most " ++ toString recommendedMax ++
      "ms; recommended range is " ++ range)

def validateCooldown : List StrategyConfigValidationIssue :=
  errorIf (request.cooldownSeconds > 86400) "invalid_cooldown_seconds" "cooldown_seconds"
    "cooldown_seconds must be between 0 and 86_400"

def lookbackRange : StrategyId → Nat × Nat
  | .momentumV1 => (2, 50)
  | .volatilityBreakoutV1 => (5, 500)
  | .trendFilterMomentumV1 | .trendFilterMomentumV2 => (2, 500)
  | .volatilityBreakoutV2 => (5, 500)
  | .volatilityCompressionBreakoutV1 => (2, 500)
  | .rangeReversionV1 => (2, 500)
  | .trendPullbackContinuationV1 => (2, 500)
  | .failedBreakdownReclaimV1 => (2, 500)

def validateLookback : List StrategyConfigValidationIssue :=
  let (least, greatest) := lookbackRange strategyId
  errorIf (request.lookbackCandles < least ∨ greatest < request.lookbackCandles)
    "invalid_lookback_candles" "lookback_candles"
    ("lookback_candles must be within " ++ toString least ++ "..=" ++ toString greatest ++ " for " ++
      strategyId.asStr)

/-- A lookback that is given must be greater than a bound. -/
def validateOptionalLookback (value : Option Nat) (bound : Nat) (field boundText : String) :
    List StrategyConfigValidationIssue :=
  errorIf (value.any (· ≤ bound)) ("invalid_" ++ field) field
    (field ++ " must be greater than " ++ boundText)

def validateTrendFilterV2 : List StrategyConfigValidationIssue :=
  let minCloseAboveSmaPct := request.minCloseAboveSmaPct.getD 0
  let maxCloseAboveSmaPct := request.maxCloseAboveSmaPct.getD 1
  let minMomentumReturnPct := request.minMomentumReturnPct.getD 0
  errorIf (minCloseAboveSmaPct < 0) "invalid_min_close_above_sma_pct" "min_close_above_sma_pct"
    "min_close_above_sma_pct must be greater than or equal to 0" ++
  errorIf (maxCloseAboveSmaPct < minCloseAboveSmaPct) "invalid_close_above_sma_band"
    "max_close_above_sma_pct"
    "max_close_above_sma_pct must be greater than or equal to min_close_above_sma_pct" ++
  errorIf (minMomentumReturnPct < 0) "invalid_min_momentum_return_pct" "min_momentum_return_pct"
    "min_momentum_return_pct must be greater than or equal to 0"

/-- The signal age some strategies do not accept, where others are warned. -/
def validateReasonableAge (purpose : String) : List StrategyConfigValidationIssue :=
  let recommendedMax := timeframe.recommendedMaxSignalAgeMs.2
  errorIf (request.maxSignalAgeMs > recommendedMax)
    ("max_signal_age_ms_unreasonable_for_" ++ timeframe.asStr) "max_signal_age_ms"
    ("max_signal_age_ms must be at most " ++ toString recommendedMax ++ "ms for " ++
      timeframe.asStr ++ " " ++ purpose)

def validateTrendPullback : List StrategyConfigValidationIssue :=
  let trendLookback := request.trendLookbackCandles.getD 50
  let pullbackLookback := request.pullbackLookbackCandles.getD 10
  let pullbackSmaLookback := request.pullbackSmaLookbackCandles.getD 20
  let minPullbackDepth := request.minPullbackDepthPct.getD (3 / 10)
  let maxPullbackDepth := request.maxPullbackDepthPct.getD 5
  let maxCloseAboveSma := request.maxCloseAboveSmaPct.getD 1
  let minVolumeRatio := request.minVolumeRatio.getD (8 / 10)
  let maxChoppiness := request.maxChoppiness.getD 60
  errorIf (trendLookback ≤ 1 ∨ pullbackLookback ≤ 1 ∨ pullbackSmaLookback ≤ 1)
    "invalid_pullback_lookbacks" "trend_lookback_candles"
    "trend, pullback, and pullback SMA lookbacks must be greater than 1" ++
  errorIf (trendLookback < pullbackLookback) "trend_lookback_below_pullback_lookback"
    "trend_lookback_candles"
    "trend_lookback_candles must be greater than or equal to pullback_lookback_candles" ++
  errorIf (maxPullbackDepth ≤ minPullbackDepth) "invalid_pullback_depth_bounds"
    "max_pullback_depth_pct" "max_pullback_depth_pct must be greater than min_pullback_depth_pct" ++
  errorIf (maxCloseAboveSma < 0) "invalid_max_close_above_sma_pct" "max_close_above_sma_pct"
    "max_close_above_sma_pct must be greater than or equal to 0" ++
  errorIf (minVolumeRatio < 0) "invalid_min_volume_ratio" "min_volume_ratio"
    "min_volume_ratio must be greater than or equal to 0" ++
  errorIf (maxChoppiness ≤ 0) "invalid_max_choppiness" "max_choppiness"
    "max_choppiness must be greater than 0" ++
  validateReasonableAge timeframe request "pullback continuation research"

def validateFailedReclaim : List StrategyConfigValidationIssue :=
  let minBreakdown := request.minBreakdownPct.getD (5 / 100)
  let minReclaimClose := request.minReclaimClosePct.getD 0
  let minLowerWick := request.minLowerWickPct.getD 1
  let minVolumeRatio := request.minVolumeRatio.getD 0
  errorIf (request.lookbackCandles ≤ 1) "invalid_lookback_candles" "lookback_candles"
    "lookback_candles must be greater than 1 for failed breakdown reclaim" ++
  errorIf (minBreakdown < 0) "invalid_min_breakdown_pct" "min_breakdown_pct"
    "min_breakdown_pct must be greater than or equal to 0" ++
  errorIf (minReclaimClose < 0) "invalid_min_reclaim_close_pct" "min_reclaim_close_pct"
    "min_reclaim_close_pct must be greater than or equal to 0" ++
  errorIf (minLowerWick < 0) "invalid_min_lower_wick_pct" "min_lower_wick_pct"
    "min_lower_wick_pct must be greater than or equal to 0" ++
  errorIf (minVolumeRatio < 0) "invalid_min_volume_ratio" "min_volume_ratio"
    "min_volume_ratio must be greater than or equal to 0" ++
  validateReasonableAge timeframe request "failed breakdown reclaim research"

def validateCompressionBreakout : List StrategyConfigValidationIssue :=
  let compressionLookback := request.compressionLookbackCandles.getD 20
  let breakoutLookback := request.breakoutLookbackCandles.getD 20
  let compressionThreshold := request.compressionPercentileThreshold.getD 25
  let minBreakout := request.minBreakoutPct.getD (5 / 100)
  let maxExtension := request.maxBreakoutExtensionPct.getD (15 / 10)
  let minVolumeRatio := request.minVolumeExpansionRatio.getD (11 / 10)
  let minWidth := request.minRangeWidthPct.getD (2 / 10)
  let maxWidth := request.maxRangeWidthPct.getD 5
  errorIf (compressionLookback > breakoutLookback) "compression_lookback_above_breakout_lookback"
    "compression_lookback_candles"
    "compression_lookback_candles must be less than or equal to breakout_lookback_candles" ++
  errorIf (compressionThreshold ≤ 0 ∨ compressionThreshold > 100)
    "invalid_compression_percentile_threshold" "compression_percentile_threshold"
    "compression_percentile_threshold must be greater than 0 and at most 100" ++
  errorIf (minBreakout < 0) "invalid_min_breakout_pct" "min_breakout_pct"
    "min_breakout_pct must be greater than or equal to 0" ++
  errorIf (maxExtension ≤ minBreakout) "invalid_max_breakout_extension_pct"
    "max_breakout_extension_pct" "max_breakout_extension_pct must be greater than min_breakout_pct" ++
  errorIf (minVolumeRatio < 1) "invalid_min_volume_expansion_ratio" "min_volume_expansion_ratio"
    "min_volume_expansion_ratio must be greater than or equal to 1" ++
  errorIf (minWidth ≤ 0) "invalid_min_range_width_pct" "min_range_width_pct"
    "min_range_width_pct must be greater than 0" ++
  errorIf (maxWidth ≤ minWidth) "invalid_max_range_width_pct" "max_range_width_pct"
    "max_range_width_pct must be greater than min_range_width_pct" ++
  validateReasonableAge timeframe request "compression breakout experiments"

def validateRangeReversion : List StrategyConfigValidationIssue :=
  let lowerBandPct := request.lowerBandPct.getD 20
  let upperBandPct := request.upperBandPct.getD 80
  let minRangeWidthPct := request.minRangeWidthPct.getD (15 / 100)
  let maxRangeWidthPct := request.maxRangeWidthPct.getD 3
  errorIf (lowerBandPct < 0 ∨ lowerBandPct > 50) "invalid_lower_band_pct" "lower_band_pct"
    "lower_band_pct must be between 0 and 50" ++
  errorIf (upperBandPct < 50 ∨ upperBandPct > 100) "invalid_upper_band_pct" "upper_band_pct"
    "upper_band_pct must be between 50 and 100" ++
  errorIf (lowerBandPct ≥ upperBandPct) "invalid_range_band_order" "lower_band_pct"
    "lower_band_pct must be less than upper_band_pct" ++
  errorIf (minRangeWidthPct ≤ 0) "invalid_min_range_width_pct" "min_range_width_pct"
    "min_range_width_pct must be greater than 0" ++
  errorIf (maxRangeWidthPct ≤ minRangeWidthPct) "invalid_max_range_width_pct" "max_range_width_pct"
    "max_range_width_pct must be greater than min_range_width_pct"

def validateOptionalPercent (value : Option Decimal) (minExclusive maxInclusive : Decimal)
    (maxText field : String) : List StrategyConfigValidationIssue :=
  errorIf (value.any fun percent => percent ≤ minExclusive ∨ percent > maxInclusive)
    ("invalid_" ++ field) field
    (field ++ " must be greater than 0 and less than or equal to " ++ maxText)

def validateHolding : List StrategyConfigValidationIssue :=
  errorIf (request.holdingCandles.any fun candles => candles < 1 ∨ candles > 10000)
    "invalid_holding_candles" "holding_candles" "holding_candles must be between 1 and 10_000"

def validateConfirmation : List StrategyConfigValidationIssue :=
  let flagged := request.requireConfirmationCloseAboveLookbackLow ||
    request.requireConfirmationLowAboveBreakdownLow
  if strategyId = .failedBreakdownReclaimV1 then
    errorIf (request.confirmationCandles > 100) "invalid_confirmation_candles"
      "confirmation_candles" "confirmation_candles must be between 0 and 100" ++
    warnIf (request.confirmationCandles = 0 ∧ flagged)
      "confirmation_flags_without_confirmation_candles" "confirmation_candles"
      "confirmation flags have no effect when confirmation_candles is 0"
  else
    warnIf (request.confirmationCandles > 0 ∨ flagged) "confirmation_ignored_for_strategy"
      "confirmation_candles"
      "entry confirmation is only used by failed_breakdown_reclaim_v1 research replay"

def maxStrategyConfidence : StrategyId → Decimal
  | .momentumV1 => 65 / 100
  | .volatilityBreakoutV1 => 70 / 100
  | .trendFilterMomentumV1 | .trendFilterMomentumV2 => 68 / 100
  | .volatilityBreakoutV2 => 72 / 100
  | .volatilityCompressionBreakoutV1 => 71 / 100
  | .rangeReversionV1 => 66 / 100
  | .trendPullbackContinuationV1 => 69 / 100
  | .failedBreakdownReclaimV1 => 70 / 100

def validateConfidenceFloor : List StrategyConfigValidationIssue :=
  request.confidenceFloor.elim [] fun confidenceFloor =>
    if confidenceFloor < 0 ∨ confidenceFloor > 1 then
      errorIf True "invalid_confidence_floor" "confidence_floor"
        "confidence_floor must be between 0 and 1"
    else
      errorIf (confidenceFloor > maxStrategyConfidence strategyId) "unreachable_confidence_floor"
        "confidence_floor"
        ("confidence_floor exceeds the maximum deterministic confidence " ++
          context.displayDecimal (maxStrategyConfidence strategyId) ++ " for " ++ strategyId.asStr)

def validateStopBelowTake : List StrategyConfigValidationIssue :=
  warnIf (request.stopLossPct.any fun stop => request.takeProfitPct.any (stop ≥ ·))
    "stop_loss_not_below_take_profit" "stop_loss_pct"
    "stop_loss_pct is greater than or equal to take_profit_pct"

def checkedFor (strategy : StrategyId) (issues : List StrategyConfigValidationIssue) :
    List StrategyConfigValidationIssue :=
  if strategyId = strategy then issues else []

/-- All issues of a request whose strategy is known, in the order they are
found. -/
def configIssues : List StrategyConfigValidationIssue :=
  let timeframe := requestedTimeframe request
  errorIf (request.mode = .live) "live_mode_blocked" "mode"
    "live mode is blocked; use paper, research, or shadow" ++
  validateSymbols request context ++
  validateTimeframe request ++
  validateNotional request context ++
  validateSignalAge timeframe request ++
  validateCooldown request ++
  validateLookback strategyId request ++
  validateOptionalLookback request.trendLookbackCandles 0 "trend_lookback_candles" "zero" ++
  validateOptionalLookback request.momentumLookbackCandles 0 "momentum_lookback_candles" "zero" ++
  validateOptionalLookback request.compressionLookbackCandles 1 "compression_lookback_candles" "1" ++
  checkedFor strategyId .trendFilterMomentumV2 (validateTrendFilterV2 request) ++
  validateOptionalLookback request.breakoutLookbackCandles 1 "breakout_lookback_candles" "1" ++
  validateOptionalLookback request.pullbackLookbackCandles 1 "pullback_lookback_candles" "1" ++
  validateOptionalLookback request.pullbackSmaLookbackCandles 1 "pullback_sma_lookback_candles" "1" ++
  checkedFor strategyId .trendPullbackContinuationV1 (validateTrendPullback timeframe request) ++
  checkedFor strategyId .failedBreakdownReclaimV1 (validateFailedReclaim timeframe request) ++
  checkedFor strategyId .volatilityCompressionBreakoutV1
    (validateCompressionBreakout timeframe request) ++
  checkedFor strategyId .rangeReversionV1 (validateRangeReversion request) ++
  validateOptionalPercent request.stopLossPct 0 20 "20" "stop_loss_pct" ++
  validateOptionalPercent request.takeProfitPct 0 50 "50" "take_profit_pct" ++
  validateHolding request ++
  validateConfirmation strategyId request ++
  validateConfidenceFloor strategyId request context ++
  validateStopBelowTake request

/-- A given value, or a default that only one strategy is given. -/
def orFor {α : Type} (value : Option α) (strategy : StrategyId) (fallback : α) : Option α :=
  value.or (if strategyId = strategy then some fallback else none)

/-- Notes without the space around them; blank notes are none. -/
def normalizeNotes (notes : Option String) : Option String :=
  (notes.map trim).filter (· ≠ "")

def normalizedConfig : StrategyConfig where
  strategyId := strategyId
  enabled := request.enabled
  mode := request.mode
  symbols := validSymbols request context
  timeframe := requestedTimeframe request
  suggestedNotional := request.suggestedNotional
  maxSignalAgeMs := request.maxSignalAgeMs
  cooldownSeconds := request.cooldownSeconds
  lookbackCandles := request.lookbackCandles
  trendLookbackCandles := request.trendLookbackCandles
  momentumLookbackCandles := request.momentumLookbackCandles
  compressionLookbackCandles :=
    orFor strategyId request.compressionLookbackCandles .volatilityCompressionBreakoutV1 20
  breakoutLookbackCandles :=
    orFor strategyId request.breakoutLookbackCandles .volatilityCompressionBreakoutV1 20
  pullbackLookbackCandles :=
    orFor strategyId request.pullbackLookbackCandles .trendPullbackContinuationV1 10
  pullbackSmaLookbackCandles :=
    orFor strategyId request.pullbackSmaLookbackCandles .trendPullbackContinuationV1 20
  compressionPercentileThreshold :=
    orFor strategyId request.compressionPercentileThreshold .volatilityCompressionBreakoutV1 25
  minBreakoutPct :=
    orFor strategyId request.minBreakoutPct .volatilityCompressionBreakoutV1 (5 / 100)
  maxBreakoutExtensionPct :=
    orFor strategyId request.maxBreakoutExtensionPct .volatilityCompressionBreakoutV1 (15 / 10)
  minVolumeExpansionRatio :=
    orFor strategyId request.minVolumeExpansionRatio .volatilityCompressionBreakoutV1 (11 / 10)
  lowerBandPct :=
    orFor strategyId request.lowerBandPct .rangeReversionV1 (request.lowerBandPct.getD 20)
  upperBandPct :=
    orFor strategyId request.upperBandPct .rangeReversionV1 (request.upperBandPct.getD 80)
  minRangeWidthPct :=
    orFor strategyId (orFor strategyId request.minRangeWidthPct .rangeReversionV1
      (request.minRangeWidthPct.getD (15 / 100))) .volatilityCompressionBreakoutV1 (2 / 10)
  maxRangeWidthPct :=
    orFor strategyId (orFor strategyId request.maxRangeWidthPct .rangeReversionV1
      (request.maxRangeWidthPct.getD 3)) .volatilityCompressionBreakoutV1 5
  minCloseAboveSmaPct := orFor strategyId request.minCloseAboveSmaPct .trendFilterMomentumV2 0
  maxCloseAboveSmaPct := orFor strategyId request.maxCloseAboveSmaPct .trendFilterMomentumV2 1
  minMomentumReturnPct := orFor strategyId request.minMomentumReturnPct .trendFilterMomentumV2 0
  minTrendReturnPct := orFor strategyId request.minTrendReturnPct .trendPullbackContinuationV1 2
  minTrendSlopePct := orFor strategyId request.minTrendSlopePct .trendPullbackContinuationV1 0
  minPullbackDepthPct :=
    orFor strategyId request.minPullbackDepthPct .trendPullbackContinuationV1 (3 / 10)
  maxPullbackDepthPct :=
    orFor strategyId request.maxPullbackDepthPct .trendPullbackContinuationV1 5
  minReclaimPct := orFor strategyId request.minReclaimPct .trendPullbackContinuationV1 (5 / 100)
  minBreakdownPct := orFor strategyId request.minBreakdownPct .failedBreakdownReclaimV1 (5 / 100)
  minReclaimClosePct := orFor strategyId request.minReclaimClosePct .failedBreakdownReclaimV1 0
  minLowerWickPct := orFor strategyId request.minLowerWickPct .failedBreakdownReclaimV1 1
  minVolumeRatio :=
    orFor strategyId (orFor strategyId request.minVolumeRatio .trendPullbackContinuationV1 (8 / 10))
      .failedBreakdownReclaimV1 0
  maxChoppiness := orFor strategyId request.maxChoppiness .trendPullbackContinuationV1 60
  confidenceFloor := request.confidenceFloor
  stopLossPct := request.stopLossPct
  takeProfitPct := request.takeProfitPct
  holdingCandles := request.holdingCandles
  confirmationCandles :=
    if strategyId = .failedBreakdownReclaimV1 then request.confirmationCandles else 0
  requireConfirmationCloseAboveLookbackLow :=
    strategyId = .failedBreakdownReclaimV1 && request.requireConfirmationCloseAboveLookbackLow
  requireConfirmationLowAboveBreakdownLow :=
    strategyId = .failedBreakdownReclaimV1 && request.requireConfirmationLowAboveBreakdownLow
  notes := normalizeNotes request.notes

end Checks

def validateStrategyConfig (request : StrategyConfigUpdateRequest)
    (context : StrategyValidationContext) (validatedAt : DateTime) : StrategyConfigValidationResult :=
  match StrategyId.fromStr request.strategyId with
  | .error _ =>
    { strategyId := request.strategyId
      valid := false
      issues := errorIf True "unknown_strategy" "strategy_id"
        "strategy_id must be one of momentum_v1, volatility_breakout_v1, trend_filter_momentum_v2, trend_filter_momentum_v1, volatility_breakout_v2, volatility_compression_breakout_v1, range_reversion_v1, trend_pullback_continuation_v1, or failed_breakdown_reclaim_v1"
      normalizedConfig := none
      validatedAt := validatedAt }
  | .ok strategyId =>
    let issues := configIssues strategyId request context
    { strategyId := request.strategyId
      valid := !hasError issues
      issues := issues
      normalizedConfig := if hasError issues then none
        else some (normalizedConfig strategyId request context)
      validatedAt := validatedAt }

end AegisQuant.Strategy
