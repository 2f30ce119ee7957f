import AegisQuant.Core.Basic
import AegisQuant.Library.Fallible
import Mathlib.Data.List.Sort

/-! The strategy boundary used by replay, the paper pipeline and the shadow
path. `evaluate` is the engine's entry point with all its checks; the
decision bodies of the nine strategies enter through `StrategyRules`. -/
namespace AegisQuant
open Fallible

inductive StrategyId where
  | momentumV1
  | volatilityBreakoutV1
  | trendFilterMomentumV1
  | trendFilterMomentumV2
  | volatilityBreakoutV2
  | volatilityCompressionBreakoutV1
  | rangeReversionV1
  | trendPullbackContinuationV1
  | failedBreakdownReclaimV1
  deriving DecidableEq, Repr

def StrategyId.asStr : StrategyId → String
  | .momentumV1 => "momentum_v1"
  | .volatilityBreakoutV1 => "volatility_breakout_v1"
  | .trendFilterMomentumV1 => "trend_filter_momentum_v1"
  | .trendFilterMomentumV2 => "trend_filter_momentum_v2"
  | .volatilityBreakoutV2 => "volatility_breakout_v2"
  | .volatilityCompressionBreakoutV1 => "volatility_compression_breakout_v1"
  | .rangeReversionV1 => "range_reversion_v1"
  | .trendPullbackContinuationV1 => "trend_pullback_continuation_v1"
  | .failedBreakdownReclaimV1 => "failed_breakdown_reclaim_v1"

def StrategyId.fromStr (value : String) : Except CoreError StrategyId :=
  match toAsciiLowercase (trim value) with
  | "momentum_v1" => .ok .momentumV1
  | "volatility_breakout_v1" => .ok .volatilityBreakoutV1
  | "trend_filter_momentum_v1" => .ok .trendFilterMomentumV1
  | "trend_filter_momentum_v2" => .ok .trendFilterMomentumV2
  | "volatility_breakout_v2" => .ok .volatilityBreakoutV2
  | "volatility_compression_breakout_v1" => .ok .volatilityCompressionBreakoutV1
  | "range_reversion_v1" => .ok .rangeReversionV1
  | "trend_pullback_continuation_v1" => .ok .trendPullbackContinuationV1
  | "failed_breakdown_reclaim_v1" => .ok .failedBreakdownReclaimV1
  | other => .error (.unsupportedStrategyId other)

@[simp] theorem StrategyId.fromStr_asStr (strategyId : StrategyId) :
    StrategyId.fromStr strategyId.asStr = .ok strategyId := by
  cases strategyId <;> decide +kernel

inductive StrategyMode where
  | paper
  | research
  | shadow
  | live
  deriving DecidableEq, Repr

def StrategyMode.asStr : StrategyMode → String
  | .paper => "paper"
  | .research => "research"
  | .shadow => "shadow"
  | .live => "live"

def StrategyMode.fromStr (value : String) : Except CoreError StrategyMode :=
  match toAsciiLowercase (trim value) with
  | "paper" => .ok .paper
  | "research" => .ok .research
  | "shadow" => .ok .shadow
  | "live" => .ok .live
  | "signal_only" => .ok .paper
  | other => .error (.unsupportedStrategyMode other)

inductive SignalSide where
  | buy
  | sell
  deriving DecidableEq, Repr

def SignalSide.asStr : SignalSide → String
  | .buy => "BUY"
  | .sell => "SELL"

def SignalSide.fromStr (value : String) : Except CoreError SignalSide :=
  match toAsciiUppercase (trim value) with
  | "BUY" => .ok .buy
  | "SELL" => .ok .sell
  | other => .error (.unsupportedSignalSide other)

@[simp] theorem SignalSide.fromStr_asStr (side : SignalSide) :
    SignalSide.fromStr side.asStr = .ok side := by
  cases side <;> rfl

def SignalSide.toSide : SignalSide → Side
  | .buy => .buy
  | .sell => .sell

inductive SignalReason where
  | threeConsecutiveHigherCloses
  | momentumHigherCloses
  | trendFilterMomentum
  | breakoutAboveRecentHigh
  | volumeConfirmedBreakout
  | volatilityCompressionBreakout
  | rangeReversion
  | trendPullbackContinuation
  | failedBreakdownReclaim
  | conditionsNotMet
  | insufficientHistory
  | strategyDisabled
  deriving DecidableEq, Repr

def SignalReason.asStr : SignalReason → String
  | .threeConsecutiveHigherCloses => "three_consecutive_higher_closes"
  | .momentumHigherCloses => "momentum_higher_closes"
  | .trendFilterMomentum => "trend_filter_momentum"
  | .breakoutAboveRecentHigh => "breakout_above_recent_high"
  | .volumeConfirmedBreakout => "volume_confirmed_breakout"
  | .volatilityCompressionBreakout => "volatility_compression_breakout"
  | .rangeReversion => "range_reversion"
  | .trendPullbackContinuation => "trend_pullback_continuation"
  | .failedBreakdownReclaim => "failed_breakdown_reclaim"
  | .conditionsNotMet => "conditions_not_met"
  | .insufficientHistory => "insufficient_history"
  | .strategyDisabled => "strategy_disabled"

/-- A confidence outside the unit interval cannot be built. -/
structure SignalConfidence where
  value : Decimal
  nonneg : 0 ≤ value
  le_one : value ≤ 1
  deriving DecidableEq

def SignalConfidence.new (value : Decimal) : Except CoreError SignalConfidence :=
  if h : value < 0 ∨ value > 1 then .error (.invalidSignalConfidence value)
  else .ok ⟨value, not_lt.mp (fun hn => h (.inl hn)), not_lt.mp (fun hn => h (.inr hn))⟩

structure StrategyConfig where
  strategyId : StrategyId
  enabled : Bool
  mode : StrategyMode
  symbols : List Symbol
  timeframe : CandleInterval
  suggestedNotional : Decimal
  maxSignalAgeMs : Int
  cooldownSeconds : Nat
  lookbackCandles : Nat
  trendLookbackCandles : Option Nat := none
  momentumLookbackCandles : Option Nat := none
  compressionLookbackCandles : Option Nat := none
  breakoutLookbackCandles : Option Nat := none
  pullbackLookbackCandles : Option Nat := none
  pullbackSmaLookbackCandles : Option Nat := none
  compressionPercentileThreshold : Option Decimal := none
  minBreakoutPct : Option Decimal := none
  maxBreakoutExtensionPct : Option Decimal := none
  minVolumeExpansionRatio : Option Decimal := none
  lowerBandPct : Option Decimal := none
  upperBandPct : Option Decimal := none
  minRangeWidthPct : Option Decimal := none
  maxRangeWidthPct : Option Decimal := none
  minCloseAboveSmaPct : Option Decimal := none
  maxCloseAboveSmaPct : Option Decimal := none
  minMomentumReturnPct : Option Decimal := none
  minTrendReturnPct : Option Decimal := none
  minTrendSlopePct : Option Decimal := none
  minPullbackDepthPct : Option Decimal := none
  maxPullbackDepthPct : Option Decimal := none
  minReclaimPct : Option Decimal := none
  minBreakdownPct : Option Decimal := none
  minReclaimClosePct : Option Decimal := none
  minLowerWickPct : Option Decimal := none
  minVolumeRatio : Option Decimal := none
  maxChoppiness : Option Decimal := none
  confidenceFloor : Option Decimal := none
  stopLossPct : Option Decimal := none
  takeProfitPct : Option Decimal := none
  holdingCandles : Option Nat := none
  confirmationCandles : Nat := 0
  requireConfirmationCloseAboveLookbackLow : Bool := false
  requireConfirmationLowAboveBreakdownLow : Bool := false
  notes : Option String := none

def StrategyConfig.validate (config : StrategyConfig) : Except CoreError Unit :=
  if config.suggestedNotional ≤ 0 then .error .invalidStrategyNotional
  else if config.maxSignalAgeMs ≤ 0 then
    .error (.invalidStrategyMaxSignalAgeMs config.maxSignalAgeMs)
  else if config.symbols.isEmpty then .error .emptyStrategySymbols
  else .ok ()

structure StrategySignal where
  signalId : Uuid
  strategyId : StrategyId
  symbol : Symbol
  side : SignalSide
  confidence : SignalConfidence
  timeframe : CandleInterval
  reason : SignalReason
  suggestedNotional : Decimal
  stopLossPct : Option Decimal
  takeProfitPct : Option Decimal
  sourceCandleOpenTime : DateTime
  correlationId : Uuid
  createdAt : DateTime
  deriving DecidableEq

structure StrategyEvaluationContext where
  correlationId : Uuid
  strategyId : StrategyId
  symbol : Symbol
  config : StrategyConfig
  candles : List Candle
  evaluatedAt : DateTime

structure StrategyEvaluationResult where
  strategyId : StrategyId
  symbol : Symbol
  timeframe : CandleInterval
  generated : Bool
  reason : SignalReason
  signal : Option StrategySignal
  correlationId : Uuid
  evaluatedAt : DateTime
  deriving DecidableEq

/-- What one strategy body decides on the normalized closed candles. -/
inductive StrategyOutcome where
  | noSignal (reason : SignalReason)
  | generated (sourceCandle : Candle) (reason : SignalReason) (confidence : Decimal)

abbrev StrategyRules :=
  StrategyId → StrategyEvaluationContext → List Candle → Except Fault StrategyOutcome

/-- The body of `momentum_v1`: every close of the lookback is higher than the
one before. -/
def evaluateMomentum : StrategyRules := fun _ context candles =>
  let lookback := context.config.lookbackCandles
  if candles.length < lookback + 1 then .ok (.noSignal .insufficientHistory)
  else
    let recent := candles.drop (candles.length - (lookback + 1))
    if (recent.zip recent.tail).all fun pair => pair.2.close > pair.1.close then
      match recent.getLast? with
      | none => .error (.message "recent candles must be present")
      | some latest =>
        let reason := if lookback = 3 then .threeConsecutiveHigherCloses else .momentumHigherCloses
        .ok (.generated latest reason (65 / 100))
    else .ok (.noSignal .conditionsNotMet)

/-- Stable insertion by open time, the order `sort_by_key` produces. -/
def normalizeClosedCandles (candles : List Candle) : List Candle :=
  (candles.filter (·.isClosed)).insertionSort (fun left right => left.openTime ≤ right.openTime)

def noSignalResult (context : StrategyEvaluationContext) (timeframe : CandleInterval)
    (reason : SignalReason) : StrategyEvaluationResult where
  strategyId := context.strategyId
  symbol := context.symbol
  timeframe := timeframe
  generated := false
  reason := reason
  signal := none
  correlationId := context.correlationId
  evaluatedAt := context.evaluatedAt

def generatedResult (signalId : Uuid) (context : StrategyEvaluationContext) (sourceCandle : Candle)
    (reason : SignalReason) (confidence : Decimal) : Except Fault StrategyEvaluationResult :=
  if context.config.confidenceFloor.any (confidence < ·) then
    .ok (noSignalResult context context.config.timeframe .conditionsNotMet)
  else do
    let checked ← (SignalConfidence.new confidence).mapError Fault.core
    let signal : StrategySignal := {
      signalId := signalId
      strategyId := context.strategyId
      symbol := context.symbol
      side := .buy
      confidence := checked
      timeframe := context.config.timeframe
      reason := reason
      suggestedNotional := context.config.suggestedNotional
      stopLossPct := context.config.stopLossPct
      takeProfitPct := context.config.takeProfitPct
      sourceCandleOpenTime := sourceCandle.openTime
      correlationId := context.correlationId
      createdAt := context.evaluatedAt }
    return {
      strategyId := context.strategyId
      symbol := context.symbol
      timeframe := context.config.timeframe
      generated := true
      reason := reason
      signal := some signal
      correlationId := context.correlationId
      evaluatedAt := context.evaluatedAt }

/-- `signalId` is the identifier a generated signal draws. -/
def evaluate (rules : StrategyRules) (signalId : Uuid) (context : StrategyEvaluationContext) :
    Except Fault StrategyEvaluationResult := do
  context.config.validate.mapError Fault.core
  if context.config.strategyId ≠ context.strategyId then
    .error (.core (.unsupportedStrategyId
      ("strategy config does not match evaluation target: " ++ context.config.strategyId.asStr ++
        " != " ++ context.strategyId.asStr)))
  else
    let candles := normalizeClosedCandles context.candles
    if context.config.enabled = false then
      return noSignalResult context context.config.timeframe .strategyDisabled
    else
      match ← rules context.strategyId context candles with
      | .noSignal reason => return noSignalResult context context.config.timeframe reason
      | .generated sourceCandle reason confidence =>
        generatedResult signalId context sourceCandle reason confidence

section Specifications
variable {rules : StrategyRules} {signalId : Uuid} {context : StrategyEvaluationContext}
  {result : StrategyEvaluationResult} {signal : StrategySignal}

/-- The signal an evaluation makes of the candle, reason and confidence that
the strategy body decided on. -/
structure GeneratedBy (rules : StrategyRules) (signalId : Uuid)
    (context : StrategyEvaluationContext) (signal : StrategySignal) : Prop where
  signalId_eq : signal.signalId = signalId
  strategyId_eq : signal.strategyId = context.strategyId
  symbol_eq : signal.symbol = context.symbol
  timeframe_eq : signal.timeframe = context.config.timeframe
  outcome : ∃ sourceCandle confidence, rules context.strategyId context
      (normalizeClosedCandles context.candles) =
        .ok (.generated sourceCandle signal.reason confidence) ∧
    signal.sourceCandleOpenTime = sourceCandle.openTime

theorem generated_of_generatedResult {sourceCandle : Candle} {reason : SignalReason}
    {confidence : Decimal}
    (hResult : generatedResult signalId context sourceCandle reason confidence = .ok result)
    (hSignal : result.signal = some signal)
    (hOutcome : rules context.strategyId context (normalizeClosedCandles context.candles) =
      .ok (.generated sourceCandle reason confidence)) :
    GeneratedBy rules signalId context signal := by
  unfold generatedResult at hResult
  split at hResult
  · cases hResult
    cases hSignal
  · simp only [bind_eq_ok, pure_eq_ok] at hResult
    obtain ⟨checked, -, rfl⟩ := hResult
    cases hSignal
    exact ⟨rfl, rfl, rfl, rfl, sourceCandle, confidence, hOutcome, rfl⟩

theorem generated_of_evaluate (hResult : evaluate rules signalId context = .ok result)
    (hSignal : result.signal = some signal) : GeneratedBy rules signalId context signal := by
  obtain ⟨_, -, hResult⟩ := bind_eq_ok.mp hResult
  split at hResult
  · cases hResult
  simp only at hResult
  split at hResult
  · cases hResult
    cases hSignal
  obtain ⟨outcome, hOutcome, hResult⟩ := bind_eq_ok.mp hResult
  cases outcome with
  | noSignal reason =>
    cases hResult
    cases hSignal
  | generated sourceCandle reason confidence =>
    exact generated_of_generatedResult hResult hSignal hOutcome

end Specifications

end AegisQuant
