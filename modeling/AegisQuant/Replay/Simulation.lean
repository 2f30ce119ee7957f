import AegisQuant.Core.Strategy

/-! The backtest simulation of the replay engine. One pass over the candles
evaluates exits, then the strategy on the candles seen so far, then opens at
most one position; a position still open after the last candle is closed at
its close. -/
namespace AegisQuant.Replay
open Fallible

def bpsDenominator : Decimal := 10000

structure BacktestRequest where
  strategyId : String
  symbol : String
  timeframe : String
  startTime : DateTime
  endTime : DateTime
  initialCapital : Decimal
  feeBps : Decimal
  slippageBps : Decimal
  correlationId : Option Uuid
  holdingCandles : Option Nat

structure BacktestConfig where
  holdingCandles : Nat
  feeBps : Decimal
  slippageBps : Decimal

def BacktestRequest.config (request : BacktestRequest) : BacktestConfig where
  holdingCandles := request.holdingCandles.getD 3
  feeBps := request.feeBps
  slippageBps := request.slippageBps

def BacktestConfig.validate (config : BacktestConfig) : Except CoreError Unit := do
  require (config.holdingCandles ≠ 0) .invalidHoldingCandles
  require (0 ≤ config.feeBps) (.invalidBacktestBps "fee_bps")
  require (0 ≤ config.slippageBps) (.invalidBacktestBps "slippage_bps")

def BacktestRequest.validate (request : BacktestRequest) : Except CoreError Unit := do
  require (trim request.strategyId ≠ "") .emptyBacktestStrategyId
  require (trim request.symbol ≠ "") .emptyBacktestSymbol
  require (trim request.timeframe ≠ "") .emptyBacktestTimeframe
  require (request.startTime < request.endTime) .invalidBacktestTimeRange
  require (0 < request.initialCapital) .invalidBacktestInitialCapital
  let _ ← CandleInterval.fromStr request.timeframe
  request.config.validate

structure BacktestPosition where
  side : Side
  entryTime : DateTime
  entryPrice : Decimal
  quantity : Decimal
  notional : Decimal
  feePaid : Decimal
  slippageCost : Decimal
  remainingHoldingCandles : Nat
  stopLossPrice : Option Decimal
  takeProfitPrice : Option Decimal

structure BacktestTrade where
  id : Uuid
  runId : Uuid
  strategyId : String
  symbol : String
  side : Side
  entryTime : DateTime
  entryPrice : Decimal
  exitTime : Option DateTime
  exitPrice : Option Decimal
  quantity : Decimal
  notional : Decimal
  feePaid : Decimal
  slippageCost : Decimal
  realizedPnl : Decimal
  reason : String
  createdAt : DateTime

structure BacktestEquityPoint where
  id : Uuid
  runId : Uuid
  timestamp : DateTime
  equity : Decimal
  drawdownPct : Decimal

inductive ReplaySuppressionReason where
  | cooldownActive
  | positionAlreadyOpen
  | insufficientForwardData
  | invalidSignal
  | none
  deriving DecidableEq, Repr

structure ReplaySuppressionCount where
  reason : ReplaySuppressionReason
  count : Int

inductive ReplayRunStatus where
  | completed
  | failed
  deriving DecidableEq, Repr

structure BacktestResult where
  runId : Uuid
  strategyId : String
  symbol : String
  timeframe : String
  startTime : DateTime
  endTime : DateTime
  initialCapital : Decimal
  finalEquity : Decimal
  pnl : Decimal
  pnlPct : Decimal
  maxDrawdownPct : Decimal
  winRate : Decimal
  tradeCount : Int
  winningTrades : Int
  losingTrades : Int
  avgWin : Decimal
  avgLoss : Decimal
  feePaid : Decimal
  slippageCost : Decimal
  rawSignalCount : Int
  cooldownSuppressedCount : Int
  openPositionSuppressedCount : Int
  executedTradeCount : Int
  suppressionBreakdown : List ReplaySuppressionCount
  lastSignalTime : Option DateTime
  lastExecutedEntryTime : Option DateTime
  status : ReplayRunStatus
  createdAt : DateTime
  correlationId : Option Uuid

structure BacktestExecution where
  result : BacktestResult
  trades : List BacktestTrade
  equityCurve : List BacktestEquityPoint

/-- `suppressionCounts` reads a missing key as zero, as every reader does. -/
structure SimulationState where
  cash : Decimal
  peakEquity : Decimal
  position : Option BacktestPosition
  trades : List BacktestTrade
  equityCurve : List BacktestEquityPoint
  feePaid : Decimal
  slippageCost : Decimal
  rawSignalCount : Int
  suppressionCounts : ReplaySuppressionReason → Int
  lastSignalTime : Option DateTime
  lastExecutedEntryTime : Option DateTime

/-- What stays fixed during one call of `simulate_backtest`; `signalId` lists
the identifiers drawn by the signals generated at each candle. -/
structure Simulation where
  runId : Uuid
  signalId : Nat → Uuid
  createdAt : DateTime
  correlationId : Uuid
  request : BacktestRequest
  strategyConfig : StrategyConfig
  candles : List Candle

def feeAmount (notional feeBps : Decimal) : Decimal := notional * feeBps / bpsDenominator

def applyEntrySlippage (price slippageBps : Decimal) : Decimal :=
  price * (1 + slippageBps / bpsDenominator)

def applyExitSlippage (price slippageBps : Decimal) : Decimal :=
  price * (1 - slippageBps / bpsDenominator)

def deterministicTradeId (runId : Uuid) (entryTime exitTime : DateTime) : Uuid :=
  ⟨runId.value ^^^ ((BitVec.ofInt 128 entryTime.timestampMillis <<< 64) |||
    BitVec.ofInt 128 exitTime.timestampMillis)⟩

def deterministicPointId (runId : Uuid) (timestamp : DateTime) : Uuid :=
  ⟨runId.value ^^^ BitVec.ofInt 128 timestamp.timestampMillis⟩

def recordSuppression (state : SimulationState) (reason : ReplaySuppressionReason) :
    SimulationState :=
  { state with
    suppressionCounts :=
      Function.update state.suppressionCounts reason (state.suppressionCounts reason + 1) }

def cooldownActive (lastExecutedEntryTime : Option DateTime) (signalTime : DateTime)
    (cooldownSeconds : Nat) : Bool :=
  match lastExecutedEntryTime with
  | none => false
  | some lastEntry =>
    if cooldownSeconds = 0 then false
    else signalTime - lastEntry < DateTime.seconds cooldownSeconds

def confirmedEntryIndex (strategyConfig : StrategyConfig) (candles : List Candle)
    (signalIndex : Nat) : Option Nat :=
  if strategyConfig.strategyId ≠ .failedBreakdownReclaimV1 then some (signalIndex + 1)
  else
    let confirmationCandles := strategyConfig.confirmationCandles
    if confirmationCandles = 0 then some (signalIndex + 1)
    else do
      let signalCandle ← candles[signalIndex]?
      let lookback := strategyConfig.lookbackCandles
      if signalIndex < lookback then none
      else
        let lookbackLow :=
          (((candles.drop (signalIndex - lookback)).take lookback).map (·.low)).min?.getD
            signalCandle.low
        let breakdownLow := signalCandle.low
        let confirmationEndIndex := signalIndex + confirmationCandles
        if candles.length ≤ confirmationEndIndex then none
        else
          let confirmationWindow := (candles.drop (signalIndex + 1)).take confirmationCandles
          if strategyConfig.requireConfirmationCloseAboveLookbackLow &&
              confirmationWindow.any (fun candle => candle.close < lookbackLow) then none
          else if strategyConfig.requireConfirmationLowAboveBreakdownLow &&
              confirmationWindow.any (fun candle => candle.low < breakdownLow) then none
          else some (confirmationEndIndex + 1)

/-- Both divisions are unguarded in the source and panic on a zero divisor. -/
def maybeOpenPosition (backtestConfig : BacktestConfig) (strategyConfig : StrategyConfig)
    (nextCandle : Candle) (availableCash : Decimal) : Except Fault (Option BacktestPosition) := do
  let feeMultiplier := 1 + backtestConfig.feeBps / bpsDenominator
  let maxNotional ← checkedDiv availableCash feeMultiplier
  let targetNotional := min strategyConfig.suggestedNotional maxNotional
  if targetNotional ≤ 0 then return none
  else
    let entryPrice := applyEntrySlippage nextCandle.open backtestConfig.slippageBps
    let quantity ← checkedDiv targetNotional entryPrice
    if quantity ≤ 0 then return none
    else
      let executedNotional := quantity * entryPrice
      return some {
        side := .buy
        entryTime := nextCandle.openTime
        entryPrice := entryPrice
        quantity := quantity
        notional := executedNotional
        feePaid := feeAmount executedNotional backtestConfig.feeBps
        slippageCost := (entryPrice - nextCandle.open) * quantity
        remainingHoldingCandles := backtestConfig.holdingCandles
        stopLossPrice := strategyConfig.stopLossPct.map fun pct => entryPrice * (1 - pct)
        takeProfitPrice := strategyConfig.takeProfitPct.map fun pct =>
          entryPrice * (1 + pct / 100) }

/-- The trade recorded when `position` is closed. -/
def closingTrade (sim : Simulation) (position : BacktestPosition) (exitTime : DateTime)
    (referenceExitPrice : Decimal) (reason : String) : BacktestTrade :=
  let config := sim.request.config
  let exitPrice := applyExitSlippage referenceExitPrice config.slippageBps
  let exitNotional := position.quantity * exitPrice
  let exitFee := feeAmount exitNotional config.feeBps
  let exitSlippageCost := (referenceExitPrice - exitPrice) * position.quantity
  { id := deterministicTradeId sim.runId position.entryTime exitTime
    runId := sim.runId
    strategyId := sim.request.strategyId
    symbol := sim.request.symbol
    side := position.side
    entryTime := position.entryTime
    entryPrice := position.entryPrice
    exitTime := some exitTime
    exitPrice := some exitPrice
    quantity := position.quantity
    notional := position.notional
    feePaid := position.feePaid + exitFee
    slippageCost := position.slippageCost + exitSlippageCost
    realizedPnl := exitNotional - exitFee - position.notional - position.feePaid
    reason := reason
    createdAt := sim.createdAt }

def closePosition (sim : Simulation) (position : BacktestPosition) (exitTime : DateTime)
    (referenceExitPrice : Decimal) (reason : String) (state : SimulationState) :
    SimulationState :=
  let config := sim.request.config
  let exitPrice := applyExitSlippage referenceExitPrice config.slippageBps
  let exitNotional := position.quantity * exitPrice
  let exitFee := feeAmount exitNotional config.feeBps
  let exitSlippageCost := (referenceExitPrice - exitPrice) * position.quantity
  { state with
    cash := state.cash - (position.notional + position.feePaid) + (exitNotional - exitFee)
    feePaid := state.feePaid + (position.feePaid + exitFee)
    slippageCost := state.slippageCost + (position.slippageCost + exitSlippageCost)
    trades := state.trades ++ [closingTrade sim position exitTime referenceExitPrice reason] }

/-- The position slot of `state` has already been emptied by the caller; the
result is the position left open and the state after a possible close. -/
def evaluateExit (sim : Simulation) (position : BacktestPosition) (candle : Candle)
    (state : SimulationState) : Option BacktestPosition × SimulationState :=
  match position.stopLossPrice.filter (candle.low ≤ ·) with
  | some stopLossPrice =>
    (none, closePosition sim position candle.closeTime stopLossPrice "stop_loss" state)
  | none =>
    match position.takeProfitPrice.filter (candle.high ≥ ·) with
    | some takeProfitPrice =>
      (none, closePosition sim position candle.closeTime takeProfitPrice "take_profit" state)
    | none =>
      let held := { position with
        remainingHoldingCandles := position.remainingHoldingCandles - 1 }
      if held.remainingHoldingCandles = 0 then
        (none, closePosition sim held candle.closeTime candle.close "holding_period" state)
      else (some held, state)

def upsertPoint (point : BacktestEquityPoint) : List BacktestEquityPoint → List BacktestEquityPoint
  | [] => [point]
  | existing :: rest =>
    if existing.timestamp = point.timestamp then point :: rest
    else existing :: upsertPoint point rest

def recordEquity (runId : Uuid) (timestamp : DateTime) (markPrice : Decimal)
    (state : SimulationState) : SimulationState :=
  let equity := match state.position with
    | some position =>
      state.cash + position.quantity * markPrice - position.feePaid - position.notional
    | none => state.cash
  let peakEquity := if equity > state.peakEquity then equity else state.peakEquity
  let drawdownPct := if peakEquity > 0 then (peakEquity - equity) / peakEquity * 100 else 0
  { state with
    peakEquity := peakEquity
    equityCurve := upsertPoint
      { id := deterministicPointId runId timestamp
        runId := runId
        timestamp := timestamp
        equity := equity
        drawdownPct := drawdownPct } state.equityCurve }

def exitPhase (sim : Simulation) (candle : Candle) (state : SimulationState) : SimulationState :=
  match state.position with
  | none => state
  | some position =>
    let outcome := evaluateExit sim position candle { state with position := none }
    { outcome.2 with position := outcome.1 }

/-- The signal phase: the result says whether the iteration ends early, that
is without recording equity. -/
def signalPhase (sim : Simulation) (index : Nat) (candle : Candle) (signal : StrategySignal)
    (before : SimulationState) : Except Fault (Bool × SimulationState) :=
  let state := { before with
    rawSignalCount := before.rawSignalCount + 1
    lastSignalTime := some candle.closeTime }
  if signal.side ≠ .buy then .ok (false, recordSuppression state .invalidSignal)
  else if cooldownActive state.lastExecutedEntryTime candle.closeTime
      sim.strategyConfig.cooldownSeconds then
    .ok (false, recordSuppression state .cooldownActive)
  else if state.position.isSome then .ok (false, recordSuppression state .positionAlreadyOpen)
  else
    match confirmedEntryIndex sim.strategyConfig sim.candles index with
    | none => .ok (true, recordSuppression state .invalidSignal)
    | some entryIndex =>
      match sim.candles[entryIndex]? with
      | none => .ok (true, recordSuppression state .insufficientForwardData)
      | some nextCandle => do
          match ← maybeOpenPosition sim.request.config sim.strategyConfig nextCandle
              state.cash with
          | some position =>
            .ok (false, recordSuppression
              { state with
                position := some position
                lastExecutedEntryTime := some position.entryTime } .none)
          | none => .ok (false, recordSuppression { state with position := none } .invalidSignal)

/-- One iteration of the candle loop. The strategy sees the candles up to and
including the current one. -/
def simulateStep (rules : StrategyRules) (sim : Simulation) (strategyId : StrategyId)
    (symbol : Symbol) (state : SimulationState) (index : Fin sim.candles.length) :
    Except Fault SimulationState := do
  let candle := sim.candles.get index
  let exited := exitPhase sim candle state
  let evaluation ← evaluate rules (sim.signalId index) {
    correlationId := sim.correlationId
    strategyId := strategyId
    symbol := symbol
    config := sim.strategyConfig
    candles := sim.candles.take (index + 1)
    evaluatedAt := candle.closeTime }
  match evaluation.signal with
  | none => return recordEquity sim.runId candle.closeTime candle.close exited
  | some signal =>
    let (early, next) ← signalPhase sim index candle signal exited
    if early then return next
    else return recordEquity sim.runId candle.closeTime candle.close next

def initialState (request : BacktestRequest) : SimulationState where
  cash := request.initialCapital
  peakEquity := request.initialCapital
  position := none
  trades := []
  equityCurve := []
  feePaid := 0
  slippageCost := 0
  rawSignalCount := 0
  suppressionCounts := fun _ => 0
  lastSignalTime := none
  lastExecutedEntryTime := none

/-- A position left after the last candle is closed at that candle's close. -/
def replayEnd (sim : Simulation) (state : SimulationState) : SimulationState :=
  match state.position, sim.candles.getLast? with
  | some position, some lastCandle =>
    recordEquity sim.runId lastCandle.closeTime lastCandle.close
      (closePosition sim position lastCandle.closeTime lastCandle.close "replay_end"
        { state with position := none })
  | _, _ => { state with position := none }

def averageTradePnl (values : List Decimal) (count : Int) : Decimal :=
  if count = 0 then 0 else values.sum / count

def suppressionBreakdown (counts : ReplaySuppressionReason → Int) : List ReplaySuppressionCount :=
  [.cooldownActive, .positionAlreadyOpen, .insufficientForwardData, .invalidSignal, .none].map
    fun reason => { reason := reason, count := counts reason }

def buildResult (sim : Simulation) (state : SimulationState) : BacktestResult :=
  let request := sim.request
  let winners := (state.trades.filter (fun trade => trade.realizedPnl > 0)).map (·.realizedPnl)
  let losers := (state.trades.filter (fun trade => trade.realizedPnl < 0)).map (·.realizedPnl)
  let tradeCount : Int := state.trades.length
  let pnl := state.cash - request.initialCapital
  { runId := sim.runId
    strategyId := request.strategyId
    symbol := request.symbol
    timeframe := request.timeframe
    startTime := request.startTime
    endTime := request.endTime
    initialCapital := request.initialCapital
    finalEquity := state.cash
    pnl := pnl
    pnlPct := if request.initialCapital > 0 then pnl / request.initialCapital * 100 else 0
    maxDrawdownPct := (state.equityCurve.map (·.drawdownPct)).max?.getD 0
    winRate := if tradeCount > 0 then (winners.length : Decimal) / tradeCount * 100 else 0
    tradeCount := tradeCount
    winningTrades := winners.length
    losingTrades := losers.length
    avgWin := averageTradePnl winners winners.length
    avgLoss := averageTradePnl losers losers.length
    feePaid := state.feePaid
    slippageCost := state.slippageCost
    rawSignalCount := state.rawSignalCount
    cooldownSuppressedCount := state.suppressionCounts .cooldownActive
    openPositionSuppressedCount := state.suppressionCounts .positionAlreadyOpen
    executedTradeCount := tradeCount
    suppressionBreakdown := suppressionBreakdown state.suppressionCounts
    lastSignalTime := state.lastSignalTime
    lastExecutedEntryTime := state.lastExecutedEntryTime
    status := .completed
    createdAt := sim.createdAt
    correlationId := some sim.correlationId }

def failureResult (sim : Simulation) : BacktestResult where
  runId := sim.runId
  strategyId := sim.request.strategyId
  symbol := sim.request.symbol
  timeframe := sim.request.timeframe
  startTime := sim.request.startTime
  endTime := sim.request.endTime
  initialCapital := sim.request.initialCapital
  finalEquity := sim.request.initialCapital
  pnl := 0
  pnlPct := 0
  maxDrawdownPct := 0
  winRate := 0
  tradeCount := 0
  winningTrades := 0
  losingTrades := 0
  avgWin := 0
  avgLoss := 0
  feePaid := 0
  slippageCost := 0
  rawSignalCount := 0
  cooldownSuppressedCount := 0
  openPositionSuppressedCount := 0
  executedTradeCount := 0
  suppressionBreakdown := suppressionBreakdown fun _ => 0
  lastSignalTime := none
  lastExecutedEntryTime := none
  status := .failed
  createdAt := sim.createdAt
  correlationId := some sim.correlationId

def simulateBacktest (rules : StrategyRules) (sim : Simulation) : Except Fault BacktestExecution :=
  if sim.candles = [] then
    .ok { result := failureResult sim, trades := [], equityCurve := [] }
  else do
    let strategyId ← (StrategyId.fromStr sim.request.strategyId).mapError Fault.core
    let symbol ← (Symbol.new sim.request.symbol).mapError Fault.core
    let looped ← (List.finRange sim.candles.length).foldlM
      (simulateStep rules sim strategyId symbol) (initialState sim.request)
    let state := replayEnd sim looped
    return { result := buildResult sim state, trades := state.trades,
             equityCurve := state.equityCurve }

end AegisQuant.Replay
