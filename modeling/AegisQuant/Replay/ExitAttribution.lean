import AegisQuant.Library.SortByKey
import AegisQuant.Replay.SignalScan
import Mathlib.Data.List.Destutter

/-! Exit attribution. Every signal that the scan executes is followed for each
of the holding windows, whether or not the backtest would have held it that
long. -/
namespace AegisQuant.Replay
open SortByKey List

structure StrategyExitAttributionRequest where
  strategyId : String
  symbol : String
  timeframe : String
  startTime : DateTime
  endTime : DateTime
  holdingWindows : List Nat
  feeBps : Decimal
  slippageBps : Decimal

def StrategyExitAttributionRequest.validate (request : StrategyExitAttributionRequest) :
    Except CoreError Unit :=
  validateAttribution request.strategyId request.symbol request.timeframe request.startTime
    request.endTime request.feeBps request.slippageBps

/-- The positive windows, or the default ones, in order and once each. -/
def StrategyExitAttributionRequest.normalizedHoldingWindows
    (request : StrategyExitAttributionRequest) : List Nat :=
  let windows := request.holdingWindows.filter (· > 0)
  (sort id (if windows = [] then [1, 3, 5, 10, 20] else windows)).destutter (· ≠ ·)

inductive StrategyExitAttributionStatus where
  | promising
  | weak
  | negative
  | insufficientData
  | dataQualityDegraded
  deriving DecidableEq, Repr

inductive StrategyExitAttributionRecommendation where
  | promising
  | weak
  | negative
  | insufficientData
  | dataQualityDegraded
  deriving DecidableEq, Repr

structure StrategyExitAttributionTrade where
  strategyId : String
  symbol : String
  timeframe : String
  signalTime : DateTime
  entryCandleOpenTime : DateTime
  entryCandleCloseTime : DateTime
  entryPrice : Decimal
  holdingCandles : Nat
  exitCandleOpenTime : Option DateTime
  exitCandleCloseTime : Option DateTime
  exitPrice : Option Decimal
  grossPnlPct : Option Decimal
  netPnlPct : Option Decimal
  feeDragPct : Decimal
  status : StrategyExitAttributionRecommendation

structure StrategyExitAttributionHoldingWindow where
  holdingCandles : Nat
  tradeCount : Int
  winRate : Decimal
  avgNetPnlPct : Decimal
  medianNetPnlPct : Decimal
  totalNetPnlPct : Decimal
  bestNetPnlPct : Decimal
  worstNetPnlPct : Decimal
  maxDrawdownPct : Option Decimal
  feeDragPct : Decimal
  recommendation : StrategyExitAttributionRecommendation

structure StrategyExitAttributionResult where
  strategyId : String
  symbol : String
  timeframe : String
  startTime : DateTime
  endTime : DateTime
  totalRawSignals : Int
  totalExecutableSignals : Int
  suppressionBreakdown : List ReplaySuppressionCount
  perHoldingWindow : List StrategyExitAttributionHoldingWindow
  bestHoldingWindow : Option Nat
  worstHoldingWindow : Option Nat
  status : StrategyExitAttributionStatus
  recommendation : StrategyExitAttributionRecommendation
  trades : List StrategyExitAttributionTrade
  computedAt : DateTime

structure ExitAttributionState where
  scan : ScanState
  trades : List StrategyExitAttributionTrade
  dataQualityDegraded : Bool

def StrategyExitAttributionRequest.feeDragPct (request : StrategyExitAttributionRequest) : Decimal :=
  (request.feeBps + request.slippageBps) / 100

/-- The trade of an executed signal for one holding window, and whether there
is a gap in the candles that it is held over. -/
def attributedTrade (request : StrategyExitAttributionRequest) (interval : CandleInterval)
    (candles : List Candle) (signalTime : DateTime) (entryIndex : Nat) (entry : Candle)
    (holdingCandles : Nat) : StrategyExitAttributionTrade × Bool :=
  let open_ : StrategyExitAttributionTrade := {
    strategyId := request.strategyId
    symbol := request.symbol
    timeframe := request.timeframe
    signalTime := signalTime
    entryCandleOpenTime := entry.openTime
    entryCandleCloseTime := entry.closeTime
    entryPrice := entry.open
    holdingCandles := holdingCandles
    exitCandleOpenTime := none
    exitCandleCloseTime := none
    exitPrice := none
    grossPnlPct := none
    netPnlPct := none
    feeDragPct := request.feeDragPct
    status := .insufficientData }
  let exitIndex := entryIndex + holdingCandles
  match candles[exitIndex]? with
  | none => (open_, false)
  | some exit =>
    let gap := gapDetected interval candles entryIndex exitIndex
    let grossPnl := grossPnlPct entry exit
    let netPnl := grossPnl - request.feeDragPct
    ({ open_ with
      exitCandleOpenTime := some exit.openTime
      exitCandleCloseTime := some exit.closeTime
      exitPrice := some exit.close
      grossPnlPct := some grossPnl
      netPnlPct := some netPnl
      status := if gap then .dataQualityDegraded
        else if netPnl > 0 then .promising
        else .negative }, gap)

def attributeExitsAt (rules : StrategyRules) (scan : SignalScan)
    (request : StrategyExitAttributionRequest) (interval : CandleInterval)
    (state : ExitAttributionState) (index : Fin scan.candles.length) :
    Except Fault ExitAttributionState := do
  let candle := scan.candles.get index
  let (next, executed) ← scanAt rules scan index candle state.scan
  match executed with
  | none => return { state with scan := next }
  | some (entryIndex, entry) =>
    let attributed := request.normalizedHoldingWindows.map
      (attributedTrade request interval scan.candles candle.closeTime entryIndex entry)
    return {
      scan := next
      trades := state.trades ++ attributed.map (·.1)
      dataQualityDegraded := state.dataQualityDegraded || attributed.any (·.2) }

/-- The deepest fall of a series of percentages, summed up in its order. -/
def maxDrawdownFromPctSeries (values : List Decimal) : Decimal :=
  (values.foldl (fun (cumulative, peak, maxDrawdown) value =>
    let cumulative := cumulative + value
    let peak := if cumulative > peak then cumulative else peak
    let drawdown := peak - cumulative
    (cumulative, peak, if drawdown > maxDrawdown then drawdown else maxDrawdown))
    ((0, 0, 0) : Decimal × Decimal × Decimal)).2.2

/-- The trades of one holding window, those over a gap left out. -/
def holdingWindowSummary (request : StrategyExitAttributionRequest)
    (trades : List StrategyExitAttributionTrade) (holdingCandles : Nat) :
    StrategyExitAttributionHoldingWindow :=
  let values := sort id
    (((trades.filter (·.holdingCandles = holdingCandles)).filter
      (·.status ≠ .dataQualityDegraded)).filterMap (·.netPnlPct))
  let tradeCount : Int := values.length
  let totalNetPnlPct := values.sum
  let winCount := (values.filter (· > 0)).length
  let avgNetPnlPct := if tradeCount > 0 then totalNetPnlPct / tradeCount else 0
  let winRate : Decimal := if tradeCount > 0 then winCount / tradeCount * 100 else 0
  { holdingCandles := holdingCandles
    tradeCount := tradeCount
    winRate := winRate
    avgNetPnlPct := avgNetPnlPct
    medianNetPnlPct := replayMedianDecimal values
    totalNetPnlPct := totalNetPnlPct
    bestNetPnlPct := values.getLast?.getD 0
    worstNetPnlPct := values.head?.getD 0
    maxDrawdownPct := if values = [] then none else some (maxDrawdownFromPctSeries values)
    feeDragPct := request.feeDragPct * tradeCount
    recommendation := if tradeCount < 3 then .insufficientData
      else if avgNetPnlPct > 0 && winRate ≥ 50 then .promising
      else if avgNetPnlPct < 0 && totalNetPnlPct < 0 then .negative
      else .weak }

/-- `Iterator::max_by`: the last of the greatest. -/
def maxBy {α : Type} (order : α → α → Ordering) (items : List α) : Option α :=
  items.foldl (fun best item => match best with
    | none => some item
    | some kept => if order kept item = .gt then some kept else some item) none

/-- `Iterator::min_by`: the first of the least. -/
def minBy {α : Type} (order : α → α → Ordering) (items : List α) : Option α :=
  items.foldl (fun best item => match best with
    | none => some item
    | some kept => if order kept item = .gt then some item else some kept) none

def bestHoldingWindow (windows : List StrategyExitAttributionHoldingWindow) : Option Nat :=
  (maxBy (fun left right => (compare left.avgNetPnlPct right.avgNetPnlPct).then
    (compare right.holdingCandles left.holdingCandles))
    (windows.filter (·.tradeCount > 0))).map (·.holdingCandles)

def worstHoldingWindow (windows : List StrategyExitAttributionHoldingWindow) : Option Nat :=
  (minBy (fun left right => (compare left.avgNetPnlPct right.avgNetPnlPct).then
    (compare left.holdingCandles right.holdingCandles))
    (windows.filter (·.tradeCount > 0))).map (·.holdingCandles)

def exitAttributionStatus (state : ExitAttributionState)
    (windows : List StrategyExitAttributionHoldingWindow) : StrategyExitAttributionStatus :=
  let allNegative := windows ≠ [] &&
    (windows.filter (·.tradeCount > 0)).all (·.recommendation = .negative)
  let anyPromising := windows.any (·.recommendation = .promising)
  if state.dataQualityDegraded then .dataQualityDegraded
  else if state.scan.executableSignalCount = 0 || windows.all (·.tradeCount = 0) then
    .insufficientData
  else if anyPromising then .promising
  else if allNegative then .negative
  else .weak

def StrategyExitAttributionStatus.recommendation :
    StrategyExitAttributionStatus → StrategyExitAttributionRecommendation
  | .promising => .promising
  | .weak => .weak
  | .negative => .negative
  | .insufficientData => .insufficientData
  | .dataQualityDegraded => .dataQualityDegraded

/-- `signalId` and `correlationId` are drawn anew by each call. -/
def calculateExitAttribution (rules : StrategyRules) (signalId : Nat → Uuid) (correlationId : Uuid)
    (request : StrategyExitAttributionRequest) (strategyConfig : StrategyConfig) (symbol : Symbol)
    (candles : List Candle) (computedAt : DateTime) :
    Except Fault StrategyExitAttributionResult := do
  request.validate.mapError Fault.core
  let sorted := sort (·.openTime) candles
  let strategyId ← (StrategyId.fromStr request.strategyId).mapError Fault.core
  let interval ← (CandleInterval.fromStr request.timeframe).mapError Fault.core
  let scan : SignalScan := {
    strategyId := strategyId
    symbol := symbol
    strategyConfig := strategyConfig
    candles := sorted
    correlationId := correlationId
    signalId := signalId
    entryIndex := confirmedEntryIndex strategyConfig sorted }
  let state ← (finRange sorted.length).foldlM (attributeExitsAt rules scan request interval)
    { scan := .initial, trades := [], dataQualityDegraded := false }
  let perHoldingWindow := request.normalizedHoldingWindows.map
    (holdingWindowSummary request state.trades)
  let status := exitAttributionStatus state perHoldingWindow
  return {
    strategyId := request.strategyId
    symbol := request.symbol
    timeframe := request.timeframe
    startTime := request.startTime
    endTime := request.endTime
    totalRawSignals := state.scan.rawSignalCount
    totalExecutableSignals := state.scan.executableSignalCount
    suppressionBreakdown := suppressionBreakdown state.scan.suppressionCounts
    perHoldingWindow := perHoldingWindow
    bestHoldingWindow := bestHoldingWindow perHoldingWindow
    worstHoldingWindow := worstHoldingWindow perHoldingWindow
    status := status
    recommendation := status.recommendation
    trades := state.trades
    computedAt := computedAt }

theorem attributeExitsAt_scan {rules : StrategyRules} {scan : SignalScan}
    {request : StrategyExitAttributionRequest} {interval : CandleInterval}
    (state : ExitAttributionState) (index : Fin scan.candles.length) :
    scanStep rules scan state.scan index =
      (attributeExitsAt rules scan request interval state index).map (·.scan) := by
  simp only [scanStep, getElem?_eq_getElem index.isLt, attributeExitsAt, get_eq_getElem]
  cases scanAt rules scan index scan.candles[index] state.scan with
  | error fault => rfl
  | ok outcome =>
    obtain ⟨next, executed⟩ := outcome
    cases executed with
    | none => rfl
    | some entry => rfl

theorem scanTo_length_of_attributeExits {rules : StrategyRules} {scan : SignalScan}
    (request : StrategyExitAttributionRequest) (interval : CandleInterval) :
    scanTo rules scan scan.candles.length =
      ((finRange scan.candles.length).foldlM (attributeExitsAt rules scan request interval)
        { scan := .initial, trades := [], dataQualityDegraded := false }).map (·.scan) :=
  Fallible.foldlM_finRange_map attributeExitsAt_scan
    ({ scan := .initial, trades := [], dataQualityDegraded := false } : ExitAttributionState)

end AegisQuant.Replay
