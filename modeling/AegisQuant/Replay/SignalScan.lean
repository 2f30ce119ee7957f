import AegisQuant.Market.CandleBuilder
import AegisQuant.Replay.SignalFates

/-! The scan for signals that the attributions make over a list of candles.
Where the backtest holds a position, the scan remembers the index at which the
position would be closed. -/
namespace AegisQuant.Replay
open Fallible

def validateAttribution (strategyId symbol timeframe : String) (startTime endTime : DateTime)
    (feeBps slippageBps : Decimal) : Except CoreError Unit := do
  require (trim strategyId ≠ "") .emptyBacktestStrategyId
  require (trim symbol ≠ "") .emptyBacktestSymbol
  require (trim timeframe ≠ "") .emptyBacktestTimeframe
  require (startTime < endTime) .invalidBacktestTimeRange
  let _ ← CandleInterval.fromStr timeframe
  require (0 ≤ feeBps) (.invalidBacktestBps "fee_bps")
  require (0 ≤ slippageBps) (.invalidBacktestBps "slippage_bps")

/-- What stays fixed during a scan; `entryIndex` is where a signal at an index
enters, and `signalId` lists the identifiers drawn by the signals. -/
structure SignalScan where
  strategyId : StrategyId
  symbol : Symbol
  strategyConfig : StrategyConfig
  candles : List Candle
  correlationId : Uuid
  signalId : Nat → Uuid
  entryIndex : Nat → Option Nat

structure ScanState where
  rawSignalCount : Int
  executableSignalCount : Int
  suppressionCounts : ReplaySuppressionReason → Int
  lastExecutedEntryTime : Option DateTime
  openUntilSignalIndex : Option Nat

def ScanState.initial : ScanState where
  rawSignalCount := 0
  executableSignalCount := 0
  suppressionCounts := fun _ => 0
  lastExecutedEntryTime := none
  openUntilSignalIndex := none

def ScanState.suppress (state : ScanState) (reason : ReplaySuppressionReason) : ScanState :=
  { state with
    suppressionCounts :=
      Function.update state.suppressionCounts reason (state.suppressionCounts reason + 1) }

/-- Nothing is open any more from the index on at which it would be closed. -/
def ScanState.release (state : ScanState) (index : Nat) : ScanState :=
  { state with openUntilSignalIndex := state.openUntilSignalIndex.filter (index < ·) }

/-- What a signal makes of the state, and its entry if it is executed. -/
def scanSignal (scan : SignalScan) (index : Nat) (candle : Candle) (signal : StrategySignal)
    (state : ScanState) : ScanState × Option (Nat × Candle) :=
  let counted := { state with rawSignalCount := state.rawSignalCount + 1 }
  let cooling := cooldownActive state.lastExecutedEntryTime candle.closeTime
    scan.strategyConfig.cooldownSeconds
  match signalFate scan.candles (scan.entryIndex index) signal.side cooling
      state.openUntilSignalIndex.isSome with
  | .suppressed reason => (counted.suppress reason, none)
  | .entering entryIndex entry =>
    ({ counted.suppress .none with
      executableSignalCount := counted.executableSignalCount + 1
      lastExecutedEntryTime := some entry.openTime
      openUntilSignalIndex := some (index + scan.strategyConfig.holdingCandles.getD 3) },
      some (entryIndex, entry))

/-- The scan of the candle at an index, with the entry of a signal that is
executed there. -/
def scanAt (rules : StrategyRules) (scan : SignalScan) (index : Nat) (candle : Candle)
    (state : ScanState) : Except Fault (ScanState × Option (Nat × Candle)) := do
  let released := state.release index
  let evaluation ← evaluate rules (scan.signalId index) {
    correlationId := scan.correlationId
    strategyId := scan.strategyId
    symbol := scan.symbol
    config := scan.strategyConfig
    candles := scan.candles.take (index + 1)
    evaluatedAt := candle.closeTime }
  match evaluation.signal with
  | none => return (released, none)
  | some signal => return scanSignal scan index candle signal released

/-- The scan at an index alone, which does nothing behind the last candle. -/
def scanStep (rules : StrategyRules) (scan : SignalScan) (state : ScanState) (index : Nat) :
    Except Fault ScanState :=
  match scan.candles[index]? with
  | none => .ok state
  | some candle => (scanAt rules scan index candle state).map (·.1)

/-- The scan of the candles before `count`. -/
def scanTo (rules : StrategyRules) (scan : SignalScan) (count : Nat) : Except Fault ScanState :=
  (List.range count).foldlM (scanStep rules scan) .initial

/-- The gaps between the opens of neighbouring candles, in whole seconds. -/
def gapSeconds (candles : List Candle) : List Int :=
  candles.zipWith (fun earlier later => (later.openTime - earlier.openTime).tdiv 1000000000)
    candles.tail

/-- A gap of more than an interval and a second from one candle to another. -/
def gapDetected (interval : CandleInterval) (candles : List Candle) (entryIndex exitIndex : Nat) :
    Bool :=
  let intervalSeconds := interval.duration / 1000000000
  let maxGapSeconds :=
    (gapSeconds ((candles.drop entryIndex).take (exitIndex + 1 - entryIndex))).max?.getD
      intervalSeconds
  maxGapSeconds > intervalSeconds + 1

/-- What the close of `exit` is above the open of `entry`, in percent. -/
def grossPnlPct (entry exit : Candle) : Decimal :=
  if entry.open > 0 then (exit.close - entry.open) / entry.open * 100 else 0

def replayMedianDecimal (values : List Decimal) : Decimal :=
  if values = [] then 0
  else
    let mid := values.length / 2
    if values.length % 2 = 1 then values.getD mid 0
    else (values.getD (mid - 1) 0 + values.getD mid 0) / 2

end AegisQuant.Replay
