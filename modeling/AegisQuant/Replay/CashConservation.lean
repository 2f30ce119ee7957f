import AegisQuant.Replay.Iterations
import Mathlib.Tactic.Ring

/-! Money is conserved by a whole backtest. Cash moves only when a position
closes; the loop invariant relates it, and the fee and slippage counters, to
the trades recorded so far, and remembers how the open position was priced. -/
namespace AegisQuant.Replay
open Fallible List Option

variable {sim : Simulation} {state : SimulationState}

/-- The open of the candle a trade entered on, before slippage. -/
def ReferenceEntry (sim : Simulation) (entryTime : DateTime) (entryPrice price : Decimal) : Prop :=
  ∃ candle ∈ sim.candles, entryTime = candle.openTime ∧ price = candle.open ∧
    entryPrice = applyEntrySlippage price sim.request.slippageBps

/-- The price an exit is triggered at, before slippage, for each exit path. -/
inductive ReferenceExit (sim : Simulation) (trade : BacktestTrade) : Decimal → Prop where
  | stopLoss (pct : Decimal) (configured : sim.strategyConfig.stopLossPct = some pct)
      (reason : trade.reason = "stop_loss") :
      ReferenceExit sim trade (trade.entryPrice * (1 - pct))
  | takeProfit (pct : Decimal) (configured : sim.strategyConfig.takeProfitPct = some pct)
      (reason : trade.reason = "take_profit") :
      ReferenceExit sim trade (trade.entryPrice * (1 + pct / 100))
  | holdingPeriod (candle : Candle) (member : candle ∈ sim.candles)
      (exitTime : trade.exitTime = some candle.closeTime)
      (reason : trade.reason = "holding_period") : ReferenceExit sim trade candle.close
  | replayEnd (candle : Candle) (last : sim.candles.getLast? = some candle)
      (exitTime : trade.exitTime = some candle.closeTime)
      (reason : trade.reason = "replay_end") : ReferenceExit sim trade candle.close

/-- The profit of a trade is the move of the reference price on its quantity,
less the fees and the slippage the trade reports. -/
def Accounted (sim : Simulation) (trade : BacktestTrade) : Prop :=
  ∃ entry exit, ReferenceEntry sim trade.entryTime trade.entryPrice entry ∧
    ReferenceExit sim trade exit ∧
    trade.exitPrice = some (applyExitSlippage exit sim.request.slippageBps) ∧
    trade.realizedPnl = (exit - entry) * trade.quantity - trade.feePaid - trade.slippageCost

/-- How an open position was priced when it was entered. -/
structure Priced (sim : Simulation) (position : BacktestPosition) : Prop where
  notional : position.notional = position.quantity * position.entryPrice
  stopLoss : position.stopLossPrice =
    sim.strategyConfig.stopLossPct.map fun pct => position.entryPrice * (1 - pct)
  takeProfit : position.takeProfitPrice =
    sim.strategyConfig.takeProfitPct.map fun pct => position.entryPrice * (1 + pct / 100)
  entry : ∃ price, ReferenceEntry sim position.entryTime position.entryPrice price ∧
    position.slippageCost = (position.entryPrice - price) * position.quantity

/-- The loop invariant. -/
structure Balanced (sim : Simulation) (state : SimulationState) : Prop where
  cash : state.cash = sim.request.initialCapital + (state.trades.map (·.realizedPnl)).sum
  feePaid : state.feePaid = (state.trades.map (·.feePaid)).sum
  slippageCost : state.slippageCost = (state.trades.map (·.slippageCost)).sum
  trades : ∀ trade ∈ state.trades, Accounted sim trade
  position : ∀ position, state.position = some position → Priced sim position

theorem balanced_initialState : Balanced sim (initialState sim.request) where
  cash := by simp [initialState]
  feePaid := by simp [initialState]
  slippageCost := by simp [initialState]
  trades := by simp [initialState]
  position := by simp [initialState]

theorem Balanced.congr {other : SimulationState} (balanced : Balanced sim state)
    (hCash : other.cash = state.cash) (hFee : other.feePaid = state.feePaid)
    (hSlippage : other.slippageCost = state.slippageCost) (hTrades : other.trades = state.trades)
    (hPosition : ∀ position, other.position = some position → Priced sim position) :
    Balanced sim other where
  cash := by rw [hCash, hTrades, balanced.cash]
  feePaid := by rw [hFee, hTrades, balanced.feePaid]
  slippageCost := by rw [hSlippage, hTrades, balanced.slippageCost]
  trades := by rw [hTrades]; exact balanced.trades
  position := hPosition

section
variable (balanced : Balanced sim state)
include balanced

theorem Balanced.clear : Balanced sim { state with position := none } :=
  balanced.congr rfl rfl rfl rfl (by simp)

theorem Balanced.recordEquity (timestamp : DateTime) (markPrice : Decimal)
    : Balanced sim (recordEquity sim.runId timestamp markPrice state) :=
  balanced.congr rfl rfl rfl rfl balanced.position

theorem Balanced.recordSuppression (reason : ReplaySuppressionReason)
    : Balanced sim (recordSuppression state reason) :=
  balanced.congr rfl rfl rfl rfl balanced.position

/-- Closing a priced position at any reference price its exit path names
keeps the invariant, whatever the fee and slippage settings are. -/
theorem Balanced.closePosition {position : BacktestPosition} (priced : Priced sim position)
    {exitTime : DateTime} {price : Decimal} {reason : String}
    (hExit : ReferenceExit sim (closingTrade sim position exitTime price reason) price)
    (hNone : state.position = none) :
    Balanced sim (closePosition sim position exitTime price reason state) := by
  obtain ⟨entry, hEntry, hSlippage⟩ := priced.entry
  have hAccounted : Accounted sim (closingTrade sim position exitTime price reason) := by
    refine ⟨entry, price, hEntry, hExit, rfl, ?_⟩
    simp only [closingTrade, hSlippage, priced.notional]
    ring
  constructor
  · simp only [Replay.closePosition, closingTrade, map_append, map_cons, map_nil,
      sum_append, sum_cons, sum_nil, balanced.cash]
    ring
  · simp [Replay.closePosition, closingTrade, balanced.feePaid]
  · simp [Replay.closePosition, closingTrade, balanced.slippageCost]
  · intro trade hTrade
    rcases mem_append.mp hTrade with hOld | hNew
    · exact balanced.trades trade hOld
    · exact mem_singleton.mp hNew ▸ hAccounted
  · simp [Replay.closePosition, hNone]

theorem Balanced.exitPhase {candle : Candle} (hMember : candle ∈ sim.candles)
    : Balanced sim (exitPhase sim candle state) := by
  unfold Replay.exitPhase
  split
  · exact balanced
  · rename_i position hPosition
    have priced := balanced.position position hPosition
    simp only [evaluateExit]
    split
    · rename_i stopLossPrice hStop
      rw [filter_eq_some_iff, priced.stopLoss, map_eq_some_iff] at hStop
      obtain ⟨⟨pct, hConfigured, rfl⟩, _⟩ := hStop
      exact (balanced.clear.closePosition priced
        (.stopLoss pct hConfigured rfl) rfl).clear
    · split
      · rename_i takeProfitPrice hTake
        rw [filter_eq_some_iff, priced.takeProfit, map_eq_some_iff] at hTake
        obtain ⟨⟨pct, hConfigured, rfl⟩, _⟩ := hTake
        exact (balanced.clear.closePosition priced
          (.takeProfit pct hConfigured rfl) rfl).clear
      · have held : Priced sim { position with
            remainingHoldingCandles := position.remainingHoldingCandles - 1 } :=
          ⟨priced.notional, priced.stopLoss, priced.takeProfit, priced.entry⟩
        split
        · exact (balanced.clear.closePosition held
            (.holdingPeriod candle hMember rfl rfl) rfl).clear
        · refine balanced.congr rfl rfl rfl rfl ?_
          rintro _ ⟨⟩
          exact held

end

theorem priced_of_maybeOpenPosition {candle : Candle} (hMember : candle ∈ sim.candles)
    {cash : Decimal} {position : BacktestPosition}
    (hOpen : maybeOpenPosition sim.request.config sim.strategyConfig candle cash =
      .ok (some position)) : Priced sim position := by
  simp only [maybeOpenPosition, bind_eq_ok] at hOpen
  obtain ⟨maxNotional, _, hOpen⟩ := hOpen
  split at hOpen
  · simp [pure_eq_ok] at hOpen
  · simp only [bind_eq_ok] at hOpen
    obtain ⟨quantity, _, hOpen⟩ := hOpen
    split at hOpen
    · simp [pure_eq_ok] at hOpen
    · rw [pure_eq_ok, some.injEq] at hOpen
      subst hOpen
      exact ⟨rfl, rfl, rfl, candle.open, ⟨candle, hMember, rfl, rfl, rfl⟩, rfl⟩

theorem Balanced.signalPhase (balanced : Balanced sim state) {index : Nat} {candle : Candle}
    {signal : StrategySignal} {early : Bool} {next : SimulationState}
    (hPhase : signalPhase sim index candle signal state = .ok (early, next)) :
    Balanced sim next := by
  have counted : Balanced sim { state with
      rawSignalCount := state.rawSignalCount + 1
      lastSignalTime := some candle.closeTime } :=
    balanced.congr rfl rfl rfl rfl balanced.position
  rcases signalPhase_effect hPhase with ⟨reason, -, rfl⟩ |
    ⟨-, -, position, ⟨entryIndex, entryCandle, -, hEntry, hOpen⟩, rfl⟩
  · exact counted.recordSuppression reason
  · have priced := priced_of_maybeOpenPosition (mem_of_getElem? hEntry) hOpen
    apply Balanced.recordSuppression
    refine counted.congr rfl rfl rfl rfl ?_
    rintro _ ⟨⟩
    exact priced

theorem Balanced.simulateStep {rules : StrategyRules} {strategyId : StrategyId} {symbol : Symbol}
    (balanced : Balanced sim state) {index : Fin sim.candles.length} {next : SimulationState}
    (hStep : simulateStep rules sim strategyId symbol state index = .ok next) :
    Balanced sim next := by
  have exited : Balanced sim (Replay.exitPhase sim (sim.candles.get index) state) :=
    balanced.exitPhase (get_mem _ _)
  simp only [Replay.simulateStep, bind_eq_ok] at hStep
  obtain ⟨evaluation, _, hStep⟩ := hStep
  split at hStep
  · rw [pure_eq_ok] at hStep
    exact hStep ▸ exited.recordEquity _ _
  · rw [bind_eq_ok] at hStep
    obtain ⟨⟨early, phased⟩, hPhase, hStep⟩ := hStep
    have hPhased := exited.signalPhase hPhase
    simp only at hStep
    split at hStep
    · rw [pure_eq_ok] at hStep
      exact hStep ▸ hPhased
    · rw [pure_eq_ok] at hStep
      exact hStep ▸ hPhased.recordEquity _ _

theorem Balanced.replayEnd (balanced : Balanced sim state) : Balanced sim (replayEnd sim state) := by
  unfold Replay.replayEnd
  split
  · rename_i position lastCandle hPosition hLast
    exact (balanced.clear.closePosition (balanced.position position hPosition)
      (.replayEnd lastCandle hLast rfl rfl) rfl).recordEquity _ _
  · exact balanced.clear

/-- Final equity is the initial capital plus the realized profit of the
returned trades, the result's fees and slippage are the sums over them, and
every trade's profit is the move of its reference price net of those costs,
whichever exits occurred and whatever the strategies decide. -/
theorem simulateBacktest_conserves_cash (rules : StrategyRules) (sim : Simulation)
    (execution : BacktestExecution) (hOk : simulateBacktest rules sim = .ok execution) :
    execution.result.finalEquity =
        sim.request.initialCapital + (execution.trades.map (·.realizedPnl)).sum ∧
      execution.result.feePaid = (execution.trades.map (·.feePaid)).sum ∧
      execution.result.slippageCost = (execution.trades.map (·.slippageCost)).sum ∧
      ∀ trade ∈ execution.trades, Accounted sim trade := by
  unfold simulateBacktest at hOk
  split at hOk
  · cases hOk
    simp [failureResult]
  · simp only [bind_eq_ok, pure_eq_ok] at hOk
    obtain ⟨strategyId, _, symbol, _, looped, hLoop, rfl⟩ := hOk
    have hLooped : Balanced sim looped :=
      foldlM_invariant (fun _ _ _ _ balanced hStep => balanced.simulateStep hStep)
        balanced_initialState hLoop
    have hEnd := hLooped.replayEnd
    exact ⟨hEnd.cash, hEnd.feePaid, hEnd.slippageCost, hEnd.trades⟩

def sampleCandle (minute : Int) (price : Decimal) : Candle where
  symbol := .btcusdt
  interval := .oneMinute
  openTime := DateTime.seconds (60 * minute)
  closeTime := DateTime.seconds (60 * minute + 59)
  «open» := price
  high := price + 1 / 10
  low := price - 1 / 10
  close := price
  volume := 1
  quoteVolume := none
  tradeCount := 1
  isClosed := true

def sampleSimulation : Simulation where
  runId := ⟨1⟩
  signalId := fun index => ⟨BitVec.ofNat 128 index⟩
  createdAt := 0
  correlationId := ⟨2⟩
  request := {
    strategyId := "momentum_v1", symbol := "btcusdt", timeframe := "1m", startTime := 0
    endTime := DateTime.seconds 300, initialCapital := 1000, feeBps := 10, slippageBps := 5
    correlationId := none, holdingCandles := some 2 }
  strategyConfig := {
    strategyId := .momentumV1, enabled := true, mode := .paper
    symbols := [.btcusdt], timeframe := .oneMinute, suggestedNotional := 100
    maxSignalAgeMs := 60000, cooldownSeconds := 0, lookbackCandles := 2
    stopLossPct := some (1 / 100) }
  candles := [sampleCandle 0 100, sampleCandle 1 105, sampleCandle 2 110, sampleCandle 3 111,
    sampleCandle 4 100, sampleCandle 5 105, sampleCandle 6 110, sampleCandle 7 111]

/-- A run that opens twice, is stopped out once and is closed by the end of
the replay once. -/
theorem simulateBacktest_conserves_cash_sample :
    ∃ execution, simulateBacktest evaluateMomentum sampleSimulation = .ok execution ∧
      execution.trades.map (·.reason) = ["stop_loss", "replay_end"] ∧
      execution.result.finalEquity = 1000 + (execution.trades.map (·.realizedPnl)).sum := by
  have hReasons : (simulateBacktest evaluateMomentum sampleSimulation).toOption.map
      (·.trades.map (·.reason)) = some ["stop_loss", "replay_end"] := by decide +kernel
  cases hRun : simulateBacktest evaluateMomentum sampleSimulation with
  | error fault => simp [hRun, Except.toOption] at hReasons
  | ok execution =>
    have hConserved := simulateBacktest_conserves_cash evaluateMomentum sampleSimulation execution hRun
    exact ⟨execution, rfl, by simpa [hRun, Except.toOption] using hReasons, hConserved.1⟩

end AegisQuant.Replay
