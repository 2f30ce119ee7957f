import AegisQuant.Replay.ExitAttribution
import AegisQuant.Replay.RecordIds
import AegisQuant.Replay.SignalAccounting
import AegisQuant.Replay.Solvency

/-! Exit attribution agrees with the backtest about the signals. The backtest
counts down the candles that a position is held for, where the scan keeps the
index at which it would be closed; without a stop loss or a take profit, and
with money for every entry, the two are in lockstep. -/
namespace AegisQuant.Replay

open Strategy Fallible SortByKey List Option

structure SignalReport where
  rawSignals : Int
  suppressionBreakdown : List ReplaySuppressionCount
  executed : Int

def BacktestExecution.signalReport (execution : BacktestExecution) : SignalReport where
  rawSignals := execution.result.rawSignalCount
  suppressionBreakdown := execution.result.suppressionBreakdown
  executed := execution.trades.length

def StrategyExitAttributionResult.signalReport (result : StrategyExitAttributionResult) :
    SignalReport where
  rawSignals := result.totalRawSignals
  suppressionBreakdown := result.suppressionBreakdown
  executed := result.totalExecutableSignals

def ScanState.signalReport (state : ScanState) : SignalReport where
  rawSignals := state.rawSignalCount
  suppressionBreakdown := suppressionBreakdown state.suppressionCounts
  executed := state.executableSignalCount

/-- Positions are closed at the end of their holding period only, which the
configuration and the request have in common. -/
structure FixedHolding (sim : Simulation) : Prop where
  stopLossPct : sim.strategyConfig.stopLossPct = none
  takeProfitPct : sim.strategyConfig.takeProfitPct = none
  holdingCandles : sim.strategyConfig.holdingCandles.getD 3 = sim.request.holdingCandles.getD 3

/-- There is money for every entry. -/
structure Affordable (sim : Simulation) : Prop where
  capital_pos : 0 < sim.request.initialCapital
  notional_pos : 0 < sim.strategyConfig.suggestedNotional
  lt_fee : -bpsDenominator < sim.request.feeBps
  fee_lt : sim.request.feeBps < bpsDenominator
  lt_slippage : -bpsDenominator < sim.request.slippageBps
  slippage_lt : sim.request.slippageBps < bpsDenominator
  open_pos : ∀ candle ∈ sim.candles, 0 < candle.open
  close_pos : ∀ candle ∈ sim.candles, 0 < candle.close

/-- The invariant of the backtest. -/
structure Funded (sim : Simulation) (state : SimulationState) : Prop where
  held : Held sim state
  cash_pos : 0 < state.cash

/-- The scan that corresponds to a state before the iteration at `index`. -/
def scanOf (index : Nat) (state : SimulationState) : ScanState where
  rawSignalCount := state.rawSignalCount
  executableSignalCount := state.suppressionCounts .none
  suppressionCounts := state.suppressionCounts
  lastExecutedEntryTime := state.lastExecutedEntryTime
  openUntilSignalIndex := state.position.map fun position =>
    index + position.remainingHoldingCandles - 1

section Phases
variable {sim : Simulation} {state : SimulationState} {candle : Candle}

theorem exitPhase_of_fixedHolding (hFixed : FixedHolding sim) (hHeld : Held sim state)
    {position : BacktestPosition} (hPosition : state.position = some position) :
    exitPhase sim candle state =
      if position.remainingHoldingCandles - 1 = 0 then
        { closePosition sim position candle.closeTime candle.close "holding_period" state with
          position := none }
      else
        { state with position := some { position with
            remainingHoldingCandles := position.remainingHoldingCandles - 1 } } := by
  obtain ⟨-, hStop, hTake⟩ := exitPrices_of_held hHeld hPosition
  rw [hFixed.stopLossPct, map_none] at hStop
  rw [hFixed.takeProfitPct, map_none] at hTake
  simp only [exitPhase, hPosition, evaluateExit, hStop, hTake, filter_none]
  split
  · rfl
  · rfl

theorem scanOf_exitPhase (hFixed : FixedHolding sim) (hHeld : Held sim state) (index : Nat)
    (candle : Candle) :
    scanOf (index + 1) (exitPhase sim candle state) = (scanOf index state).release index := by
  cases hPosition : state.position with
  | none => simp only [exitPhase, scanOf, ScanState.release, hPosition, map_none, filter_none]
  | some position =>
    rw [exitPhase_of_fixedHolding hFixed hHeld hPosition]
    by_cases hLast : position.remainingHoldingCandles - 1 = 0
    · have hClosed : ¬index < index + position.remainingHoldingCandles - 1 := by omega
      simp only [hLast, if_true, scanOf, ScanState.release, hPosition, closePosition,
        map_none, map_some, filter_some, hClosed, decide_false,
        Bool.false_eq_true, if_false]
    · have hOpen : index < index + position.remainingHoldingCandles - 1 := by omega
      have hSame : index + 1 + (position.remainingHoldingCandles - 1) - 1 =
          index + position.remainingHoldingCandles - 1 := by omega
      simp only [hLast, if_false, scanOf, ScanState.release, hPosition, map_some,
        filter_some, hOpen, decide_true, if_true, hSame]

theorem Funded.exitPhase (hFunded : Funded sim state) (hFixed : FixedHolding sim)
    (hAffordable : Affordable sim) (hCandle : candle ∈ sim.candles) :
    Funded sim (exitPhase sim candle state) := by
  refine ⟨hFunded.held.exitPhase, ?_⟩
  cases hPosition : state.position with
  | none =>
    simp only [Replay.exitPhase, hPosition]
    exact hFunded.cash_pos
  | some position =>
    rw [exitPhase_of_fixedHolding hFixed hFunded.held hPosition]
    split
    · obtain ⟨entered, entryCandle, -, hBought, hSame⟩ := hFunded.held position hPosition
      have hPaid : position.notional + position.feePaid ≤ state.cash := by
        rw [hSame]
        exact hBought.paid (one_add_bps_pos hAffordable.lt_fee)
      have hQuantity : 0 < position.quantity := by
        rw [hSame]
        exact hBought.quantity_pos
      have hPrice := (applyExitSlippage_pos (hAffordable.close_pos candle hCandle)).mpr
        hAffordable.slippage_lt
      have hSold : 0 < position.quantity * applyExitSlippage candle.close sim.request.slippageBps :=
        mul_pos hQuantity hPrice
      have hFee : feeAmount (position.quantity *
            applyExitSlippage candle.close sim.request.slippageBps) sim.request.feeBps <
          position.quantity * applyExitSlippage candle.close sim.request.slippageBps := by
        rw [feeAmount, mul_div_assoc]
        exact mul_lt_of_lt_one_right hSold
          ((div_lt_one bpsDenominator_pos).mpr hAffordable.fee_lt)
      change 0 < state.cash - (position.notional + position.feePaid) +
        (position.quantity * applyExitSlippage candle.close sim.request.slippageBps -
          feeAmount (position.quantity * applyExitSlippage candle.close sim.request.slippageBps)
            sim.request.feeBps)
      linarith
    · exact hFunded.cash_pos

theorem reason_ne_none_of_suppressed {candles : List Candle} {confirmed : Option Nat}
    {side : SignalSide} {cooling occupied : Bool} {reason : ReplaySuppressionReason}
    (hFate : signalFate candles confirmed side cooling occupied = .suppressed reason) :
    reason ≠ .none := by
  rintro rfl
  unfold signalFate at hFate
  -- every branch suppresses for another reason, or enters
  repeat' split at hFate
  all_goals cases hFate

theorem Funded.opens (hFunded : Funded sim state) (hAffordable : Affordable sim) {entry : Candle}
    (hEntry : entry ∈ sim.candles) :
    ∃ position, maybeOpenPosition sim.request.config sim.strategyConfig entry state.cash =
      .ok (some position) := by
  have hFee := one_add_bps_pos hAffordable.lt_fee
  apply maybeOpenPosition_opens hFee.ne'
  · exact lt_min hAffordable.notional_pos (div_pos hFunded.cash_pos hFee)
  · exact applyEntrySlippage_pos (hAffordable.open_pos entry hEntry) hAffordable.lt_slippage

theorem scanOf_signalPhase (hFunded : Funded sim state) (hFixed : FixedHolding sim)
    (hAffordable : Affordable sim) {scan : SignalScan} {index : Nat} (candle : Candle)
    (hCandles : scan.candles = sim.candles)
    (hConfig : scan.strategyConfig = sim.strategyConfig)
    (hEntry : scan.entryIndex index = confirmedEntryIndex sim.strategyConfig sim.candles index)
    {signal other : StrategySignal} (hSide : other.side = signal.side) :
    (signalPhase sim index candle signal state).map (fun phase => scanOf (index + 1) phase.2) =
      .ok (scanSignal scan index candle other (scanOf (index + 1) state)).1 := by
  have hOccupied : (scanOf (index + 1) state).openUntilSignalIndex.isSome = state.position.isSome :=
    isSome_map
  have hLast : (scanOf (index + 1) state).lastExecutedEntryTime = state.lastExecutedEntryTime := rfl
  rw [signalPhase_eq]
  simp only [scanSignal, hCandles, hConfig, hEntry, hSide, hOccupied, hLast]
  cases hFate : signalFate sim.candles (confirmedEntryIndex sim.strategyConfig sim.candles index)
      signal.side (cooldownActive state.lastExecutedEntryTime candle.closeTime
        sim.strategyConfig.cooldownSeconds) state.position.isSome with
  | suppressed reason =>
    have hReason := reason_ne_none_of_suppressed hFate
    have hExecuted : (recordSuppression (countSignal candle state) reason).suppressionCounts .none =
        state.suppressionCounts .none := Function.update_of_ne hReason.symm _ _
    simp only [Except.map, scanOf, hExecuted]
    rfl
  | entering entryIndex entry =>
    obtain ⟨-, -, -, -, hFound⟩ := signalFate_eq_entering.mp hFate
    obtain ⟨position, hOpen⟩ := hFunded.opens hAffordable (mem_of_getElem? hFound)
    have hHolding : position.remainingHoldingCandles = sim.strategyConfig.holdingCandles.getD 3 :=
      (bought_of_maybeOpenPosition hOpen).remainingHoldingCandles.trans
        hFixed.holdingCandles.symm
    have hTime := entryTime_of_maybeOpenPosition hOpen
    have hUntil : index + 1 + sim.strategyConfig.holdingCandles.getD 3 - 1 =
        index + sim.strategyConfig.holdingCandles.getD 3 := by omega
    have hEntered : scanOf (index + 1) (enter (countSignal candle state) (some position)) =
        { rawSignalCount := state.rawSignalCount + 1
          executableSignalCount := state.suppressionCounts .none + 1
          suppressionCounts :=
            Function.update state.suppressionCounts .none (state.suppressionCounts .none + 1)
          lastExecutedEntryTime := some entry.openTime
          openUntilSignalIndex := some (index + sim.strategyConfig.holdingCandles.getD 3) } := by
      simp only [scanOf, enter, recordSuppression, countSignal, map_some, hHolding, hTime,
        hUntil, Function.update_self]
    simp only [hOpen]
    exact congrArg Except.ok hEntered

end Phases

section Runs
variable {sim : Simulation} {strategyId : StrategyId} {symbol : Symbol}

/-- The scan over the candles of a backtest, by a call of its own. -/
def Simulation.exitScan (sim : Simulation) (strategyId : StrategyId) (symbol : Symbol)
    (correlationId : Uuid) (signalId : Nat → Uuid) : SignalScan where
  strategyId := strategyId
  symbol := symbol
  strategyConfig := sim.strategyConfig
  candles := sim.candles
  correlationId := correlationId
  signalId := signalId
  entryIndex := confirmedEntryIndex sim.strategyConfig sim.candles

section
variable (hFixed : FixedHolding sim) (hAffordable : Affordable sim)
include hFixed hAffordable

theorem scanStep_scanOf (correlationId : Uuid) (signalId : Nat → Uuid) {state : SimulationState}
    (hFunded : Funded sim state) {index : Nat} {candle : Candle}
    (hCandle : sim.candles[index]? = some candle) :
    scanStep strategyRules (sim.exitScan strategyId symbol correlationId signalId)
        (scanOf index state) index =
      (simulateAt strategyRules sim strategyId symbol state index).map (scanOf (index + 1)) := by
  have hExited := hFunded.exitPhase hFixed hAffordable (mem_of_getElem? hCandle)
  have hScanned : (sim.exitScan strategyId symbol correlationId signalId).candles[index]? =
      some candle := hCandle
  rw [simulateAt_of_getElem? sim hCandle]
  simp only [scanStep, hScanned, scanAt, ← scanOf_exitPhase hFixed hFunded.held index candle,
    Fallible.map_bind]
  refine Fallible.bind_congr_of_map (evaluate_decision_rerun _ _ correlationId {
    correlationId := sim.correlationId
    strategyId := strategyId
    symbol := symbol
    config := sim.strategyConfig
    candles := sim.candles.take (index + 1)
    evaluatedAt := candle.closeTime }) ?_
  intro other evaluation hDecision
  have hSides := side_of_decisionOf hDecision
  cases hOther : other.signal with
  | none =>
    cases hSignal : evaluation.signal with
    | none => rfl
    | some _ => simp [hSignal, hOther] at hSides
  | some otherSignal =>
    cases hSignal : evaluation.signal with
    | none => simp [hSignal, hOther] at hSides
    | some signal =>
      have hSide : otherSignal.side = signal.side := by simpa [hSignal, hOther] using hSides
      obtain ⟨⟨early, next⟩, hNext, hSame⟩ := map_eq_ok.mp
        (scanOf_signalPhase hExited hFixed hAffordable candle
          (show (sim.exitScan strategyId symbol correlationId signalId).candles = _ from rfl)
          rfl (show _ = confirmedEntryIndex sim.strategyConfig sim.candles index from rfl) hSide)
      simp only [hNext, ok_bind]
      cases early with
      | true => exact congrArg Except.ok hSame.symm
      | false => exact congrArg Except.ok hSame.symm

theorem Funded.simulateAt {index : Nat} (hIndex : index < sim.candles.length)
    {state next : SimulationState} (hFunded : Funded sim state)
    (hStep : simulateAt strategyRules sim strategyId symbol state index = .ok next) :
    Funded sim next := by
  have hCandle := getElem?_eq_getElem hIndex
  have hExited := hFunded.exitPhase hFixed hAffordable (getElem_mem hIndex)
  refine ⟨hFunded.held.simulateAt hCandle hStep, ?_⟩
  rw [(simulateAt_cases hCandle hStep).2.1]
  exact hExited.cash_pos

theorem scanTo_scanOf (correlationId : Uuid) (signalId : Nat → Uuid) :
    scanTo strategyRules (sim.exitScan strategyId symbol correlationId signalId)
        sim.candles.length =
      (loopTo strategyRules sim strategyId symbol sim.candles.length).map
        (scanOf sim.candles.length) := by
  have hStart : Funded sim (initialState sim.request) :=
    ⟨held_of_none rfl, hAffordable.capital_pos⟩
  exact foldlM_range_map hStart
    (fun index hIndex state next => Funded.simulateAt hFixed hAffordable hIndex)
    (fun index hIndex state hFunded => scanStep_scanOf hFixed hAffordable correlationId signalId
      hFunded (getElem?_eq_getElem hIndex))

end

theorem replayEnd_counted (sim : Simulation) (state : SimulationState) :
    (replayEnd sim state).rawSignalCount = state.rawSignalCount ∧
      (replayEnd sim state).suppressionCounts = state.suppressionCounts := by
  unfold replayEnd
  split
  · exact ⟨rfl, rfl⟩
  · exact ⟨rfl, rfl⟩

theorem simulateBacktest_signalReport (hCandles : sim.candles ≠ [])
    (hId : StrategyId.fromStr sim.request.strategyId = .ok strategyId)
    (hSymbol : Symbol.new sim.request.symbol = .ok symbol) :
    (simulateBacktest strategyRules sim).map BacktestExecution.signalReport =
      (loopTo strategyRules sim strategyId symbol sim.candles.length).map
        fun state => (scanOf sim.candles.length state).signalReport := by
  rw [loopTo_length]
  simp only [simulateBacktest, hCandles, if_false, hId, hSymbol, Except.mapError, ok_bind,
    Fallible.map_bind]
  cases hLoop : (finRange sim.candles.length).foldlM
      (simulateStep strategyRules sim strategyId symbol) (initialState sim.request) with
  | error fault => rfl
  | ok looped =>
    have hLooped : SignalsCounted looped :=
      foldlM_invariant (fun _ _ _ _ hState hStep => hState.simulateStep hStep)
        ⟨rfl, rfl⟩ hLoop
    obtain ⟨-, hTrades⟩ := replayEnd_counts hLooped hCandles
    obtain ⟨hRaw, hCounts⟩ := replayEnd_counted sim looped
    have hReport : BacktestExecution.signalReport {
        result := buildResult sim (replayEnd sim looped)
        trades := (replayEnd sim looped).trades
        equityCurve := (replayEnd sim looped).equityCurve } =
          (scanOf sim.candles.length looped).signalReport := by
      simp only [BacktestExecution.signalReport, buildResult, ScanState.signalReport, scanOf, hRaw,
        hCounts, ← hTrades]
    exact congrArg Except.ok hReport

end Runs

section Reports
variable {rules : StrategyRules} {request : StrategyExitAttributionRequest}

theorem timeframe_of_validate (hRequest : request.validate = .ok ()) :
    ∃ interval, CandleInterval.fromStr request.timeframe = .ok interval := by
  simp only [StrategyExitAttributionRequest.validate, validateAttribution, bind_eq_ok,
    require_eq_ok, exists_const] at hRequest
  obtain ⟨-, -, -, -, interval, hInterval, -⟩ := hRequest
  exact ⟨interval, hInterval⟩

theorem calculateExitAttribution_signalReport (hRequest : request.validate = .ok ())
    {strategyId : StrategyId} (hId : StrategyId.fromStr request.strategyId = .ok strategyId)
    (signalId : Nat → Uuid) (correlationId : Uuid) (strategyConfig : StrategyConfig)
    (symbol : Symbol) (candles : List Candle) (computedAt : DateTime) :
    (calculateExitAttribution rules signalId correlationId request strategyConfig symbol candles
        computedAt).map StrategyExitAttributionResult.signalReport =
      (scanTo rules {
        strategyId := strategyId
        symbol := symbol
        strategyConfig := strategyConfig
        candles := sort (·.openTime) candles
        correlationId := correlationId
        signalId := signalId
        entryIndex := confirmedEntryIndex strategyConfig (sort (·.openTime) candles) }
        (SortByKey.sort (·.openTime) candles).length).map ScanState.signalReport := by
  obtain ⟨interval, hInterval⟩ := timeframe_of_validate hRequest
  rw [scanTo_length_of_attributeExits request interval]
  simp only [calculateExitAttribution, hRequest, hId, hInterval, Except.mapError, ok_bind,
    Fallible.map_bind]
  rw [Fallible.map_map]
  exact bind_ok_eq_map _ _

end Reports

/-- The sample without its stop loss, held for two candles. -/
def fixedSimulation : Simulation :=
  { sampleSimulation with
    strategyConfig := { sampleSimulation.strategyConfig with
      stopLossPct := none, holdingCandles := some 2 } }

def sampleExitRequest : StrategyExitAttributionRequest where
  strategyId := "momentum_v1"
  symbol := "btcusdt"
  timeframe := "1m"
  startTime := 0
  endTime := DateTime.seconds 300
  holdingWindows := [1, 2]
  feeBps := 10
  slippageBps := 5

end AegisQuant.Replay
