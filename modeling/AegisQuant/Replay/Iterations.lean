import AegisQuant.Replay.Simulation

/-! What one iteration of the candle loop can do. Only the exit phase adds a
trade, and only the signal phase opens a position. -/
namespace AegisQuant.Replay
open Fallible List Option

/-- A signal at `index` whose entry is confirmed and can be paid from `cash`
opens `position`. -/
def EntryAt (sim : Simulation) (cash : Decimal) (index : Nat) (position : BacktestPosition) : Prop :=
  ∃ entryIndex entryCandle,
    confirmedEntryIndex sim.strategyConfig sim.candles index = some entryIndex ∧
    sim.candles[entryIndex]? = some entryCandle ∧
    maybeOpenPosition sim.request.config sim.strategyConfig entryCandle cash = .ok (some position)

/-- The strategy finds a signal to buy in the candles up to `index`. -/
def SignalsBuyAt (rules : StrategyRules) (sim : Simulation) (strategyId : StrategyId)
    (symbol : Symbol) (index : Nat) : Prop :=
  ∃ candle evaluation signal, sim.candles[index]? = some candle ∧
    evaluate rules (sim.signalId index) {
      correlationId := sim.correlationId
      strategyId := strategyId
      symbol := symbol
      config := sim.strategyConfig
      candles := sim.candles.take (index + 1)
      evaluatedAt := candle.closeTime } = .ok evaluation ∧
    evaluation.signal = some signal ∧ signal.side = .buy

section Phases
variable {sim : Simulation} {candle : Candle} {state : SimulationState}
variable {position : BacktestPosition} {signal : StrategySignal} {next : SimulationState}

inductive ExitPrice (candle : Candle) (position : BacktestPosition) : Decimal → Prop where
  | stopLoss {price : Decimal} (configured : position.stopLossPrice = some price)
      (reached : candle.low ≤ price) : ExitPrice candle position price
  | takeProfit {price : Decimal} (configured : position.takeProfitPrice = some price)
      (reached : price ≤ candle.high) : ExitPrice candle position price
  | holdingPeriod : ExitPrice candle position candle.close

theorem exitPhase_outcome (sim : Simulation) (candle : Candle)
    (hPosition : state.position = some position) :
    (∃ price reason, ExitPrice candle position price ∧ exitPhase sim candle state =
        { closePosition sim position candle.closeTime price reason state with position := none }) ∨
      position.stopLossPrice.filter (candle.low ≤ ·) = none ∧
        position.takeProfitPrice.filter (candle.high ≥ ·) = none ∧
        position.remainingHoldingCandles - 1 ≠ 0 ∧
        exitPhase sim candle state = { state with position := some { position with
          remainingHoldingCandles := position.remainingHoldingCandles - 1 } } := by
  simp only [exitPhase, hPosition, evaluateExit]
  split
  · rename_i price hStop
    obtain ⟨hConfigured, hReached⟩ := filter_eq_some_iff.mp hStop
    exact .inl ⟨price, _, .stopLoss hConfigured (of_decide_eq_true hReached), rfl⟩
  · rename_i hStop
    split
    · rename_i price hTake
      obtain ⟨hConfigured, hReached⟩ := filter_eq_some_iff.mp hTake
      exact .inl ⟨price, _, .takeProfit hConfigured (of_decide_eq_true hReached), rfl⟩
    · rename_i hTake
      split
      · exact .inl ⟨_, _, .holdingPeriod, rfl⟩
      · rename_i hHolding
        exact .inr ⟨hStop, hTake, hHolding, rfl⟩

/-- What holds of the state that is left alone without a position, of each that
closes the position at an exit price, and of the one that holds it for another
candle, holds after the exit phase. -/
theorem exitPhase_rule {P : SimulationState → Prop} (sim : Simulation) (candle : Candle)
    (state : SimulationState) (hIdle : state.position = none → P state)
    (hClosed : ∀ position price reason, state.position = some position →
      ExitPrice candle position price →
      P { closePosition sim position candle.closeTime price reason state with position := none })
    (hHeld : ∀ position, state.position = some position → P { state with position := some { position with
      remainingHoldingCandles := position.remainingHoldingCandles - 1 } }) :
    P (exitPhase sim candle state) := by
  cases hPosition : state.position with
  | none =>
    simp only [exitPhase, hPosition]
    exact hIdle hPosition
  | some position =>
    rcases exitPhase_outcome sim candle hPosition with ⟨price, reason, hPrice, hExit⟩ | ⟨-, -, -, hExit⟩
    · rw [hExit]
      exact hClosed position price reason hPosition hPrice
    · rw [hExit]
      exact hHeld position hPosition

section
variable (sim : Simulation) (candle : Candle) (state : SimulationState)

theorem exitPhase_cases : (state.position = none ∧ exitPhase sim candle state = state) ∨
    ∃ position, state.position = some position ∧
      ((∃ trade, trade.entryTime = position.entryTime ∧ trade.exitTime = some candle.closeTime ∧
          (exitPhase sim candle state).position = none ∧
          (exitPhase sim candle state).trades = state.trades ++ [trade]) ∨
        ((exitPhase sim candle state).position = some { position with
            remainingHoldingCandles := position.remainingHoldingCandles - 1 } ∧
          (exitPhase sim candle state).trades = state.trades)) := by
  cases hPosition : state.position with
  | none => exact .inl ⟨rfl, by simp only [exitPhase, hPosition]⟩
  | some position =>
    refine .inr ⟨position, rfl, ?_⟩
    simp only [exitPhase, hPosition, evaluateExit]
    split
    · exact .inl ⟨closingTrade .., rfl, rfl, rfl, rfl⟩
    · split
      · exact .inl ⟨closingTrade .., rfl, rfl, rfl, rfl⟩
      · split
        · exact .inl ⟨closingTrade .., rfl, rfl, rfl, rfl⟩
        · exact .inr ⟨rfl, rfl⟩

theorem exitPhase_trades : ∃ closed, (exitPhase sim candle state).trades = state.trades ++ closed ∧
      ∀ trade ∈ closed, trade.exitTime = some candle.closeTime := by
  rcases exitPhase_cases sim candle state with ⟨-, hSame⟩ |
    ⟨position, -, ⟨trade, -, hExit, -, hTrades⟩ | ⟨-, hTrades⟩⟩
  · exact ⟨[], by simp [hSame], by simp⟩
  · exact ⟨[trade], hTrades, by simpa using hExit⟩
  · exact ⟨[], by simp [hTrades], by simp⟩

end

theorem entryTime_of_maybeOpenPosition {config : BacktestConfig} {strategyConfig : StrategyConfig}
    {cash : Decimal}
    (hOpen : maybeOpenPosition config strategyConfig candle cash = .ok (some position)) :
    position.entryTime = candle.openTime := by
  simp only [maybeOpenPosition, bind_eq_ok] at hOpen
  obtain ⟨maxNotional, -, hOpen⟩ := hOpen
  split at hOpen
  · cases hOpen
  · rw [bind_eq_ok] at hOpen
    obtain ⟨quantity, -, hOpen⟩ := hOpen
    split at hOpen
    · cases hOpen
    · cases hOpen
      rfl

section
variable {index : Nat} {early : Bool}
  (hPhase : signalPhase sim index candle signal state = .ok (early, next))
include hPhase

/-- A signal to buy opens a position where there is none, or a signal is
suppressed for a reason and changes nothing but the counts. -/
theorem signalPhase_effect : (∃ reason, reason ≠ .none ∧ next = recordSuppression
      { state with
        rawSignalCount := state.rawSignalCount + 1
        lastSignalTime := some candle.closeTime } reason) ∨
    state.position = none ∧ signal.side = .buy ∧
      ∃ position, EntryAt sim state.cash index position ∧ next = recordSuppression
        { state with
          rawSignalCount := state.rawSignalCount + 1
          lastSignalTime := some candle.closeTime
          position := some position
          lastExecutedEntryTime := some position.entryTime } .none := by
  simp only [signalPhase] at hPhase
  split at hPhase
  · cases hPhase
    exact .inl ⟨.invalidSignal, nofun, rfl⟩
  rename_i hSide
  split at hPhase
  · cases hPhase
    exact .inl ⟨.cooldownActive, nofun, rfl⟩
  split at hPhase
  · cases hPhase
    exact .inl ⟨.positionAlreadyOpen, nofun, rfl⟩
  rename_i hNone
  have hPosition : state.position = none := by simpa using hNone
  split at hPhase
  · cases hPhase
    exact .inl ⟨.invalidSignal, nofun, rfl⟩
  rename_i entryIndex hEntry
  split at hPhase
  · cases hPhase
    exact .inl ⟨.insufficientForwardData, nofun, rfl⟩
  rename_i entryCandle hCandle
  obtain ⟨opened, hOpened, hPhase⟩ := bind_eq_ok.mp hPhase
  cases opened with
  | none =>
    cases hPhase
    exact .inl ⟨.invalidSignal, nofun, by rw [← hPosition]⟩
  | some position =>
    cases hPhase
    exact .inr ⟨hPosition, not_not.mp hSide, position,
      ⟨entryIndex, entryCandle, hEntry, hCandle, hOpened⟩, rfl⟩

/-- The signal phase records no trade and moves no cash. It changes the
position only by opening one where there is none, on a signal to buy. -/
theorem signalPhase_cases : next.trades = state.trades ∧ next.cash = state.cash ∧
      (next.position = state.position ∧ next.lastExecutedEntryTime = state.lastExecutedEntryTime ∨
        state.position = none ∧ signal.side = .buy ∧
          ∃ position, EntryAt sim state.cash index position ∧ next.position = some position) := by
  rcases signalPhase_effect hPhase with ⟨reason, -, rfl⟩ | ⟨hPosition, hSide, position, hEntry, rfl⟩
  · exact ⟨rfl, rfl, .inl ⟨rfl, rfl⟩⟩
  · exact ⟨rfl, rfl, .inr ⟨hPosition, hSide, position, hEntry, rfl⟩⟩

theorem signalPhase_opens (hPosition : state.position = none)
    (hLast : state.lastExecutedEntryTime = none) (hSide : signal.side = .buy)
    (hEntry : EntryAt sim state.cash index position) :
    next.position = some position := by
  obtain ⟨entryIndex, entryCandle, hConfirmed, hCandle, hOpen⟩ := hEntry
  simp only [signalPhase, hSide, ne_eq, not_true_eq_false, if_false, hLast, cooldownActive, hPosition,
    isSome_none, Bool.false_eq_true, hConfirmed, hCandle, hOpen] at hPhase
  cases hPhase
  rfl

end

end Phases

section Loop
variable {rules : StrategyRules} {sim : Simulation} {strategyId : StrategyId} {symbol : Symbol}
variable {next : SimulationState}

/-- The iteration at an index, which does nothing behind the last candle. -/
def simulateAt (rules : StrategyRules) (sim : Simulation) (strategyId : StrategyId) (symbol : Symbol)
    (state : SimulationState) (index : Nat) : Except Fault SimulationState :=
  if hIndex : index < sim.candles.length then
    simulateStep rules sim strategyId symbol state ⟨index, hIndex⟩
  else .ok state

/-- The state before the iteration at `count`. -/
def loopTo (rules : StrategyRules) (sim : Simulation) (strategyId : StrategyId) (symbol : Symbol)
    (count : Nat) : Except Fault SimulationState :=
  (range count).foldlM (simulateAt rules sim strategyId symbol) (initialState sim.request)

theorem loopTo_succ_eq_ok {count : Nat} :
    loopTo rules sim strategyId symbol (count + 1) = .ok next ↔
      ∃ state, loopTo rules sim strategyId symbol count = .ok state ∧
        simulateAt rules sim strategyId symbol state count = .ok next := by
  simp only [loopTo, range_succ, foldlM_append_eq_ok, foldlM_cons, foldlM_nil, bind_pure]

theorem loopTo_of_le {count later : Nat} {reached : SimulationState}
    (hReached : loopTo rules sim strategyId symbol (count + later) = .ok reached) :
    ∃ state, loopTo rules sim strategyId symbol count = .ok state := by
  induction later generalizing reached with
  | zero => exact ⟨reached, hReached⟩
  | succ later ih =>
    obtain ⟨before, hBefore, -⟩ := loopTo_succ_eq_ok.mp hReached
    exact ih hBefore

theorem loopTo_length : loopTo rules sim strategyId symbol sim.candles.length =
    (finRange sim.candles.length).foldlM (simulateStep rules sim strategyId symbol)
      (initialState sim.request) := by
  rw [loopTo, ← map_coe_finRange_eq_range, foldlM_map]
  apply foldlM_congr
  intro state index _
  simp only [simulateAt, index.isLt, dif_pos]

theorem simulateBacktest_eq_ok {execution : BacktestExecution} (hCandles : sim.candles ≠ []) :
    simulateBacktest rules sim = .ok execution ↔
      ∃ strategyId symbol looped, StrategyId.fromStr sim.request.strategyId = .ok strategyId ∧
        Symbol.new sim.request.symbol = .ok symbol ∧
        loopTo rules sim strategyId symbol sim.candles.length = .ok looped ∧
        execution = {
          result := buildResult sim (replayEnd sim looped)
          trades := (replayEnd sim looped).trades
          equityCurve := (replayEnd sim looped).equityCurve } := by
  unfold simulateBacktest
  simp only [hCandles, if_false, bind_eq_ok, mapError_eq_ok, pure_eq_ok, loopTo_length]
  constructor
  · rintro ⟨strategyId, hId, symbol, hSymbol, looped, hLoop, rfl⟩
    exact ⟨strategyId, symbol, looped, hId, hSymbol, hLoop, rfl⟩
  · rintro ⟨strategyId, symbol, looped, hId, hSymbol, hLoop, rfl⟩
    exact ⟨strategyId, hId, symbol, hSymbol, looped, hLoop, rfl⟩

/-- What an iteration leaves of the trades, the cash and the position after
its exit phase. -/
theorem simulateAt_cases {state : SimulationState} {index : Nat} {candle : Candle}
    (hCandle : sim.candles[index]? = some candle)
    (hStep : simulateAt rules sim strategyId symbol state index = .ok next) :
    next.trades = (exitPhase sim candle state).trades ∧
      next.cash = (exitPhase sim candle state).cash ∧
      (next.position = (exitPhase sim candle state).position ∧
          next.lastExecutedEntryTime = (exitPhase sim candle state).lastExecutedEntryTime ∨
        (exitPhase sim candle state).position = none ∧
          SignalsBuyAt rules sim strategyId symbol index ∧ ∃ position,
            EntryAt sim (exitPhase sim candle state).cash index position ∧
            next.position = some position) := by
  obtain ⟨hIndex, rfl⟩ := List.getElem?_eq_some_iff.mp hCandle
  rw [simulateAt, dif_pos hIndex, simulateStep, bind_eq_ok] at hStep
  obtain ⟨evaluation, hEvaluation, hStep⟩ := hStep
  simp only at hStep
  split at hStep
  · cases hStep
    exact ⟨rfl, rfl, .inl ⟨rfl, rfl⟩⟩
  · rename_i signal hSignal
    obtain ⟨⟨early, signalled⟩, hPhase, hStep⟩ := bind_eq_ok.mp hStep
    have hSame : next.trades = signalled.trades ∧ next.cash = signalled.cash ∧
        next.position = signalled.position ∧
        next.lastExecutedEntryTime = signalled.lastExecutedEntryTime := by
      cases early with
      | true =>
        cases hStep
        exact ⟨rfl, rfl, rfl, rfl⟩
      | false =>
        cases hStep
        exact ⟨rfl, rfl, rfl, rfl⟩
    obtain ⟨hTrades, hCash, hPosition⟩ := signalPhase_cases hPhase
    rw [hSame.1, hSame.2.1, hSame.2.2.1, hSame.2.2.2]
    refine ⟨hTrades, hCash, hPosition.imp_right ?_⟩
    rintro ⟨hNone, hBuy, hOpened⟩
    exact ⟨hNone, ⟨_, evaluation, signal, hCandle, hEvaluation, hSignal, hBuy⟩, hOpened⟩

theorem simulateAt_opens {state : SimulationState} {index : Nat} {position : BacktestPosition}
    (hStep : simulateAt rules sim strategyId symbol state index = .ok next)
    (hPosition : state.position = none) (hLast : state.lastExecutedEntryTime = none)
    (hBuys : SignalsBuyAt rules sim strategyId symbol index)
    (hEntry : EntryAt sim state.cash index position) : next.position = some position := by
  obtain ⟨candle, evaluation, signal, hCandle, hEvaluation, hSignal, hSide⟩ := hBuys
  obtain ⟨hIndex, rfl⟩ := List.getElem?_eq_some_iff.mp hCandle
  have hExit : exitPhase sim (sim.candles.get ⟨index, hIndex⟩) state = state := by
    simp only [exitPhase, hPosition]
  rw [simulateAt, dif_pos hIndex, simulateStep] at hStep
  obtain ⟨other, hOther, hStep⟩ := bind_eq_ok.mp hStep
  obtain rfl : other = evaluation := Except.ok.inj (hOther.symm.trans hEvaluation)
  simp only [hSignal, hExit] at hStep
  obtain ⟨⟨early, signalled⟩, hPhase, hStep⟩ := bind_eq_ok.mp hStep
  have hOpened := signalPhase_opens hPhase hPosition hLast hSide hEntry
  cases early with
  | true =>
    cases hStep
    exact hOpened
  | false =>
    cases hStep
    exact hOpened

end Loop

end AegisQuant.Replay
