import AegisQuant.Replay.CashConservation

/-! Every signal of a backtest is accounted for under one reason, and those
under `none` are the positions opened, each of which ends as one trade. -/
namespace AegisQuant.Replay
open Fallible List

def countsFor (breakdown : List ReplaySuppressionCount) (reason : ReplaySuppressionReason) :
    List Int :=
  (breakdown.filter (·.reason = reason)).map (·.count)

def totalCount (breakdown : List ReplaySuppressionCount) : Int :=
  (breakdown.map (·.count)).sum

def positionsOpened (state : SimulationState) : Nat :=
  state.trades.length + state.position.toList.length

/-- The loop invariant. -/
structure SignalsCounted (state : SimulationState) : Prop where
  signals : state.rawSignalCount = totalCount (suppressionBreakdown state.suppressionCounts)
  executed : state.suppressionCounts .none = positionsOpened state

section Counts
variable {sim : Simulation} {state next : SimulationState} {candle : Candle}

section
variable (counts : ReplaySuppressionReason → Int) (reason : ReplaySuppressionReason)

theorem countsFor_suppressionBreakdown :
    countsFor (suppressionBreakdown counts) reason = [counts reason] := by
  cases reason with
  | cooldownActive | positionAlreadyOpen | insufficientForwardData | invalidSignal | none => rfl

theorem totalCount_update :
    totalCount (suppressionBreakdown (Function.update counts reason (counts reason + 1))) =
      totalCount (suppressionBreakdown counts) + 1 := by
  cases reason with
  | cooldownActive | positionAlreadyOpen | insufficientForwardData | invalidSignal | none =>
    simp [totalCount, suppressionBreakdown, Function.update_apply]
    omega

end

theorem SignalsCounted.congr (hState : SignalsCounted state)
    (hRaw : next.rawSignalCount = state.rawSignalCount)
    (hCounts : next.suppressionCounts = state.suppressionCounts)
    (hOpened : positionsOpened next = positionsOpened state) : SignalsCounted next where
  signals := by rw [hRaw, hCounts, hState.signals]
  executed := by rw [hCounts, hOpened, hState.executed]

theorem exitPhase_counted (sim : Simulation) (candle : Candle) (state : SimulationState) :
    (exitPhase sim candle state).rawSignalCount = state.rawSignalCount ∧
      (exitPhase sim candle state).suppressionCounts = state.suppressionCounts := by
  apply exitPhase_rule (P := fun next => next.rawSignalCount = state.rawSignalCount ∧
    next.suppressionCounts = state.suppressionCounts) sim candle state
  · exact fun _ => ⟨rfl, rfl⟩
  · exact fun _ _ _ _ _ => ⟨rfl, rfl⟩
  · exact fun _ _ => ⟨rfl, rfl⟩

theorem SignalsCounted.exitPhase (hState : SignalsCounted state) :
    SignalsCounted (exitPhase sim candle state) := by
  obtain ⟨hRaw, hCounts⟩ := exitPhase_counted sim candle state
  refine hState.congr hRaw hCounts ?_
  rw [positionsOpened, positionsOpened]
  rcases exitPhase_cases sim candle state with ⟨-, hSame⟩ |
    ⟨position, hHeld, ⟨trade, -, -, hNone, hTrades⟩ | ⟨hKept, hTrades⟩⟩
  · rw [hSame]
  · rw [hNone, hTrades, hHeld, length_append]
    rfl
  · rw [hKept, hTrades, hHeld]
    rfl

/-- A signal is counted under one reason, and under `none` precisely if it opens
a position. -/
theorem signalPhase_counts {index : Nat} {signal : StrategySignal} {early : Bool}
    (hPhase : signalPhase sim index candle signal state = .ok (early, next)) :
    ∃ reason, next.rawSignalCount = state.rawSignalCount + 1 ∧
      next.suppressionCounts =
        Function.update state.suppressionCounts reason (state.suppressionCounts reason + 1) ∧
      positionsOpened next = positionsOpened state + if reason = .none then 1 else 0 := by
  rcases signalPhase_effect hPhase with ⟨reason, hReason, rfl⟩ | ⟨hPosition, -, position, -, rfl⟩
  · exact ⟨reason, rfl, rfl, by rw [if_neg hReason]; rfl⟩
  · refine ⟨.none, rfl, rfl, ?_⟩
    rw [positionsOpened, positionsOpened, hPosition]
    rfl

theorem SignalsCounted.signalPhase (hState : SignalsCounted state) {index : Nat}
    {signal : StrategySignal} {early : Bool}
    (hPhase : signalPhase sim index candle signal state = .ok (early, next)) : SignalsCounted next := by
  obtain ⟨reason, hRaw, hCounts, hOpened⟩ := signalPhase_counts hPhase
  constructor
  · rw [hRaw, hCounts, totalCount_update, hState.signals]
  · rw [hCounts, hOpened, Function.update_apply]
    by_cases hExecuted : reason = .none
    · rw [if_pos hExecuted.symm, if_pos hExecuted, hExecuted, hState.executed]
      rfl
    · rw [if_neg (Ne.symm hExecuted), if_neg hExecuted, hState.executed]
      rfl

theorem SignalsCounted.recordEquity (hState : SignalsCounted state) (runId : Uuid)
    (timestamp : DateTime) (markPrice : Decimal) :
    SignalsCounted (recordEquity runId timestamp markPrice state) :=
  hState.congr rfl rfl rfl

/-- One iteration of the candle loop keeps the invariant, those that a signal
ends early included. -/
theorem SignalsCounted.simulateStep {rules : StrategyRules} {strategyId : StrategyId}
    {symbol : Symbol} {index : Fin sim.candles.length} (hState : SignalsCounted state)
    (hStep : simulateStep rules sim strategyId symbol state index = .ok next) :
    SignalsCounted next := by
  have hExited : SignalsCounted (Replay.exitPhase sim (sim.candles.get index) state) :=
    hState.exitPhase
  rw [Replay.simulateStep, bind_eq_ok] at hStep
  obtain ⟨evaluation, -, hStep⟩ := hStep
  simp only at hStep
  split at hStep
  · cases hStep
    exact hExited.recordEquity ..
  · obtain ⟨⟨early, signalled⟩, hPhase, hStep⟩ := bind_eq_ok.mp hStep
    have hSignalled := hExited.signalPhase hPhase
    cases early with
    | true =>
      cases hStep
      exact hSignalled
    | false =>
      cases hStep
      exact hSignalled.recordEquity ..

theorem replayEnd_counts (hState : SignalsCounted state)
    (hCandles : sim.candles ≠ []) :
    (replayEnd sim state).rawSignalCount =
      totalCount (suppressionBreakdown (replayEnd sim state).suppressionCounts) ∧
    (replayEnd sim state).suppressionCounts .none = (replayEnd sim state).trades.length := by
  unfold replayEnd
  split
  · rename_i position lastCandle hHeld hLast
    refine ⟨hState.signals, hState.executed.trans ?_⟩
    rw [positionsOpened, hHeld, Replay.recordEquity, closePosition, length_append]
    rfl
  · rename_i hAbsent
    refine ⟨hState.signals, hState.executed.trans ?_⟩
    cases hHeld : state.position with
    | none => rw [positionsOpened, hHeld]; rfl
    | some position =>
      obtain ⟨lastCandle, hLast⟩ := Option.isSome_iff_exists.mp
        (getLast?_isSome.mpr hCandles)
      exact absurd hLast (hAbsent position lastCandle hHeld)

end Counts

/-- Whatever the strategy decides, every signal of a run is counted under one
reason, and those counted under `none` are its trades. -/
theorem simulateBacktest_accounts_for_signals (rules : StrategyRules) (sim : Simulation)
    (execution : BacktestExecution) (hOk : simulateBacktest rules sim = .ok execution) :
    execution.result.rawSignalCount = totalCount execution.result.suppressionBreakdown ∧
      countsFor execution.result.suppressionBreakdown .none = [execution.result.tradeCount] ∧
      execution.result.tradeCount = execution.trades.length ∧
      execution.result.executedTradeCount = execution.trades.length ∧
      countsFor execution.result.suppressionBreakdown .cooldownActive =
        [execution.result.cooldownSuppressedCount] ∧
      countsFor execution.result.suppressionBreakdown .positionAlreadyOpen =
        [execution.result.openPositionSuppressedCount] := by
  by_cases hCandles : sim.candles = []
  · rw [simulateBacktest, if_pos hCandles] at hOk
    cases hOk
    exact ⟨rfl, rfl, rfl, rfl, rfl, rfl⟩
  · obtain ⟨strategyId, symbol, looped, -, -, hLoop, rfl⟩ := (simulateBacktest_eq_ok hCandles).mp hOk
    rw [loopTo_length] at hLoop
    have hLooped : SignalsCounted looped :=
      foldlM_invariant (fun _ _ _ _ hState hStep => hState.simulateStep hStep)
        ⟨rfl, rfl⟩ hLoop
    obtain ⟨hSignals, hExecuted⟩ := replayEnd_counts hLooped hCandles
    refine ⟨hSignals, ?_, rfl, rfl, countsFor_suppressionBreakdown .., countsFor_suppressionBreakdown ..⟩
    rw [buildResult, countsFor_suppressionBreakdown, hExecuted]

theorem simulateBacktest_accounts_for_signals_sample :
    ∃ execution, simulateBacktest evaluateMomentum sampleSimulation = .ok execution ∧
      execution.trades.length = 2 ∧
      execution.result.rawSignalCount = totalCount execution.result.suppressionBreakdown := by
  have hTrades : (simulateBacktest evaluateMomentum sampleSimulation).toOption.map
      (·.trades.length) = some 2 := by decide +kernel
  cases hRun : simulateBacktest evaluateMomentum sampleSimulation with
  | error fault =>
    rw [hRun] at hTrades
    cases hTrades
  | ok execution =>
    rw [hRun] at hTrades
    exact ⟨execution, rfl, Option.some.inj hTrades,
      (simulateBacktest_accounts_for_signals evaluateMomentum sampleSimulation execution hRun).1⟩

end AegisQuant.Replay
