import AegisQuant.Replay.EntryBeforeExit
import AegisQuant.Replay.Positions

/-! Stop loss and take profit. The validator bounds both in percent; the
take-profit price divides by a hundred, and the stop-loss price does not. -/
namespace AegisQuant.Replay

open Strategy Fallible Option

/-- Both exit prices are the given percentages away from the entry price, and
no candle from the entry on that reaches one of them leaves the position
open. -/
structure ExitsInPercent (rules : StrategyRules) (sim : Simulation) : Prop where
  prices : ∀ strategyId symbol index state position,
    StrategyId.fromStr sim.request.strategyId = .ok strategyId →
    Symbol.new sim.request.symbol = .ok symbol → index ≤ sim.candles.length →
    loopTo rules sim strategyId symbol index = .ok state → state.position = some position →
    (∀ pct, sim.strategyConfig.stopLossPct = some pct →
        position.stopLossPrice = some (position.entryPrice * (1 - pct / 100))) ∧
      ∀ pct, sim.strategyConfig.takeProfitPct = some pct →
        position.takeProfitPrice = some (position.entryPrice * (1 + pct / 100))
  exits : ∀ strategyId symbol index candle state position,
    StrategyId.fromStr sim.request.strategyId = .ok strategyId →
    Symbol.new sim.request.symbol = .ok symbol → sim.candles[index]? = some candle →
    loopTo rules sim strategyId symbol index = .ok state → state.position = some position →
    position.entryTime ≤ candle.openTime →
    ((∃ pct, sim.strategyConfig.stopLossPct = some pct ∧
        candle.low ≤ position.entryPrice * (1 - pct / 100)) ∨
      ∃ pct, sim.strategyConfig.takeProfitPct = some pct ∧
        position.entryPrice * (1 + pct / 100) ≤ candle.high) →
    (exitPhase sim candle state).position = none

section Accepted
variable {request : StrategyConfigUpdateRequest} {context : StrategyValidationContext}
  {validatedAt : DateTime} {config : StrategyConfig}

theorem exitPercents_pos
    (hConfig : (validateStrategyConfig request context validatedAt).normalizedConfig = some config) :
    (∀ pct, config.stopLossPct = some pct → 0 < pct) ∧
      ∀ pct, config.takeProfitPct = some pct → 0 < pct := by
  obtain ⟨strategyId, -, hIssues, rfl⟩ := normalizedConfig_eq_some.mp hConfig
  unfold configIssues at hIssues
  simp only [hasError_append, Bool.or_eq_false_iff, validateOptionalPercent, hasError_errorIf,
    decide_eq_false_iff_not] at hIssues
  obtain ⟨⟨⟨⟨⟨⟨-, hStop⟩, hTake⟩, -⟩, -⟩, -⟩, -⟩ := hIssues
  constructor
  · intro pct hPct
    have hGiven : request.stopLossPct = some pct := hPct
    simp only [hGiven, any_some, decide_eq_true_eq, not_or, not_le] at hStop
    exact hStop.1
  · intro pct hPct
    have hGiven : request.takeProfitPct = some pct := hPct
    simp only [hGiven, any_some, decide_eq_true_eq, not_or, not_le] at hTake
    exact hTake.1

end Accepted

section Runs
variable {sim : Simulation}

theorem exitPrices_of_held {state : SimulationState} {position : BacktestPosition}
    (hHeld : Held sim state) (hPosition : state.position = some position) :
    0 < position.entryPrice ∧ position.stopLossPrice =
        sim.strategyConfig.stopLossPct.map (fun pct => position.entryPrice * (1 - pct)) ∧
      position.takeProfitPrice =
        sim.strategyConfig.takeProfitPct.map (fun pct => position.entryPrice * (1 + pct / 100)) := by
  obtain ⟨entered, candle, -, hBought, hSame⟩ := hHeld position hPosition
  rw [hSame]
  exact ⟨hBought.entryPrice_pos, hBought.stopLossPrice, hBought.takeProfitPrice⟩

theorem stopLossPrice_ne {entryPrice pct : Decimal} (hEntry : 0 < entryPrice) (hPct : 0 < pct) :
    entryPrice * (1 - pct) ≠ entryPrice * (1 - pct / 100) := by
  intro hSame
  have hFactor := mul_left_cancel₀ hEntry.ne' hSame
  linarith

end Runs

section Percent
variable {rules : StrategyRules} {sim : Simulation}

theorem neverOpens_of_exitsInPercent {pct : Decimal} {execution : BacktestExecution}
    (hPercent : ExitsInPercent rules sim) (hStop : sim.strategyConfig.stopLossPct = some pct)
    (hPct : 0 < pct) (hRun : simulateBacktest rules sim = .ok execution) : NeverOpens rules sim := by
  by_cases hCandles : sim.candles = []
  · exact neverOpens_of_nil hCandles
  intro strategyId symbol index position hId hSymbol hBuys
  obtain ⟨otherId, otherSymbol, looped, hOtherId, hOtherSymbol, hLoop, -⟩ :=
    (simulateBacktest_eq_ok hCandles).mp hRun
  obtain rfl : otherId = strategyId := Except.ok.inj (hOtherId.symm.trans hId)
  obtain rfl : otherSymbol = symbol := Except.ok.inj (hOtherSymbol.symm.trans hSymbol)
  refine not_entryAt_of_unopened hLoop ?_ hBuys
  intro count hCount next opened hNext _ _ hOpened
  obtain ⟨hEntry, hPrice, -⟩ := exitPrices_of_held (loopTo_held hCount hNext) hOpened
  have hInPercent := (hPercent.prices otherId otherSymbol (count + 1) next opened hId hSymbol hCount
    hNext hOpened).1 pct hStop
  rw [hPrice, hStop, map_some, some.injEq] at hInPercent
  exact stopLossPrice_ne hEntry hPct hInPercent

theorem exitsInPercent_of_no_stopLoss (hStop : sim.strategyConfig.stopLossPct = none) :
    ExitsInPercent rules sim := by
  constructor
  · intro strategyId symbol index state position _ _ hIndex hState hPosition
    obtain ⟨-, -, hTake⟩ := exitPrices_of_held (loopTo_held hIndex hState) hPosition
    refine ⟨fun pct hPct => ?_, fun pct hPct => ?_⟩
    · rw [hStop] at hPct
      cases hPct
    · rw [hTake, hPct, map_some]
  · intro strategyId symbol index candle state position _ _ hCandle hState hPosition _ hReached
    have hIndex := (List.getElem?_eq_some_iff.mp hCandle).1
    obtain ⟨-, -, hTake⟩ := exitPrices_of_held (loopTo_held hIndex.le hState) hPosition
    rcases hReached with ⟨pct, hPct, -⟩ | ⟨pct, hPct, hHigh⟩
    · rw [hStop] at hPct
      cases hPct
    · rcases exitPhase_outcome sim candle hPosition with ⟨price, reason, -, hExit⟩ | ⟨-, hOpen, -⟩
      · rw [hExit]
      · rw [hTake, hPct, map_some, filter_some, if_pos (decide_eq_true hHigh)] at hOpen
        cases hOpen

theorem exitsInPercent_of_neverOpens (hNever : NeverOpens rules sim) : ExitsInPercent rules sim := by
  constructor
  · intro strategyId symbol index state position hId hSymbol hIndex hState hPosition
    rw [(hNever.untouched hId hSymbol hIndex hState).position] at hPosition
    cases hPosition
  · intro strategyId symbol index candle state position hId hSymbol hCandle hState hPosition
    have hIndex := (List.getElem?_eq_some_iff.mp hCandle).1
    rw [(hNever.untouched hId hSymbol hIndex.le hState).position] at hPosition
    cases hPosition

end Percent

/-- In a run over an accepted configuration both exits are in percent exactly
when no stop loss is configured, or when nothing is opened at all. -/
theorem exits_in_percent_iff (rules : StrategyRules) (sim : Simulation)
    {request : StrategyConfigUpdateRequest} {context : StrategyValidationContext}
    {validatedAt : DateTime}
    (hConfig : (validateStrategyConfig request context validatedAt).normalizedConfig =
      some sim.strategyConfig)
    {execution : BacktestExecution} (hRun : simulateBacktest rules sim = .ok execution) :
    ExitsInPercent rules sim ↔ sim.strategyConfig.stopLossPct = none ∨ NeverOpens rules sim := by
  constructor
  · intro hPercent
    cases hStop : sim.strategyConfig.stopLossPct with
    | none => exact .inl rfl
    | some pct =>
      have hPct := (exitPercents_pos hConfig).1 pct hStop
      exact .inr (neverOpens_of_exitsInPercent hPercent hStop hPct hRun)
  · rintro (hStop | hNever)
    · exact exitsInPercent_of_no_stopLoss hStop
    · exact exitsInPercent_of_neverOpens hNever

/-- A momentum configuration with a stop loss and a take profit. -/
def exitsRequest (stopLossPct : Option Decimal) : StrategyConfigUpdateRequest where
  strategyId := "momentum_v1"
  enabled := true
  mode := .research
  symbols := ["BTCUSDT"]
  timeframe := "1m"
  suggestedNotional := 100
  maxSignalAgeMs := 120000
  cooldownSeconds := 0
  lookbackCandles := 2
  stopLossPct := stopLossPct
  takeProfitPct := some 20

/-- The position of the signal at the third candle meets a fall by half. -/
def fallingSimulation (stopLossPct : Option Decimal) : Simulation :=
  { sampleSimulation with
    request := { sampleSimulation.request with holdingCandles := some 5 }
    strategyConfig := normalizedConfig .momentumV1 (exitsRequest stopLossPct) sampleValidation
    candles := [sampleCandle 0 100, sampleCandle 1 105, sampleCandle 2 110, sampleCandle 3 111,
      { sampleCandle 4 110 with low := 55 }, sampleCandle 5 110] }

/-- Without a stop loss there is only the take profit. -/
theorem exits_in_percent_sample : ExitsInPercent strategyRules (fallingSimulation none) := by
  have hRuns : (simulateBacktest strategyRules (fallingSimulation none)).toOption.isSome = true := by
    decide +kernel
  obtain ⟨execution, hRun⟩ := isSome_iff_exists.mp hRuns
  rw [toOption_eq_some] at hRun
  have hConfig : (validateStrategyConfig (exitsRequest none) sampleValidation 0).normalizedConfig =
      some (fallingSimulation none).strategyConfig := by with_unfolding_all rfl
  exact (exits_in_percent_iff strategyRules (fallingSimulation none) hConfig hRun).mpr (.inl rfl)

/-- A position with a stop loss of two percent survives a candle that loses
half of its price. -/
theorem stop_loss_survives_fall : ¬∀ (sim : Simulation) request context validatedAt execution,
      (validateStrategyConfig request context validatedAt).normalizedConfig =
        some sim.strategyConfig →
      simulateBacktest strategyRules sim = .ok execution → ExitsInPercent strategyRules sim := by
  intro hPercent
  have hRuns : (simulateBacktest strategyRules (fallingSimulation (some 2))).toOption.isSome =
      true := by decide +kernel
  obtain ⟨execution, hRun⟩ := isSome_iff_exists.mp hRuns
  rw [toOption_eq_some] at hRun
  have hConfig : (validateStrategyConfig (exitsRequest (some 2)) sampleValidation 0).normalizedConfig =
      some (fallingSimulation (some 2)).strategyConfig := by with_unfolding_all rfl
  have hExits := (hPercent _ _ _ _ execution hConfig hRun).exits
  have hSurvives : (loopTo strategyRules (fallingSimulation (some 2)) .momentumV1 .btcusdt 4).toOption.map
      (fun state => state.position.map fun position =>
        (decide (position.entryTime ≤ DateTime.seconds 240 ∧
          55 ≤ position.entryPrice * (1 - 2 / 100)),
        (exitPhase (fallingSimulation (some 2)) { sampleCandle 4 110 with low := 55 } state).position.isSome)) =
      some (some (true, true)) := by decide +kernel
  obtain ⟨state, hState, hPosition⟩ := map_eq_some_iff.mp hSurvives
  obtain ⟨position, hPosition, hBoth⟩ := map_eq_some_iff.mp hPosition
  obtain ⟨hReached, hOpen⟩ := Prod.mk.inj hBoth
  obtain ⟨hEntered, hLow⟩ := of_decide_eq_true hReached
  rw [toOption_eq_some] at hState
  have hClosed := hExits .momentumV1 .btcusdt 4 { sampleCandle 4 110 with low := 55 } state position rfl rfl
    rfl hState hPosition hEntered (.inl ⟨2, rfl, hLow⟩)
  rw [hClosed] at hOpen
  cases hOpen

end AegisQuant.Replay
