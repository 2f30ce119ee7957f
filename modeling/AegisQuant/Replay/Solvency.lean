import AegisQuant.Replay.ExitPrices
import AegisQuant.Replay.SignalFates
import AegisQuant.Strategy.RecentCandles

/-! Solvency of a backtest. An entry is paid from the cash, so that the cash
stays with fees of at most the notional and slippage below the price. The
validator of a request bounds neither from above. -/
namespace AegisQuant.Replay

open Strategy Fallible List Option

/-- Positive prices, between the low and the high. -/
structure WellPriced (candle : Candle) : Prop where
  low_pos : 0 < candle.low
  low_le_open : candle.low ≤ candle.open
  open_le_high : candle.open ≤ candle.high
  low_le_close : candle.low ≤ candle.close
  close_le_high : candle.close ≤ candle.high

/-- The cash never goes negative and pays for every position, every exit has a
price, and nothing divides by zero. -/
structure Solvent (rules : StrategyRules) (sim : Simulation) : Prop where
  cash : ∀ strategyId symbol index state,
    StrategyId.fromStr sim.request.strategyId = .ok strategyId →
    Symbol.new sim.request.symbol = .ok symbol → index ≤ sim.candles.length →
    loopTo rules sim strategyId symbol index = .ok state →
    0 ≤ state.cash ∧ ∀ position, state.position = some position →
      position.notional + position.feePaid ≤ state.cash
  finalCash : ∀ execution, simulateBacktest rules sim = .ok execution →
    0 ≤ execution.result.finalEquity
  exits : ∀ execution, simulateBacktest rules sim = .ok execution →
    ∀ trade ∈ execution.trades, ∃ price, trade.exitPrice = some price ∧ 0 < price
  divides : simulateBacktest rules sim ≠ .error .divisionByZero

section Failures
variable {rules : StrategyRules} {sim : Simulation} {strategyId : StrategyId} {symbol : Symbol}

section
variable (hFee : 1 + sim.request.feeBps / bpsDenominator ≠ 0)
  (hPrices : ∀ candle ∈ sim.candles, applyEntrySlippage candle.open sim.request.slippageBps ≠ 0)
include hFee hPrices

/-- Where no entry divides by zero, an iteration fails with its evaluation. -/
theorem simulateAt_error {state : SimulationState} {index : Nat} {fault : Fault}
    (hStep : simulateAt rules sim strategyId symbol state index = .error fault) :
    ∃ candle, sim.candles[index]? = some candle ∧ evaluate rules (sim.signalId index) {
      correlationId := sim.correlationId
      strategyId := strategyId
      symbol := symbol
      config := sim.strategyConfig
      candles := sim.candles.take (index + 1)
      evaluatedAt := candle.closeTime } = .error fault := by
  cases hCandle : sim.candles[index]? with
  | none =>
    rw [simulateAt_of_length_le (getElem?_eq_none_iff.mp hCandle)] at hStep
    cases hStep
  | some candle =>
    refine ⟨candle, rfl, ?_⟩
    rw [simulateAt_of_getElem? sim hCandle] at hStep
    rcases bind_eq_error.mp hStep with hEvaluation | ⟨evaluation, -, hStep⟩
    · exact hEvaluation
    · simp only at hStep
      cases hSignal : evaluation.signal with
      | none =>
        rw [hSignal] at hStep
        cases hStep
      | some signal =>
        rw [hSignal] at hStep
        rcases bind_eq_error.mp hStep with hPhase | ⟨⟨early, next⟩, -, hStep⟩
        · rw [signalPhase_eq] at hPhase
          simp only at hPhase
          split at hPhase
          · cases hPhase
          · rename_i entryIndex entry hFate
            obtain ⟨-, -, -, -, hMember⟩ := signalFate_eq_entering.mp hFate
            obtain ⟨opened, hOpened⟩ : ∃ opened, maybeOpenPosition sim.request.config
                sim.strategyConfig entry (exitPhase sim candle state).cash = .ok opened :=
              maybeOpenPosition_isOk hFee (hPrices entry (mem_of_getElem? hMember))
            rw [hOpened] at hPhase
            cases hPhase
        · cases early with
          | true => cases hStep
          | false => cases hStep

theorem loopTo_error {count : Nat} {fault : Fault}
    (hLoop : loopTo rules sim strategyId symbol count = .error fault) :
    ∃ index candle, sim.candles[index]? = some candle ∧ evaluate rules (sim.signalId index) {
      correlationId := sim.correlationId
      strategyId := strategyId
      symbol := symbol
      config := sim.strategyConfig
      candles := sim.candles.take (index + 1)
      evaluatedAt := candle.closeTime } = .error fault := by
  induction count with
  | zero => cases hLoop
  | succ count ih =>
    rw [loopTo, range_succ, foldlM_append] at hLoop
    rcases bind_eq_error.mp hLoop with hBefore | ⟨state, -, hStep⟩
    · exact ih hBefore
    · rw [foldlM_cons] at hStep
      rcases bind_eq_error.mp hStep with hFails | ⟨next, -, hNil⟩
      · exact ⟨count, simulateAt_error hFee hPrices hFails⟩
      · cases hNil

end

end Failures

section Sufficient
variable {rules : StrategyRules} {sim : Simulation} {strategyId : StrategyId} {symbol : Symbol}
  {state : SimulationState}

structure Bounded (sim : Simulation) : Prop where
  fee_nonneg : 0 ≤ sim.request.feeBps
  fee_le : sim.request.feeBps ≤ bpsDenominator
  slippage_nonneg : 0 ≤ sim.request.slippageBps
  slippage_lt : sim.request.slippageBps < bpsDenominator
  takeProfit_pos : ∀ pct, sim.strategyConfig.takeProfitPct = some pct → 0 < pct

theorem bpsDenominator_pos : 0 < bpsDenominator := by norm_num [bpsDenominator]

theorem feeMultiplier_pos {feeBps : Decimal} (hFee : 0 ≤ feeBps) :
    0 < 1 + feeBps / bpsDenominator := by
  have hRatio := div_nonneg hFee bpsDenominator_pos.le
  linarith

theorem applyExitSlippage_pos {price slippageBps : Decimal} (hPrice : 0 < price) :
    0 < applyExitSlippage price slippageBps ↔ slippageBps < bpsDenominator := by
  rw [applyExitSlippage, mul_pos_iff_of_pos_left hPrice, sub_pos, div_lt_one bpsDenominator_pos]

theorem exitPrice_pos (hBounded : Bounded sim) (hHeld : Held sim state) {candle : Candle}
    (hCandle : WellPriced candle) {position : BacktestPosition}
    (hPosition : state.position = some position) {price : Decimal}
    (hPrice : ExitPrice candle position price) : 0 < price := by
  cases hPrice with
  | stopLoss _ hReached => exact hCandle.low_pos.trans_le hReached
  | takeProfit hConfigured _ =>
    obtain ⟨hEntry, -, hTake⟩ := exitPrices_of_held hHeld hPosition
    rw [hTake, map_eq_some_iff] at hConfigured
    obtain ⟨pct, hPct, rfl⟩ := hConfigured
    have hRise := hBounded.takeProfit_pos pct hPct
    exact mul_pos hEntry (by linarith)
  | holdingPeriod => exact hCandle.low_pos.trans_le hCandle.low_le_close

/-- The invariant of a solvent run. -/
structure Paid (sim : Simulation) (state : SimulationState) : Prop where
  held : Held sim state
  cash : 0 ≤ state.cash
  exits : ∀ trade ∈ state.trades, ∃ price, trade.exitPrice = some price ∧ 0 < price

theorem Paid.position (hPaid : Paid sim state) (hFee : 0 ≤ sim.request.feeBps)
    {position : BacktestPosition} (hPosition : state.position = some position) :
    position.notional + position.feePaid ≤ state.cash ∧ 0 < position.quantity := by
  obtain ⟨entered, candle, -, hBought, hSame⟩ := hPaid.held position hPosition
  rw [hSame]
  exact ⟨hBought.paid (feeMultiplier_pos hFee), hBought.quantity_pos⟩

theorem Paid.closePosition (hPaid : Paid sim state) (hBounded : Bounded sim)
    {position : BacktestPosition} (hPosition : state.position = some position) {price : Decimal}
    (hPrice : 0 < price) (exitTime : DateTime) (reason : String) :
    Paid sim { closePosition sim position exitTime price reason state with position := none } := by
  obtain ⟨hCost, hQuantity⟩ := hPaid.position hBounded.fee_nonneg hPosition
  have hExit := (applyExitSlippage_pos hPrice).mpr hBounded.slippage_lt
  have hNotional : 0 < position.quantity * applyExitSlippage price sim.request.slippageBps :=
    mul_pos hQuantity hExit
  have hFee : feeAmount (position.quantity * applyExitSlippage price sim.request.slippageBps)
      sim.request.feeBps ≤ position.quantity * applyExitSlippage price sim.request.slippageBps := by
    rw [feeAmount, mul_div_assoc]
    exact mul_le_of_le_one_right hNotional.le ((div_le_one bpsDenominator_pos).mpr hBounded.fee_le)
  constructor
  · exact held_of_none rfl
  · change 0 ≤ state.cash - (position.notional + position.feePaid) +
      (position.quantity * applyExitSlippage price sim.request.slippageBps -
        feeAmount (position.quantity * applyExitSlippage price sim.request.slippageBps)
          sim.request.feeBps)
    linarith
  · intro trade hTrade
    rcases mem_append.mp hTrade with hOld | hNew
    · exact hPaid.exits trade hOld
    · rw [mem_singleton.mp hNew]
      exact ⟨_, rfl, hExit⟩

theorem Paid.exitPhase (hPaid : Paid sim state) (hBounded : Bounded sim) {candle : Candle}
    (hCandle : WellPriced candle) : Paid sim (exitPhase sim candle state) := by
  cases hPosition : state.position with
  | none =>
    simp only [Replay.exitPhase, hPosition]
    exact hPaid
  | some position =>
    rcases exitPhase_outcome sim candle hPosition with
      ⟨price, reason, hPrice, hExit⟩ | ⟨-, -, -, hExit⟩
    · rw [hExit]
      exact hPaid.closePosition hBounded hPosition
        (exitPrice_pos hBounded hPaid.held hCandle hPosition hPrice) _ _
    · refine ⟨hPaid.held.exitPhase, ?_, ?_⟩
      · rw [hExit]
        exact hPaid.cash
      · rw [hExit]
        exact hPaid.exits

theorem loopTo_paid (hBounded : Bounded sim) (hCapital : 0 < sim.request.initialCapital)
    (hCandles : ∀ candle ∈ sim.candles, WellPriced candle) {count : Nat}
    (hLength : count ≤ sim.candles.length)
    (hState : loopTo rules sim strategyId symbol count = .ok state) : Paid sim state := by
  induction count generalizing state with
  | zero =>
    cases hState
    exact ⟨held_of_none rfl, hCapital.le, by simp [initialState]⟩
  | succ count ih =>
    obtain ⟨before, hBefore, hStep⟩ := loopTo_succ_eq_ok.mp hState
    have hIndex : count < sim.candles.length := by omega
    have hPaid := ih (by omega) hBefore
    have hExited := hPaid.exitPhase hBounded (hCandles _ (getElem_mem hIndex))
    obtain ⟨hTrades, hCash, -⟩ := simulateAt_cases (getElem?_eq_getElem hIndex) hStep
    refine ⟨hPaid.held.simulateAt (getElem?_eq_getElem hIndex) hStep, ?_, ?_⟩
    · rw [hCash]
      exact hExited.cash
    · rw [hTrades]
      exact hExited.exits

theorem Paid.replayEnd (hPaid : Paid sim state) (hBounded : Bounded sim)
    (hCandles : ∀ candle ∈ sim.candles, WellPriced candle) :
    0 ≤ (replayEnd sim state).cash ∧
      ∀ trade ∈ (replayEnd sim state).trades, ∃ price, trade.exitPrice = some price ∧ 0 < price := by
  unfold Replay.replayEnd
  split
  · rename_i position last hPosition hLast
    have hLastCandle := hCandles last (mem_of_getLast? hLast)
    have hClosed := hPaid.closePosition hBounded hPosition
      (hLastCandle.low_pos.trans_le hLastCandle.low_le_close) last.closeTime "replay_end"
    exact ⟨hClosed.cash, hClosed.exits⟩
  · exact ⟨hPaid.cash, hPaid.exits⟩

end Sufficient

section Accepted
variable {sim : Simulation} {request : StrategyConfigUpdateRequest}
  {context : StrategyValidationContext} {validatedAt : DateTime}

theorem mapError_ne_divisionByZero {α : Type} (first : Except CoreError α) :
    first.mapError Fault.core ≠ .error .divisionByZero := by
  cases first with
  | error fault => exact nofun
  | ok value => exact nofun

theorem evaluate_ne_divisionByZero (signalId : Uuid) (evaluated : StrategyEvaluationContext)
    (hConfig : (validateStrategyConfig request context validatedAt).normalizedConfig =
      some evaluated.config) :
    evaluate strategyRules signalId evaluated ≠ .error .divisionByZero := by
  obtain ⟨strategyId, -, hIssues, hNormalized⟩ := normalizedConfig_eq_some.mp hConfig
  have hPassed := passedChecks_of_no_error hIssues
  have hValid : evaluated.config.validate = .ok () := hNormalized ▸ validate_of_passedChecks hPassed
  by_cases hId : evaluated.config.strategyId = evaluated.strategyId
  · obtain ⟨result, hResult⟩ : ∃ result, evaluate strategyRules signalId evaluated = .ok result :=
      exists_evaluate hValid hId.symm (hNormalized ▸ windowsNonempty_of_passedChecks hPassed)
    rw [hResult]
    intro hSame
    cases hSame
  · simp only [evaluate, hValid, Except.mapError, ok_bind, ne_eq, hId, not_false_eq_true, if_true]
    intro hSame
    cases hSame

theorem bounds_of_validate (hRequest : sim.request.validate = .ok ()) :
    0 < sim.request.initialCapital ∧ 0 ≤ sim.request.feeBps ∧ 0 ≤ sim.request.slippageBps := by
  simp only [BacktestRequest.validate, BacktestConfig.validate, bind_eq_ok,
    require_eq_ok, decide_eq_true_eq, exists_const] at hRequest
  obtain ⟨-, -, -, -, hCapital, -, -, -, hFee, hSlippage⟩ := hRequest
  exact ⟨hCapital, hFee, hSlippage⟩

theorem entryPrices_ne_zero (hSlippage : 0 ≤ sim.request.slippageBps)
    (hCandles : ∀ candle ∈ sim.candles, WellPriced candle) :
    ∀ candle ∈ sim.candles, applyEntrySlippage candle.open sim.request.slippageBps ≠ 0 := by
  intro candle hCandle
  have hPriced := hCandles candle hCandle
  exact (applyEntrySlippage_pos (hPriced.low_pos.trans_le hPriced.low_le_open)
    ((neg_neg_of_pos bpsDenominator_pos).trans_le hSlippage)).ne'

/-- Fees and slippage below a hundred percent keep an accepted backtest
solvent. -/
theorem solvent_of_bounds (hRequest : sim.request.validate = .ok ())
    (hConfig : (validateStrategyConfig request context validatedAt).normalizedConfig =
      some sim.strategyConfig)
    (hCandles : ∀ candle ∈ sim.candles, WellPriced candle)
    (hFee : sim.request.feeBps ≤ bpsDenominator) (hSlippage : sim.request.slippageBps < bpsDenominator) :
    Solvent strategyRules sim := by
  obtain ⟨hCapital, hFeeNonneg, hSlippageNonneg⟩ := bounds_of_validate hRequest
  have hBounded : Bounded sim :=
    ⟨hFeeNonneg, hFee, hSlippageNonneg, hSlippage, (exitPercents_pos hConfig).2⟩
  have hEnds : ∀ execution, simulateBacktest strategyRules sim = .ok execution →
      0 ≤ execution.result.finalEquity ∧
        ∀ trade ∈ execution.trades, ∃ price, trade.exitPrice = some price ∧ 0 < price := by
    intro execution hRun
    by_cases hEmpty : sim.candles = []
    · simp only [simulateBacktest, hEmpty, if_true] at hRun
      cases hRun
      exact ⟨hCapital.le, by simp⟩
    · obtain ⟨strategyId, symbol, looped, -, -, hLoop, rfl⟩ :=
        (simulateBacktest_eq_ok hEmpty).mp hRun
      exact (loopTo_paid hBounded hCapital hCandles le_rfl hLoop).replayEnd hBounded hCandles
  constructor
  · intro strategyId symbol index state _ _ hIndex hState
    have hPaid := loopTo_paid hBounded hCapital hCandles hIndex hState
    exact ⟨hPaid.cash, fun position hPosition => (hPaid.position hFeeNonneg hPosition).1⟩
  · exact fun execution hRun => (hEnds execution hRun).1
  · exact fun execution hRun => (hEnds execution hRun).2
  · intro hFault
    unfold simulateBacktest at hFault
    split at hFault
    · cases hFault
    · rcases bind_eq_error.mp hFault with hId | ⟨strategyId, -, hFault⟩
      · exact mapError_ne_divisionByZero _ hId
      rcases bind_eq_error.mp hFault with hSymbol | ⟨symbol, -, hFault⟩
      · exact mapError_ne_divisionByZero _ hSymbol
      rcases bind_eq_error.mp hFault with hLoop | ⟨looped, -, hFault⟩
      · rw [← loopTo_length] at hLoop
        obtain ⟨index, candle, -, hEvaluation⟩ := loopTo_error (feeMultiplier_pos hFeeNonneg).ne'
          (entryPrices_ne_zero hSlippageNonneg hCandles) hLoop
        exact evaluate_ne_divisionByZero _ _ hConfig hEvaluation
      · cases hFault

end Accepted

section Necessary

def wholeCapitalRequest : StrategyConfigUpdateRequest :=
  { exitsRequest none with suggestedNotional := 1000, takeProfitPct := none }

/-- The signal at the third candle spends the capital, and the end of the
replay sells again. -/
def wholeCapital (feeBps slippageBps : Decimal) : Simulation :=
  { sampleSimulation with
    request := { sampleSimulation.request with
      feeBps := feeBps, slippageBps := slippageBps, holdingCandles := some 5 }
    strategyConfig := normalizedConfig .momentumV1 wholeCapitalRequest sampleValidation
    candles := sampleSimulation.candles.take 4 }

theorem wholeCapital_accepted :
    (validateStrategyConfig wholeCapitalRequest sampleValidation 0).normalizedConfig =
      some (normalizedConfig .momentumV1 wholeCapitalRequest sampleValidation) := by
  with_unfolding_all rfl

variable {feeBps slippageBps : Decimal}

theorem wholeCapital_validate (hFee : 0 ≤ feeBps) (hSlippage : 0 ≤ slippageBps) :
    (wholeCapital feeBps slippageBps).request.validate = .ok () := by
  have hRest : (wholeCapital 0 0).request.validate = .ok () := by with_unfolding_all rfl
  simp only [BacktestRequest.validate, BacktestConfig.validate, bind_eq_ok,
    require_eq_ok, decide_eq_true_eq, exists_const] at hRest ⊢
  obtain ⟨hStrategy, hSymbol, hTimeframe, hRange, hCapital, interval, hInterval, hHolding, -⟩ := hRest
  exact ⟨hStrategy, hSymbol, hTimeframe, hRange, hCapital, interval, hInterval, hHolding, hFee,
    hSlippage⟩

theorem wellPriced_sampleCandle {minute : Int} {price : Decimal} (hPrice : 1 / 10 < price) :
    WellPriced (sampleCandle minute price) := by
  constructor
  · change 0 < price - 1 / 10
    linarith
  · change price - 1 / 10 ≤ price
    linarith
  · change price ≤ price + 1 / 10
    linarith
  · change price - 1 / 10 ≤ price
    linarith
  · change price ≤ price + 1 / 10
    linarith

theorem wholeCapital_wellPriced (feeBps slippageBps : Decimal) :
    ∀ candle ∈ (wholeCapital feeBps slippageBps).candles, WellPriced candle := by
  have hCandles : (wholeCapital feeBps slippageBps).candles =
      [sampleCandle 0 100, sampleCandle 1 105, sampleCandle 2 110, sampleCandle 3 111] := rfl
  rw [hCandles, forall_mem_cons, forall_mem_cons, forall_mem_cons, forall_mem_singleton]
  exact ⟨wellPriced_sampleCandle (by norm_num), wellPriced_sampleCandle (by norm_num),
    wellPriced_sampleCandle (by norm_num), wellPriced_sampleCandle (by norm_num)⟩

theorem wholeCapital_signals (feeBps slippageBps : Decimal) :
    (∀ index < 2, ¬SignalsBuyAt strategyRules (wholeCapital feeBps slippageBps) .momentumV1 .btcusdt
        index) ∧
      SignalsBuyAt strategyRules (wholeCapital feeBps slippageBps) .momentumV1 .btcusdt 2 := by
  have hSide (index : Nat) : SignalsBuyAt strategyRules (wholeCapital feeBps slippageBps) .momentumV1
      .btcusdt index ↔ ((wholeCapital 0 0).candles[index]?.bind fun candle =>
        (evaluate strategyRules ((wholeCapital 0 0).signalId index) {
          correlationId := (wholeCapital 0 0).correlationId
          strategyId := .momentumV1
          symbol := .btcusdt
          config := (wholeCapital 0 0).strategyConfig
          candles := (wholeCapital 0 0).candles.take (index + 1)
          evaluatedAt := candle.closeTime }).toOption.bind (·.signal.map (·.side))) = some .buy := by
    simp only [signalsBuyAt_iff_side, bind_eq_some_iff, toOption_eq_some, map_eq_ok]
    rfl
  simp only [hSide]
  decide +kernel

theorem loopTo_isOk (sim : Simulation) {request : StrategyConfigUpdateRequest}
    {context : StrategyValidationContext} {validatedAt : DateTime}
    (hConfig : (validateStrategyConfig request context validatedAt).normalizedConfig =
      some sim.strategyConfig)
    (hFee : 0 ≤ sim.request.feeBps) (hSlippage : 0 ≤ sim.request.slippageBps)
    (hCandles : ∀ candle ∈ sim.candles, WellPriced candle) (symbol : Symbol) (count : Nat) :
    ∃ state, loopTo strategyRules sim sim.strategyConfig.strategyId symbol count = .ok state := by
  cases hLoop : loopTo strategyRules sim sim.strategyConfig.strategyId symbol count with
  | ok state => exact ⟨state, rfl⟩
  | error fault =>
    obtain ⟨index, candle, -, hEvaluation⟩ :=
      loopTo_error (feeMultiplier_pos hFee).ne' (entryPrices_ne_zero hSlippage hCandles) hLoop
    obtain ⟨strategyId, -, hIssues, hNormalized⟩ := normalizedConfig_eq_some.mp hConfig
    have hPassed := passedChecks_of_no_error hIssues
    obtain ⟨result, hResult⟩ : ∃ result, evaluate strategyRules (sim.signalId index) {
        correlationId := sim.correlationId
        strategyId := sim.strategyConfig.strategyId
        symbol := symbol
        config := sim.strategyConfig
        candles := sim.candles.take (index + 1)
        evaluatedAt := candle.closeTime } = .ok result :=
      exists_evaluate (hNormalized ▸ validate_of_passedChecks hPassed) rfl
        (hNormalized ▸ windowsNonempty_of_passedChecks hPassed)
    rw [hResult] at hEvaluation
    cases hEvaluation

theorem targetNotional_wholeCapital (slippageBps : Decimal) (hFee : 0 ≤ feeBps) :
    targetNotional (wholeCapital feeBps slippageBps).request.config
      (wholeCapital feeBps slippageBps).strategyConfig 1000 = 1000 / (1 + feeBps / bpsDenominator) := by
  have hLimit : 1000 / (1 + feeBps / bpsDenominator) ≤ 1000 := by
    apply div_le_self (by norm_num)
    have hRatio := div_nonneg hFee bpsDenominator_pos.le
    linarith
  exact min_eq_right hLimit

theorem wholeCapital_spent (hFee : 0 ≤ feeBps) (hSlippage : 0 ≤ slippageBps) : ∃ looped position,
      loopTo strategyRules (wholeCapital feeBps slippageBps) .momentumV1 .btcusdt 4 = .ok looped ∧
      looped.position = some position ∧ looped.cash = 1000 ∧ 0 < position.quantity ∧
      position.notional + position.feePaid = 1000 := by
  obtain ⟨looped, hLoop⟩ := loopTo_isOk (wholeCapital feeBps slippageBps) wholeCapital_accepted hFee
    hSlippage (wholeCapital_wellPriced feeBps slippageBps) .btcusdt 4
  obtain ⟨hQuiet, hBuys⟩ := wholeCapital_signals feeBps slippageBps
  obtain ⟨opened, hOpened, hLast⟩ := loopTo_succ_eq_ok.mp hLoop
  obtain ⟨before, hBefore, hStep⟩ := loopTo_succ_eq_ok.mp hOpened
  have hUntouched : Untouched (wholeCapital feeBps slippageBps) before := by
    refine loopTo_untouched (show 2 ≤ 4 by omega) (fun index hIndex next position _ hSignal _ => ?_) hBefore
    exact absurd hSignal (hQuiet index hIndex)
  have hCapital : before.cash = 1000 := hUntouched.cash
  have hTarget := targetNotional_wholeCapital slippageBps hFee
  have hPositive := feeMultiplier_pos hFee
  obtain ⟨position, hOpen⟩ : ∃ position, maybeOpenPosition (wholeCapital feeBps slippageBps).request.config
      (wholeCapital feeBps slippageBps).strategyConfig (sampleCandle 3 111) 1000 =
        .ok (some position) := by
    apply maybeOpenPosition_opens hPositive.ne'
    · rw [hTarget]
      exact div_pos (by norm_num) hPositive
    · exact applyEntrySlippage_pos (by norm_num [sampleCandle])
        ((neg_neg_of_pos bpsDenominator_pos).trans_le hSlippage)
  have hBought := bought_of_maybeOpenPosition hOpen
  have hPosition : opened.position = some position :=
    simulateAt_opens hStep hUntouched.position hUntouched.lastEntry hBuys
      ⟨3, sampleCandle 3 111, rfl, rfl, hCapital ▸ hOpen⟩
  have hIdle : exitPhase (wholeCapital feeBps slippageBps) (sampleCandle 2 110) before = before := by
    simp only [exitPhase, hUntouched.position]
  obtain ⟨-, hCash, -⟩ := simulateAt_cases (show _ = some (sampleCandle 2 110) from rfl) hStep
  have hExit : exitPhase (wholeCapital feeBps slippageBps) (sampleCandle 3 111) opened =
      { opened with position := some { position with remainingHoldingCandles := 4 } } := by
    have hHolding : position.remainingHoldingCandles = 5 := hBought.remainingHoldingCandles
    have hStop : position.stopLossPrice = none := hBought.stopLossPrice
    have hTake : position.takeProfitPrice = none := hBought.takeProfitPrice
    simp only [exitPhase, hPosition, evaluateExit, hStop, hTake, hHolding, filter_none]
    rfl
  obtain ⟨-, hLastCash, hLastPosition⟩ :=
    simulateAt_cases (show _ = some (sampleCandle 3 111) from rfl) hLast
  rw [hExit] at hLastCash hLastPosition
  refine ⟨looped, { position with remainingHoldingCandles := 4 }, hLoop, ?_, ?_, ?_, ?_⟩
  · rcases hLastPosition with ⟨hSame, -⟩ | ⟨hNone, -⟩
    · exact hSame
    · cases hNone
  · rw [hLastCash, hCash, hIdle, hCapital]
  · exact hBought.quantity_pos
  · change position.notional + position.feePaid = 1000
    rw [hBought.notional, hBought.feePaid, hTarget, feeAmount, mul_div_assoc]
    calc 1000 / (1 + feeBps / bpsDenominator) +
          1000 / (1 + feeBps / bpsDenominator) * (feeBps / bpsDenominator)
        = 1000 / (1 + feeBps / bpsDenominator) * (1 + feeBps / bpsDenominator) := by ring
      _ = 1000 := div_mul_cancel₀ _ hPositive.ne'

theorem replayEnd_sells {sim : Simulation} {state : SimulationState} {position : BacktestPosition}
    {last : Candle} (hPosition : state.position = some position)
    (hLast : sim.candles.getLast? = some last) :
    (replayEnd sim state).cash = (closePosition sim position last.closeTime last.close "replay_end"
        state).cash ∧
      closingTrade sim position last.closeTime last.close "replay_end" ∈
        (replayEnd sim state).trades := by
  simp only [replayEnd, hPosition, hLast]
  exact ⟨rfl, mem_append_right _ (mem_singleton_self _)⟩

theorem bounds_of_wholeCapital (hFee : 0 ≤ feeBps) (hSlippage : 0 ≤ slippageBps)
    (hSolvent : Solvent strategyRules (wholeCapital feeBps slippageBps)) :
    feeBps ≤ bpsDenominator ∧ slippageBps < bpsDenominator := by
  obtain ⟨looped, position, hLoop, hPosition, hCash, hQuantity, hSpent⟩ :=
    wholeCapital_spent hFee hSlippage
  have hCandles : (wholeCapital feeBps slippageBps).candles ≠ [] := cons_ne_nil _ _
  have hId : StrategyId.fromStr "momentum_v1" = .ok .momentumV1 := by with_unfolding_all rfl
  have hSymbol : Symbol.new "btcusdt" = .ok .btcusdt := by with_unfolding_all rfl
  have hRun := (simulateBacktest_eq_ok hCandles).mpr
    ⟨.momentumV1, .btcusdt, looped, hId, hSymbol, hLoop, rfl⟩
  obtain ⟨hCashLeft, hSold⟩ := replayEnd_sells hPosition
    (show (wholeCapital feeBps slippageBps).candles.getLast? = some (sampleCandle 3 111) from rfl)
  obtain ⟨price, hPrice, hPositive⟩ := hSolvent.exits _ hRun _ hSold
  obtain rfl : applyExitSlippage 111 slippageBps = price := some.inj hPrice
  have hClose : (0 : Decimal) < 111 := by norm_num
  refine ⟨?_, (applyExitSlippage_pos hClose).mp hPositive⟩
  have hSale : 0 < position.quantity * applyExitSlippage 111 slippageBps :=
    mul_pos hQuantity hPositive
  have hLeft := hSolvent.finalCash _ hRun
  change 0 ≤ (replayEnd (wholeCapital feeBps slippageBps) looped).cash at hLeft
  rw [hCashLeft] at hLeft
  change 0 ≤ looped.cash - (position.notional + position.feePaid) +
    (position.quantity * applyExitSlippage 111 slippageBps -
      feeAmount (position.quantity * applyExitSlippage 111 slippageBps) feeBps) at hLeft
  rw [hCash, hSpent, sub_self, zero_add, feeAmount, mul_div_assoc, sub_nonneg,
    mul_le_iff_le_one_right hSale, div_le_one bpsDenominator_pos] at hLeft
  exact hLeft

end Necessary

end AegisQuant.Replay
