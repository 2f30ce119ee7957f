import AegisQuant.Replay.NoLookAhead
import AegisQuant.Strategy.AcceptedConfigs
import AegisQuant.Strategy.Evaluate

/-! The order of entry and exit. A position is in the state from the candle of
its signal on, and its exits are evaluated from the next candle on. Where the
entry waits for confirmation it lies behind that candle. -/
namespace AegisQuant.Replay

open Strategy List Option

/-- Every trade exits after its entry, and every candle that exits are
evaluated on opens at or after the entry. -/
structure EntersBeforeExit (rules : StrategyRules) (sim : Simulation)
    (execution : BacktestExecution) : Prop where
  trades : ∀ trade ∈ execution.trades,
    ∃ exitTime, trade.exitTime = some exitTime ∧ trade.entryTime < exitTime
  evaluations : ∀ strategyId symbol index candle state position,
    StrategyId.fromStr sim.request.strategyId = .ok strategyId →
    Symbol.new sim.request.symbol = .ok symbol →
    sim.candles[index]? = some candle →
    loopTo rules sim strategyId symbol index = .ok state →
    state.position = some position → position.entryTime ≤ candle.openTime

/-- No candle gives a signal to buy whose entry is confirmed and can be paid
from the initial capital. -/
def NeverOpens (rules : StrategyRules) (sim : Simulation) : Prop :=
  ∀ strategyId symbol index position, StrategyId.fromStr sim.request.strategyId = .ok strategyId →
    Symbol.new sim.request.symbol = .ok symbol →
    SignalsBuyAt rules sim strategyId symbol index →
    ¬EntryAt sim sim.request.initialCapital index position

theorem succ_lt_of_confirmedEntryIndex {config : StrategyConfig} {candles : List Candle}
    {index entryIndex : Nat} (hEntry : ¬EntersOnNext config)
    (hConfirmed : confirmedEntryIndex config candles index = some entryIndex) :
    index + 1 < entryIndex := by
  obtain ⟨hStrategy, hCandles⟩ := not_or.mp hEntry
  simp only [confirmedEntryIndex, hStrategy, hCandles, if_false, bind_eq_bind,
    bind_eq_some_iff, ite_none_left_eq_some, some.injEq] at hConfirmed
  obtain ⟨signalCandle, -, -, -, -, -, rfl⟩ := hConfirmed
  omega

theorem entryTime_of_entryAt {sim : Simulation} {cash : Decimal} {index : Nat}
    {position : BacktestPosition} (hEntry : EntryAt sim cash index position) :
    ∃ entryIndex entryCandle,
      confirmedEntryIndex sim.strategyConfig sim.candles index = some entryIndex ∧
      sim.candles[entryIndex]? = some entryCandle ∧ position.entryTime = entryCandle.openTime := by
  obtain ⟨entryIndex, entryCandle, hConfirmed, hCandle, hOpen⟩ := hEntry
  exact ⟨entryIndex, entryCandle, hConfirmed, hCandle, entryTime_of_maybeOpenPosition hOpen⟩

section Times
variable {candles : List Candle}

section
variable (hTimes : candles.Pairwise (·.openTime < ·.openTime)) {first second : Nat}
  {earlier later : Candle}
include hTimes

theorem openTime_lt (hOrder : first < second) (hEarlier : candles[first]? = some earlier)
    (hLater : candles[second]? = some later) : earlier.openTime < later.openTime := by
  obtain ⟨hFirst, rfl⟩ := List.getElem?_eq_some_iff.mp hEarlier
  obtain ⟨hSecond, rfl⟩ := List.getElem?_eq_some_iff.mp hLater
  exact List.pairwise_iff_getElem.mp hTimes first second hFirst hSecond hOrder

theorem openTime_le (hOrder : first ≤ second) (hEarlier : candles[first]? = some earlier)
    (hLater : candles[second]? = some later) : earlier.openTime ≤ later.openTime := by
  rcases hOrder.lt_or_eq with hBefore | rfl
  · exact (openTime_lt hTimes hBefore hEarlier hLater).le
  · rw [hEarlier] at hLater
    cases hLater
    exact le_rfl

end

end Times

section Untouched
variable {rules : StrategyRules} {sim : Simulation} {strategyId : StrategyId} {symbol : Symbol}

/-- Nothing has been opened yet. -/
structure Untouched (sim : Simulation) (state : SimulationState) : Prop where
  position : state.position = none
  trades : state.trades = []
  cash : state.cash = sim.request.initialCapital
  lastEntry : state.lastExecutedEntryTime = none

theorem untouched_initialState : Untouched sim (initialState sim.request) := ⟨rfl, rfl, rfl, rfl⟩

/-- The first opening takes place at a candle with a signal and an entry. -/
theorem Untouched.simulateAt {state next : SimulationState} {index : Nat}
    (hState : Untouched sim state) (hIndex : index < sim.candles.length)
    (hStep : simulateAt rules sim strategyId symbol state index = .ok next) :
    Untouched sim next ∨ SignalsBuyAt rules sim strategyId symbol index ∧ ∃ position,
      EntryAt sim sim.request.initialCapital index position ∧ next.position = some position := by
  have hExit : exitPhase sim sim.candles[index] state = state := by
    simp only [exitPhase, hState.position]
  obtain ⟨hTrades, hCash, hPosition⟩ :=
    simulateAt_cases (getElem?_eq_getElem hIndex) hStep
  rw [hExit] at hTrades hCash hPosition
  rcases hPosition with ⟨hSame, hLast⟩ | ⟨-, hBuys, hOpened⟩
  · left
    exact ⟨hSame.trans hState.position, hTrades.trans hState.trades, hCash.trans hState.cash,
      hLast.trans hState.lastEntry⟩
  · rw [hState.cash] at hOpened
    exact .inr ⟨hBuys, hOpened⟩

theorem loopTo_untouched {count : Nat} {state : SimulationState}
    (hLength : count ≤ sim.candles.length)
    (hNever : ∀ index < count, ∀ next position,
      loopTo rules sim strategyId symbol (index + 1) = .ok next →
      SignalsBuyAt rules sim strategyId symbol index →
      EntryAt sim sim.request.initialCapital index position → next.position ≠ some position)
    (hState : loopTo rules sim strategyId symbol count = .ok state) : Untouched sim state := by
  induction count generalizing state with
  | zero =>
    cases hState
    exact untouched_initialState
  | succ count ih =>
    obtain ⟨before, hBefore, hStep⟩ := loopTo_succ_eq_ok.mp hState
    have hUntouched := ih (by omega) (fun index hIndex => hNever index (by omega)) hBefore
    rcases hUntouched.simulateAt (by omega) hStep with hNext | ⟨hBuys, position, hEntry, hOpened⟩
    · exact hNext
    · exact absurd hOpened (hNever count (by omega) state position hState hBuys hEntry)

end Untouched

section NextCandle
variable {rules : StrategyRules} {sim : Simulation} {strategyId : StrategyId} {symbol : Symbol}
variable {count : Nat} {state : SimulationState}

/-- The position in the state was entered at the open of a candle up to the
one at `count`, and the trades are in order. -/
structure Entered (sim : Simulation) (count : Nat) (state : SimulationState) : Prop where
  position : ∀ position, state.position = some position → ∃ index ≤ count, ∃ candle,
    sim.candles[index]? = some candle ∧ position.entryTime = candle.openTime
  trades : ∀ trade ∈ state.trades,
    ∃ exitTime, trade.exitTime = some exitTime ∧ trade.entryTime < exitTime

theorem entered_initialState : Entered sim 0 (initialState sim.request) where
  position := fun _ hNone => by cases hNone
  trades := by simp [initialState]

section
variable (hState : Entered sim count state)
  (hTimes : sim.candles.Pairwise (·.openTime < ·.openTime)) {candle : Candle}
include hState hTimes

theorem Entered.openTime_le {position : BacktestPosition}
    (hCandle : sim.candles[count]? = some candle) (hPosition : state.position = some position)
    : position.entryTime ≤ candle.openTime := by
  obtain ⟨index, hIndex, entryCandle, hEntry, hTime⟩ := hState.position position hPosition
  rw [hTime]
  exact Replay.openTime_le hTimes hIndex hEntry hCandle

theorem Entered.exitPhase (hCandle : sim.candles[count]? = some candle)
    (hCloses : candle.openTime < candle.closeTime) :
    Entered sim count (exitPhase sim candle state) := by
  rcases exitPhase_cases sim candle state with ⟨-, hSame⟩ | ⟨position, hPosition,
    ⟨trade, hEntry, hExit, hNone, hTrades⟩ | ⟨hHeld, hTrades⟩⟩
  · rw [hSame]
    exact hState
  · constructor
    · intro held hHeld
      rw [hNone] at hHeld
      cases hHeld
    · rw [hTrades, forall_mem_append, forall_mem_singleton]
      refine ⟨hState.trades, candle.closeTime, hExit, ?_⟩
      rw [hEntry]
      exact lt_of_le_of_lt (hState.openTime_le hTimes hCandle hPosition) hCloses
  · constructor
    · intro held hSome
      rw [hHeld] at hSome
      cases hSome
      exact hState.position position hPosition
    · rw [hTrades]
      exact hState.trades

end

/-- With the entry on the next candle, an iteration keeps the order. -/
theorem Entered.simulateAt {next : SimulationState} (hState : Entered sim count state)
    (hEntry : EntersOnNext sim.strategyConfig)
    (hTimes : sim.candles.Pairwise (·.openTime < ·.openTime)) {candle : Candle}
    (hCandle : sim.candles[count]? = some candle) (hCloses : candle.openTime < candle.closeTime)
    (hStep : simulateAt rules sim strategyId symbol state count = .ok next) :
    Entered sim (count + 1) next := by
  have hExited := hState.exitPhase hTimes hCandle hCloses
  obtain ⟨hTrades, -, hPosition⟩ := simulateAt_cases hCandle hStep
  refine ⟨?_, hTrades ▸ hExited.trades⟩
  intro position hSome
  rcases hPosition with ⟨hSame, -⟩ | ⟨-, -, opened, hOpens, hOpened⟩
  · rw [hSame] at hSome
    obtain ⟨index, hIndex, hEntered⟩ := hExited.position position hSome
    exact ⟨index, by omega, hEntered⟩
  · rw [hOpened] at hSome
    cases hSome
    obtain ⟨entryIndex, entryCandle, hConfirmed, hEntryCandle, hTime⟩ := entryTime_of_entryAt hOpens
    rw [confirmedEntryIndex_of_entersOnNext hEntry] at hConfirmed
    cases hConfirmed
    exact ⟨count + 1, le_rfl, entryCandle, hEntryCandle, hTime⟩

theorem loopTo_entered (hEntry : EntersOnNext sim.strategyConfig)
    (hTimes : sim.candles.Pairwise (·.openTime < ·.openTime))
    (hCloses : ∀ candle ∈ sim.candles, candle.openTime < candle.closeTime)
    (hLength : count ≤ sim.candles.length)
    (hState : loopTo rules sim strategyId symbol count = .ok state) : Entered sim count state := by
  induction count generalizing state with
  | zero =>
    cases hState
    exact entered_initialState
  | succ count ih =>
    obtain ⟨before, hBefore, hStep⟩ := loopTo_succ_eq_ok.mp hState
    have hIndex : count < sim.candles.length := by omega
    exact (ih hIndex.le hBefore).simulateAt hEntry hTimes (getElem?_eq_getElem hIndex)
      (hCloses _ (getElem_mem hIndex)) hStep

end NextCandle

section Ends
variable {rules : StrategyRules} {sim : Simulation} {strategyId : StrategyId} {symbol : Symbol}
variable {state : SimulationState} {position : BacktestPosition}

theorem replayEnd_trades_of_none (hPosition : state.position = none) :
    (replayEnd sim state).trades = state.trades := by
  simp only [replayEnd, hPosition]

theorem replayEnd_trades_of_position {last : Candle} (hPosition : state.position = some position)
    (hLast : sim.candles.getLast? = some last) :
    ∃ trade, (replayEnd sim state).trades = state.trades ++ [trade] ∧
      trade.entryTime = position.entryTime ∧ trade.exitTime = some last.closeTime := by
  simp only [replayEnd, hPosition, hLast]
  exact ⟨closingTrade .., rfl, rfl, rfl⟩

theorem Entered.replayEnd (hState : Entered sim sim.candles.length state)
    (hTimes : sim.candles.Pairwise (·.openTime < ·.openTime))
    (hCloses : ∀ candle ∈ sim.candles, candle.openTime < candle.closeTime) :
    ∀ trade ∈ (replayEnd sim state).trades,
      ∃ exitTime, trade.exitTime = some exitTime ∧ trade.entryTime < exitTime := by
  cases hPosition : state.position with
  | none =>
    rw [replayEnd_trades_of_none hPosition]
    exact hState.trades
  | some position =>
    obtain ⟨index, -, entryCandle, hEntryCandle, hTime⟩ := hState.position position hPosition
    have hIndex : index < sim.candles.length := (List.getElem?_eq_some_iff.mp hEntryCandle).1
    have hLast : sim.candles[sim.candles.length - 1]? = sim.candles.getLast? :=
      getLast?_eq_getElem?.symm
    obtain ⟨last, hSome⟩ : ∃ last, sim.candles.getLast? = some last := by
      rw [← hLast]
      exact ⟨_, getElem?_eq_getElem (by omega)⟩
    obtain ⟨trade, hTrades, hEntry, hExit⟩ := replayEnd_trades_of_position hPosition hSome
    rw [hTrades, forall_mem_append, forall_mem_singleton]
    refine ⟨hState.trades, last.closeTime, hExit, ?_⟩
    rw [hEntry, hTime]
    exact lt_of_le_of_lt (Replay.openTime_le hTimes (by omega) hEntryCandle (hLast.trans hSome))
      (hCloses last (mem_of_getLast? hSome))

theorem neverOpens_of_nil (hCandles : sim.candles = []) : NeverOpens rules sim := by
  intro strategyId symbol index position _ _ hBuys
  obtain ⟨candle, evaluation, signal, hCandle, -⟩ := hBuys
  simp [hCandles] at hCandle

/-- Where no signal leaves the position that it could open first, there is
none to open. -/
theorem not_entryAt_of_unopened {looped : SimulationState}
    (hLoop : loopTo rules sim strategyId symbol sim.candles.length = .ok looped)
    (hNever : ∀ index < sim.candles.length, ∀ next position,
      loopTo rules sim strategyId symbol (index + 1) = .ok next →
      SignalsBuyAt rules sim strategyId symbol index →
      EntryAt sim sim.request.initialCapital index position → next.position ≠ some position)
    {index : Nat} (hBuys : SignalsBuyAt rules sim strategyId symbol index) :
    ¬EntryAt sim sim.request.initialCapital index position := by
  intro hEnters
  obtain ⟨candle, -, -, hCandle, -⟩ := id hBuys
  obtain ⟨hIndex, -⟩ := List.getElem?_eq_some_iff.mp hCandle
  obtain ⟨later, hLength⟩ := Nat.exists_eq_add_of_le (show index + 1 ≤ sim.candles.length from hIndex)
  rw [hLength] at hLoop
  obtain ⟨next, hNext⟩ := loopTo_of_le hLoop
  obtain ⟨state, hState, hStep⟩ := loopTo_succ_eq_ok.mp hNext
  have hUntouched : Untouched sim state :=
    loopTo_untouched hIndex.le (fun earlier hEarlier => hNever earlier (by omega)) hState
  rw [← hUntouched.cash] at hEnters
  have hOpened := simulateAt_opens hStep hUntouched.position hUntouched.lastEntry hBuys hEnters
  have hNone := (loopTo_untouched hIndex
    (fun earlier hEarlier => hNever earlier (by omega)) hNext).position
  rw [hNone] at hOpened
  cases hOpened

/-- Where the exits are in order although entries wait for confirmation,
nothing is ever opened. -/
theorem neverOpens_of_evaluations {looped : SimulationState}
    (hTimes : sim.candles.Pairwise (·.openTime < ·.openTime))
    (hEntry : ¬EntersOnNext sim.strategyConfig)
    (hLoop : loopTo rules sim strategyId symbol sim.candles.length = .ok looped)
    (hOrder : ∀ index candle state position, sim.candles[index]? = some candle →
      loopTo rules sim strategyId symbol index = .ok state →
      state.position = some position → position.entryTime ≤ candle.openTime) {index : Nat}
    (hBuys : SignalsBuyAt rules sim strategyId symbol index) :
    ¬EntryAt sim sim.request.initialCapital index position := by
  intro hEnters
  have hNever : ∀ index < sim.candles.length, ∀ next position,
      loopTo rules sim strategyId symbol (index + 1) = .ok next →
      SignalsBuyAt rules sim strategyId symbol index →
      EntryAt sim sim.request.initialCapital index position → next.position ≠ some position := by
    intro index _ next position hNext _ hOpens hOpened
    obtain ⟨entryIndex, entryCandle, hConfirmed, hEntryCandle, hTime⟩ := entryTime_of_entryAt hOpens
    have hBehind := succ_lt_of_confirmedEntryIndex hEntry hConfirmed
    have hLength := (List.getElem?_eq_some_iff.mp hEntryCandle).1
    have hCandle := getElem?_eq_getElem (lt_trans hBehind hLength)
    have hLate := openTime_lt hTimes hBehind hCandle hEntryCandle
    have hEarly := hOrder (index + 1) _ next position hCandle hNext hOpened
    rw [hTime] at hEarly
    exact absurd hEarly (not_le.mpr hLate)
  exact not_entryAt_of_unopened hLoop hNever hBuys hEnters

end Ends

theorem NeverOpens.untouched {rules : StrategyRules} {sim : Simulation} {strategyId : StrategyId}
    {symbol : Symbol} {count : Nat} {state : SimulationState} (hNever : NeverOpens rules sim)
    (hId : StrategyId.fromStr sim.request.strategyId = .ok strategyId)
    (hSymbol : Symbol.new sim.request.symbol = .ok symbol) (hLength : count ≤ sim.candles.length)
    (hState : loopTo rules sim strategyId symbol count = .ok state) : Untouched sim state :=
  loopTo_untouched hLength (fun index _ _ position _ hBuys hEnters =>
    absurd hEnters (hNever strategyId symbol index position hId hSymbol hBuys)) hState

/-- No trade exits before it enters, and no exit is evaluated before the
entry, exactly when entries are on the next candle or nothing is opened at
all. -/
theorem entersBeforeExit_iff (rules : StrategyRules) (sim : Simulation)
    (hTimes : sim.candles.Pairwise (·.openTime < ·.openTime))
    (hCloses : ∀ candle ∈ sim.candles, candle.openTime < candle.closeTime)
    {execution : BacktestExecution} (hRun : simulateBacktest rules sim = .ok execution) :
    EntersBeforeExit rules sim execution ↔
      EntersOnNext sim.strategyConfig ∨ NeverOpens rules sim := by
  by_cases hCandles : sim.candles = []
  · rw [simulateBacktest, if_pos hCandles] at hRun
    cases hRun
    refine iff_of_true ⟨by simp, ?_⟩ (.inr (neverOpens_of_nil hCandles))
    intro strategyId symbol index candle state position _ _ hCandle
    simp [hCandles] at hCandle
  obtain ⟨strategyId, symbol, looped, hId, hSymbol, hLoop, rfl⟩ :=
    (simulateBacktest_eq_ok hCandles).mp hRun
  constructor
  · intro hOrder
    by_contra hNeither
    obtain ⟨hEntry, hOpens⟩ := not_or.mp hNeither
    apply hOpens
    intro otherId otherSymbol index position hOtherId hOtherSymbol hBuys
    obtain rfl : otherId = strategyId := Except.ok.inj (hOtherId.symm.trans hId)
    obtain rfl : otherSymbol = symbol := Except.ok.inj (hOtherSymbol.symm.trans hSymbol)
    exact neverOpens_of_evaluations hTimes hEntry hLoop
      (fun index candle state position =>
        hOrder.evaluations otherId otherSymbol index candle state position hId hSymbol) hBuys
  · rintro (hEntry | hNever)
    · constructor
      · exact (loopTo_entered hEntry hTimes hCloses le_rfl hLoop).replayEnd hTimes hCloses
      · intro otherId otherSymbol index candle state position _ _ hCandle hState hPosition
        have hIndex := (List.getElem?_eq_some_iff.mp hCandle).1
        exact (loopTo_entered hEntry hTimes hCloses hIndex.le hState).openTime_le hTimes hCandle
          hPosition
    · constructor
      · have hLooped := hNever.untouched hId hSymbol le_rfl hLoop
        rw [replayEnd_trades_of_none hLooped.position, hLooped.trades]
        simp
      · intro otherId otherSymbol index candle state position hOtherId hOtherSymbol hCandle hState
          hPosition
        have hIndex := (List.getElem?_eq_some_iff.mp hCandle).1
        rw [(hNever.untouched hOtherId hOtherSymbol hIndex.le hState).position] at hPosition
        cases hPosition

/-- A run whose entries are on the next candle. -/
theorem entersBeforeExit_sample :
    ∃ execution, simulateBacktest evaluateMomentum sampleSimulation = .ok execution ∧
      EntersBeforeExit evaluateMomentum sampleSimulation execution := by
  have hRuns : (simulateBacktest evaluateMomentum sampleSimulation).toOption.isSome = true := by
    decide +kernel
  obtain ⟨execution, hRun⟩ := isSome_iff_exists.mp hRuns
  rw [Fallible.toOption_eq_some] at hRun
  exact ⟨execution, hRun, (entersBeforeExit_iff evaluateMomentum sampleSimulation (by decide)
    (by decide) hRun).mpr (.inl (.inl (by decide)))⟩

def reclaimConfigRequest : StrategyConfigUpdateRequest where
  strategyId := "failed_breakdown_reclaim_v1"
  enabled := true
  mode := .research
  symbols := ["BTCUSDT"]
  timeframe := "1m"
  suggestedNotional := 100
  maxSignalAgeMs := 120000
  cooldownSeconds := 0
  lookbackCandles := 2
  confirmationCandles := 2

def reclaimConfig : StrategyConfig :=
  normalizedConfig .failedBreakdownReclaimV1 reclaimConfigRequest sampleValidation

/-- The third candle falls below the two before it and closes above them. The
position of its signal is held for one candle and enters at the sixth. -/
def reclaimSimulation : Simulation :=
  { sampleSimulation with
    request := { sampleSimulation.request with
      strategyId := "failed_breakdown_reclaim_v1"
      holdingCandles := some 1 }
    strategyConfig := reclaimConfig
    candles := [sampleCandle 0 100, sampleCandle 1 100,
      { sampleCandle 2 100 with low := 95, high := 101, close := 101 },
      sampleCandle 3 102, sampleCandle 4 102, sampleCandle 5 102] }

/-- A position waiting for its confirmed entry is closed before it is entered. -/
theorem confirmed_entry_exits_first : reclaimSimulation.request.validate = .ok () ∧
      (validateStrategyConfig reclaimConfigRequest sampleValidation 0).normalizedConfig =
        some reclaimSimulation.strategyConfig ∧
      reclaimSimulation.candles.Pairwise (·.openTime < ·.openTime) ∧
      (∀ candle ∈ reclaimSimulation.candles, candle.openTime < candle.closeTime) ∧
      ∃ execution, simulateBacktest strategyRules reclaimSimulation = .ok execution ∧
        ¬EntersBeforeExit strategyRules reclaimSimulation execution := by
  have hTimes : (simulateBacktest strategyRules reclaimSimulation).toOption.map
      (fun run => run.trades.map fun trade => (trade.entryTime, trade.exitTime)) =
        some [(DateTime.seconds 300, some (DateTime.seconds 239))] := by decide +kernel
  obtain ⟨execution, hRun, hTrades⟩ := map_eq_some_iff.mp hTimes
  rw [Fallible.toOption_eq_some] at hRun
  refine ⟨by with_unfolding_all rfl, by with_unfolding_all rfl, by decide, by decide, execution, hRun, ?_⟩
  intro hOrder
  obtain ⟨trade, hTrade⟩ := exists_of_mem_map (show _ ∈ execution.trades.map _ by
    rw [hTrades]
    exact mem_cons_self)
  obtain ⟨exitTime, hExit, hLater⟩ := hOrder.trades trade hTrade.1
  have hEntry : trade.entryTime = DateTime.seconds 300 := congrArg Prod.fst hTrade.2
  have hExitTime : trade.exitTime = some (DateTime.seconds 239) := congrArg Prod.snd hTrade.2
  rw [hExitTime, some.injEq] at hExit
  rw [hEntry, ← hExit] at hLater
  exact absurd hLater (by decide)

end AegisQuant.Replay
