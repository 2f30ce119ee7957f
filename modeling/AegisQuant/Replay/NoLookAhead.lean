import AegisQuant.Replay.CashConservation

/-! Two runs over candle lists with a common beginning. With the entry on the
next candle, an iteration reads the candles up to the one after it, and what
it reads there decides about a position only: the trades settled within the
common beginning are those of both runs. -/
namespace AegisQuant.Replay
open Fallible List Option

/-- Entries are on the candle after the signal. -/
def EntersOnNext (config : StrategyConfig) : Prop :=
  config.strategyId ≠ .failedBreakdownReclaimV1 ∨ config.confirmationCandles = 0

/-- The same run on other candles, whose signals draw other identifiers. -/
def Simulation.on (sim : Simulation) (candles : List Candle) (signalId : Nat → Uuid) : Simulation :=
  { sim with candles := candles, signalId := signalId }

/-- Closed by an exit, and not later than `time`. -/
def settledBy (time : DateTime) (trade : BacktestTrade) : Bool :=
  trade.reason ≠ "replay_end" && trade.exitTime.any (· ≤ time)

theorem confirmedEntryIndex_of_entersOnNext {config : StrategyConfig} (hEntry : EntersOnNext config)
    (candles : List Candle) (index : Nat) :
    confirmedEntryIndex config candles index = some (index + 1) := by
  unfold confirmedEntryIndex
  rcases hEntry with hStrategy | hCandles
  · rw [if_pos hStrategy]
  · split
    · rfl
    · rw [if_pos hCandles]

section Evaluation
variable {rules : StrategyRules}

theorem generatedResult_side {signalId : Uuid} {context : StrategyEvaluationContext}
    {candle : Candle} {reason : SignalReason} {confidence : Decimal} {other : Uuid} :
    (generatedResult signalId context candle reason confidence).map (·.signal.map (·.side)) =
      (generatedResult other context candle reason confidence).map (·.signal.map (·.side)) := by
  unfold generatedResult
  split
  · rfl
  · cases (SignalConfidence.new confidence).mapError Fault.core with
    | error fault => rfl
    | ok checked => rfl

/-- Whether a signal is generated, and on which side, does not depend on the
identifier it draws. -/
theorem evaluate_side (signalId other : Uuid) (context : StrategyEvaluationContext) :
    (evaluate rules signalId context).map (·.signal.map (·.side)) =
      (evaluate rules other context).map (·.signal.map (·.side)) := by
  unfold evaluate
  cases context.config.validate.mapError Fault.core with
  | error fault => rfl
  | ok _ =>
    simp only [bind, Except.bind]
    split
    · rfl
    · split
      · rfl
      · cases rules context.strategyId context (normalizeClosedCandles context.candles) with
        | error fault => rfl
        | ok outcome =>
          cases outcome with
          | noSignal reason => rfl
          | generated candle reason confidence => exact generatedResult_side

end Evaluation

section Iterations
variable {rules : StrategyRules} {sim : Simulation} {strategyId : StrategyId} {symbol : Symbol}
  {firstIds secondIds : Nat → Uuid} {first second : List Candle} {count : Nat}

variable {index : Nat}

theorem signalPhase_congr (hEntry : EntersOnNext sim.strategyConfig)
    (firstIds secondIds : Nat → Uuid) (hNext : first[index + 1]? = second[index + 1]?)
    {signal other : StrategySignal} (hSide : signal.side = other.side) (candle : Candle)
    (state : SimulationState) :
    signalPhase (sim.on first firstIds) index candle signal state =
      signalPhase (sim.on second secondIds) index candle other state := by
  simp only [signalPhase, Simulation.on, hSide, confirmedEntryIndex_of_entersOnNext hEntry, hNext]

theorem getElem?_of_agree (hAgree : first.take count = second.take count) (hIndex : index < count)
    : first[index]? = second[index]? := by
  rw [← getElem?_take_of_lt hIndex, hAgree, getElem?_take_of_lt hIndex]

theorem simulateAt_of_length_le (hIndex : sim.candles.length ≤ index) {state : SimulationState}
    : simulateAt rules sim strategyId symbol state index = .ok state :=
  dif_neg (not_lt.mpr hIndex)

theorem simulateAt_of_getElem? (sim : Simulation) {candle : Candle}
    (hCandle : sim.candles[index]? = some candle) (state : SimulationState) :
    simulateAt rules sim strategyId symbol state index = (do
      let exited := exitPhase sim candle state
      let evaluation ← evaluate rules (sim.signalId index) {
        correlationId := sim.correlationId
        strategyId := strategyId
        symbol := symbol
        config := sim.strategyConfig
        candles := sim.candles.take (index + 1)
        evaluatedAt := candle.closeTime }
      match evaluation.signal with
      | none => return recordEquity sim.runId candle.closeTime candle.close exited
      | some signal =>
        let (early, next) ← signalPhase sim index candle signal exited
        if early then return next
        else return recordEquity sim.runId candle.closeTime candle.close next) := by
  obtain ⟨hIndex, rfl⟩ := List.getElem?_eq_some_iff.mp hCandle
  rw [simulateAt, dif_pos hIndex]
  rfl

theorem simulateAt_congr (hEntry : EntersOnNext sim.strategyConfig)
    (hAgree : first.take count = second.take count) (hIndex : index + 1 < count)
    (state : SimulationState) :
    simulateAt rules (sim.on first firstIds) strategyId symbol state index =
      simulateAt rules (sim.on second secondIds) strategyId symbol state index := by
  have hCurrent : first[index]? = second[index]? := getElem?_of_agree hAgree (by omega)
  have hNext : first[index + 1]? = second[index + 1]? := getElem?_of_agree hAgree hIndex
  have hPrefix : first.take (index + 1) = second.take (index + 1) := by
    have hTake := congrArg (take (index + 1)) hAgree
    rwa [take_take, take_take, Nat.min_eq_left (by omega)] at hTake
  cases hCandle : second[index]? with
  | none =>
    rw [hCandle] at hCurrent
    rw [simulateAt_of_length_le (getElem?_eq_none_iff.mp hCurrent),
      simulateAt_of_length_le (getElem?_eq_none_iff.mp hCandle)]
  | some candle =>
    rw [hCandle] at hCurrent
    rw [simulateAt_of_getElem? (sim.on first firstIds) hCurrent,
      simulateAt_of_getElem? (sim.on second secondIds) hCandle]
    simp only [Simulation.on, hPrefix]
    refine bind_congr_of_map (evaluate_side (firstIds index) (secondIds index) _) ?_
    intro evaluation other hSides
    cases hSignal : evaluation.signal with
    | none =>
      cases hOther : other.signal with
      | none => rfl
      | some _ => simp [hSignal, hOther] at hSides
    | some signal =>
      cases hOther : other.signal with
      | none => simp [hSignal, hOther] at hSides
      | some otherSignal =>
        have hSide : signal.side = otherSignal.side := by simpa [hSignal, hOther] using hSides
        have hPhase := signalPhase_congr hEntry firstIds secondIds hNext hSide candle
          (exitPhase sim candle state)
        exact congrArg (fun phase : Except Fault (Bool × SimulationState) => do
          let (early, next) ← phase
          if early then return next
          else return recordEquity sim.runId candle.closeTime candle.close next) hPhase

theorem loopTo_congr (hEntry : EntersOnNext sim.strategyConfig) (firstIds secondIds : Nat → Uuid)
    (hAgree : first.take (count + 1) = second.take (count + 1)) :
    loopTo rules (sim.on first firstIds) strategyId symbol count =
      loopTo rules (sim.on second secondIds) strategyId symbol count := by
  apply foldlM_congr
  intro state index hIndex
  exact simulateAt_congr hEntry hAgree (by simpa using hIndex) state

theorem loopTo_trades {last : Candle} {state reached : SimulationState} {later : Nat}
    (hLast : sim.candles[count]? = some last)
    (hState : loopTo rules sim strategyId symbol count = .ok state)
    (hLength : count + 1 + later ≤ sim.candles.length)
    (hReached : loopTo rules sim strategyId symbol (count + 1 + later) = .ok reached) :
    ∃ closed, reached.trades = (exitPhase sim last state).trades ++ closed ∧
      ∀ trade ∈ closed, ∃ candle ∈ sim.candles.drop (count + 1),
        trade.exitTime = some candle.closeTime := by
  induction later generalizing reached with
  | zero =>
    obtain ⟨before, hBefore, hStep⟩ := loopTo_succ_eq_ok.mp hReached
    rw [hState] at hBefore
    cases hBefore
    exact ⟨[], by simp [(simulateAt_cases hLast hStep).1], by simp⟩
  | succ later ih =>
    obtain ⟨before, hBefore, hStep⟩ := loopTo_succ_eq_ok.mp hReached
    obtain ⟨closed, hTrades, hClosed⟩ := ih (by omega) hBefore
    have hIndex : count + 1 + later < sim.candles.length := by omega
    have hCandle := getElem?_eq_getElem hIndex
    obtain ⟨exits, hExits, hExit⟩ := exitPhase_trades sim sim.candles[count + 1 + later] before
    refine ⟨closed ++ exits, ?_, ?_⟩
    · rw [(simulateAt_cases hCandle hStep).1, hExits, hTrades, append_assoc]
    · rw [forall_mem_append]
      refine ⟨hClosed, fun trade hTrade => ⟨_, ?_, hExit trade hTrade⟩⟩
      exact mem_drop_iff_getElem.mpr ⟨later, by omega, rfl⟩

theorem replayEnd_trades (sim : Simulation) (state : SimulationState) :
    (replayEnd sim state).trades = state.trades ∨
      ∃ trade, trade.reason = "replay_end" ∧ (replayEnd sim state).trades = state.trades ++ [trade] := by
  unfold replayEnd
  split
  · exact .inr ⟨closingTrade .., rfl, rfl⟩
  · exact .inl rfl

/-- The settled trades of a run are those recorded up to the exit phase of the
iteration at `count`, if the later candles close later. -/
theorem settled_trades (sim : Simulation) {execution : BacktestExecution} {last : Candle}
    (hRun : simulateBacktest rules sim = .ok execution) (hLast : sim.candles[count]? = some last)
    (hLater : ∀ candle ∈ sim.candles.drop (count + 1), last.closeTime < candle.closeTime) :
    ∃ strategyId symbol state, StrategyId.fromStr sim.request.strategyId = .ok strategyId ∧
      Symbol.new sim.request.symbol = .ok symbol ∧
      loopTo rules sim strategyId symbol count = .ok state ∧
      execution.trades.filter (settledBy last.closeTime) =
        (exitPhase sim last state).trades.filter (settledBy last.closeTime) := by
  obtain ⟨hCount, hCandle⟩ := List.getElem?_eq_some_iff.mp hLast
  have hNonempty : sim.candles ≠ [] := by
    intro hEmpty
    simp [hEmpty] at hCount
  obtain ⟨strategyId, symbol, looped, hId, hSymbol, hLoop, rfl⟩ :=
    (simulateBacktest_eq_ok hNonempty).mp hRun
  obtain ⟨later, hLength⟩ := Nat.exists_eq_add_of_le (show count + 1 ≤ sim.candles.length from hCount)
  rw [hLength] at hLoop
  obtain ⟨next, hNext⟩ := loopTo_of_le hLoop
  obtain ⟨state, hState, -⟩ := loopTo_succ_eq_ok.mp hNext
  obtain ⟨closed, hTrades, hClosed⟩ := loopTo_trades hLast hState hLength.ge hLoop
  refine ⟨strategyId, symbol, state, hId, hSymbol, hState, ?_⟩
  have hUnsettled : closed.filter (settledBy last.closeTime) = [] := by
    rw [filter_eq_nil_iff]
    intro trade hTrade
    obtain ⟨candle, hMember, hExit⟩ := hClosed trade hTrade
    have hAfter := hLater candle hMember
    simp [settledBy, hExit, hAfter]
  have hLooped : looped.trades.filter (settledBy last.closeTime) =
      (exitPhase sim last state).trades.filter (settledBy last.closeTime) := by
    rw [hTrades, filter_append, hUnsettled, append_nil]
  rcases replayEnd_trades sim looped with hEnd | ⟨trade, hReason, hEnd⟩
  · rw [hEnd, hLooped]
  · rw [hEnd, filter_append, hLooped, filter_cons_of_neg (by simp [settledBy, hReason]),
      filter_nil, append_nil]

end Iterations

/-- No look-ahead. With the entry on the next candle, two runs on candles that
agree up to `last` settle the same trades by its close, provided that every
candle behind `last` closes after it. -/
theorem settled_trades_agree (rules : StrategyRules) (sim : Simulation)
    (hEntry : EntersOnNext sim.strategyConfig) {first second : List Candle}
    (firstIds secondIds : Nat → Uuid) {k : Nat} {last : Candle} (hPositive : 0 < k)
    (hAgree : first.take k = second.take k) (hLast : first[k - 1]? = some last)
    (hFirst : ∀ candle ∈ first.drop k, last.closeTime < candle.closeTime)
    (hSecond : ∀ candle ∈ second.drop k, last.closeTime < candle.closeTime)
    {firstRun secondRun : BacktestExecution}
    (hFirstRun : simulateBacktest rules (sim.on first firstIds) = .ok firstRun)
    (hSecondRun : simulateBacktest rules (sim.on second secondIds) = .ok secondRun) :
    firstRun.trades.filter (settledBy last.closeTime) =
      secondRun.trades.filter (settledBy last.closeTime) := by
  obtain ⟨count, rfl⟩ := Nat.exists_eq_succ_of_ne_zero hPositive.ne'
  have hSecondLast : second[count]? = some last := by
    rw [← getElem?_of_agree hAgree (Nat.lt_succ_self count)]
    exact hLast
  obtain ⟨strategyId, symbol, state, hId, hSymbol, hState, hSettled⟩ :=
    settled_trades (sim.on first firstIds) hFirstRun hLast hFirst
  obtain ⟨otherId, otherSymbol, otherState, hOtherId, hOtherSymbol, hOtherState, hOtherSettled⟩ :=
    settled_trades (sim.on second secondIds) hSecondRun hSecondLast hSecond
  have hSameId : otherId = strategyId := Except.ok.inj (hOtherId.symm.trans hId)
  have hSameSymbol : otherSymbol = symbol := Except.ok.inj (hOtherSymbol.symm.trans hSymbol)
  rw [hSameId, hSameSymbol, loopTo_congr hEntry secondIds firstIds hAgree.symm] at hOtherState
  have hSameState : otherState = state := Except.ok.inj (hOtherState.symm.trans hState)
  rw [hSettled, hOtherSettled, hSameState]
  rfl

/-- The first five candles of the sample, and another sixth. -/
def fallingCandles : List Candle := sampleSimulation.candles.take 5 ++ [sampleCandle 5 50]

/-- Two runs on candles that differ from the sixth on settle the same stop. -/
theorem settled_trades_agree_sample : ∃ firstRun secondRun, simulateBacktest evaluateMomentum
        (sampleSimulation.on sampleSimulation.candles sampleSimulation.signalId) = .ok firstRun ∧
      simulateBacktest evaluateMomentum
        (sampleSimulation.on fallingCandles sampleSimulation.signalId) = .ok secondRun ∧
      firstRun.trades.filter (settledBy (sampleCandle 4 100).closeTime) =
        secondRun.trades.filter (settledBy (sampleCandle 4 100).closeTime) := by
  have hFirst : (simulateBacktest evaluateMomentum (sampleSimulation.on sampleSimulation.candles
      sampleSimulation.signalId)).toOption.isSome = true := by
    decide +kernel
  have hSecond : (simulateBacktest evaluateMomentum (sampleSimulation.on fallingCandles
      sampleSimulation.signalId)).toOption.isSome = true := by
    decide +kernel
  obtain ⟨firstRun, hFirstRun⟩ := isSome_iff_exists.mp hFirst
  obtain ⟨secondRun, hSecondRun⟩ := isSome_iff_exists.mp hSecond
  rw [toOption_eq_some] at hFirstRun hSecondRun
  have hAgree : sampleSimulation.candles.take 5 = fallingCandles.take 5 := rfl
  exact ⟨firstRun, secondRun, hFirstRun, hSecondRun, settled_trades_agree evaluateMomentum
    sampleSimulation (.inl (by decide)) _ _ (by decide) hAgree rfl (by decide) (by decide)
    hFirstRun hSecondRun⟩

def lateCandles : List Candle :=
  [sampleCandle 0 100, sampleCandle 1 105,
    { sampleCandle 2 110 with closeTime := DateTime.seconds 300 }]

/-- A fourth candle that closes before the third one, and stops the position
entered at its open. -/
def overtakenCandles : List Candle := lateCandles ++ [{ sampleCandle 3 111 with low := 100 }]

/-- Open times that increase are not enough: a later candle may close, and
settle a trade, before an earlier one closes. -/
theorem later_candle_settles_earlier : lateCandles.Pairwise (·.openTime < ·.openTime) ∧
      overtakenCandles.Pairwise (·.openTime < ·.openTime) ∧
      (∀ candle ∈ overtakenCandles, candle.isClosed = true) ∧
      lateCandles.take 3 = overtakenCandles.take 3 ∧ EntersOnNext sampleSimulation.strategyConfig ∧
      ∃ firstRun secondRun, simulateBacktest evaluateMomentum
          (sampleSimulation.on lateCandles sampleSimulation.signalId) = .ok firstRun ∧
        simulateBacktest evaluateMomentum
          (sampleSimulation.on overtakenCandles sampleSimulation.signalId) = .ok secondRun ∧
        firstRun.trades.filter (settledBy (DateTime.seconds 300)) ≠
          secondRun.trades.filter (settledBy (DateTime.seconds 300)) := by
  have hFirst : (simulateBacktest evaluateMomentum (sampleSimulation.on lateCandles
      sampleSimulation.signalId)).toOption.map
        (fun run => (run.trades.filter (settledBy (DateTime.seconds 300))).length) = some 0 := by
    decide +kernel
  have hSecond : (simulateBacktest evaluateMomentum (sampleSimulation.on overtakenCandles
      sampleSimulation.signalId)).toOption.map
        (fun run => (run.trades.filter (settledBy (DateTime.seconds 300))).length) = some 1 := by
    decide +kernel
  refine ⟨by decide, by decide, by decide, rfl, .inl (by decide), ?_⟩
  obtain ⟨firstRun, hFirstRun, hNone⟩ := map_eq_some_iff.mp hFirst
  obtain ⟨secondRun, hSecondRun, hOne⟩ := map_eq_some_iff.mp hSecond
  rw [toOption_eq_some] at hFirstRun hSecondRun
  refine ⟨firstRun, secondRun, hFirstRun, hSecondRun, fun hSame => ?_⟩
  rw [hSame, hOne] at hNone
  cases hNone

end AegisQuant.Replay
