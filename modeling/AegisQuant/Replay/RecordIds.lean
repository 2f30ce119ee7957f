import AegisQuant.Replay.EntryBeforeExit
import AegisQuant.Replay.EquityCurve
import AegisQuant.Replay.Positions
import AegisQuant.Strategy.RecentCandles

/-! The identifiers of trades and equity points. They are computed from times,
of which the exit of a trade and the timestamp of a point tell two of one run
apart, and do not depend on what a run draws anew. -/
namespace AegisQuant.Replay

open Strategy Fallible List Option

/-- A time from the epoch on, in whole milliseconds that `timestamp_millis`
has a number for. -/
structure MillisecondStamp (time : DateTime) : Prop where
  whole : time % 1000000 = 0
  nonneg : 0 ≤ time
  representable : time.timestampMillis < 2 ^ 63

section Packing
variable {first second : DateTime}

theorem timestampMillis_nonneg (hStamp : MillisecondStamp first) : 0 ≤ first.timestampMillis :=
  Int.ediv_nonneg hStamp.nonneg (by decide)

theorem toNat_millis (hStamp : MillisecondStamp first) :
    (BitVec.ofInt 128 first.timestampMillis).toNat = first.timestampMillis.toNat := by
  have hNonneg := timestampMillis_nonneg hStamp
  have hLess := hStamp.representable
  rw [BitVec.toNat_ofInt]
  omega

theorem millis_inj (hFirst : MillisecondStamp first) (hSecond : MillisecondStamp second)
    (hSame : first.timestampMillis.toNat = second.timestampMillis.toNat) : first = second := by
  have hMillis : first.timestampMillis = second.timestampMillis := by
    rw [← Int.toNat_of_nonneg (timestampMillis_nonneg hFirst),
      ← Int.toNat_of_nonneg (timestampMillis_nonneg hSecond), hSame]
  calc first
      = 1000000 * first.timestampMillis :=
        (Int.mul_ediv_cancel' (Int.dvd_of_emod_eq_zero hFirst.whole)).symm
    _ = 1000000 * second.timestampMillis := by rw [hMillis]
    _ = second := Int.mul_ediv_cancel' (Int.dvd_of_emod_eq_zero hSecond.whole)

theorem deterministicPointId_inj {runId : Uuid} (hFirst : MillisecondStamp first)
    (hSecond : MillisecondStamp second)
    (hSame : deterministicPointId runId first = deterministicPointId runId second) :
    first = second := by
  have hSeed := (BitVec.xor_right_inj runId.value).mp (Uuid.mk.inj hSame)
  apply millis_inj hFirst hSecond
  rw [← toNat_millis hFirst, ← toNat_millis hSecond, hSeed]

theorem setWidth_packed (entry exit : BitVec 128) :
    (entry <<< 64 ||| exit).setWidth 64 = exit.setWidth 64 := by
  apply BitVec.eq_of_getLsbD_eq
  intro index hIndex
  simp [hIndex]

theorem deterministicTradeId_exit_inj {runId : Uuid} {firstEntry secondEntry : DateTime}
    (hFirst : MillisecondStamp first) (hSecond : MillisecondStamp second)
    (hSame : deterministicTradeId runId firstEntry first =
      deterministicTradeId runId secondEntry second) : first = second := by
  have hSeed := congrArg (BitVec.setWidth 64)
    ((BitVec.xor_right_inj runId.value).mp (Uuid.mk.inj hSame))
  rw [setWidth_packed, setWidth_packed] at hSeed
  have hLow := congrArg BitVec.toNat hSeed
  rw [BitVec.toNat_setWidth, BitVec.toNat_setWidth, toNat_millis hFirst, toNat_millis hSecond] at hLow
  have hFirstLess := hFirst.representable
  have hSecondLess := hSecond.representable
  apply millis_inj hFirst hSecond
  omega

end Packing

section Loop
variable {rules : StrategyRules} {sim : Simulation} {strategyId : StrategyId} {symbol : Symbol}
  {state : SimulationState} {candle : Candle} {count : Nat}

/-- The trades so far exited at some of the closes, in their order. -/
def ExitsAmong (closes : List DateTime) (state : SimulationState) : Prop :=
  ∃ exits : List DateTime, state.trades.map (·.exitTime) = exits.map some ∧ exits.Sublist closes

/-- The identifiers so far are those of the times so far, and the points have
different ones. -/
structure Recorded (sim : Simulation) (closes : List DateTime) (state : SimulationState) : Prop where
  tradeIds : ∀ trade ∈ state.trades, ∀ exit, trade.exitTime = some exit →
    trade.id = deterministicTradeId sim.runId trade.entryTime exit
  timestamps : (state.equityCurve.map (·.timestamp)).Nodup
  points : ∀ point ∈ state.equityCurve, point.timestamp ∈ closes ∧
    point.id = deterministicPointId sim.runId point.timestamp

section
variable {closes : List DateTime} (hState : ExitsAmong closes state) (sim : Simulation)
include hState

theorem ExitsAmong.close (position : BacktestPosition) (exitTime : DateTime) (price : Decimal)
    (reason : String) :
    ExitsAmong (closes ++ [exitTime]) (closePosition sim position exitTime price reason state) := by
  obtain ⟨exits, hExits, hSublist⟩ := hState
  refine ⟨exits ++ [exitTime], ?_, hSublist.append (List.Sublist.refl _)⟩
  change (state.trades ++ [closingTrade ..]).map (·.exitTime) = _
  rw [map_append, hExits, map_append]
  rfl

theorem ExitsAmong.exitPhase (candle : Candle) :
    ExitsAmong (closes ++ [candle.closeTime]) (exitPhase sim candle state) ∧
      ((exitPhase sim candle state).position ≠ none →
        ExitsAmong closes (exitPhase sim candle state)) := by
  obtain ⟨exits, hExits, hSublist⟩ := hState
  have hLater : exits.Sublist (closes ++ [candle.closeTime]) :=
    hSublist.trans (sublist_append_left ..)
  apply exitPhase_rule (P := fun next => ExitsAmong (closes ++ [candle.closeTime]) next ∧
    (next.position ≠ none → ExitsAmong closes next)) sim candle state
  · exact fun _ => ⟨⟨exits, hExits, hLater⟩, fun _ => ⟨exits, hExits, hSublist⟩⟩
  · intro position price reason _ _
    exact ⟨ExitsAmong.close ⟨exits, hExits, hSublist⟩ sim position candle.closeTime price reason,
      fun hHeld => absurd rfl hHeld⟩
  · exact fun _ _ => ⟨⟨exits, hExits, hLater⟩, fun _ => ⟨exits, hExits, hSublist⟩⟩

end

theorem Recorded.mono {closes later : List DateTime} (hState : Recorded sim closes state)
    (hLater : closes ⊆ later) : Recorded sim later state := by
  refine ⟨hState.tradeIds, hState.timestamps, ?_⟩
  intro point hPoint
  exact ⟨hLater (hState.points point hPoint).1, (hState.points point hPoint).2⟩

theorem Recorded.congr {closes : List DateTime} {other : SimulationState}
    (hState : Recorded sim closes state) (hTrades : other.trades = state.trades)
    (hCurve : other.equityCurve = state.equityCurve) : Recorded sim closes other := by
  constructor
  · rw [hTrades]
    exact hState.tradeIds
  · rw [hCurve]
    exact hState.timestamps
  · rw [hCurve]
    exact hState.points

section
variable {closes : List DateTime} (hState : Recorded sim closes state)
include hState

theorem Recorded.close (position : BacktestPosition) (exitTime : DateTime) (price : Decimal)
    (reason : String) :
    Recorded sim closes (closePosition sim position exitTime price reason state) := by
  refine ⟨?_, hState.timestamps, hState.points⟩
  intro trade hTrade
  rcases mem_append.mp hTrade with hOld | hNew
  · exact hState.tradeIds trade hOld
  · rw [mem_singleton.mp hNew]
    intro exit hExit
    cases hExit
    rfl

theorem Recorded.recordEquity {timestamp : DateTime} (hTime : timestamp ∈ closes)
    (markPrice : Decimal) :
    Recorded sim closes (recordEquity sim.runId timestamp markPrice state) := by
  refine ⟨hState.tradeIds, ?_, ?_⟩
  · rw [recordEquity_curve]
    by_cases hOld : timestamp ∈ state.equityCurve.map (·.timestamp)
    · rw [timestamps_upsertPoint_of_mem hOld]
      exact hState.timestamps
    · rw [upsertPoint_of_new hOld, map_append, map_singleton, nodup_append]
      refine ⟨hState.timestamps, nodup_singleton _, ?_⟩
      intro time hTime other hOther hSame
      rw [hSame, mem_singleton.mp hOther] at hTime
      exact hOld hTime
  · intro point hPoint
    rw [recordEquity_curve] at hPoint
    rcases mem_upsertPoint hPoint with rfl | hOld
    · exact ⟨hTime, rfl⟩
    · exact hState.points point hOld

theorem Recorded.exitPhase (candle : Candle)
    : Recorded sim closes (exitPhase sim candle state) := by
  apply exitPhase_rule sim candle state
  · exact fun _ => hState
  · intro position price reason _ _
    exact (hState.close position candle.closeTime price reason).congr rfl rfl
  · exact fun _ _ => hState.congr rfl rfl

end

/-- An iteration keeps the identifiers apart. -/
theorem Recorded.simulateAt {closes : List DateTime} {next : SimulationState}
    (hState : Recorded sim closes state) (hCandle : sim.candles[count]? = some candle)
    (hStep : simulateAt rules sim strategyId symbol state count = .ok next) :
    Recorded sim (closes ++ [candle.closeTime]) next := by
  have hLater := hState.mono (subset_append_left closes [candle.closeTime])
  have hTrades := (simulateAt_cases hCandle hStep).1
  have hExited := hLater.exitPhase candle
  have hExitedCurve := (exitPhase_recorded sim candle state).1
  rcases simulateAt_records hCandle hStep with ⟨-, -, hCurve, -⟩ | ⟨-, marked, hCurve, -, rfl⟩
  · exact hExited.congr hTrades (hCurve.trans hExitedCurve.symm)
  · have hMarked : Recorded sim (closes ++ [candle.closeTime]) marked :=
      hExited.congr hTrades (hCurve.trans hExitedCurve.symm)
    exact hMarked.recordEquity (mem_append_right _ (mem_singleton_self _)) candle.close

theorem take_closes_succ (hCandle : sim.candles[count]? = some candle) :
    (sim.candles.take (count + 1)).map (·.closeTime) =
      (sim.candles.take count).map (·.closeTime) ++ [candle.closeTime] := by
  obtain ⟨hIndex, rfl⟩ := List.getElem?_eq_some_iff.mp hCandle
  rw [take_succ_eq_append_getElem hIndex, map_append, map_singleton]

theorem loopTo_recorded (hLength : count ≤ sim.candles.length)
    (hState : loopTo rules sim strategyId symbol count = .ok state) :
    ExitsAmong ((sim.candles.take count).map (·.closeTime)) state ∧
      Recorded sim ((sim.candles.take count).map (·.closeTime)) state := by
  induction count generalizing state with
  | zero =>
    cases hState
    exact ⟨⟨[], rfl, List.Sublist.refl _⟩, by simp [initialState], nodup_nil,
      by simp [initialState]⟩
  | succ count ih =>
    obtain ⟨before, hBefore, hStep⟩ := loopTo_succ_eq_ok.mp hState
    have hCandle := getElem?_eq_getElem (show count < sim.candles.length by omega)
    obtain ⟨hExits, hRecorded⟩ := ih (by omega) hBefore
    rw [take_closes_succ hCandle]
    refine ⟨?_, hRecorded.simulateAt hCandle hStep⟩
    obtain ⟨exits, hTimes, hSublist⟩ := (hExits.exitPhase sim sim.candles[count]).1
    refine ⟨exits, ?_, hSublist⟩
    rw [(simulateAt_cases hCandle hStep).1]
    exact hTimes

theorem lt_of_confirmedEntryIndex {config : StrategyConfig} {candles : List Candle}
    {index entryIndex : Nat} (hConfirmed : confirmedEntryIndex config candles index = some entryIndex) :
    index < entryIndex := by
  by_cases hEntry : EntersOnNext config
  · rw [confirmedEntryIndex_of_entersOnNext hEntry] at hConfirmed
    cases hConfirmed
    exact Nat.lt_succ_self index
  · have hBehind := succ_lt_of_confirmedEntryIndex hEntry hConfirmed
    omega

/-- Nothing is opened at the last candle, so that what is held after it was
not closed at it. -/
theorem exitsAmong_of_held {looped : SimulationState} (hCandle : sim.candles[count]? = some candle)
    (hLength : sim.candles.length = count + 1)
    (hLoop : loopTo rules sim strategyId symbol (count + 1) = .ok looped)
    (hHeld : looped.position ≠ none) :
    ExitsAmong ((sim.candles.take count).map (·.closeTime)) looped := by
  obtain ⟨before, hBefore, hStep⟩ := loopTo_succ_eq_ok.mp hLoop
  obtain ⟨hExits, -⟩ := loopTo_recorded (by omega) hBefore
  obtain ⟨hTrades, -, ⟨hSame, -⟩ | ⟨-, -, position, ⟨entryIndex, entry, hConfirmed, hEntry, -⟩, -⟩⟩ :=
    simulateAt_cases hCandle hStep
  · rw [hSame] at hHeld
    obtain ⟨exits, hTimes, hSublist⟩ := (hExits.exitPhase sim candle).2 hHeld
    exact ⟨exits, hTrades ▸ hTimes, hSublist⟩
  · have hAfter := lt_of_confirmedEntryIndex hConfirmed
    have hInside := (List.getElem?_eq_some_iff.mp hEntry).1
    omega

theorem replayEnd_recorded {looped : SimulationState}
    (hLoop : loopTo rules sim strategyId symbol sim.candles.length = .ok looped) :
    ExitsAmong (sim.candles.map (·.closeTime)) (replayEnd sim looped) ∧
      Recorded sim (sim.candles.map (·.closeTime)) (replayEnd sim looped) := by
  obtain ⟨hExits, hRecorded⟩ := loopTo_recorded le_rfl hLoop
  rw [take_length] at hExits hRecorded
  cases hPosition : looped.position with
  | none =>
    rw [replayEnd_of_none hPosition]
    exact ⟨hExits, hRecorded⟩
  | some position =>
    cases hLast : sim.candles.getLast? with
    | none =>
      simp only [replayEnd, hPosition, hLast]
      exact ⟨hExits, hRecorded.congr rfl rfl⟩
    | some last =>
      have hNonempty : sim.candles.length ≠ 0 := by
        intro hEmpty
        rw [length_eq_zero_iff.mp hEmpty] at hLast
        cases hLast
      obtain ⟨count, hCount⟩ := Nat.exists_eq_succ_of_ne_zero hNonempty
      have hCandle : sim.candles[count]? = some last := by
        rw [getLast?_eq_getElem?, hCount] at hLast
        exact hLast
      have hEarlier : ExitsAmong ((sim.candles.take count).map (·.closeTime)) looped := by
        apply exitsAmong_of_held hCandle hCount
        · rwa [hCount] at hLoop
        · rw [hPosition]
          exact some_ne_none position
      have hCloses : sim.candles.map (·.closeTime) =
          (sim.candles.take count).map (·.closeTime) ++ [last.closeTime] := by
        rw [← take_closes_succ hCandle, ← Nat.succ_eq_add_one, ← hCount, take_length]
      have hTaken : ExitsAmong ((sim.candles.take count).map (·.closeTime))
          { looped with position := none } := hEarlier
      have hCleared : Recorded sim (sim.candles.map (·.closeTime))
          { looped with position := none } := hRecorded.congr rfl rfl
      simp only [replayEnd, hPosition, hLast]
      constructor
      · rw [hCloses]
        exact hTaken.close sim position last.closeTime last.close "replay_end"
      · exact (hCleared.close position last.closeTime last.close "replay_end").recordEquity
          (mem_map_of_mem (mem_of_getLast? hLast)) last.close

end Loop

section Rerun

/-- The same run again: what differs is what a run draws anew. -/
def Simulation.rerun (sim : Simulation) (signalId : Nat → Uuid) (createdAt : DateTime)
    (correlationId : Uuid) : Simulation :=
  { sim with signalId := signalId, createdAt := createdAt, correlationId := correlationId }

/-- The state with the trades stamped by another run. -/
def restamp (createdAt : DateTime) (state : SimulationState) : SimulationState :=
  { state with trades := state.trades.map fun trade => { trade with createdAt := createdAt } }

variable {sim : Simulation} {signalId : Nat → Uuid} {createdAt : DateTime} {correlationId : Uuid}

theorem closePosition_rerun (position : BacktestPosition) (exitTime : DateTime) (price : Decimal)
    (reason : String) (state : SimulationState) :
    closePosition (sim.rerun signalId createdAt correlationId) position exitTime price reason
        (restamp createdAt state) =
      restamp createdAt (closePosition sim position exitTime price reason state) := by
  simp only [closePosition, restamp, map_append, map_singleton]
  rfl

theorem exitPhase_rerun (candle : Candle) (state : SimulationState) :
    exitPhase (sim.rerun signalId createdAt correlationId) candle (restamp createdAt state) =
      restamp createdAt (exitPhase sim candle state) := by
  have hSame : (restamp createdAt state).position = state.position := rfl
  have hClose (position : BacktestPosition) (price : Decimal) (reason : String) :
      { closePosition (sim.rerun signalId createdAt correlationId) position candle.closeTime price reason
          { restamp createdAt state with position := none } with position := none } =
        restamp createdAt { closePosition sim position candle.closeTime price reason
          { state with position := none } with position := none } :=
    congrArg (fun closed : SimulationState => { closed with position := none })
      (closePosition_rerun position candle.closeTime price reason { state with position := none })
  cases hPosition : state.position with
  | none => simp only [exitPhase, hSame, hPosition]
  | some position =>
    simp only [exitPhase, hSame, hPosition, evaluateExit]
    split
    · exact hClose position _ _
    · split
      · exact hClose position _ _
      · split
        · exact hClose _ _ _
        · rfl

theorem signalPhase_rerun (index : Nat) (candle : Candle) {signal other : StrategySignal}
    (hSide : signal.side = other.side) (state : SimulationState) :
    signalPhase (sim.rerun signalId createdAt correlationId) index candle other
        (restamp createdAt state) =
      (signalPhase sim index candle signal state).map (Prod.map id (restamp createdAt)) := by
  simp only [signalPhase_eq, hSide, Simulation.rerun, restamp]
  cases signalFate sim.candles (confirmedEntryIndex sim.strategyConfig sim.candles index) other.side
      (cooldownActive state.lastExecutedEntryTime candle.closeTime sim.strategyConfig.cooldownSeconds)
      state.position.isSome with
  | suppressed reason => rfl
  | entering entryIndex entry =>
    simp only [Fallible.map_bind]
    apply congrArg
    funext opened
    cases opened with
    | none => rfl
    | some position => rfl

theorem strategyRules_rerun (strategyId : StrategyId) (context : StrategyEvaluationContext)
    (correlationId : Uuid) (candles : List Candle) :
    strategyRules strategyId { context with correlationId := correlationId } candles =
      strategyRules strategyId context candles := by
  cases strategyId <;> rfl

/-- What a strategy decides does not depend on what the run draws anew. -/
theorem evaluate_decision_rerun (first second correlationId : Uuid)
    (context : StrategyEvaluationContext) :
    (evaluate strategyRules first { context with correlationId := correlationId }).map decisionOf =
      (evaluate strategyRules second context).map decisionOf := by
  simp only [evaluate, strategyRules_rerun]
  cases context.config.validate.mapError Fault.core with
  | error fault => rfl
  | ok _ =>
    simp only [ok_bind]
    split
    · rfl
    · split
      · rfl
      · cases strategyRules context.strategyId context (normalizeClosedCandles context.candles) with
        | error fault => rfl
        | ok outcome =>
          cases outcome with
          | noSignal reason => rfl
          | generated source reason confidence =>
            have hConfig : ({ context with correlationId := correlationId } :
                StrategyEvaluationContext).config = context.config := rfl
            exact decisionOf_generatedResult hConfig source reason confidence

theorem side_of_decisionOf {first second : StrategyEvaluationResult}
    (hSame : decisionOf first = decisionOf second) :
    first.signal.map (·.side) = second.signal.map (·.side) := by
  have hSignals := congrArg (fun decision => decision.signal.map (·.1)) hSame
  simpa only [decisionOf, Option.map_map, Function.comp_def] using hSignals

theorem simulateAt_rerun (strategyId : StrategyId) (symbol : Symbol) (state : SimulationState)
    (index : Nat) :
    simulateAt strategyRules (sim.rerun signalId createdAt correlationId) strategyId symbol
        (restamp createdAt state) index =
      (simulateAt strategyRules sim strategyId symbol state index).map (restamp createdAt) := by
  cases hCandle : sim.candles[index]? with
  | none =>
    have hBehind := getElem?_eq_none_iff.mp hCandle
    have hRerun : (sim.rerun signalId createdAt correlationId).candles.length ≤ index := hBehind
    rw [simulateAt_of_length_le hBehind, simulateAt_of_length_le hRerun]
    rfl
  | some candle =>
    rw [simulateAt_of_getElem? sim hCandle,
      simulateAt_of_getElem? (sim.rerun signalId createdAt correlationId) hCandle]
    simp only [exitPhase_rerun, Fallible.map_bind]
    refine Fallible.bind_congr_of_map (evaluate_decision_rerun _ _ correlationId {
      correlationId := sim.correlationId
      strategyId := strategyId
      symbol := symbol
      config := sim.strategyConfig
      candles := sim.candles.take (index + 1)
      evaluatedAt := candle.closeTime }) ?_
    intro evaluation other hDecision
    have hSides := side_of_decisionOf hDecision
    cases hSignal : evaluation.signal with
    | none =>
      cases hOther : other.signal with
      | none => rfl
      | some _ => simp [hSignal, hOther] at hSides
    | some signal =>
      cases hOther : other.signal with
      | none => simp [hSignal, hOther] at hSides
      | some otherSignal =>
        have hSide : otherSignal.side = signal.side := by
          rw [hSignal, hOther] at hSides
          exact (Option.some.inj hSides).symm
        simp only [signalPhase_rerun index candle hSide, Fallible.map_bind]
        cases signalPhase sim index candle otherSignal (exitPhase sim candle state) with
        | error fault => rfl
        | ok phase =>
          obtain ⟨early, next⟩ := phase
          cases early with
          | true => rfl
          | false => rfl

theorem replayEnd_rerun (state : SimulationState) :
    replayEnd (sim.rerun signalId createdAt correlationId) (restamp createdAt state) =
      restamp createdAt (replayEnd sim state) := by
  have hSame : (restamp createdAt state).position = state.position := rfl
  have hCandles : (sim.rerun signalId createdAt correlationId).candles = sim.candles := rfl
  unfold replayEnd
  rw [hSame, hCandles]
  split
  · rename_i position last _ _
    exact congrArg (recordEquity sim.runId last.closeTime last.close)
      (closePosition_rerun position last.closeTime last.close "replay_end"
        { state with position := none })
  · rfl

theorem loopTo_rerun (strategyId : StrategyId) (symbol : Symbol) (count : Nat) :
    loopTo strategyRules (sim.rerun signalId createdAt correlationId) strategyId symbol count =
      (loopTo strategyRules sim strategyId symbol count).map (restamp createdAt) := by
  have hStart : initialState (sim.rerun signalId createdAt correlationId).request =
      restamp createdAt (initialState sim.request) := rfl
  rw [loopTo, loopTo, hStart]
  exact foldlM_map_state (simulateAt_rerun strategyId symbol) _ _

/-- Another run over the same request, configuration and candles reports the
same, but for what it stamps its trades with. -/
theorem simulateBacktest_rerun {execution : BacktestExecution}
    (hRun : simulateBacktest strategyRules sim = .ok execution) :
    ∃ again, simulateBacktest strategyRules (sim.rerun signalId createdAt correlationId) = .ok again ∧
      again.trades = execution.trades.map (fun trade => { trade with createdAt := createdAt }) ∧
      again.equityCurve = execution.equityCurve := by
  by_cases hCandles : sim.candles = []
  · have hRerun : (sim.rerun signalId createdAt correlationId).candles = [] := hCandles
    simp only [simulateBacktest, hCandles, if_true] at hRun
    cases hRun
    simp only [simulateBacktest, hRerun, if_true]
    exact ⟨_, rfl, rfl, rfl⟩
  · obtain ⟨strategyId, symbol, looped, hId, hSymbol, hLoop, rfl⟩ :=
      (simulateBacktest_eq_ok hCandles).mp hRun
    have hRerun : loopTo strategyRules (sim.rerun signalId createdAt correlationId) strategyId symbol
        (sim.rerun signalId createdAt correlationId).candles.length =
          .ok (restamp createdAt looped) := by
      rw [loopTo_rerun, show (sim.rerun signalId createdAt correlationId).candles = sim.candles from rfl,
        hLoop]
      rfl
    have hRerunCandles : (sim.rerun signalId createdAt correlationId).candles ≠ [] := hCandles
    refine ⟨_, (simulateBacktest_eq_ok hRerunCandles).mpr
      ⟨strategyId, symbol, restamp createdAt looped, hId, hSymbol, hRerun, rfl⟩, ?_, ?_⟩
    · rw [replayEnd_rerun]
      rfl
    · rw [replayEnd_rerun]
      rfl

end Rerun

/-- Every identifier that a run reports is that of its times. -/
theorem simulateBacktest_recorded {rules : StrategyRules} (sim : Simulation)
    {execution : BacktestExecution} (hRun : simulateBacktest rules sim = .ok execution) :
    (∃ exits : List DateTime, execution.trades.map (·.exitTime) = exits.map some ∧
        exits.Sublist (sim.candles.map (·.closeTime))) ∧
      (∀ trade ∈ execution.trades, ∀ exit, trade.exitTime = some exit →
        trade.id = deterministicTradeId sim.runId trade.entryTime exit) ∧
      (execution.equityCurve.map (·.timestamp)).Nodup ∧
      ∀ point ∈ execution.equityCurve, point.timestamp ∈ sim.candles.map (·.closeTime) ∧
        point.id = deterministicPointId sim.runId point.timestamp := by
  by_cases hCandles : sim.candles = []
  · simp only [simulateBacktest, hCandles, if_true] at hRun
    cases hRun
    exact ⟨⟨[], rfl, nil_sublist _⟩, by simp, nodup_nil, by simp⟩
  · obtain ⟨strategyId, symbol, looped, -, -, hLoop, rfl⟩ := (simulateBacktest_eq_ok hCandles).mp hRun
    obtain ⟨hExits, hRecorded⟩ := replayEnd_recorded hLoop
    exact ⟨hExits, hRecorded.tradeIds, hRecorded.timestamps, hRecorded.points⟩

/-- No two trades and no two points of a run share an identifier, if the closes
increase and are times in milliseconds, and a run over the same candles gives
the same ones again. -/
theorem record_ids_distinct (sim : Simulation) (hTimes : sim.candles.Pairwise (·.closeTime < ·.closeTime))
    (hStamps : ∀ candle ∈ sim.candles, MillisecondStamp candle.closeTime)
    {execution : BacktestExecution} (hRun : simulateBacktest strategyRules sim = .ok execution) :
    (execution.trades.map (·.id)).Nodup ∧ (execution.equityCurve.map (·.id)).Nodup ∧
      ∀ signalId createdAt correlationId, ∃ again,
        simulateBacktest strategyRules (sim.rerun signalId createdAt correlationId) = .ok again ∧
        again.trades.map (·.id) = execution.trades.map (·.id) ∧
        again.equityCurve.map (·.id) = execution.equityCurve.map (·.id) := by
  have hDistinct : (sim.candles.map (·.closeTime)).Nodup :=
    (pairwise_map.mpr hTimes).imp ne_of_lt
  have hCloses : ∀ time ∈ sim.candles.map (·.closeTime), MillisecondStamp time := by
    intro time hTime
    obtain ⟨candle, hCandle, rfl⟩ := mem_map.mp hTime
    exact hStamps candle hCandle
  obtain ⟨⟨exits, hExits, hSublist⟩, hTradeIds, hTimestamps, hPoints⟩ :=
    simulateBacktest_recorded sim hRun
  refine ⟨?_, ?_, ?_⟩
  · have hApart : execution.trades.Pairwise fun first second => first.exitTime ≠ second.exitTime := by
      have hTimesApart : (execution.trades.map (·.exitTime)).Nodup := by
        rw [hExits]
        exact (hDistinct.sublist hSublist).map (some_injective _)
      exact pairwise_map.mp hTimesApart
    refine pairwise_map.mpr (hApart.imp_of_mem ?_)
    intro first second hFirst hSecond hOther hSame
    have hClosed : ∀ trade ∈ execution.trades, ∃ exit, trade.exitTime = some exit ∧
        exit ∈ sim.candles.map (·.closeTime) := by
      intro trade hTrade
      have hExit : trade.exitTime ∈ exits.map some := hExits ▸ mem_map_of_mem hTrade
      obtain ⟨exit, hMember, hEq⟩ := mem_map.mp hExit
      exact ⟨exit, hEq.symm, hSublist.subset hMember⟩
    obtain ⟨firstExit, hFirstExit, hFirstClose⟩ := hClosed first hFirst
    obtain ⟨secondExit, hSecondExit, hSecondClose⟩ := hClosed second hSecond
    rw [hTradeIds first hFirst firstExit hFirstExit, hTradeIds second hSecond secondExit hSecondExit]
      at hSame
    have hExit := deterministicTradeId_exit_inj (hCloses _ hFirstClose) (hCloses _ hSecondClose) hSame
    exact hOther (by rw [hFirstExit, hSecondExit, hExit])
  · refine pairwise_map.mpr ((pairwise_map.mp hTimestamps).imp_of_mem ?_)
    intro first second hFirst hSecond hOther hSame
    rw [(hPoints first hFirst).2, (hPoints second hSecond).2] at hSame
    exact hOther (deterministicPointId_inj (hCloses _ (hPoints first hFirst).1)
      (hCloses _ (hPoints second hSecond).1) hSame)
  · intro signalId createdAt correlationId
    obtain ⟨again, hAgain, hTrades, hCurve⟩ := simulateBacktest_rerun hRun
    refine ⟨again, hAgain, ?_, by rw [hCurve]⟩
    rw [hTrades, List.map_map]
    rfl

/-- A stop and a close at the end of the replay. -/
theorem record_ids_distinct_sample :
    ∃ execution, simulateBacktest strategyRules sampleSimulation = .ok execution ∧
      execution.trades.length = 2 ∧ (execution.trades.map (·.id)).Nodup := by
  have hTwo : (simulateBacktest strategyRules sampleSimulation).toOption.map (·.trades.length) =
      some 2 := by decide +kernel
  obtain ⟨execution, hRun, hLength⟩ := map_eq_some_iff.mp hTwo
  rw [toOption_eq_some] at hRun
  have hStamps : ∀ candle ∈ sampleSimulation.candles, candle.closeTime % 1000000 = 0 ∧
      0 ≤ candle.closeTime ∧ candle.closeTime.timestampMillis < 2 ^ 63 := by decide
  exact ⟨execution, hRun, hLength, (record_ids_distinct sampleSimulation (by decide)
    (fun candle hCandle => ⟨(hStamps candle hCandle).1, (hStamps candle hCandle).2.1,
      (hStamps candle hCandle).2.2⟩) hRun).1⟩

end AegisQuant.Replay
