import AegisQuant.Replay.SignalFates
import AegisQuant.Strategy.Evaluate

/-! The equity curve. Every iteration that does not end early records one
point at the close of its candle, and the end of the replay records the last
one again. -/
namespace AegisQuant.Replay

open Strategy List Option

/-- What a percentage drawdown from `peak` is; none from a peak that is not
positive. -/
def drawdownFrom (peak equity : Decimal) : Decimal :=
  if peak > 0 then (peak - equity) / peak * 100 else 0

/-- The cash and what the position adds to it at a price. -/
def equityAt (markPrice : Decimal) (state : SimulationState) : Decimal :=
  match state.position with
  | some position =>
    state.cash + position.quantity * markPrice - position.feePaid - position.notional
  | none => state.cash

def pointAt (runId : Uuid) (timestamp : DateTime) (markPrice : Decimal) (state : SimulationState) :
    BacktestEquityPoint where
  id := deterministicPointId runId timestamp
  runId := runId
  timestamp := timestamp
  equity := equityAt markPrice state
  drawdownPct := drawdownFrom (max state.peakEquity (equityAt markPrice state))
    (equityAt markPrice state)

/-- One point for each candle, in their order and at their close times, the
last of which shows the final equity. -/
structure CompleteCurve (sim : Simulation) (execution : BacktestExecution) : Prop where
  timestamps : execution.equityCurve.map (·.timestamp) = sim.candles.map (·.closeTime)
  last : ∃ point, execution.equityCurve.getLast? = some point ∧
    point.equity = execution.result.finalEquity

section Points
variable {point : BacktestEquityPoint} {curve before : List BacktestEquityPoint}

section
variable (runId : Uuid) (timestamp : DateTime) (markPrice : Decimal) (state : SimulationState)

theorem recordEquity_eq : recordEquity runId timestamp markPrice state = { state with
      peakEquity := max state.peakEquity (equityAt markPrice state)
      equityCurve := upsertPoint (pointAt runId timestamp markPrice state) state.equityCurve } := by
  have hPeak : (if equityAt markPrice state > state.peakEquity then equityAt markPrice state
      else state.peakEquity) = max state.peakEquity (equityAt markPrice state) :=
    (max_def_lt ..).symm
  unfold pointAt
  rw [← hPeak]
  rfl

theorem recordEquity_curve : (recordEquity runId timestamp markPrice state).equityCurve =
      upsertPoint (pointAt runId timestamp markPrice state) state.equityCurve := by
  rw [recordEquity_eq]

theorem recordEquity_peak : (recordEquity runId timestamp markPrice state).peakEquity =
      max state.peakEquity (equityAt markPrice state) := by
  rw [recordEquity_eq]

end

theorem upsertPoint_append (hNew : point.timestamp ∉ before.map (·.timestamp))
    (after : List BacktestEquityPoint) :
    upsertPoint point (before ++ after) = before ++ upsertPoint point after := by
  induction before with
  | nil => rfl
  | cons existing rest ih =>
    rw [map_cons, mem_cons, not_or] at hNew
    rw [cons_append, upsertPoint, if_neg (Ne.symm hNew.1), ih hNew.2, cons_append]

theorem upsertPoint_of_new (hNew : point.timestamp ∉ curve.map (·.timestamp)) :
    upsertPoint point curve = curve ++ [point] := by
  have hAppend := upsertPoint_append hNew []
  rwa [append_nil] at hAppend

theorem upsertPoint_last {last : BacktestEquityPoint}
    (hNew : point.timestamp ∉ before.map (·.timestamp)) (hSame : last.timestamp = point.timestamp) :
    upsertPoint point (before ++ [last]) = before ++ [point] := by
  rw [upsertPoint_append hNew, upsertPoint, if_pos hSame]

theorem timestamps_upsertPoint_of_mem (hOld : point.timestamp ∈ curve.map (·.timestamp)) :
    (upsertPoint point curve).map (·.timestamp) = curve.map (·.timestamp) := by
  induction curve with
  | nil => cases hOld
  | cons existing rest ih =>
    rw [upsertPoint]
    split
    · rename_i hSame
      rw [map_cons, map_cons, hSame]
    · rename_i hOther
      rw [map_cons, mem_cons] at hOld
      rw [map_cons, map_cons, ih (hOld.resolve_left (Ne.symm hOther))]

theorem mem_timestamps_upsertPoint (point : BacktestEquityPoint)
    (curve : List BacktestEquityPoint) :
    point.timestamp ∈ (upsertPoint point curve).map (·.timestamp) := by
  by_cases hOld : point.timestamp ∈ curve.map (·.timestamp)
  · rwa [timestamps_upsertPoint_of_mem hOld]
  · simp [upsertPoint_of_new hOld]

theorem mem_upsertPoint {other : BacktestEquityPoint} (hOther : other ∈ upsertPoint point curve) :
    other = point ∨ other ∈ curve := by
  induction curve with
  | nil => exact .inl (mem_singleton.mp hOther)
  | cons existing rest ih =>
    rw [upsertPoint] at hOther
    split at hOther
    · rcases mem_cons.mp hOther with hNew | hRest
      · exact .inl hNew
      · exact .inr (mem_cons_of_mem _ hRest)
    · rcases mem_cons.mp hOther with hFirst | hRest
      · exact .inr (hFirst ▸ mem_cons_self)
      · exact (ih hRest).imp_right (mem_cons_of_mem _)

theorem length_upsertPoint_le (point : BacktestEquityPoint) (curve : List BacktestEquityPoint) :
    (upsertPoint point curve).length ≤ curve.length + 1 := by
  by_cases hOld : point.timestamp ∈ curve.map (·.timestamp)
  · have hLength := congrArg length (timestamps_upsertPoint_of_mem hOld)
    simp only [length_map] at hLength
    omega
  · simp [upsertPoint_of_new hOld]

end Points

section Ends
variable {sim : Simulation} {state : SimulationState}

theorem replayEnd_of_none (hPosition : state.position = none) : replayEnd sim state = state := by
  simp only [replayEnd, hPosition]
  rw [← hPosition]

theorem replayEnd_of_position {position : BacktestPosition} {last : Candle}
    (hPosition : state.position = some position) (hLast : sim.candles.getLast? = some last) :
    ∃ closed : SimulationState, closed.position = none ∧ closed.equityCurve = state.equityCurve ∧
      closed.peakEquity = state.peakEquity ∧
      closed.cash = (closePosition sim position last.closeTime last.close "replay_end" state).cash ∧
      replayEnd sim state = recordEquity sim.runId last.closeTime last.close closed := by
  simp only [replayEnd, hPosition, hLast]
  exact ⟨closePosition sim position last.closeTime last.close "replay_end"
    { state with position := none }, rfl, rfl, rfl, rfl, rfl⟩

theorem equityAt_of_none (hPosition : state.position = none) (markPrice : Decimal) :
    equityAt markPrice state = state.cash := by
  simp only [equityAt, hPosition]

end Ends

section Loop
variable {rules : StrategyRules} {sim : Simulation} {strategyId : StrategyId} {symbol : Symbol}

variable {count : Nat}

theorem closeTime_not_mem {candle : Candle} (hTimes : (sim.candles.map (·.closeTime)).Nodup)
    (hCandle : sim.candles[count]? = some candle) :
    candle.closeTime ∉ (sim.candles.take count).map (·.closeTime) := by
  obtain ⟨hIndex, rfl⟩ := List.getElem?_eq_some_iff.mp hCandle
  have hDistinct := hTimes.sublist ((take_sublist (count + 1) sim.candles).map _)
  rw [take_succ_eq_append_getElem hIndex, map_append, nodup_append] at hDistinct
  exact fun hOld => hDistinct.2.2 _ hOld _ (mem_singleton_self _) rfl

/-- The loop records at most one point for each candle, and fewer once an
iteration has ended early. -/
theorem loopTo_curve_length {state : SimulationState} (hLength : count ≤ sim.candles.length)
    (hState : loopTo rules sim strategyId symbol count = .ok state) :
    state.equityCurve.length ≤ count ∧ ∀ index < count, ∀ earlier,
      loopTo rules sim strategyId symbol index = .ok earlier →
      EndsEarly rules sim strategyId symbol index earlier → state.equityCurve.length < count := by
  induction count generalizing state with
  | zero =>
    cases hState
    exact ⟨le_rfl, fun index hIndex => absurd hIndex (Nat.not_lt_zero index)⟩
  | succ count ih =>
    obtain ⟨before, hBefore, hStep⟩ := loopTo_succ_eq_ok.mp hState
    obtain ⟨hShort, hShorter⟩ := ih (by omega) hBefore
    have hCandle := getElem?_eq_getElem (show count < sim.candles.length by omega)
    rcases simulateAt_records hCandle hStep with ⟨-, -, hCurve, -⟩ | ⟨hRecords, marked, hCurve, -, rfl⟩
    · rw [hCurve]
      exact ⟨by omega, fun index _ earlier _ _ => by omega⟩
    · have hNext := length_upsertPoint_le
        (pointAt sim.runId sim.candles[count].closeTime sim.candles[count].close marked)
        marked.equityCurve
      rw [hCurve] at hNext
      rw [recordEquity_curve, hCurve]
      refine ⟨by omega, ?_⟩
      intro index hIndex earlier hEarlier hEnds
      rcases Nat.lt_succ_iff_lt_or_eq.mp hIndex with hInside | rfl
      · have hLess := hShorter index hInside earlier hEarlier hEnds
        omega
      · rw [hBefore] at hEarlier
        cases hEarlier
        exact absurd hEnds hRecords

/-- While no iteration ends early, the curve follows the candles. -/
theorem loopTo_timestamps {state : SimulationState} (hTimes : (sim.candles.map (·.closeTime)).Nodup)
    (hLength : count ≤ sim.candles.length)
    (hRecords : ∀ index < count, ∀ earlier, loopTo rules sim strategyId symbol index = .ok earlier →
      ¬EndsEarly rules sim strategyId symbol index earlier)
    (hState : loopTo rules sim strategyId symbol count = .ok state) :
    state.equityCurve.map (·.timestamp) = (sim.candles.take count).map (·.closeTime) := by
  induction count generalizing state with
  | zero =>
    cases hState
    rfl
  | succ count ih =>
    obtain ⟨before, hBefore, hStep⟩ := loopTo_succ_eq_ok.mp hState
    have hIndex : count < sim.candles.length := by omega
    have hCurve := ih (by omega) (fun index hInside => hRecords index (by omega)) hBefore
    rcases simulateAt_records (getElem?_eq_getElem hIndex) hStep with ⟨hEnds, -⟩ |
      ⟨-, marked, hSame, -, rfl⟩
    · exact absurd hEnds (hRecords count (Nat.lt_succ_self count) before hBefore)
    · have hSplit : (sim.candles.take (count + 1)).map (·.closeTime) =
          (sim.candles.take count).map (·.closeTime) ++ [sim.candles[count].closeTime] := by
        rw [take_succ_eq_append_getElem hIndex, map_append, map_singleton]
      have hNew : sim.candles[count].closeTime ∉ before.equityCurve.map (·.timestamp) := by
        rw [hCurve]
        exact closeTime_not_mem hTimes (getElem?_eq_getElem hIndex)
      rw [recordEquity_curve, hSame, upsertPoint_of_new hNew, map_append, hCurve, hSplit]
      rfl

variable {looped : SimulationState}

theorem last_recorded {position : BacktestPosition} {last : Candle}
    (hLoop : loopTo rules sim strategyId symbol sim.candles.length = .ok looped)
    (hPosition : looped.position = some position) (hLast : sim.candles.getLast? = some last) :
    last.closeTime ∈ looped.equityCurve.map (·.timestamp) := by
  have hNonempty : sim.candles.length ≠ 0 := by
    intro hEmpty
    rw [length_eq_zero_iff.mp hEmpty] at hLast
    cases hLast
  obtain ⟨count, hCount⟩ := Nat.exists_eq_succ_of_ne_zero hNonempty
  rw [hCount] at hLoop
  obtain ⟨before, -, hStep⟩ := loopTo_succ_eq_ok.mp hLoop
  have hCandle : sim.candles[count]? = some last := by
    rw [getLast?_eq_getElem?, hCount] at hLast
    exact hLast
  rcases simulateAt_records hCandle hStep with ⟨-, hNone, -⟩ | ⟨-, marked, -, -, rfl⟩
  · rw [hNone] at hPosition
    cases hPosition
  · rw [recordEquity_curve]
    exact mem_timestamps_upsertPoint _ _

theorem replayEnd_timestamps
    (hLoop : loopTo rules sim strategyId symbol sim.candles.length = .ok looped) :
    (replayEnd sim looped).equityCurve.map (·.timestamp) = looped.equityCurve.map (·.timestamp) := by
  cases hPosition : looped.position with
  | none => rw [replayEnd_of_none hPosition]
  | some position =>
    cases hLast : sim.candles.getLast? with
    | none => simp only [replayEnd, hPosition, hLast]
    | some last =>
      obtain ⟨closed, -, hCurve, -, -, hEnd⟩ := replayEnd_of_position hPosition hLast
      rw [hEnd, recordEquity_curve, hCurve]
      exact timestamps_upsertPoint_of_mem (last_recorded hLoop hPosition hLast)

theorem completeCurve_of_records (hCandles : sim.candles ≠ [])
    (hTimes : (sim.candles.map (·.closeTime)).Nodup)
    (hRecords : ∀ index < sim.candles.length, ∀ earlier,
      loopTo rules sim strategyId symbol index = .ok earlier →
      ¬EndsEarly rules sim strategyId symbol index earlier)
    (hLoop : loopTo rules sim strategyId symbol sim.candles.length = .ok looped) :
    (replayEnd sim looped).equityCurve.map (·.timestamp) = sim.candles.map (·.closeTime) ∧
      ∃ point, (replayEnd sim looped).equityCurve.getLast? = some point ∧
        point.equity = (replayEnd sim looped).cash := by
  have hTimestamps := loopTo_timestamps hTimes le_rfl hRecords hLoop
  rw [take_length] at hTimestamps
  refine ⟨(replayEnd_timestamps hLoop).trans hTimestamps, ?_⟩
  obtain ⟨count, hCount⟩ := Nat.exists_eq_succ_of_ne_zero
    (fun hEmpty => hCandles (length_eq_zero_iff.mp hEmpty))
  obtain ⟨last, hLast⟩ := isSome_iff_exists.mp (getLast?_isSome.mpr hCandles)
  have hCandle : sim.candles[count]? = some last := by
    rw [getLast?_eq_getElem?, hCount] at hLast
    exact hLast
  rw [hCount] at hLoop
  obtain ⟨before, hBefore, hStep⟩ := loopTo_succ_eq_ok.mp hLoop
  have hNew : last.closeTime ∉ before.equityCurve.map (·.timestamp) := by
    rw [loopTo_timestamps hTimes (by omega) (fun index hIndex => hRecords index (by omega)) hBefore]
    exact closeTime_not_mem hTimes hCandle
  rcases simulateAt_records hCandle hStep with ⟨hEnds, -⟩ | ⟨-, marked, hSame, -, rfl⟩
  · exact absurd hEnds (hRecords count (by omega) before hBefore)
  · rw [← hSame] at hNew
    cases hPosition : (recordEquity sim.runId last.closeTime last.close marked).position with
    | none =>
      rw [replayEnd_of_none hPosition, recordEquity_curve, upsertPoint_of_new hNew]
      exact ⟨_, getLast?_concat .., equityAt_of_none hPosition _⟩
    | some position =>
      obtain ⟨closed, hNone, hCurve, -, -, hEnd⟩ := replayEnd_of_position hPosition hLast
      rw [recordEquity_curve, upsertPoint_of_new hNew] at hCurve
      have hReplaced : upsertPoint (pointAt sim.runId last.closeTime last.close closed)
          closed.equityCurve =
            marked.equityCurve ++ [pointAt sim.runId last.closeTime last.close closed] := by
        rw [hCurve]
        exact upsertPoint_last hNew rfl
      refine ⟨pointAt sim.runId last.closeTime last.close closed, ?_, ?_⟩
      · rw [hEnd, recordEquity_curve, hReplaced, getLast?_concat]
      · rw [hEnd]
        exact equityAt_of_none hNone _

end Loop

/-- The curve of a run is complete exactly when no iteration ends early, on a
signal that acts and has no candle to enter at. -/
theorem equity_curve_complete_iff (rules : StrategyRules) (sim : Simulation)
    (hCandles : sim.candles ≠ []) (hTimes : sim.candles.Pairwise (·.closeTime < ·.closeTime))
    {execution : BacktestExecution} (hRun : simulateBacktest rules sim = .ok execution) :
    CompleteCurve sim execution ↔ ∀ strategyId symbol index state,
      StrategyId.fromStr sim.request.strategyId = .ok strategyId →
      Symbol.new sim.request.symbol = .ok symbol → index < sim.candles.length →
      loopTo rules sim strategyId symbol index = .ok state →
      ¬EndsEarly rules sim strategyId symbol index state := by
  obtain ⟨strategyId, symbol, looped, hId, hSymbol, hLoop, rfl⟩ :=
    (simulateBacktest_eq_ok hCandles).mp hRun
  have hDistinct : (sim.candles.map (·.closeTime)).Nodup :=
    (pairwise_map.mpr hTimes).imp ne_of_lt
  constructor
  · intro hComplete otherId otherSymbol index state hOtherId hOtherSymbol hIndex hState hEnds
    obtain rfl : otherId = strategyId := Except.ok.inj (hOtherId.symm.trans hId)
    obtain rfl : otherSymbol = symbol := Except.ok.inj (hOtherSymbol.symm.trans hSymbol)
    have hShort := (loopTo_curve_length le_rfl hLoop).2 index hIndex state hState hEnds
    have hLength := congrArg length ((replayEnd_timestamps hLoop).symm.trans hComplete.timestamps)
    simp only [length_map] at hLength
    omega
  · intro hRecords
    obtain ⟨hTimestamps, hLast⟩ := completeCurve_of_records hCandles hDistinct
      (fun index hIndex earlier => hRecords strategyId symbol index earlier hId hSymbol hIndex) hLoop
    exact ⟨hTimestamps, hLast⟩

/-- The sample run has a point for each of its eight candles, so that no
iteration of it ends early. -/
theorem equity_curve_complete_sample :
    ∃ execution, simulateBacktest strategyRules sampleSimulation = .ok execution ∧
      execution.equityCurve.length = 8 ∧ ∀ strategyId symbol index state,
        StrategyId.fromStr sampleSimulation.request.strategyId = .ok strategyId →
        Symbol.new sampleSimulation.request.symbol = .ok symbol →
        index < sampleSimulation.candles.length →
        loopTo strategyRules sampleSimulation strategyId symbol index = .ok state →
        ¬EndsEarly strategyRules sampleSimulation strategyId symbol index state := by
  have hCurve : (simulateBacktest strategyRules sampleSimulation).toOption.map (fun run =>
      (run.equityCurve.map (·.timestamp), run.equityCurve.getLast?.map (·.equity),
        some run.result.finalEquity)) =
      (simulateBacktest strategyRules sampleSimulation).toOption.map (fun run =>
        (sampleSimulation.candles.map (·.closeTime), some run.result.finalEquity,
          run.equityCurve.getLast?.map (·.equity))) := by
    decide +kernel
  have hRuns : (simulateBacktest strategyRules sampleSimulation).toOption.isSome = true := by
    decide +kernel
  obtain ⟨execution, hRun⟩ := isSome_iff_exists.mp hRuns
  rw [hRun, map_some, map_some, some.injEq, Prod.mk.injEq, Prod.mk.injEq] at hCurve
  obtain ⟨hTimestamps, hLast, -⟩ := hCurve
  rw [Fallible.toOption_eq_some] at hRun
  have hLength := congrArg length hTimestamps
  rw [length_map] at hLength
  exact ⟨execution, hRun, hLength, (equity_curve_complete_iff strategyRules sampleSimulation
    (by decide) (by decide) hRun).mp ⟨hTimestamps, map_eq_some_iff.mp hLast⟩⟩

def signalOnLastCandle : Simulation :=
  { sampleSimulation with candles := sampleSimulation.candles.take 3 }

/-- A signal on the last candle leaves that candle without a point. -/
theorem signal_on_last_candle_drops_point :
    ¬∀ sim execution, sim.candles ≠ [] → sim.candles.Pairwise (·.closeTime < ·.closeTime) →
      simulateBacktest strategyRules sim = .ok execution → CompleteCurve sim execution := by
  intro hComplete
  have hLength : (simulateBacktest strategyRules signalOnLastCandle).toOption.map
      (·.equityCurve.length) = some 2 := by decide +kernel
  obtain ⟨execution, hRun, hTwo⟩ := map_eq_some_iff.mp hLength
  rw [Fallible.toOption_eq_some] at hRun
  have hCurve := hComplete signalOnLastCandle execution (by decide) (by decide) hRun
  have hThree := congrArg length hCurve.timestamps
  rw [length_map, hTwo] at hThree
  exact absurd hThree (by decide)

end AegisQuant.Replay
