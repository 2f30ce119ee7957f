import AegisQuant.Library.Folds
import AegisQuant.Replay.EquityCurve
import Mathlib.Algebra.Order.Field.Rat

/-! The drawdown of a backtest. The simulation measures every point against
the highest equity it has recorded, and the point that the end of the replay
takes off the curve again is among them. -/
namespace AegisQuant.Replay

open RunningMax Strategy List Option

def curveDrawdowns (sim : Simulation) (curve : List BacktestEquityPoint) : List Decimal :=
  scan drawdownFrom sim.request.initialCapital (curve.map (·.equity))

structure DrawdownOfCurve (sim : Simulation) (execution : BacktestExecution) : Prop where
  deepest : execution.result.maxDrawdownPct = greatest (curveDrawdowns sim execution.equityCurve)
  bounded : ∀ point ∈ execution.equityCurve,
    0 ≤ point.drawdownPct ∧ point.drawdownPct ≤ execution.result.maxDrawdownPct

/-- A position held at the end was not, at the last close, worth a new peak
that its closing falls short of, or an earlier drawdown is deeper than that
fall. -/
def EndKeepsDrawdown (sim : Simulation) (looped : SimulationState) : Prop :=
  ∀ position last, looped.position = some position → sim.candles.getLast? = some last →
    let kept := looped.equityCurve.dropLast
    let keptPeak := peak sim.request.initialCapital (kept.map (·.equity))
    let keptDrawdown := greatest (kept.map (·.drawdownPct))
    let mark := equityAt last.close looped
    let closing := (closePosition sim position last.closeTime last.close "replay_end" looped).cash
    mark ≤ max keptPeak closing ∨ max keptDrawdown (drawdownFrom mark closing) =
        max keptDrawdown (drawdownFrom (max keptPeak closing) closing)

theorem drawdownFrom_nonneg {top equity : Decimal} (hBelow : equity ≤ top) :
    0 ≤ drawdownFrom top equity := by
  unfold drawdownFrom
  split
  · rename_i hPositive
    have hFall : 0 ≤ top - equity := sub_nonneg.mpr hBelow
    exact mul_nonneg (div_nonneg hFall (le_of_lt hPositive)) (by norm_num)
  · exact le_rfl

section Loop
variable {rules : StrategyRules} {sim : Simulation} {strategyId : StrategyId} {symbol : Symbol}

/-- The loop invariant: the curve has been measured against its own points. -/
structure Measured (sim : Simulation) (count : Nat) (state : SimulationState) : Prop where
  peakEquity : state.peakEquity = peak sim.request.initialCapital (state.equityCurve.map (·.equity))
  drawdowns : state.equityCurve.map (·.drawdownPct) = curveDrawdowns sim state.equityCurve
  times : ∀ point ∈ state.equityCurve, point.timestamp ∈ (sim.candles.take count).map (·.closeTime)

theorem measured_initialState : Measured sim 0 (initialState sim.request) where
  peakEquity := rfl
  drawdowns := rfl
  times := by simp [initialState]

variable {state : SimulationState} {count : Nat}

theorem Measured.append (hState : Measured sim count state) {point : BacktestEquityPoint}
    (hDrawdown : point.drawdownPct = drawdownFrom (max state.peakEquity point.equity) point.equity)
    :
    (state.equityCurve ++ [point]).map (·.drawdownPct) =
      curveDrawdowns sim (state.equityCurve ++ [point]) := by
  rw [curveDrawdowns, map_append, map_append, map_singleton, map_singleton,
    scan_concat, hDrawdown, hState.peakEquity, hState.drawdowns]
  rfl

theorem Measured.time_new {candle : Candle} (hState : Measured sim count state)
    (hTimes : (sim.candles.map (·.closeTime)).Nodup) (hCandle : sim.candles[count]? = some candle) :
    candle.closeTime ∉ state.equityCurve.map (·.timestamp) := by
  intro hOld
  obtain ⟨point, hPoint, hSame⟩ := mem_map.mp hOld
  exact closeTime_not_mem hTimes hCandle (hSame ▸ hState.times point hPoint)

/-- Close times that differ keep the points apart, so that an iteration keeps
the invariant. -/
theorem Measured.simulateAt {state next : SimulationState} {candle : Candle}
    (hState : Measured sim count state) (hTimes : (sim.candles.map (·.closeTime)).Nodup)
    (hCandle : sim.candles[count]? = some candle)
    (hStep : simulateAt rules sim strategyId symbol state count = .ok next) :
    Measured sim (count + 1) next := by
  have hTake : (sim.candles.take (count + 1)).map (·.closeTime) =
      (sim.candles.take count).map (·.closeTime) ++ [candle.closeTime] := by
    obtain ⟨hIndex, rfl⟩ := List.getElem?_eq_some_iff.mp hCandle
    rw [take_succ_eq_append_getElem hIndex, map_append, map_singleton]
  have hLater : ∀ point ∈ state.equityCurve,
      point.timestamp ∈ (sim.candles.take (count + 1)).map (·.closeTime) := by
    intro point hPoint
    rw [hTake]
    exact mem_append_left _ (hState.times point hPoint)
  rcases simulateAt_records hCandle hStep with ⟨-, -, hCurve, hPeak⟩ | ⟨-, marked, hCurve, hPeak, rfl⟩
  · constructor
    · rw [hPeak, hCurve, hState.peakEquity]
    · rw [hCurve, hState.drawdowns]
    · rwa [hCurve]
  · have hNew := hState.time_new hTimes hCandle
    have hNext : (recordEquity sim.runId candle.closeTime candle.close marked).equityCurve =
        state.equityCurve ++ [pointAt sim.runId candle.closeTime candle.close marked] := by
      rw [recordEquity_curve, hCurve, upsertPoint_of_new hNew]
    constructor
    · rw [recordEquity_peak, hNext, map_append, map_singleton, peak_concat, hPeak,
        hState.peakEquity]
      rfl
    · rw [hNext]
      exact hState.append (by rw [← hPeak]; rfl)
    · rw [hNext, forall_mem_append, forall_mem_singleton]
      refine ⟨hLater, ?_⟩
      rw [hTake]
      exact mem_append_right _ (mem_singleton_self _)

theorem loopTo_measured (hTimes : (sim.candles.map (·.closeTime)).Nodup)
    (hLength : count ≤ sim.candles.length)
    (hState : loopTo rules sim strategyId symbol count = .ok state) : Measured sim count state := by
  induction count generalizing state with
  | zero =>
    cases hState
    exact measured_initialState
  | succ count ih =>
    obtain ⟨before, hBefore, hStep⟩ := loopTo_succ_eq_ok.mp hState
    exact (ih (by omega) hBefore).simulateAt hTimes
      (getElem?_eq_getElem (show count < sim.candles.length by omega)) hStep

end Loop

section Result
variable {rules : StrategyRules} {sim : Simulation} {strategyId : StrategyId} {symbol : Symbol}

theorem drawdownOfCurve_of_measured {state : SimulationState}
    (hDrawdowns : state.equityCurve.map (·.drawdownPct) = curveDrawdowns sim state.equityCurve) :
    DrawdownOfCurve sim {
      result := buildResult sim state, trades := state.trades, equityCurve := state.equityCurve } := by
  constructor
  · rw [← hDrawdowns]
    rfl
  · intro point hPoint
    have hMember : point.drawdownPct ∈ state.equityCurve.map (·.drawdownPct) :=
      mem_map_of_mem hPoint
    refine ⟨?_, le_greatest hMember⟩
    rw [hDrawdowns] at hMember
    exact forall_mem_scan (fun _ _ hBelow => drawdownFrom_nonneg hBelow) _ _ _ hMember

theorem drawdownOfCurve_concat_iff {state : SimulationState} {kept : List BacktestEquityPoint}
    {point : BacktestEquityPoint} {top : Decimal} (hCurve : state.equityCurve = kept ++ [point])
    (hKept : kept.map (·.drawdownPct) = curveDrawdowns sim kept)
    (hPoint : point.drawdownPct = drawdownFrom (max top point.equity) point.equity) :
    DrawdownOfCurve sim {
        result := buildResult sim state, trades := state.trades, equityCurve := state.equityCurve } ↔
      max (greatest (kept.map (·.drawdownPct))) (drawdownFrom (max top point.equity) point.equity) =
        max (greatest (kept.map (·.drawdownPct))) (drawdownFrom
          (max (peak sim.request.initialCapital (kept.map (·.equity))) point.equity) point.equity) := by
  have hFall (above : Decimal) : 0 ≤ drawdownFrom (max above point.equity) point.equity :=
    drawdownFrom_nonneg (le_max_right ..)
  have hReported : (buildResult sim state).maxDrawdownPct =
      max (greatest (kept.map (·.drawdownPct))) (drawdownFrom (max top point.equity) point.equity) := by
    rw [← greatest_concat (hFall top), ← hPoint]
    change greatest (state.equityCurve.map (·.drawdownPct)) = _
    rw [hCurve, map_append, map_singleton]
  have hOwn : greatest (curveDrawdowns sim state.equityCurve) =
      max (greatest (kept.map (·.drawdownPct))) (drawdownFrom
        (max (peak sim.request.initialCapital (kept.map (·.equity))) point.equity) point.equity) := by
    rw [← greatest_concat (hFall _), hKept, hCurve, curveDrawdowns, map_append,
      map_singleton, scan_concat]
    rfl
  constructor
  · intro hDrawdown
    rw [← hReported, ← hOwn]
    exact hDrawdown.deepest
  · intro hSame
    refine ⟨by rw [hReported, hOwn, hSame], ?_⟩
    have hNonneg : ∀ other ∈ state.equityCurve, 0 ≤ other.drawdownPct := by
      rw [hCurve, forall_mem_append, forall_mem_singleton]
      refine ⟨fun other hOther => ?_, hPoint ▸ hFall top⟩
      have hMember : other.drawdownPct ∈ kept.map (·.drawdownPct) := mem_map_of_mem hOther
      rw [hKept] at hMember
      exact forall_mem_scan (fun _ _ hBelow => drawdownFrom_nonneg hBelow) _ _ _ hMember
    exact fun other hOther => ⟨hNonneg other hOther, le_greatest (mem_map_of_mem hOther)⟩

theorem raised_drawdown_eq_iff (deepest keptPeak mark closing : Decimal) :
    max deepest (drawdownFrom (max (max keptPeak mark) closing) closing) =
        max deepest (drawdownFrom (max keptPeak closing) closing) ↔
      mark ≤ max keptPeak closing ∨ max deepest (drawdownFrom mark closing) =
        max deepest (drawdownFrom (max keptPeak closing) closing) := by
  rw [max_right_comm]
  by_cases hBelow : mark ≤ max keptPeak closing
  · rw [max_eq_left hBelow]
    exact iff_of_true rfl (.inl hBelow)
  · rw [max_eq_right (not_le.mp hBelow).le, or_iff_right hBelow]

/-- The end of the replay closes a held position. Its point takes the place of
the last one, and the peak it is measured against has seen the mark before. -/
theorem replayEnd_curve {looped : SimulationState} {position : BacktestPosition} {last : Candle}
    {count : Nat} (hTimes : (sim.candles.map (·.closeTime)).Nodup)
    (hLast : sim.candles.getLast? = some last) (hCandle : sim.candles[count]? = some last)
    (hLoop : loopTo rules sim strategyId symbol (count + 1) = .ok looped)
    (hPosition : looped.position = some position) :
    ∃ (before : SimulationState) (point : BacktestEquityPoint), Measured sim count before ∧
      looped.equityCurve.dropLast = before.equityCurve ∧
      (replayEnd sim looped).equityCurve = before.equityCurve ++ [point] ∧
      point.equity =
        (closePosition sim position last.closeTime last.close "replay_end" looped).cash ∧
      point.drawdownPct = drawdownFrom (max (max (peak sim.request.initialCapital
        (before.equityCurve.map (·.equity))) (equityAt last.close looped)) point.equity)
          point.equity := by
  obtain ⟨before, hBefore, hStep⟩ := loopTo_succ_eq_ok.mp hLoop
  have hIndex := (List.getElem?_eq_some_iff.mp hCandle).1
  have hMeasured : Measured sim count before := loopTo_measured hTimes hIndex.le hBefore
  have hNew := hMeasured.time_new hTimes hCandle
  rcases simulateAt_records hCandle hStep with ⟨-, hNone, -⟩ | ⟨-, marked, hSame, hPeak, hRecord⟩
  · rw [hNone] at hPosition
    cases hPosition
  obtain ⟨closed, hNone, hClosedCurve, hClosedPeak, hCash, hEnd⟩ :=
    replayEnd_of_position hPosition hLast
  have hMark : equityAt last.close looped = equityAt last.close marked := by
    rw [hRecord]
    rfl
  have hLooped : looped.equityCurve =
      before.equityCurve ++ [pointAt sim.runId last.closeTime last.close marked] := by
    rw [hRecord, recordEquity_curve, hSame, upsertPoint_of_new hNew]
  have hFinal : (replayEnd sim looped).equityCurve =
      before.equityCurve ++ [pointAt sim.runId last.closeTime last.close closed] := by
    rw [hEnd, recordEquity_curve, hClosedCurve, hLooped]
    exact upsertPoint_last hNew rfl
  have hTop : closed.peakEquity = max before.peakEquity (equityAt last.close looped) := by
    rw [hClosedPeak, hRecord, recordEquity_peak, hPeak, ← hMark, hRecord]
  refine ⟨before, _, hMeasured, by rw [hLooped, dropLast_concat], hFinal,
    (equityAt_of_none hNone _).trans hCash, ?_⟩
  rw [← hMeasured.peakEquity, ← hTop]
  rfl

theorem drawdownOfCurve_replayEnd_iff {looped : SimulationState} (hCandles : sim.candles ≠ [])
    (hTimes : (sim.candles.map (·.closeTime)).Nodup)
    (hLoop : loopTo rules sim strategyId symbol sim.candles.length = .ok looped) :
    DrawdownOfCurve sim {
        result := buildResult sim (replayEnd sim looped), trades := (replayEnd sim looped).trades,
        equityCurve := (replayEnd sim looped).equityCurve } ↔ EndKeepsDrawdown sim looped := by
  cases hPosition : looped.position with
  | none =>
    rw [replayEnd_of_none hPosition]
    refine iff_of_true (drawdownOfCurve_of_measured (loopTo_measured hTimes le_rfl hLoop).drawdowns) ?_
    intro position last hSome
    rw [hPosition] at hSome
    cases hSome
  | some position =>
    obtain ⟨count, hCount⟩ := Nat.exists_eq_succ_of_ne_zero
      (fun hEmpty => hCandles (length_eq_zero_iff.mp hEmpty))
    obtain ⟨last, hLast⟩ := isSome_iff_exists.mp (getLast?_isSome.mpr hCandles)
    have hCandle : sim.candles[count]? = some last := by
      rw [getLast?_eq_getElem?, hCount] at hLast
      exact hLast
    obtain ⟨before, point, hMeasured, hKept, hFinal, hClosing, hDrawdown⟩ :=
      replayEnd_curve hTimes hLast hCandle (hCount ▸ hLoop) hPosition
    rw [drawdownOfCurve_concat_iff hFinal hMeasured.drawdowns hDrawdown, hClosing,
      raised_drawdown_eq_iff, ← hKept]
    constructor
    · intro hKeeps other otherLast hOther hOtherLast
      obtain rfl : other = position := some.inj (hOther.symm.trans hPosition)
      obtain rfl : otherLast = last := some.inj (hOtherLast.symm.trans hLast)
      exact hKeeps
    · intro hKeeps
      exact hKeeps position last hPosition hLast

end Result

def EndsKeepingDrawdown (rules : StrategyRules) (sim : Simulation) : Prop :=
  ∀ strategyId symbol looped, StrategyId.fromStr sim.request.strategyId = .ok strategyId →
    Symbol.new sim.request.symbol = .ok symbol →
    loopTo rules sim strategyId symbol sim.candles.length = .ok looped →
    EndKeepsDrawdown sim looped

/-- A run over candles whose close times differ reports the drawdown of its
curve if the end of the replay keeps it, and then only. -/
theorem drawdown_of_curve_iff (rules : StrategyRules) (sim : Simulation)
    {execution : BacktestExecution} (hRun : simulateBacktest rules sim = .ok execution) :
    ((sim.candles.map (·.closeTime)).Nodup → EndsKeepingDrawdown rules sim →
        DrawdownOfCurve sim execution) ∧
      ((sim.candles.map (·.closeTime)).Nodup → DrawdownOfCurve sim execution →
        EndsKeepingDrawdown rules sim) := by
  by_cases hCandles : sim.candles = []
  · simp only [simulateBacktest, hCandles, if_true] at hRun
    cases hRun
    constructor
    · intro _ _
      exact ⟨rfl, by simp⟩
    · intro _ _ strategyId symbol looped _ _ hLoop position last hPosition
      rw [hCandles, length_nil] at hLoop
      cases hLoop
      cases hPosition
  · obtain ⟨strategyId, symbol, looped, hId, hSymbol, hLoop, rfl⟩ :=
      (simulateBacktest_eq_ok hCandles).mp hRun
    constructor
    · intro hTimes hKeeps
      exact (drawdownOfCurve_replayEnd_iff hCandles hTimes hLoop).mpr
        (hKeeps strategyId symbol looped hId hSymbol hLoop)
    · intro hTimes hDrawdown otherId otherSymbol other hOtherId hOtherSymbol hOther
      obtain rfl : otherId = strategyId := Except.ok.inj (hOtherId.symm.trans hId)
      obtain rfl : otherSymbol = symbol := Except.ok.inj (hOtherSymbol.symm.trans hSymbol)
      obtain rfl : other = looped := Except.ok.inj (hOther.symm.trans hLoop)
      exact (drawdownOfCurve_replayEnd_iff hCandles hTimes hLoop).mp hDrawdown

/-- The sample run ends with a position that was never worth a new peak. -/
theorem drawdown_of_curve_sample : EndsKeepingDrawdown strategyRules sampleSimulation := by
  have hDeepest : (simulateBacktest strategyRules sampleSimulation).toOption.map (fun run =>
      (run.result.maxDrawdownPct, run.equityCurve.all fun point =>
        0 ≤ point.drawdownPct ∧ point.drawdownPct ≤ run.result.maxDrawdownPct)) =
      (simulateBacktest strategyRules sampleSimulation).toOption.map (fun run =>
        (greatest (curveDrawdowns sampleSimulation run.equityCurve), true)) := by
    decide +kernel
  have hRuns : (simulateBacktest strategyRules sampleSimulation).toOption.isSome = true := by
    decide +kernel
  obtain ⟨execution, hRun⟩ := isSome_iff_exists.mp hRuns
  rw [hRun, map_some, map_some, some.injEq, Prod.mk.injEq, List.all_eq_true] at hDeepest
  rw [Fallible.toOption_eq_some] at hRun
  exact (drawdown_of_curve_iff strategyRules sampleSimulation hRun).2 (by decide)
    ⟨hDeepest.1, fun point hPoint => of_decide_eq_true (hDeepest.2 point hPoint)⟩

/-- A position entered on the last candle, whose close nearly doubles the
price, and closed by the end of the replay for a fee of one percent. -/
def closedAtPeak : Simulation :=
  { sampleSimulation with
    request := { sampleSimulation.request with
      feeBps := 100, slippageBps := 0, holdingCandles := some 5 }
    candles := [sampleCandle 0 100, sampleCandle 1 105, sampleCandle 2 110,
      { sampleCandle 3 110 with high := 200, close := 200 }] }

/-- The closing is measured against the mark it takes off the curve. -/
theorem replay_end_measures_removed_peak : ¬∀ sim execution, (sim.candles.map (·.closeTime)).Nodup →
      simulateBacktest strategyRules sim = .ok execution → DrawdownOfCurve sim execution := by
  intro hDrawdown
  have hDeeper : (simulateBacktest strategyRules closedAtPeak).toOption.map (fun run =>
      decide (greatest (curveDrawdowns closedAtPeak run.equityCurve) < run.result.maxDrawdownPct)) =
      some true := by decide +kernel
  obtain ⟨execution, hRun, hLess⟩ := map_eq_some_iff.mp hDeeper
  rw [Fallible.toOption_eq_some] at hRun
  have hSame := (hDrawdown closedAtPeak execution (by decide) hRun).deepest
  exact absurd hSame (ne_of_gt (of_decide_eq_true hLess))

end AegisQuant.Replay
