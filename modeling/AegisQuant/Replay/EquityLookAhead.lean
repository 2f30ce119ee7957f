import AegisQuant.Replay.EquityCurve
import AegisQuant.Replay.Positions

/-! The equity curve looks one candle ahead. A position is opened at the open
of the next candle and marked at the close of the current one, so that the
last of the common points of two runs may tell their next candles apart. -/
namespace AegisQuant.Replay

open Strategy List Option

/-- What the first `k` points of a run show. -/
def firstPoints (k : Nat) (execution : BacktestExecution) : List (Decimal × Decimal) :=
  (execution.equityCurve.take k).map fun point => (point.equity, point.drawdownPct)

/-- What an entry at `entry` adds to the equity at a close. -/
def entryWorth (sim : Simulation) (cash close : Decimal) (entry : Candle) : Decimal :=
  match maybeOpenPosition sim.request.config sim.strategyConfig entry cash with
  | .ok (some position) => position.quantity * close - position.feePaid - position.notional
  | _ => 0

/-- No signal acts at the last of the `k` common candles, or the entries that
the two next candles offer are worth the same at its close. -/
def EntryHidden (rules : StrategyRules) (sim : Simulation) (first second : List Candle)
    (signalId : Nat → Uuid) (k : Nat) : Prop :=
  ∀ count strategyId symbol state last firstNext secondNext, k = count + 1 →
    StrategyId.fromStr sim.request.strategyId = .ok strategyId →
    Symbol.new sim.request.symbol = .ok symbol →
    first[count]? = some last → first[k]? = some firstNext → second[k]? = some secondNext →
    loopTo rules (sim.on first signalId) strategyId symbol count = .ok state →
    ActsAt rules (sim.on first signalId) strategyId symbol count state →
    entryWorth sim (exitPhase sim last state).cash last.close firstNext =
      entryWorth sim (exitPhase sim last state).cash last.close secondNext

section Worth
variable {sim : Simulation} {entry : Candle} {marked : SimulationState} {cash : Decimal}

theorem equityAt_opened (close : Decimal) (hCash : marked.cash = cash)
    (hOpen : maybeOpenPosition sim.request.config sim.strategyConfig entry cash =
      .ok marked.position) : equityAt close marked = cash + entryWorth sim cash close entry := by
  unfold equityAt entryWorth
  rw [hOpen, hCash]
  cases marked.position with
  | none => exact (add_zero cash).symm
  | some position =>
    simp only
    ring

end Worth

section Loop
variable {rules : StrategyRules} {sim : Simulation} {strategyId : StrategyId} {symbol : Symbol}
  {count : Nat} {state : SimulationState}

theorem entryCandle?_of_entersOnNext (hEntry : EntersOnNext sim.strategyConfig) (index : Nat) :
    entryCandle? sim index = sim.candles[index + 1]? := by
  rw [entryCandle?, confirmedEntryIndex_of_entersOnNext hEntry, bind_some]

theorem not_endsEarly_of_entersOnNext (hEntry : EntersOnNext sim.strategyConfig) {index : Nat}
    (hIndex : index + 1 < sim.candles.length) :
    ¬EndsEarly rules sim strategyId symbol index state := by
  rintro ⟨-, hNone⟩
  rw [entryCandle?_of_entersOnNext hEntry, getElem?_eq_none_iff] at hNone
  omega

/-- Points recorded at later times leave those there alone. -/
theorem loopTo_keeps_curve {later : Nat} {reached : SimulationState}
    (hState : loopTo rules sim strategyId symbol count = .ok state)
    (hLater : ∀ candle ∈ sim.candles.drop count,
      candle.closeTime ∉ state.equityCurve.map (·.timestamp))
    (hLength : count + later ≤ sim.candles.length)
    (hReached : loopTo rules sim strategyId symbol (count + later) = .ok reached) :
    ∃ after, reached.equityCurve = state.equityCurve ++ after := by
  induction later generalizing reached with
  | zero =>
    rw [Nat.add_zero, hState] at hReached
    cases hReached
    exact ⟨[], (append_nil _).symm⟩
  | succ later ih =>
    obtain ⟨before, hBefore, hStep⟩ := loopTo_succ_eq_ok.mp hReached
    obtain ⟨after, hAfter⟩ := ih (by omega) hBefore
    have hIndex : count + later < sim.candles.length := by omega
    have hNew := hLater sim.candles[count + later]
      (mem_drop_iff_getElem.mpr ⟨later, by omega, rfl⟩)
    rcases simulateAt_records (getElem?_eq_getElem hIndex) hStep with
      ⟨-, -, hCurve, -⟩ | ⟨-, marked, hCurve, -, rfl⟩
    · exact ⟨after, hCurve.trans hAfter⟩
    · rw [recordEquity_curve, hCurve, hAfter]
      exact ⟨_, upsertPoint_append hNew after⟩

theorem replayEnd_keeps_curve {kept after : List BacktestEquityPoint}
    (hCurve : state.equityCurve = kept ++ after)
    (hLast : ∀ last, sim.candles.getLast? = some last → last.closeTime ∉ kept.map (·.timestamp)) :
    ∃ others, (replayEnd sim state).equityCurve = kept ++ others := by
  cases hPosition : state.position with
  | none =>
    rw [replayEnd_of_none hPosition]
    exact ⟨after, hCurve⟩
  | some position =>
    cases hCandle : sim.candles.getLast? with
    | none =>
      simp only [replayEnd, hPosition, hCandle]
      exact ⟨after, hCurve⟩
    | some last =>
      obtain ⟨closed, -, hClosed, -, -, hEnd⟩ := replayEnd_of_position hPosition hCandle
      rw [hEnd, recordEquity_curve, hClosed, hCurve]
      exact ⟨_, upsertPoint_append (hLast last hCandle) after⟩

/-- Of a run over more than `count` candles, the first `count` points are
those recorded before the iteration at `count`. -/
theorem take_equityCurve (sim : Simulation) (hEntry : EntersOnNext sim.strategyConfig)
    (hTimes : sim.candles.Pairwise (·.closeTime < ·.closeTime)) (hCount : count < sim.candles.length)
    {execution : BacktestExecution} (hRun : simulateBacktest rules sim = .ok execution) :
    ∃ strategyId symbol state, StrategyId.fromStr sim.request.strategyId = .ok strategyId ∧
      Symbol.new sim.request.symbol = .ok symbol ∧
      loopTo rules sim strategyId symbol count = .ok state ∧
      execution.equityCurve.take count = state.equityCurve := by
  have hNonempty : sim.candles ≠ [] := by
    intro hEmpty
    simp [hEmpty] at hCount
  obtain ⟨strategyId, symbol, looped, hId, hSymbol, hLoop, rfl⟩ :=
    (simulateBacktest_eq_ok hNonempty).mp hRun
  obtain ⟨later, hLength⟩ := Nat.exists_eq_add_of_lt hCount
  rw [hLength, Nat.add_assoc] at hLoop
  obtain ⟨state, hState⟩ := loopTo_of_le hLoop
  have hDistinct : (sim.candles.map (·.closeTime)).Nodup :=
    (pairwise_map.mpr hTimes).imp ne_of_lt
  have hTimestamps := loopTo_timestamps hDistinct hCount.le
    (fun index hIndex earlier _ => not_endsEarly_of_entersOnNext hEntry (by omega)) hState
  have hSplit : (sim.candles.map (·.closeTime)) = (sim.candles.take count).map (·.closeTime) ++
      (sim.candles.drop count).map (·.closeTime) := by
    rw [← map_append, take_append_drop]
  rw [hSplit, nodup_append] at hDistinct
  have hLater : ∀ candle ∈ sim.candles.drop count,
      candle.closeTime ∉ state.equityCurve.map (·.timestamp) := by
    intro candle hCandle hOld
    rw [hTimestamps] at hOld
    exact hDistinct.2.2 _ hOld _ (mem_map_of_mem hCandle) rfl
  obtain ⟨after, hAfter⟩ := loopTo_keeps_curve hState hLater (by omega) hLoop
  have hLast : ∀ last, sim.candles.getLast? = some last →
      last.closeTime ∉ state.equityCurve.map (·.timestamp) := by
    intro last hLast
    apply hLater last
    have hDropped : (sim.candles.drop count).getLast? = some last := by
      rw [getLast?_drop, if_neg (not_le.mpr hCount), hLast]
    exact mem_of_getLast? hDropped
  obtain ⟨others, hEnd⟩ := replayEnd_keeps_curve hAfter hLast
  refine ⟨strategyId, symbol, state, hId, hSymbol, hState, ?_⟩
  have hPoints : state.equityCurve.length = count := by
    have hSame := congrArg length hTimestamps
    rw [length_map, length_map, length_take] at hSame
    omega
  simp only [hEnd]
  rw [← hPoints, take_left']
  rfl

theorem simulateAt_point (sim : Simulation) {next : SimulationState} {last entry : Candle}
    (hEntry : EntersOnNext sim.strategyConfig) (hLast : sim.candles[count]? = some last)
    (hNext : sim.candles[count + 1]? = some entry)
    (hNew : last.closeTime ∉ state.equityCurve.map (·.timestamp))
    (hStep : simulateAt rules sim strategyId symbol state count = .ok next) :
    ∃ point equity, next.equityCurve = state.equityCurve ++ [point] ∧ point.equity = equity ∧
      point.drawdownPct = drawdownFrom (max state.peakEquity equity) equity ∧
      (ActsAt rules sim strategyId symbol count state → equity = (exitPhase sim last state).cash +
          entryWorth sim (exitPhase sim last state).cash last.close entry) ∧
      (¬ActsAt rules sim strategyId symbol count state →
        equity = equityAt last.close (exitPhase sim last state)) := by
  have hCandle := entryCandle?_of_entersOnNext hEntry count
  rw [hNext] at hCandle
  rcases simulateAt_marks hLast hStep with ⟨hEnds, -⟩ | ⟨marked, hCurve, hPeak, hCash, rfl, hMarked⟩
  · rw [hEnds.2] at hCandle
    cases hCandle
  · refine ⟨pointAt sim.runId last.closeTime last.close marked, equityAt last.close marked, ?_, rfl,
      ?_, ?_, ?_⟩
    · rw [recordEquity_curve, hCurve, upsertPoint_of_new hNew]
    · rw [← hPeak]
      rfl
    · intro hActs
      rcases hMarked with ⟨hIdle, -⟩ | ⟨-, found, hFound, hOpen⟩
      · exact absurd hActs hIdle
      · rw [hCandle] at hFound
        cases hFound
        exact equityAt_opened last.close hCash hOpen
    · intro hIdle
      rcases hMarked with ⟨-, hPosition⟩ | ⟨hActs, -⟩
      · unfold equityAt
        rw [hPosition, hCash]
      · exact absurd hActs hIdle

end Loop

section Runs
variable {rules : StrategyRules} {sim : Simulation} {strategyId : StrategyId} {symbol : Symbol}
  {first second : List Candle} {count : Nat} {state : SimulationState}

theorem actsAt_congr (firstIds secondIds : Nat → Uuid)
    (hAgree : first.take (count + 1) = second.take (count + 1)) :
    ActsAt rules (sim.on first firstIds) strategyId symbol count state ↔
      ActsAt rules (sim.on second secondIds) strategyId symbol count state := by
  have hSignals : SignalsBuyAt rules (sim.on first firstIds) strategyId symbol count ↔
      SignalsBuyAt rules (sim.on second secondIds) strategyId symbol count := by
    simp only [signalsBuyAt_iff_side, Simulation.on, hAgree,
      getElem?_of_agree hAgree (Nat.lt_succ_self count)]
    apply exists_congr
    intro candle
    rw [evaluate_side (firstIds count) (secondIds count)]
  have hCandle : (sim.on first firstIds).candles[count]? = (sim.on second secondIds).candles[count]? :=
    getElem?_of_agree hAgree (Nat.lt_succ_self count)
  rw [ActsAt, ActsAt, hSignals, hCandle]
  rfl

/-- The points before the last common one are those of both runs; the last
one is if the next candles hide, and then only. -/
theorem loopTo_points_eq_iff (hEntry : EntersOnNext sim.strategyConfig) (firstIds secondIds : Nat → Uuid)
    (hAgree : first.take (count + 1) = second.take (count + 1))
    {last firstNext secondNext : Candle} (hLast : first[count]? = some last)
    (hFirstNext : first[count + 1]? = some firstNext) (hSecondNext : second[count + 1]? = some secondNext)
    (hState : loopTo rules (sim.on first firstIds) strategyId symbol count = .ok state)
    (hNew : last.closeTime ∉ state.equityCurve.map (·.timestamp)) {firstState secondState : SimulationState}
    (hFirst : loopTo rules (sim.on first firstIds) strategyId symbol (count + 1) = .ok firstState)
    (hSecond : loopTo rules (sim.on second secondIds) strategyId symbol (count + 1) = .ok secondState) :
    firstState.equityCurve.map (fun point => (point.equity, point.drawdownPct)) =
        secondState.equityCurve.map (fun point => (point.equity, point.drawdownPct)) ↔
      (ActsAt rules (sim.on first firstIds) strategyId symbol count state →
        entryWorth sim (exitPhase sim last state).cash last.close firstNext =
          entryWorth sim (exitPhase sim last state).cash last.close secondNext) := by
  obtain ⟨before, hBefore, hFirstStep⟩ := loopTo_succ_eq_ok.mp hFirst
  obtain rfl : before = state := Except.ok.inj (hBefore.symm.trans hState)
  obtain ⟨other, hOther, hSecondStep⟩ := loopTo_succ_eq_ok.mp hSecond
  rw [loopTo_congr hEntry secondIds firstIds hAgree.symm, hState] at hOther
  obtain rfl : before = other := Except.ok.inj hOther
  have hSecondLast : second[count]? = some last := by
    rw [← getElem?_of_agree hAgree (Nat.lt_succ_self count)]
    exact hLast
  obtain ⟨firstPoint, firstEquity, hFirstCurve, hFirstEquity, hFirstFall, hFirstActs, hFirstIdle⟩ :=
    simulateAt_point (sim.on first firstIds) hEntry hLast hFirstNext hNew hFirstStep
  obtain ⟨secondPoint, secondEquity, hSecondCurve, hSecondEquity, hSecondFall, hSecondActs,
    hSecondIdle⟩ :=
    simulateAt_point (sim.on second secondIds) hEntry hSecondLast hSecondNext hNew hSecondStep
  rw [← actsAt_congr firstIds secondIds hAgree] at hSecondActs hSecondIdle
  have hPoints : firstState.equityCurve.map (fun point => (point.equity, point.drawdownPct)) =
      secondState.equityCurve.map (fun point => (point.equity, point.drawdownPct)) ↔
        firstEquity = secondEquity := by
    rw [hFirstCurve, hSecondCurve, map_append, map_append, append_cancel_left_eq,
      map_singleton, map_singleton, cons_eq_cons, Prod.mk.injEq, hFirstEquity,
      hSecondEquity, hFirstFall, hSecondFall]
    constructor
    · rintro ⟨⟨hEquity, -⟩, -⟩
      exact hEquity
    · rintro rfl
      exact ⟨⟨rfl, rfl⟩, rfl⟩
  rw [hPoints]
  by_cases hActs : ActsAt rules (sim.on first firstIds) strategyId symbol count before
  · rw [hFirstActs hActs, hSecondActs hActs]
    constructor
    · intro hSame _
      exact add_left_cancel hSame
    · intro hSame
      exact congrArg (_ + ·) (hSame hActs)
  · rw [hFirstIdle hActs, hSecondIdle hActs]
    exact iff_of_true rfl (fun hOther => absurd hOther hActs)

/-- The iterations over common candles have recorded what they show of them. -/
theorem closeTime_not_recorded (sim : Simulation) (hEntry : EntersOnNext sim.strategyConfig)
    {last : Candle}
    (hTimes : sim.candles.Pairwise (·.closeTime < ·.closeTime)) (hLast : sim.candles[count]? = some last)
    (hState : loopTo rules sim strategyId symbol count = .ok state) :
    last.closeTime ∉ state.equityCurve.map (·.timestamp) := by
  obtain ⟨hCount, -⟩ := List.getElem?_eq_some_iff.mp hLast
  have hDistinct : (sim.candles.map (·.closeTime)).Nodup :=
    (pairwise_map.mpr hTimes).imp ne_of_lt
  rw [loopTo_timestamps hDistinct hCount.le (fun index hIndex earlier _ =>
    not_endsEarly_of_entersOnNext hEntry (by omega)) hState]
  exact closeTime_not_mem hDistinct hLast

end Runs

/-- Two runs with the entry on the next candle, over candles of which the
first `k` are common, show the same first `k` points if the candles behind
these stay hidden from the last point, and then only. -/
theorem first_points_agree_iff (rules : StrategyRules) (sim : Simulation)
    (hEntry : EntersOnNext sim.strategyConfig) {first second : List Candle}
    (firstIds secondIds : Nat → Uuid) {k : Nat} (hAgree : first.take k = second.take k)
    (hFirstLonger : k < first.length) (hSecondLonger : k < second.length)
    (hFirstTimes : first.Pairwise (·.closeTime < ·.closeTime))
    (hSecondTimes : second.Pairwise (·.closeTime < ·.closeTime))
    {firstRun secondRun : BacktestExecution}
    (hFirstRun : simulateBacktest rules (sim.on first firstIds) = .ok firstRun)
    (hSecondRun : simulateBacktest rules (sim.on second secondIds) = .ok secondRun) :
    firstPoints k firstRun = firstPoints k secondRun ↔
      EntryHidden rules sim first second firstIds k := by
  obtain ⟨strategyId, symbol, firstState, hId, hSymbol, hFirstState, hFirstCurve⟩ :=
    take_equityCurve (sim.on first firstIds) hEntry hFirstTimes hFirstLonger hFirstRun
  obtain ⟨otherId, otherSymbol, secondState, hOtherId, hOtherSymbol, hSecondState, hSecondCurve⟩ :=
    take_equityCurve (sim.on second secondIds) hEntry hSecondTimes hSecondLonger hSecondRun
  obtain rfl : otherId = strategyId := Except.ok.inj (hOtherId.symm.trans hId)
  obtain rfl : otherSymbol = symbol := Except.ok.inj (hOtherSymbol.symm.trans hSymbol)
  rw [firstPoints, firstPoints, hFirstCurve, hSecondCurve]
  cases k with
  | zero =>
    cases hFirstState
    cases hSecondState
    refine iff_of_true rfl ?_
    intro count _ _ _ _ _ _ hZero
    cases hZero
  | succ count =>
    obtain ⟨state, hState, -⟩ := loopTo_succ_eq_ok.mp hFirstState
    have hLast := getElem?_eq_getElem (show count < first.length by omega)
    have hFirstNext := getElem?_eq_getElem hFirstLonger
    have hSecondNext := getElem?_eq_getElem hSecondLonger
    rw [loopTo_points_eq_iff hEntry firstIds secondIds hAgree hLast hFirstNext hSecondNext hState
      (closeTime_not_recorded (sim.on first firstIds) hEntry hFirstTimes hLast hState) hFirstState hSecondState]
    constructor
    · intro hHidden otherCount id name other last next otherNext hSame hIdOk hNameOk hOtherLast
        hOtherNext hOtherSecondNext hOther hActs
      obtain rfl : otherCount = count := (Nat.succ.inj hSame).symm
      obtain rfl : id = otherId := Except.ok.inj (hIdOk.symm.trans hId)
      obtain rfl : name = otherSymbol := Except.ok.inj (hNameOk.symm.trans hSymbol)
      obtain rfl : other = state := Except.ok.inj (hOther.symm.trans hState)
      rw [hLast] at hOtherLast
      rw [hFirstNext] at hOtherNext
      rw [hSecondNext] at hOtherSecondNext
      cases hOtherLast
      cases hOtherNext
      cases hOtherSecondNext
      exact hHidden hActs
    · intro hHidden hActs
      exact hHidden count otherId otherSymbol state _ _ _ rfl hId hSymbol hLast hFirstNext
        hSecondNext hState hActs

/-- Nothing acts at the fifth candle of the sample, so that another sixth
candle does not show before it. -/
theorem first_points_agree_sample :
    EntryHidden strategyRules sampleSimulation sampleSimulation.candles fallingCandles
      sampleSimulation.signalId 5 := by
  have hPoints : (simulateBacktest strategyRules (sampleSimulation.on sampleSimulation.candles
      sampleSimulation.signalId)).toOption.map (firstPoints 5) =
      (simulateBacktest strategyRules (sampleSimulation.on fallingCandles
        sampleSimulation.signalId)).toOption.map (firstPoints 5) := by decide +kernel
  have hRuns : (simulateBacktest strategyRules (sampleSimulation.on sampleSimulation.candles
      sampleSimulation.signalId)).toOption.isSome = true := by decide +kernel
  obtain ⟨firstRun, hFirstRun⟩ := isSome_iff_exists.mp hRuns
  rw [hFirstRun, map_some, eq_comm, map_eq_some_iff] at hPoints
  obtain ⟨secondRun, hSecondRun, hSame⟩ := hPoints
  rw [Fallible.toOption_eq_some] at hFirstRun hSecondRun
  have hAgree : sampleSimulation.candles.take 5 = fallingCandles.take 5 := rfl
  exact (first_points_agree_iff strategyRules sampleSimulation (.inl (by decide))
    sampleSimulation.signalId sampleSimulation.signalId hAgree (by decide) (by decide) (by decide)
    (by decide) hFirstRun hSecondRun).mp hSame.symm

/-- The first three candles of the sample, which end with a signal, and a
fourth one that opens at `price`. -/
def openingAt (price : Decimal) : List Candle :=
  sampleSimulation.candles.take 3 ++ [sampleCandle 3 price]

/-- The open of the fourth candle shows in the third point. -/
theorem third_point_shows_fourth_open :
    ¬∀ (sim : Simulation) (first second : List Candle) firstIds secondIds k firstRun secondRun,
      EntersOnNext sim.strategyConfig → first.take k = second.take k → k < first.length →
      k < second.length → first.Pairwise (·.openTime < ·.openTime) →
      second.Pairwise (·.openTime < ·.openTime) → first.Pairwise (·.closeTime < ·.closeTime) →
      second.Pairwise (·.closeTime < ·.closeTime) →
      simulateBacktest strategyRules (sim.on first firstIds) = .ok firstRun →
      simulateBacktest strategyRules (sim.on second secondIds) = .ok secondRun →
      firstPoints k firstRun = firstPoints k secondRun := by
  intro hAgree
  have hRuns : (simulateBacktest strategyRules (sampleSimulation.on (openingAt 111)
      sampleSimulation.signalId)).toOption.isSome = true ∧
      (simulateBacktest strategyRules (sampleSimulation.on (openingAt 120)
        sampleSimulation.signalId)).toOption.isSome = true := by decide +kernel
  obtain ⟨firstRun, hFirstRun⟩ := isSome_iff_exists.mp hRuns.1
  obtain ⟨secondRun, hSecondRun⟩ := isSome_iff_exists.mp hRuns.2
  have hShows : (simulateBacktest strategyRules (sampleSimulation.on (openingAt 111)
      sampleSimulation.signalId)).toOption.map (firstPoints 3) ≠
      (simulateBacktest strategyRules (sampleSimulation.on (openingAt 120)
        sampleSimulation.signalId)).toOption.map (firstPoints 3) := by decide +kernel
  rw [hFirstRun, hSecondRun] at hShows
  rw [Fallible.toOption_eq_some] at hFirstRun hSecondRun
  have hCommon : (openingAt 111).take 3 = (openingAt 120).take 3 := rfl
  exact hShows (congrArg some (hAgree sampleSimulation (openingAt 111) (openingAt 120) _ _ 3
    firstRun secondRun (.inl (by decide)) hCommon (by decide) (by decide) (by decide) (by decide)
    (by decide) (by decide) hFirstRun hSecondRun))

end AegisQuant.Replay
