import AegisQuant.Replay.NoLookAhead

/-! What becomes of a signal. It is suppressed for a reason or enters at a
candle, and where a signal that could enter finds no candle to enter at, its
iteration ends before equity is recorded. -/
namespace AegisQuant.Replay
open Fallible Option

inductive SignalFate where
  | suppressed (reason : ReplaySuppressionReason)
  | entering (entryIndex : Nat) (entry : Candle)

/-- The chain of checks a signal passes, given the index its entry is
confirmed at, and whether a cooldown or a position is in its way. -/
def signalFate (candles : List Candle) (confirmed : Option Nat) (side : SignalSide)
    (cooling occupied : Bool) : SignalFate :=
  if side ≠ .buy then .suppressed .invalidSignal
  else if cooling then .suppressed .cooldownActive
  else if occupied then .suppressed .positionAlreadyOpen
  else
    match confirmed with
    | none => .suppressed .invalidSignal
    | some entryIndex =>
      match candles[entryIndex]? with
      | none => .suppressed .insufficientForwardData
      | some entry => .entering entryIndex entry

/-- The candle a signal at `index` would enter at. -/
def entryCandle? (sim : Simulation) (index : Nat) : Option Candle :=
  (confirmedEntryIndex sim.strategyConfig sim.candles index).bind fun entryIndex =>
    sim.candles[entryIndex]?

/-- A signal to buy at `index` meets neither a cooldown nor a position. -/
def ActsAt (rules : StrategyRules) (sim : Simulation) (strategyId : StrategyId) (symbol : Symbol)
    (index : Nat) (state : SimulationState) : Prop :=
  SignalsBuyAt rules sim strategyId symbol index ∧ ∃ candle, sim.candles[index]? = some candle ∧
    cooldownActive state.lastExecutedEntryTime candle.closeTime
      sim.strategyConfig.cooldownSeconds = false ∧
    (exitPhase sim candle state).position = none

/-- It acts, and there is no candle to enter at. -/
def EndsEarly (rules : StrategyRules) (sim : Simulation) (strategyId : StrategyId) (symbol : Symbol)
    (index : Nat) (state : SimulationState) : Prop :=
  ActsAt rules sim strategyId symbol index state ∧ entryCandle? sim index = none

section Phases
variable {sim : Simulation} {candle : Candle} {state next : SimulationState} {index : Nat}
  {signal : StrategySignal}

def countSignal (candle : Candle) (state : SimulationState) : SimulationState :=
  { state with
    rawSignalCount := state.rawSignalCount + 1
    lastSignalTime := some candle.closeTime }

/-- What an opening makes of the state, or an entry that cannot be paid. -/
def enter (state : SimulationState) : Option BacktestPosition → SimulationState
  | some position => recordSuppression
      { state with
        position := some position
        lastExecutedEntryTime := some position.entryTime } .none
  | none => recordSuppression { state with position := none } .invalidSignal

theorem signalPhase_eq (sim : Simulation) (index : Nat) (candle : Candle) (signal : StrategySignal)
    (state : SimulationState) :
    signalPhase sim index candle signal state =
      (let cooling := cooldownActive state.lastExecutedEntryTime candle.closeTime
        sim.strategyConfig.cooldownSeconds
      match signalFate sim.candles (confirmedEntryIndex sim.strategyConfig sim.candles index)
          signal.side cooling state.position.isSome with
      | .suppressed reason =>
        .ok (signal.side = .buy && !cooling && !state.position.isSome,
          recordSuppression (countSignal candle state) reason)
      | .entering _ entry => do
          let opened ← maybeOpenPosition sim.request.config sim.strategyConfig entry state.cash
          return (false, enter (countSignal candle state) opened)) := by
  simp only [signalPhase, signalFate]
  by_cases hSide : signal.side = .buy
  · simp only [hSide, ne_eq, not_true_eq_false, if_false, decide_true, Bool.true_and]
    cases cooldownActive state.lastExecutedEntryTime candle.closeTime
        sim.strategyConfig.cooldownSeconds with
    | true => rfl
    | false =>
      simp only [Bool.false_eq_true, if_false, Bool.not_false, Bool.true_and]
      cases state.position.isSome with
      | true => rfl
      | false =>
        simp only [Bool.false_eq_true, if_false, Bool.not_false]
        cases confirmedEntryIndex sim.strategyConfig sim.candles index with
        | none => rfl
        | some entryIndex =>
          simp only
          cases sim.candles[entryIndex]? with
          | none => rfl
          | some entry =>
            simp only
            cases maybeOpenPosition sim.request.config sim.strategyConfig entry
                state.cash with
            | error fault => rfl
            | ok opened =>
              cases opened with
              | none => rfl
              | some position => rfl
  · simp only [hSide, ne_eq, not_false_eq_true, if_true, decide_false, Bool.false_and]
    rfl

theorem signalFate_eq_entering {candles : List Candle} {confirmed : Option Nat} {side : SignalSide}
    {cooling occupied : Bool} {entryIndex : Nat} {entry : Candle} :
    signalFate candles confirmed side cooling occupied = .entering entryIndex entry ↔
      side = .buy ∧ cooling = false ∧ occupied = false ∧ confirmed = some entryIndex ∧
        candles[entryIndex]? = some entry := by
  unfold signalFate
  cases side with
  | sell => simp
  | buy =>
    cases cooling with
    | true => simp
    | false =>
      cases occupied with
      | true => simp
      | false =>
        simp only [ne_eq, not_true_eq_false, if_false, Bool.false_eq_true, true_and]
        cases confirmed with
        | none => simp
        | some index =>
          simp only [some.injEq]
          cases hEntry : candles[index]? with
          | none =>
            refine iff_of_false SignalFate.noConfusion ?_
            rintro ⟨rfl, hFound⟩
            rw [hEntry] at hFound
            cases hFound
          | some found =>
            simp only [SignalFate.entering.injEq]
            refine and_congr_right ?_
            rintro rfl
            rw [hEntry, some.injEq]

section
variable {early : Bool} (hPhase : signalPhase sim index candle signal state = .ok (early, next))
include hPhase

theorem signalPhase_outcome :
    (∃ reason, next = recordSuppression (countSignal candle state) reason ∧
      (early = true ↔ signal.side = .buy ∧ cooldownActive state.lastExecutedEntryTime
        candle.closeTime sim.strategyConfig.cooldownSeconds = false ∧ state.position = none) ∧
      ∀ entryIndex entry, signalFate sim.candles
        (confirmedEntryIndex sim.strategyConfig sim.candles index) signal.side
        (cooldownActive state.lastExecutedEntryTime candle.closeTime
          sim.strategyConfig.cooldownSeconds) state.position.isSome ≠ .entering entryIndex entry) ∨
    ∃ entry opened, early = false ∧ entryCandle? sim index = some entry ∧ state.position = none ∧
      signal.side = .buy ∧ cooldownActive state.lastExecutedEntryTime candle.closeTime
        sim.strategyConfig.cooldownSeconds = false ∧
      maybeOpenPosition sim.request.config sim.strategyConfig entry state.cash = .ok opened ∧
      next = enter (countSignal candle state) opened := by
  rw [signalPhase_eq] at hPhase
  simp only at hPhase
  split at hPhase
  · rename_i reason hFate
    simp only [Except.ok.injEq, Prod.mk.injEq] at hPhase
    obtain ⟨hEarly, rfl⟩ := hPhase
    refine .inl ⟨reason, rfl, ?_, ?_⟩
    · rw [← hEarly]
      simp [and_assoc]
    · intro entryIndex entry hEntering
      rw [hFate] at hEntering
      cases hEntering
  · rename_i entryIndex entry hFate
    obtain ⟨hSide, hCooling, hOccupied, hConfirmed, hCandle⟩ := signalFate_eq_entering.mp hFate
    have hEntry : entryCandle? sim index = some entry := by
      rw [entryCandle?, hConfirmed, bind_some, hCandle]
    obtain ⟨opened, hOpened, hPhase⟩ := bind_eq_ok.mp hPhase
    simp only [pure_eq_ok, Prod.mk.injEq] at hPhase
    exact .inr ⟨entry, opened, hPhase.1.symm, hEntry, by simpa using hOccupied, hSide, hCooling,
      hOpened, hPhase.2.symm⟩

theorem signalPhase_early_iff :
    early = true ↔ signal.side = .buy ∧ cooldownActive state.lastExecutedEntryTime
      candle.closeTime sim.strategyConfig.cooldownSeconds = false ∧ state.position = none ∧
      entryCandle? sim index = none := by
  rcases signalPhase_outcome hPhase with ⟨reason, -, hEarly, hSuppressed⟩ |
    ⟨entry, opened, hEarly, hEntry, -⟩
  · rw [hEarly]
    constructor
    · rintro ⟨hSide, hCooling, hPosition⟩
      refine ⟨hSide, hCooling, hPosition, eq_none_iff_forall_not_mem.mpr ?_⟩
      intro entry hEntry
      obtain ⟨entryIndex, hConfirmed, hFound⟩ := bind_eq_some_iff.mp hEntry
      exact hSuppressed entryIndex entry (signalFate_eq_entering.mpr
        ⟨hSide, hCooling, by rw [hPosition, isSome_none], hConfirmed, hFound⟩)
    · rintro ⟨hSide, hCooling, hPosition, -⟩
      exact ⟨hSide, hCooling, hPosition⟩
  · simp [hEarly, hEntry]

end

theorem exitPhase_recorded (sim : Simulation) (candle : Candle) (state : SimulationState) :
    (exitPhase sim candle state).equityCurve = state.equityCurve ∧
      (exitPhase sim candle state).peakEquity = state.peakEquity ∧
      (exitPhase sim candle state).lastExecutedEntryTime = state.lastExecutedEntryTime := by
  apply exitPhase_rule (P := fun next => next.equityCurve = state.equityCurve ∧
    next.peakEquity = state.peakEquity ∧
    next.lastExecutedEntryTime = state.lastExecutedEntryTime) sim candle state
  · exact fun _ => ⟨rfl, rfl, rfl⟩
  · exact fun _ _ _ _ _ => ⟨rfl, rfl, rfl⟩
  · exact fun _ _ => ⟨rfl, rfl, rfl⟩

theorem signalPhase_recorded {early : Bool}
    (hPhase : signalPhase sim index candle signal state = .ok (early, next)) :
    next.equityCurve = state.equityCurve ∧ next.peakEquity = state.peakEquity := by
  rcases signalPhase_outcome hPhase with ⟨reason, rfl, -⟩ | ⟨entry, opened, -, -, -, -, -, -, rfl⟩
  · exact ⟨rfl, rfl⟩
  · cases opened with
    | none => exact ⟨rfl, rfl⟩
    | some position => exact ⟨rfl, rfl⟩

end Phases

section Loop
variable {rules : StrategyRules} {sim : Simulation} {strategyId : StrategyId} {symbol : Symbol}

theorem signalsBuyAt_iff {index : Nat} {candle : Candle} {evaluation : StrategyEvaluationResult}
    (hCandle : sim.candles[index]? = some candle)
    (hEvaluation : evaluate rules (sim.signalId index) {
      correlationId := sim.correlationId
      strategyId := strategyId
      symbol := symbol
      config := sim.strategyConfig
      candles := sim.candles.take (index + 1)
      evaluatedAt := candle.closeTime } = .ok evaluation) :
    SignalsBuyAt rules sim strategyId symbol index ↔
      ∃ signal, evaluation.signal = some signal ∧ signal.side = .buy := by
  constructor
  · rintro ⟨other, result, signal, hOther, hResult, hSignal⟩
    rw [hCandle] at hOther
    cases hOther
    rw [hEvaluation] at hResult
    cases hResult
    exact ⟨signal, hSignal⟩
  · rintro ⟨signal, hSignal⟩
    exact ⟨candle, evaluation, signal, hCandle, hEvaluation, hSignal⟩

theorem signalsBuyAt_iff_side {index : Nat} : SignalsBuyAt rules sim strategyId symbol index ↔
    ∃ candle, sim.candles[index]? = some candle ∧ (evaluate rules (sim.signalId index) {
        correlationId := sim.correlationId
        strategyId := strategyId
        symbol := symbol
        config := sim.strategyConfig
        candles := sim.candles.take (index + 1)
        evaluatedAt := candle.closeTime }).map (·.signal.map (·.side)) = .ok (some .buy) := by
  simp only [SignalsBuyAt, map_eq_ok, map_eq_some_iff]
  constructor
  · rintro ⟨candle, evaluation, signal, hCandle, hEvaluation, hSignal, hSide⟩
    exact ⟨candle, hCandle, evaluation, hEvaluation, signal, hSignal, hSide⟩
  · rintro ⟨candle, hCandle, evaluation, hEvaluation, signal, hSignal, hSide⟩
    exact ⟨candle, evaluation, signal, hCandle, hEvaluation, hSignal, hSide⟩

section
variable {state next : SimulationState} {index : Nat} {candle : Candle}
  (hCandle : sim.candles[index]? = some candle)
  (hStep : simulateAt rules sim strategyId symbol state index = .ok next)
include hCandle hStep

/-- An iteration ends early, or it marks at the close what the exit phase left
or, where a signal acts, what was opened. -/
theorem simulateAt_marks :
    EndsEarly rules sim strategyId symbol index state ∧ next.position = none ∧
        next.equityCurve = state.equityCurve ∧ next.peakEquity = state.peakEquity ∨
      ∃ marked : SimulationState,
        marked.equityCurve = state.equityCurve ∧ marked.peakEquity = state.peakEquity ∧
        marked.cash = (exitPhase sim candle state).cash ∧
        next = recordEquity sim.runId candle.closeTime candle.close marked ∧
        (¬ActsAt rules sim strategyId symbol index state ∧
            marked.position = (exitPhase sim candle state).position ∨
          ActsAt rules sim strategyId symbol index state ∧ ∃ entry,
            entryCandle? sim index = some entry ∧
            maybeOpenPosition sim.request.config sim.strategyConfig entry
              (exitPhase sim candle state).cash = .ok marked.position) := by
  obtain ⟨hCurve, hPeak, hLast⟩ := exitPhase_recorded sim candle state
  rw [simulateAt_of_getElem? sim hCandle, bind_eq_ok] at hStep
  obtain ⟨evaluation, hEvaluation, hStep⟩ := hStep
  have hActs : ActsAt rules sim strategyId symbol index state ↔
      ∃ signal, evaluation.signal = some signal ∧ signal.side = .buy ∧
        cooldownActive (exitPhase sim candle state).lastExecutedEntryTime candle.closeTime
          sim.strategyConfig.cooldownSeconds = false ∧
        (exitPhase sim candle state).position = none := by
    simp only [ActsAt, signalsBuyAt_iff hCandle hEvaluation, hCandle, some.injEq,
      exists_eq_left', hLast]
    simp only [← and_assoc, exists_and_right]
  simp only at hStep
  cases hSignal : evaluation.signal with
  | none =>
    rw [hSignal] at hStep
    cases hStep
    refine .inr ⟨exitPhase sim candle state, hCurve, hPeak, rfl, rfl, .inl ⟨?_, rfl⟩⟩
    rw [hActs, hSignal]
    simp
  | some signal =>
    rw [hSignal] at hStep
    simp only [hSignal, some.injEq, exists_eq_left'] at hActs
    obtain ⟨⟨early, signalled⟩, hPhase, hStep⟩ := bind_eq_ok.mp hStep
    obtain ⟨hSignalled, hSignalledPeak⟩ := signalPhase_recorded hPhase
    rcases signalPhase_outcome hPhase with ⟨reason, rfl, hEarly, -⟩ |
      ⟨entry, opened, rfl, hEntry, hNone, hSide, hCooling, hOpened, rfl⟩
    · cases early with
      | true =>
        cases hStep
        have hActing := hEarly.mp rfl
        obtain ⟨-, -, -, hNoEntry⟩ := (signalPhase_early_iff hPhase).mp rfl
        exact .inl ⟨⟨hActs.mpr hActing, hNoEntry⟩, hActing.2.2, hSignalled.trans hCurve,
          hSignalledPeak.trans hPeak⟩
      | false =>
        cases hStep
        refine .inr ⟨_, hSignalled.trans hCurve, hSignalledPeak.trans hPeak, rfl, rfl,
          .inl ⟨fun hActing => ?_, rfl⟩⟩
        exact Bool.false_ne_true (hEarly.mpr (hActs.mp hActing))
    · cases hStep
      refine .inr ⟨_, hSignalled.trans hCurve, hSignalledPeak.trans hPeak, ?_, rfl,
        .inr ⟨hActs.mpr ⟨hSide, hCooling, hNone⟩, entry, hEntry, ?_⟩⟩
      · cases opened with
        | none => rfl
        | some position => rfl
      · cases opened with
        | none => exact hOpened
        | some position => exact hOpened

theorem simulateAt_records :
    EndsEarly rules sim strategyId symbol index state ∧ next.position = none ∧
        next.equityCurve = state.equityCurve ∧ next.peakEquity = state.peakEquity ∨
      ¬EndsEarly rules sim strategyId symbol index state ∧ ∃ marked : SimulationState,
        marked.equityCurve = state.equityCurve ∧ marked.peakEquity = state.peakEquity ∧
        next = recordEquity sim.runId candle.closeTime candle.close marked := by
  rcases simulateAt_marks hCandle hStep with hEarly |
    ⟨marked, hCurve, hPeak, -, hNext, ⟨hIdle, -⟩ | ⟨-, entry, hEntry, -⟩⟩
  · exact .inl hEarly
  · exact .inr ⟨fun hEnds => hIdle hEnds.1, marked, hCurve, hPeak, hNext⟩
  · refine .inr ⟨fun hEnds => ?_, marked, hCurve, hPeak, hNext⟩
    rw [hEnds.2] at hEntry
    cases hEntry

end

end Loop

end AegisQuant.Replay
