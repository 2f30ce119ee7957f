import AegisQuant.Replay.AttributionAgrees
import AegisQuant.Replay.FeatureAttribution

/-! What feature attribution counts. A signal that is executed and then finds
no exit candle is counted under two reasons, and the entry is taken on the next
candle also where the backtest waits for a confirmation. -/
namespace AegisQuant.Replay

open Strategy Fallible List Option

/-- A signal at `index` is executed on `entry`. -/
def ExecutesAt (rules : StrategyRules) (scan : SignalScan) (index : Nat) (state : ScanState)
    (entryIndex : Nat) (entry : Candle) : Prop :=
  ∃ candle evaluation signal, scan.candles[index]? = some candle ∧
    evaluate rules (scan.signalId index) {
      correlationId := scan.correlationId
      strategyId := scan.strategyId
      symbol := scan.symbol
      config := scan.strategyConfig
      candles := scan.candles.take (index + 1)
      evaluatedAt := candle.closeTime } = .ok evaluation ∧
    evaluation.signal = some signal ∧ signal.side = .buy ∧
    cooldownActive state.lastExecutedEntryTime candle.closeTime
      scan.strategyConfig.cooldownSeconds = false ∧
    (state.release index).openUntilSignalIndex = none ∧
    scan.entryIndex index = some entryIndex ∧ scan.candles[entryIndex]? = some entry

/-- A signal at `index` is executed, and there is no candle to exit at. -/
def LacksExit (rules : StrategyRules) (scan : SignalScan)
    (request : StrategySignalFeatureAttributionRequest) (index : Nat) (state : ScanState) : Prop :=
  ∃ entryIndex entry, ExecutesAt rules scan index state entryIndex entry ∧
    scan.candles[entryIndex + request.normalizedHoldingWindow]? = none

/-- How often a signal has been counted under a second reason. -/
def countedAgain (state : ScanState) : Int :=
  totalCount (suppressionBreakdown state.suppressionCounts) - state.rawSignalCount

section Scan
variable {rules : StrategyRules} {scan : SignalScan} {index : Nat} {candle : Candle}
  {state next : ScanState}

theorem suppress_executed {reason : ReplaySuppressionReason} (hReason : reason ≠ .none)
    (state : ScanState) :
    (state.suppress reason).suppressionCounts .none = state.suppressionCounts .none :=
  Function.update_of_ne hReason.symm _ _

theorem countedAgain_suppress (state : ScanState) (reason : ReplaySuppressionReason) :
    countedAgain (state.suppress reason) = countedAgain state + 1 := by
  simp only [countedAgain, ScanState.suppress, totalCount_update]
  omega

theorem scanSignal_counts (scan : SignalScan) (index : Nat) (candle : Candle)
    (signal : StrategySignal)
    (hExecutable : state.executableSignalCount = state.suppressionCounts .none) :
    countedAgain (scanSignal scan index candle signal state).1 = countedAgain state ∧
      (scanSignal scan index candle signal state).1.executableSignalCount =
        (scanSignal scan index candle signal state).1.suppressionCounts .none := by
  simp only [scanSignal]
  split
  · rename_i reason hFate
    have hReason := reason_ne_none_of_suppressed hFate
    constructor
    · simp only [countedAgain, ScanState.suppress, totalCount_update]
      omega
    · exact hExecutable.trans (suppress_executed hReason _).symm
  · constructor
    · simp only [countedAgain, ScanState.suppress, totalCount_update]
      omega
    · simp only [ScanState.suppress, Function.update_self, hExecutable]

variable {executed : Option (Nat × Candle)}

theorem scanAt_executed (hCandle : scan.candles[index]? = some candle)
    (hScan : scanAt rules scan index candle state = .ok (next, executed)) (entryIndex : Nat)
    (entry : Candle) :
    executed = some (entryIndex, entry) ↔ ExecutesAt rules scan index state entryIndex entry := by
  obtain ⟨evaluation, hEvaluation, hScan⟩ := bind_eq_ok.mp hScan
  have hReleased : (state.release index).lastExecutedEntryTime = state.lastExecutedEntryTime := rfl
  constructor
  · rintro rfl
    split at hScan
    · cases hScan
    · rename_i signal hSignal
      simp only [pure_eq_ok, scanSignal] at hScan
      split at hScan
      · cases hScan
      · rename_i foundIndex found hFate
        cases hScan
        obtain ⟨hSide, hCooling, hOccupied, hIndex, hEntry⟩ := signalFate_eq_entering.mp hFate
        exact ⟨candle, evaluation, signal, hCandle, hEvaluation, hSignal, hSide, hCooling,
          by simpa using hOccupied, hIndex, hEntry⟩
  · rintro ⟨other, result, signal, hOther, hResult, hSignal, hSide, hCooling, hOpen, hIndex, hEntry⟩
    obtain rfl : other = candle := some.inj (hOther.symm.trans hCandle)
    obtain rfl : result = evaluation := Except.ok.inj (hResult.symm.trans hEvaluation)
    have hFate : signalFate scan.candles (scan.entryIndex index) signal.side
        (cooldownActive (state.release index).lastExecutedEntryTime other.closeTime
          scan.strategyConfig.cooldownSeconds)
        (state.release index).openUntilSignalIndex.isSome = .entering entryIndex entry :=
      signalFate_eq_entering.mpr ⟨hSide, hReleased ▸ hCooling, by rw [hOpen, isSome_none],
        hIndex, hEntry⟩
    simp only [hSignal, scanSignal, hFate, pure_eq_ok, Prod.mk.injEq] at hScan
    exact hScan.2.symm

theorem scanAt_counts (hExecutable : state.executableSignalCount = state.suppressionCounts .none)
    (hScan : scanAt rules scan index candle state = .ok (next, executed)) :
    countedAgain next = countedAgain state ∧
      next.executableSignalCount = next.suppressionCounts .none := by
  obtain ⟨evaluation, -, hScan⟩ := bind_eq_ok.mp hScan
  split at hScan
  · cases hScan
    exact ⟨rfl, hExecutable⟩
  · rename_i signal _
    have hReleased : (state.release index).executableSignalCount =
        (state.release index).suppressionCounts .none := hExecutable
    have hCounts := scanSignal_counts scan index candle signal hReleased
    rw [pure_eq_ok] at hScan
    rw [hScan] at hCounts
    exact hCounts

end Scan

section Attribution
variable {rules : StrategyRules} {scan : SignalScan}
  {request : StrategySignalFeatureAttributionRequest} {interval : CandleInterval}
variable {next : FeatureAttributionState} {index : Nat} {state : FeatureAttributionState}

/-- The iteration at an index, which does nothing behind the last candle. -/
def featureStep (rules : StrategyRules) (scan : SignalScan)
    (request : StrategySignalFeatureAttributionRequest) (interval : CandleInterval)
    (state : FeatureAttributionState) (index : Nat) : Except Fault FeatureAttributionState :=
  if hIndex : index < scan.candles.length then
    attributeFeaturesAt rules scan request interval state ⟨index, hIndex⟩
  else .ok state

/-- The state of the attribution before the iteration at `count`. -/
def featuresTo (rules : StrategyRules) (scan : SignalScan)
    (request : StrategySignalFeatureAttributionRequest) (interval : CandleInterval) (count : Nat) :
    Except Fault FeatureAttributionState :=
  (range count).foldlM (featureStep rules scan request interval) .initial

theorem featuresTo_length : featuresTo rules scan request interval scan.candles.length =
      (finRange scan.candles.length).foldlM (attributeFeaturesAt rules scan request interval)
        .initial := by
  rw [featuresTo, ← map_coe_finRange_eq_range, foldlM_map]
  apply foldlM_congr
  intro state index _
  simp only [featureStep, index.isLt, dif_pos]

variable {count : Nat}

theorem featuresTo_succ_eq_ok : featuresTo rules scan request interval (count + 1) = .ok next ↔
      ∃ state, featuresTo rules scan request interval count = .ok state ∧
        featureStep rules scan request interval state count = .ok next := by
  simp only [featuresTo, range_succ, foldlM_append_eq_ok, foldlM_cons, foldlM_nil, bind_pure]

/-- What an iteration makes of the state: nothing is executed, or what is
executed is attributed. -/
theorem featureStep_cases {candle : Candle} (hCandle : scan.candles[index]? = some candle)
    (hStep : featureStep rules scan request interval state index = .ok next) :
    ∃ scanned executed, scanAt rules scan index candle state.scan = .ok (scanned, executed) ∧
      (executed = none ∧ next = { state with scan := scanned } ∨
        ∃ entryIndex entry, executed = some (entryIndex, entry) ∧
          next = attributeExecuted scan request interval index candle entryIndex entry
            { state with scan := scanned }) := by
  obtain ⟨hIndex, rfl⟩ := List.getElem?_eq_some_iff.mp hCandle
  rw [featureStep, dif_pos hIndex] at hStep
  obtain ⟨⟨scanned, executed⟩, hScan, hStep⟩ := bind_eq_ok.mp hStep
  refine ⟨scanned, executed, hScan, ?_⟩
  cases executed with
  | none =>
    cases hStep
    exact .inl ⟨rfl, rfl⟩
  | some entered =>
    cases hStep
    exact .inr ⟨entered.1, entered.2, rfl, rfl⟩

theorem extractSignalFeatureMetrics_ne_nil (strategyId : StrategyId) (config : StrategyConfig)
    (candles : List Candle) (index : Nat) (latest : Candle) :
    extractSignalFeatureMetrics strategyId config candles index latest ≠ [] :=
  append_ne_nil_of_right_ne_nil _ (cons_ne_nil _ _)

/-- What is executed lacks an exit candle, is held over a gap, or gives a
sample. -/
theorem attributeExecuted_cases (index : Nat) (candle : Candle) (entryIndex : Nat) (entry : Candle)
    (state : FeatureAttributionState) :
    (scan.candles[entryIndex + request.normalizedHoldingWindow]? = none ∧
        attributeExecuted scan request interval index candle entryIndex entry state =
          { state with scan := state.scan.suppress .insufficientForwardData }) ∨
      ∃ exit, scan.candles[entryIndex + request.normalizedHoldingWindow]? = some exit ∧
        (attributeExecuted scan request interval index candle entryIndex entry state).scan =
          state.scan ∧
        (attributeExecuted scan request interval index candle entryIndex entry state).samples =
          state.samples ++
            if gapDetected interval scan.candles entryIndex
                (entryIndex + request.normalizedHoldingWindow) then []
            else [attributedSample request candle entry exit (extractSignalFeatureMetrics
              scan.strategyId scan.strategyConfig scan.candles index candle)] := by
  cases hExit : scan.candles[entryIndex + request.normalizedHoldingWindow]? with
  | none =>
    refine .inl ⟨rfl, ?_⟩
    simp only [attributeExecuted, hExit]
  | some exit =>
    refine .inr ⟨exit, rfl, ?_⟩
    have hMetrics := extractSignalFeatureMetrics_ne_nil scan.strategyId scan.strategyConfig
      scan.candles index candle
    simp only [attributeExecuted, hExit, hMetrics, if_false]
    split
    · exact ⟨rfl, (append_nil _).symm⟩
    · exact ⟨rfl, rfl⟩

/-- An iteration counts the signal that lacks its exit once more, and every
other one once. -/
theorem featureStep_counts
    (hExecutable : state.scan.executableSignalCount = state.scan.suppressionCounts .none)
    (hStep : featureStep rules scan request interval state index = .ok next) :
    next.scan.executableSignalCount = next.scan.suppressionCounts .none ∧
      (LacksExit rules scan request index state.scan ∧
          countedAgain next.scan = countedAgain state.scan + 1 ∨
        ¬LacksExit rules scan request index state.scan ∧
          countedAgain next.scan = countedAgain state.scan) := by
  cases hCandle : scan.candles[index]? with
  | none =>
    rw [featureStep, dif_neg (not_lt.mpr (getElem?_eq_none_iff.mp hCandle))] at hStep
    cases hStep
    refine ⟨hExecutable, .inr ⟨?_, rfl⟩⟩
    rintro ⟨entryIndex, entry, ⟨candle, evaluation, signal, hSome, -⟩, -⟩
    rw [hCandle] at hSome
    cases hSome
  | some candle =>
    obtain ⟨scanned, executed, hScan, hNext⟩ := featureStep_cases hCandle hStep
    obtain ⟨hSame, hScanned⟩ := scanAt_counts hExecutable hScan
    rcases hNext with ⟨rfl, rfl⟩ | ⟨entryIndex, entry, rfl, rfl⟩
    · refine ⟨hScanned, .inr ⟨?_, hSame⟩⟩
      rintro ⟨entryIndex, entry, hExecutes, -⟩
      cases (scanAt_executed hCandle hScan entryIndex entry).mpr hExecutes
    · have hExecutes := (scanAt_executed hCandle hScan entryIndex entry).mp rfl
      rcases attributeExecuted_cases index candle entryIndex entry
        { state with scan := scanned } with ⟨hLacks, hNext⟩ | ⟨exit, hExit, hNext, -⟩
      · rw [hNext]
        have hOther : (scanned.suppress .insufficientForwardData).suppressionCounts .none =
            scanned.suppressionCounts .none := suppress_executed (by decide) scanned
        exact ⟨hScanned.trans hOther.symm, .inl ⟨⟨entryIndex, entry, hExecutes, hLacks⟩,
            hSame ▸ countedAgain_suppress scanned .insufficientForwardData⟩⟩
      · rw [hNext]
        refine ⟨hScanned, .inr ⟨?_, hSame⟩⟩
        rintro ⟨otherIndex, other, hOther, hLacks⟩
        have hEntered := (scanAt_executed hCandle hScan otherIndex other).mpr hOther
        cases hEntered
        rw [hExit] at hLacks
        cases hLacks

/-- The signals counted again are those that lacked their exit. -/
theorem featuresTo_counts (hState : featuresTo rules scan request interval count = .ok state) :
    state.scan.executableSignalCount = state.scan.suppressionCounts .none ∧
      0 ≤ countedAgain state.scan ∧
      (countedAgain state.scan = 0 ↔ ∀ index < count, ∀ before,
        featuresTo rules scan request interval index = .ok before →
          ¬LacksExit rules scan request index before.scan) := by
  induction count generalizing state with
  | zero =>
    cases hState
    exact ⟨rfl, le_rfl, by simp [countedAgain, FeatureAttributionState.initial, ScanState.initial,
      totalCount, suppressionBreakdown]⟩
  | succ count ih =>
    obtain ⟨before, hBefore, hStep⟩ := featuresTo_succ_eq_ok.mp hState
    obtain ⟨hExecutable, hNonneg, hNone⟩ := ih hBefore
    obtain ⟨hNext, hCounts⟩ := featureStep_counts hExecutable hStep
    rcases hCounts with ⟨hLacks, hAgain⟩ | ⟨hExits, hAgain⟩
    · refine ⟨hNext, by omega, ?_⟩
      constructor
      · intro hZero
        omega
      · intro hAll
        exact absurd hLacks (hAll count (Nat.lt_succ_self count) before hBefore)
    · refine ⟨hNext, by omega, ?_⟩
      rw [hAgain, hNone, Nat.forall_lt_succ_right]
      constructor
      · intro hAll
        refine ⟨hAll, fun other hOther => ?_⟩
        rw [hBefore] at hOther
        cases hOther
        exact hExits
      · exact And.left

/-- The signal at `index` gives a sample, which enters at `entryIndex`. -/
def AttributedAt (rules : StrategyRules) (scan : SignalScan)
    (request : StrategySignalFeatureAttributionRequest) (interval : CandleInterval)
    (index entryIndex : Nat) (sample : StrategySignalFeatureSample) : Prop :=
  ∃ before candle entry exit, featuresTo rules scan request interval index = .ok before ∧
    scan.candles[index]? = some candle ∧
    ExecutesAt rules scan index before.scan entryIndex entry ∧
    scan.candles[entryIndex + request.normalizedHoldingWindow]? = some exit ∧
    gapDetected interval scan.candles entryIndex
      (entryIndex + request.normalizedHoldingWindow) = false ∧
    sample = attributedSample request candle entry exit (extractSignalFeatureMetrics
      scan.strategyId scan.strategyConfig scan.candles index candle)

/-- The signal of an iteration gives a sample if it is executed and followed to
its exit without a gap. -/
theorem attributedAt_iff {entryIndex : Nat} {candle : Candle} {scanned : ScanState}
    {executed : Option (Nat × Candle)}
    (hState : featuresTo rules scan request interval index = .ok state)
    (hCandle : scan.candles[index]? = some candle)
    (hScan : scanAt rules scan index candle state.scan = .ok (scanned, executed))
    (sample : StrategySignalFeatureSample) :
    AttributedAt rules scan request interval index entryIndex sample ↔
      ∃ entry exit, executed = some (entryIndex, entry) ∧
        scan.candles[entryIndex + request.normalizedHoldingWindow]? = some exit ∧
        gapDetected interval scan.candles entryIndex
          (entryIndex + request.normalizedHoldingWindow) = false ∧
        sample = attributedSample request candle entry exit (extractSignalFeatureMetrics
          scan.strategyId scan.strategyConfig scan.candles index candle) := by
  constructor
  · rintro ⟨before, other, entry, exit, hBefore, hOther, hExecutes, hFollowed⟩
    rw [hState] at hBefore
    cases hBefore
    rw [hCandle] at hOther
    cases hOther
    exact ⟨entry, exit, (scanAt_executed hCandle hScan entryIndex entry).mpr hExecutes, hFollowed⟩
  · rintro ⟨entry, exit, hExecuted, hFollowed⟩
    exact ⟨state, candle, entry, exit, hState, hCandle,
      (scanAt_executed hCandle hScan entryIndex entry).mp hExecuted, hFollowed⟩

theorem featureStep_samples (hState : featuresTo rules scan request interval index = .ok state)
    (hStep : featureStep rules scan request interval state index = .ok next)
    (sample : StrategySignalFeatureSample) :
    sample ∈ next.samples ↔ sample ∈ state.samples ∨
      ∃ entryIndex, AttributedAt rules scan request interval index entryIndex sample := by
  cases hCandle : scan.candles[index]? with
  | none =>
    rw [featureStep, dif_neg (not_lt.mpr (getElem?_eq_none_iff.mp hCandle))] at hStep
    cases hStep
    refine ⟨.inl, fun hSample => hSample.resolve_right ?_⟩
    rintro ⟨entryIndex, before, candle, entry, exit, -, hSome, -⟩
    rw [hCandle] at hSome
    cases hSome
  | some candle =>
    obtain ⟨scanned, executed, hScan, hNext⟩ := featureStep_cases hCandle hStep
    simp only [attributedAt_iff hState hCandle hScan]
    rcases hNext with ⟨rfl, rfl⟩ | ⟨entryIndex, entry, rfl, rfl⟩
    · refine ⟨.inl, fun hSample => hSample.resolve_right ?_⟩
      rintro ⟨entryIndex, entry, exit, hNone, -⟩
      cases hNone
    · rcases attributeExecuted_cases index candle entryIndex entry
        { state with scan := scanned } with ⟨hLacks, hNext⟩ | ⟨exit, hExit, -, hNext⟩
      · rw [hNext]
        refine ⟨.inl, fun hSample => hSample.resolve_right ?_⟩
        rintro ⟨otherIndex, other, exit, hOther, hExit, -⟩
        cases hOther
        rw [hLacks] at hExit
        cases hExit
      · rw [hNext, mem_append]
        apply or_congr_right
        cases hGap : gapDetected interval scan.candles entryIndex
            (entryIndex + request.normalizedHoldingWindow) with
        | true =>
          rw [if_pos rfl]
          refine ⟨nofun, ?_⟩
          rintro ⟨otherIndex, other, otherExit, hOther, -, hNoGap, -⟩
          cases hOther
          rw [hGap] at hNoGap
          cases hNoGap
        | false =>
          rw [if_neg Bool.false_ne_true, mem_singleton]
          constructor
          · rintro rfl
            exact ⟨entryIndex, entry, exit, rfl, hExit, hGap, rfl⟩
          · rintro ⟨otherIndex, other, otherExit, hOther, hOtherExit, -, hSample⟩
            cases hOther
            rw [hExit] at hOtherExit
            cases hOtherExit
            exact hSample

theorem featuresTo_samples (hState : featuresTo rules scan request interval count = .ok state)
    (sample : StrategySignalFeatureSample) :
    sample ∈ state.samples ↔ ∃ index < count, ∃ entryIndex,
      AttributedAt rules scan request interval index entryIndex sample := by
  induction count generalizing state with
  | zero =>
    cases hState
    simp [FeatureAttributionState.initial]
  | succ count ih =>
    obtain ⟨before, hBefore, hStep⟩ := featuresTo_succ_eq_ok.mp hState
    rw [featureStep_samples hBefore hStep, ih hBefore]
    constructor
    · rintro (⟨index, hIndex, hSample⟩ | hSample)
      · exact ⟨index, by omega, hSample⟩
      · exact ⟨count, by omega, hSample⟩
    · rintro ⟨index, hIndex, hSample⟩
      rcases Nat.lt_succ_iff_lt_or_eq.mp hIndex with hEarlier | rfl
      · exact .inl ⟨index, hEarlier, hSample⟩
      · exact .inr hSample

end Attribution

/-- Each signal is counted under one reason, those under `none` are the
executed ones, and every sample enters where the backtest would. -/
structure AccountsForSignals (rules : StrategyRules) (scan : SignalScan)
    (request : StrategySignalFeatureAttributionRequest) (interval : CandleInterval)
    (result : StrategySignalFeatureAttributionResult) : Prop where
  signals : result.totalRawSignals = totalCount result.suppressionBreakdown
  executed : countsFor result.suppressionBreakdown .none = [result.executableSignals]
  entries : ∀ index entryIndex, ∀ sample ∈ result.samples,
    AttributedAt rules scan request interval index entryIndex sample →
    confirmedEntryIndex scan.strategyConfig scan.candles index = some entryIndex

/-- No executed signal lacks its exit, and entries are on the next candle or
nothing is held without a gap. -/
structure EntersAndExits (rules : StrategyRules) (scan : SignalScan)
    (request : StrategySignalFeatureAttributionRequest) (interval : CandleInterval) : Prop where
  exits : ∀ index < scan.candles.length, ∀ before,
    featuresTo rules scan request interval index = .ok before →
      ¬LacksExit rules scan request index before.scan
  entries : EntersOnNext scan.strategyConfig ∨ ∀ index before entryIndex entry,
    featuresTo rules scan request interval index = .ok before →
    ExecutesAt rules scan index before.scan entryIndex entry →
    gapDetected interval scan.candles entryIndex
      (entryIndex + request.normalizedHoldingWindow) = true

section Results
variable {rules : StrategyRules} {display : Decimal → String} {signalId : Nat → Uuid}
  {correlationId : Uuid} {request : StrategySignalFeatureAttributionRequest}
  {strategyConfig : StrategyConfig} {symbol : Symbol} {candles : List Candle}
  {computedAt : DateTime} {result : StrategySignalFeatureAttributionResult}
  {strategyId : StrategyId} {interval : CandleInterval}

theorem calculateSignalFeatureAttribution_eq_ok
    (hId : StrategyId.fromStr request.strategyId = .ok strategyId)
    (hInterval : CandleInterval.fromStr request.timeframe = .ok interval)
    (hRun : calculateSignalFeatureAttribution rules display signalId correlationId request
      strategyConfig symbol candles computedAt = .ok result) :
    ∃ state, featuresTo rules
          (featureScan signalId correlationId strategyId strategyConfig symbol candles) request
          interval
          (featureScan signalId correlationId strategyId strategyConfig symbol candles).candles.length =
        .ok state ∧
      result = featureAttributionResult display request computedAt state := by
  simp only [calculateSignalFeatureAttribution, bind_eq_ok, mapError_eq_ok] at hRun
  obtain ⟨-, -, parsed, hParsed, width, hWidth, state, hState, hResult⟩ := hRun
  rw [hId] at hParsed
  cases hParsed
  rw [hInterval] at hWidth
  cases hWidth
  rw [← featuresTo_length] at hState
  exact ⟨state, hState, (pure_eq_ok.mp hResult).symm⟩

theorem entryIndex_of_executesAt {index entryIndex : Nat} {state : ScanState} {entry : Candle}
    (hExecutes : ExecutesAt rules
      (featureScan signalId correlationId strategyId strategyConfig symbol candles) index state
      entryIndex entry) : entryIndex = index + 1 := by
  obtain ⟨candle, evaluation, signal, -, -, -, -, -, -, hEntry, -⟩ := hExecutes
  exact (some.inj hEntry).symm

end Results

/-- An attribution accounts for its signals precisely when no executed signal
lacks its exit candle and, unless entries are on the next candle, none is held
without a gap. -/
theorem feature_attribution_accounts_iff (rules : StrategyRules) (display : Decimal → String)
    (signalId : Nat → Uuid) (correlationId : Uuid)
    (request : StrategySignalFeatureAttributionRequest) (strategyConfig : StrategyConfig)
    (symbol : Symbol) (candles : List Candle) (computedAt : DateTime)
    {strategyId : StrategyId} (hId : StrategyId.fromStr request.strategyId = .ok strategyId)
    {interval : CandleInterval} (hInterval : CandleInterval.fromStr request.timeframe = .ok interval)
    {result : StrategySignalFeatureAttributionResult}
    (hRun : calculateSignalFeatureAttribution rules display signalId correlationId request
      strategyConfig symbol candles computedAt = .ok result) :
    AccountsForSignals rules
        (featureScan signalId correlationId strategyId strategyConfig symbol candles) request interval
        result ↔
      EntersAndExits rules
        (featureScan signalId correlationId strategyId strategyConfig symbol candles) request
        interval := by
  obtain ⟨state, hState, rfl⟩ := calculateSignalFeatureAttribution_eq_ok hId hInterval hRun
  obtain ⟨hExecutable, -, hAgain⟩ := featuresTo_counts hState
  have hSignals : state.scan.rawSignalCount =
      totalCount (suppressionBreakdown state.scan.suppressionCounts) ↔
        countedAgain state.scan = 0 := by
    rw [countedAgain, sub_eq_zero]
    exact eq_comm
  constructor
  · intro hAccounts
    have hExits := hAgain.mp (hSignals.mp hAccounts.signals)
    refine ⟨hExits, ?_⟩
    by_cases hNext : EntersOnNext strategyConfig
    · exact .inl hNext
    refine .inr ?_
    intro index before entryIndex entry hBefore hExecutes
    obtain ⟨candle, -, -, hCandle, -⟩ := id hExecutes
    have hIndex := (List.getElem?_eq_some_iff.mp hCandle).1
    obtain ⟨exit, hExit⟩ := ne_none_iff_exists'.mp fun hLacks =>
      hExits index hIndex before hBefore ⟨entryIndex, entry, hExecutes, hLacks⟩
    by_contra hGap
    have hAttributed : AttributedAt rules
        (featureScan signalId correlationId strategyId strategyConfig symbol candles) request interval
        index entryIndex _ :=
      ⟨before, candle, entry, exit, hBefore, hCandle, hExecutes, hExit, Bool.eq_false_iff.mpr hGap, rfl⟩
    have hSample := (featuresTo_samples hState _).mpr ⟨index, hIndex, entryIndex, hAttributed⟩
    have hConfirmed := hAccounts.entries index entryIndex _ hSample hAttributed
    have hBehind := succ_lt_of_confirmedEntryIndex hNext hConfirmed
    exact absurd (entryIndex_of_executesAt hExecutes) hBehind.ne'
  · intro hEnters
    constructor
    · exact hSignals.mpr (hAgain.mpr hEnters.exits)
    · refine (countsFor_suppressionBreakdown _ _).trans ?_
      rw [← hExecutable]
      rfl
    · rintro index entryIndex sample - ⟨before, candle, entry, exit, hBefore, -, hExecutes, -, hGap, -⟩
      rcases hEnters.entries with hNext | hGaps
      · rw [entryIndex_of_executesAt hExecutes]
        exact confirmedEntryIndex_of_entersOnNext hNext _ index
      · rw [hGaps index before entryIndex entry hBefore hExecutes] at hGap
        cases hGap

def sampleFeatureRequest : StrategySignalFeatureAttributionRequest where
  strategyId := "momentum_v1"
  symbol := "btcusdt"
  timeframe := "1m"
  startTime := 0
  endTime := DateTime.seconds 300
  holdingWindow := 1
  feeBps := 10
  slippageBps := 5
  minSamplesPerBucket := 1

def sampleFeatureAttribution (count : Nat) : Except Fault StrategySignalFeatureAttributionResult :=
  calculateSignalFeatureAttribution strategyRules (fun _ => "") (fun _ => ⟨7⟩) ⟨8⟩ sampleFeatureRequest
    fixedSimulation.strategyConfig .btcusdt (fixedSimulation.candles.take count) 0

/-- Of the first six candles, the third gives a signal that is executed on the
fourth and exits on the fifth. -/
theorem feature_attribution_accounts_sample :
    ∃ result, sampleFeatureAttribution 6 = .ok result ∧ result.attributedSignals = 1 ∧
      EntersAndExits strategyRules
        (featureScan (fun _ => ⟨7⟩) ⟨8⟩ .momentumV1 fixedSimulation.strategyConfig .btcusdt
          (fixedSimulation.candles.take 6)) sampleFeatureRequest .oneMinute := by
  have hCounts : (sampleFeatureAttribution 6).toOption.map (fun result =>
      (result.attributedSignals, decide (result.totalRawSignals = totalCount
          result.suppressionBreakdown ∧
        countsFor result.suppressionBreakdown .none = [result.executableSignals]))) =
        some (1, true) := by decide +kernel
  obtain ⟨result, hRun, hCounted⟩ := map_eq_some_iff.mp hCounts
  rw [toOption_eq_some] at hRun
  obtain ⟨hSignals, hExecuted⟩ := of_decide_eq_true (congrArg Prod.snd hCounted)
  have hId : StrategyId.fromStr "momentum_v1" = .ok .momentumV1 := by with_unfolding_all rfl
  have hInterval : CandleInterval.fromStr "1m" = .ok .oneMinute := by with_unfolding_all rfl
  have hNext : EntersOnNext fixedSimulation.strategyConfig := .inl (by decide)
  refine ⟨result, hRun, congrArg Prod.fst hCounted, ?_⟩
  refine (feature_attribution_accounts_iff strategyRules (fun _ => "") (fun _ => ⟨7⟩) ⟨8⟩
    sampleFeatureRequest _ _ _ 0 hId hInterval hRun).mp ⟨hSignals, hExecuted, ?_⟩
  rintro index entryIndex sample - ⟨before, candle, entry, exit, -, -, hExecutes, -⟩
  rw [entryIndex_of_executesAt hExecutes]
  exact confirmedEntryIndex_of_entersOnNext hNext _ index

/-- Of all eight candles, the seventh gives a signal that is executed on the
last one, and counted again for its missing exit. -/
theorem executed_signal_counted_again :
    ∃ result, sampleFeatureAttribution 8 = .ok result ∧ result.totalRawSignals = 4 ∧
      totalCount result.suppressionBreakdown = 5 ∧
      ¬AccountsForSignals strategyRules
        (featureScan (fun _ => ⟨7⟩) ⟨8⟩ .momentumV1 fixedSimulation.strategyConfig .btcusdt
          (fixedSimulation.candles.take 8)) sampleFeatureRequest .oneMinute result := by
  have hCounts : (sampleFeatureAttribution 8).toOption.map (fun result =>
      (result.totalRawSignals, totalCount result.suppressionBreakdown)) = some (4, 5) := by
    decide +kernel
  obtain ⟨result, hRun, hCounted⟩ := map_eq_some_iff.mp hCounts
  rw [toOption_eq_some] at hRun
  have hRaw : result.totalRawSignals = 4 := congrArg Prod.fst hCounted
  have hTotal : totalCount result.suppressionBreakdown = 5 := congrArg Prod.snd hCounted
  refine ⟨result, hRun, hRaw, hTotal, fun hAccounts => ?_⟩
  have hSignals := hAccounts.signals
  rw [hRaw, hTotal] at hSignals
  exact absurd hSignals (by decide)

end AegisQuant.Replay
