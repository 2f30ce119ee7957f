import AegisQuant.Research.CrossAssetNoLookAhead

/-! The trades of a cross-asset run follow its rules. Each is entered on the
candle after its signal and left by the exit rule, its weight is within the
bounds of the request, and with one active position no trade is decided on
before the one before it has ended. -/
namespace AegisQuant.Research
open Fallible List Option

/-- The close is beyond the threshold of the exit rule. -/
def ruleHit (rule : CrossAssetExitRule) (entryPrice close : Decimal) : Bool :=
  match rule with
  | .fixedHold => false
  | .stopPct stopPct => percent (close / entryPrice - 1) ≤ -stopPct
  | .takeProfitPct takeProfitPct => takeProfitPct ≤ percent (close / entryPrice - 1)

def ruleReason : CrossAssetExitRule → String
  | .fixedHold => "fixed_hold"
  | .stopPct _ => "stop_pct"
  | .takeProfitPct _ => "take_profit_pct"

/-- From the entry on and before a candle, no close is beyond the threshold. -/
def NoHitBefore (rule : CrossAssetExitRule) (rows : List Candle) (entryIndex : Nat)
    (entryPrice : Decimal) (before : Nat) : Prop :=
  ∀ index candle, entryIndex ≤ index → index < before → rows[index]? = some candle →
    ruleHit rule entryPrice candle.close = false

/-- The position is held to its deadline unless a candle before it closes
beyond the threshold, and is left right after the first that does. -/
structure ExitsByRule (rule : CrossAssetExitRule) (rows : List Candle) (entryIndex deadline : Nat)
    (entryPrice : Decimal) (exitIndex : Nat) (reason : String) : Prop where
  fixedHold : reason = "fixed_hold" ↔ NoHitBefore rule rows entryIndex entryPrice deadline
  atDeadline : reason = "fixed_hold" → exitIndex = deadline
  afterFirstHit : reason ≠ "fixed_hold" → reason = ruleReason rule ∧ ∃ hit candle,
    entryIndex ≤ hit ∧ hit < deadline ∧ rows[hit]? = some candle ∧
      ruleHit rule entryPrice candle.close = true ∧
      NoHitBefore rule rows entryIndex entryPrice hit ∧ exitIndex = hit + 1

/-- The rows of a symbol are closed candles it is given that lie in the window
of the request, one for each aligned time. -/
structure AlignedRows (request : CrossAssetResearchRequest)
    (candlesBySymbol : String → Option (List Candle)) (data : CrossAssetData) (symbol : String) :
    Prop where
  times : (data.rows symbol).map (·.openTime) = data.times
  given : ∀ candle ∈ data.rows symbol, ∃ candles, candlesBySymbol symbol = some candles ∧
    candle ∈ candles ∧ candle.isClosed = true ∧ request.startTime ≤ candle.openTime ∧
      candle.closeTime ≤ request.endTime

/-- A trade on the aligned times, from the candle of its signal to that of its
exit. -/
structure ValidTradeAt (request : CrossAssetResearchRequest) (data : CrossAssetData)
    (trade : CrossAssetPortfolioTrade) (signalIndex exitIndex : Nat) : Prop where
  signalTime : data.times[signalIndex]? = some trade.signalTime
  entryTime : data.times[signalIndex + 1]? = some trade.entryTime
  exitTime : data.times[exitIndex]? = some trade.exitTime
  entryPrice : (data.rows trade.symbol)[signalIndex + 1]?.map (·.open) = some trade.entryPrice
  exitPrice : (data.rows trade.symbol)[exitIndex]?.map (·.open) = some trade.exitPrice
  later : signalIndex + 1 < exitIndex
  held : exitIndex ≤ signalIndex + 1 + data.holding
  exitReason : ExitsByRule request.exitRule (data.rows trade.symbol) (signalIndex + 1)
    (signalIndex + 1 + data.holding) trade.entryPrice exitIndex trade.exitReason
  weight : request.minWeight ≤ trade.weight ∧ trade.weight ≤ request.maxWeight
  net : trade.netPnlPct = trade.grossPnlPct - trade.feeSlippageDragPct

section Exits
variable {rule : CrossAssetExitRule} {rows : List Candle} {entryIndex deadline : Nat}
  {entry : Decimal} {hit : Decimal → Bool} {reason : String} {found : CrossAssetExit}

theorem exitsByRule_of_exitOnHit (hDeadline : deadline ≤ rows.length - 1)
    (hRule : ∀ close, ruleHit rule entry close = hit (percent (close / entry - 1)))
    (hReason : reason = ruleReason rule) (hOther : reason ≠ "fixed_hold")
    (hExit : exitOnHit rows entryIndex deadline entry hit reason = .ok found) :
    ExitsByRule rule rows entryIndex deadline entry found.index found.reason := by
  have hHit (index : Nat) (candle : Candle) (hCandle : rows[index]? = some candle) :
      hit (percent ((rows[index]?.map (·.close)).getD 0 / entry - 1)) =
        ruleHit rule entry candle.close := by
    rw [hRule, hCandle, map_some, getD_some]
  unfold exitOnHit at hExit
  split at hExit
  · cases hExit
  · dsimp only at hExit
    split at hExit
    · rename_i index hFirst
      rw [find?_range'_eq_some, mem_range'_1] at hFirst
      obtain ⟨hFound, ⟨hAfter, hBefore⟩, hNone⟩ := hFirst
      have hRange : index < rows.length := by omega
      have hCandle := getElem?_eq_getElem hRange
      rw [hHit index _ hCandle] at hFound
      cases hExit
      refine ⟨iff_of_false hOther ?_, fun hFixed => absurd hFixed hOther, fun _ =>
        ⟨hReason, index, rows[index], hAfter, by omega, hCandle, hFound, ?_,
        Nat.min_eq_left (by omega)⟩⟩
      · intro hHold
        rw [hHold index _ hAfter (by omega) hCandle] at hFound
        cases hFound
      · intro earlier candle hEarlier hLess hEarlierCandle
        rw [← hHit earlier candle hEarlierCandle]
        simpa using hNone earlier hEarlier hLess
    · rename_i hNone
      rw [find?_range'_eq_none] at hNone
      cases hExit
      refine ⟨iff_of_true rfl ?_, fun _ => rfl, fun hFixed => absurd rfl hFixed⟩
      intro index candle hAfter hBefore hCandle
      rw [← hHit index candle hCandle]
      simpa using hNone index hAfter (by omega)

theorem exitsByRule_of_crossAssetExitIndex {request : CrossAssetResearchRequest} {holding : Nat}
    {entryCandle : Candle} (hEntry : rows[entryIndex]? = some entryCandle)
    (hRoom : entryIndex + holding < rows.length)
    (hExit : crossAssetExitIndex request holding rows entryIndex = .ok (some found)) :
    ExitsByRule request.exitRule rows entryIndex (entryIndex + holding) entryCandle.open found.index
      found.reason := by
  have hDeadline : min (entryIndex + holding) (rows.length - 1) = entryIndex + holding := by omega
  obtain ⟨_, hSame, hCases⟩ := crossAssetExitIndex_cases hEntry hExit
  cases hSame
  rw [hDeadline] at hCases
  rcases hCases with ⟨hRule, rfl⟩ | ⟨limit, hRule, hHit⟩ | ⟨limit, hRule, hHit⟩
  · rw [hRule]
    exact ⟨iff_of_true rfl fun _ _ _ _ _ => rfl, fun _ => rfl, fun hFixed => absurd rfl hFixed⟩
  · rw [hRule]
    exact exitsByRule_of_exitOnHit (by omega) (fun _ => rfl) rfl
      (show "stop_pct" ≠ "fixed_hold" by decide) hHit
  · rw [hRule]
    exact exitsByRule_of_exitOnHit (by omega) (fun _ => rfl) rfl
      (show "take_profit_pct" ≠ "fixed_hold" by decide) hHit

theorem ExitsByRule.index_le {exitIndex : Nat}
    (hExits : ExitsByRule rule rows entryIndex deadline entry exitIndex reason) :
    exitIndex ≤ deadline := by
  by_cases hFixed : reason = "fixed_hold"
  · exact (hExits.atDeadline hFixed).le
  · obtain ⟨_, index, _, _, hBefore, _, _, _, rfl⟩ := hExits.afterFirstHit hFixed
    exact hBefore

end Exits

section Weight
variable {request : CrossAssetResearchRequest}

theorem clamp_between {low high : Decimal} (hBounds : low ≤ high) (value : Decimal) :
    low ≤ clamp low high value ∧ clamp low high value ≤ high := by
  unfold clamp
  split
  · exact ⟨le_rfl, hBounds⟩
  · rename_i hLow
    split
    · exact ⟨hBounds, le_rfl⟩
    · rename_i hHigh
      exact ⟨not_lt.mp hLow, not_lt.mp hHigh⟩

theorem crossAssetWeight_between (hBounds : request.minWeight ≤ request.maxWeight)
    (features : CrossAssetFeatures) (index : Nat) (symbol : String) (medianVol24h : Decimal) :
    request.minWeight ≤ crossAssetWeight request features index symbol medianVol24h ∧
      crossAssetWeight request features index symbol medianVol24h ≤ request.maxWeight := by
  unfold crossAssetWeight
  split
  · exact ⟨hBounds, le_rfl⟩
  · split
    · exact ⟨le_rfl, hBounds⟩
    · split
      · exact ⟨le_rfl, hBounds⟩
      · exact clamp_between hBounds _

theorem weights_of_researchPlan {plan : ResearchPlan} (hPlan : researchPlan request = .ok plan) :
    request.minWeight ≤ request.maxWeight := by
  simp only [researchPlan, bind_eq_ok] at hPlan
  obtain ⟨_, hValid, -⟩ := hPlan
  simp only [CrossAssetResearchRequest.validate, bind_eq_ok, require_eq_ok,
    decide_eq_true_eq] at hValid
  obtain ⟨_, -, _, -, _, -, _, -, _, -, _, -, _, -, _, hWeights, -⟩ := hValid
  exact hWeights

end Weight

section Trades
variable {request : CrossAssetResearchRequest} {data : CrossAssetData} {levels : RunLevels}
  {candlesBySymbol : String → Option (List Candle)} {index tradeIndex : Nat}
  {trade : CrossAssetPortfolioTrade} {leaving : CrossAssetExit}

theorem alignedRows_of_prepare {floats : FloatArithmetic}
    (hPrepared : prepareCrossAssetData floats request candlesBySymbol = .ok data) (symbol : String)
    (hSome : data.rows symbol ≠ []) : AlignedRows request candlesBySymbol data symbol := by
  obtain ⟨plan, alignment, -, -, hAligned, -, -, rfl⟩ := prepareCrossAssetData_eq_ok hPrepared
  have hRows : takeRows (alignment.alignedTimes.getD []) request.lookupSymbols alignment.normalized
      (fun _ => []) symbol =
        (alignment.alignedTimes.getD []).filterMap (candleAt (alignment.normalized symbol)) := by
    rcases takeRows_cases (alignment.alignedTimes.getD []) request.lookupSymbols symbol with
      hNone | hRows | hNone
    · exact absurd hNone hSome
    · exact hRows
    · exact absurd hNone hSome
  rw [hAligned.normalized symbol] at hRows
  by_cases hMem : symbol ∈ request.lookupSymbols
  · rw [if_pos hMem] at hRows
    have hCovered : ∀ time ∈ alignment.alignedTimes.getD [], time ∈ openTimes
        (windowCandles request plan.interval ((candlesBySymbol symbol).getD [])) := by
      cases hTimes : alignment.alignedTimes with
      | none => simp
      | some times => exact hAligned.covered times hTimes symbol hMem
    constructor
    · exact (congrArg (map (·.openTime)) hRows).trans (map_openTime_filterMap hCovered)
    · intro candle hCandle
      have hTaken : candle ∈ (alignment.alignedTimes.getD []).filterMap (candleAt
        (windowCandles request plan.interval ((candlesBySymbol symbol).getD []))) := hRows ▸ hCandle
      obtain ⟨time, -, hAt⟩ := mem_filterMap.mp hTaken
      obtain ⟨hWindow, hPass⟩ := mem_filter.mp (candleAt_eq_some hAt).1
      have hGiven := (SortByKey.perm_sort _ _).mem_iff.mp hWindow
      cases hCandles : candlesBySymbol symbol with
      | none =>
        rw [hCandles] at hGiven
        cases hGiven
      | some candles =>
        rw [hCandles] at hGiven
        simp only [Bool.and_eq_true, decide_eq_true_eq] at hPass
        exact ⟨candles, rfl, hGiven, hPass.1.1.2, hPass.1.2, hPass.2⟩
  · rw [if_neg hMem, filterMap_candleAt_nil] at hRows
    exact absurd hRows hSome

theorem AlignedRows.length {symbol : String} (hRows : AlignedRows request candlesBySymbol data symbol) :
    (data.rows symbol).length = data.times.length := by
  rw [← hRows.times, length_map]

theorem validTradeAt_of_tradeAt (hBounds : request.minWeight ≤ request.maxWeight)
    (hAligned : ∀ symbol, data.rows symbol ≠ [] → AlignedRows request candlesBySymbol data symbol)
    (hRoom : index + 1 + data.holding < data.times.length)
    (hFound : tradeAt request data levels index tradeIndex = .ok (some (trade, leaving))) :
    AlignedRows request candlesBySymbol data trade.symbol ∧
      ValidTradeAt request data trade index leaving.index := by
  obtain ⟨top, next, -, hExit, hLater, -, hBuilt⟩ := tradeAt_eq_some_iff.mp hFound
  simp only [buildTrade, bind_eq_bind, bind_eq_some_iff] at hBuilt
  obtain ⟨entryCandle, hEntry, exitCandle, hExitCandle, feature, -, signalTime, hSignal,
    entryTime, hEntryTime, exitTime, hExitAt, hBuilt⟩ := hBuilt
  split at hBuilt
  · cases hBuilt
  · cases hBuilt
    have hRows := hAligned top.symbol (fun hNone => by rw [hNone] at hEntry; cases hEntry)
    have hExits := exitsByRule_of_crossAssetExitIndex hEntry (hRows.length ▸ hRoom) hExit
    exact ⟨hRows,
      { signalTime := hSignal
        entryTime := hEntryTime
        exitTime := hExitAt
        entryPrice := by rw [hEntry, map_some]
        exitPrice := by rw [hExitCandle, map_some]
        later := hLater
        held := hExits.index_le
        exitReason := hExits
        weight := crossAssetWeight_between hBounds _ _ _ _
        net := sub_mul _ _ _ }⟩

end Trades

section Loop
variable {request : CrossAssetResearchRequest} {data : CrossAssetData} {levels : RunLevels}
  {candlesBySymbol : String → Option (List Candle)} {index : Nat} {state next : ResearchState}

/-- The trades so far are valid. With one active position they follow one
another, and the loop waits until the last of them has ended. -/
structure TradesValid (request : CrossAssetResearchRequest)
    (candlesBySymbol : String → Option (List Candle)) (data : CrossAssetData)
    (state : ResearchState) : Prop where
  valid : ∀ trade ∈ state.trades, AlignedRows request candlesBySymbol data trade.symbol ∧
    ∃ signalIndex exitIndex, ValidTradeAt request data trade signalIndex exitIndex
  apart : request.oneActivePosition = true →
    state.trades.Pairwise fun earlier later => earlier.exitTime < later.signalTime
  ended : request.oneActivePosition = true → ∀ trade ∈ state.trades, ∀ index time,
    state.nextAvailableIndex ≤ index → data.times[index]? = some time → trade.exitTime < time

theorem time_lt_of_index_lt (hIncreasing : data.times.Pairwise (· < ·)) {later : Nat}
    {time laterTime : DateTime} (hTime : data.times[index]? = some time)
    (hLater : data.times[later]? = some laterTime) (hLess : index < later) : time < laterTime := by
  obtain ⟨_, rfl⟩ := List.getElem?_eq_some_iff.mp hTime
  obtain ⟨_, rfl⟩ := List.getElem?_eq_some_iff.mp hLater
  exact List.pairwise_iff_getElem.mp hIncreasing _ _ _ _ hLess

variable {trade : CrossAssetPortfolioTrade}

theorem TradesValid.record (hIncreasing : data.times.Pairwise (· < ·))
    (hValid : TradesValid request candlesBySymbol data state)
    (hFree : ¬(request.oneActivePosition = true ∧ index < state.nextAvailableIndex))
    {leaving : CrossAssetExit} (hRows : AlignedRows request candlesBySymbol data trade.symbol)
    (hTrade : ValidTradeAt request data trade index leaving.index) :
    TradesValid request candlesBySymbol data (state.record request (some (trade, leaving))) where
  valid := by
    intro other hOther
    rcases mem_append.mp hOther with hBefore | hLast
    · exact hValid.valid other hBefore
    · rw [mem_singleton.mp hLast]
      exact ⟨hRows, index, leaving.index, hTrade⟩
  apart := by
    intro hOne
    have hReached : state.nextAvailableIndex ≤ index := not_lt.mp fun hBusy => hFree ⟨hOne, hBusy⟩
    apply pairwise_append.mpr
    refine ⟨hValid.apart hOne, pairwise_singleton _ _, ?_⟩
    intro earlier hEarlier last hLast
    rw [mem_singleton.mp hLast]
    exact hValid.ended hOne earlier hEarlier index _ hReached hTrade.signalTime
  ended := by
    intro hOne other hOther later time hLater hTime
    have hReached : state.nextAvailableIndex ≤ index := not_lt.mp fun hBusy => hFree ⟨hOne, hBusy⟩
    have hNext : leaving.index + 1 ≤ later := by
      simpa [ResearchState.record, hOne] using hLater
    have hAfter := hTrade.later
    rcases mem_append.mp hOther with hBefore | hLast
    · exact hValid.ended hOne other hBefore later time (by omega) hTime
    · rw [mem_singleton.mp hLast]
      exact time_lt_of_index_lt hIncreasing hTrade.exitTime hTime hNext

/-- The trades so far are in the order of their entries, and were decided on
before the candle of the index. -/
structure TradesInOrder (data : CrossAssetData) (index : Nat) (state : ResearchState) : Prop where
  ordered : state.trades.Pairwise fun earlier later => earlier.entryTime < later.entryTime
  reached : ∀ trade ∈ state.trades, ∃ signalIndex < index,
    data.times[signalIndex + 1]? = some trade.entryTime

theorem TradesInOrder.skip (hOrder : TradesInOrder data index state) :
    TradesInOrder data (index + 1) state where
  ordered := hOrder.ordered
  reached := fun trade hTrade =>
    let ⟨signalIndex, hBefore, hEntry⟩ := hOrder.reached trade hTrade
    ⟨signalIndex, hBefore.trans (Nat.lt_succ_self index), hEntry⟩

theorem TradesInOrder.record (hIncreasing : data.times.Pairwise (· < ·))
    (hOrder : TradesInOrder data index state) {leaving : CrossAssetExit}
    (hEntry : data.times[index + 1]? = some trade.entryTime) :
    TradesInOrder data (index + 1) (state.record request (some (trade, leaving))) where
  ordered := by
    apply pairwise_append.mpr
    refine ⟨hOrder.ordered, pairwise_singleton _ _, ?_⟩
    intro earlier hEarlier last hLast
    rw [mem_singleton.mp hLast]
    obtain ⟨signalIndex, hBefore, hEarlierEntry⟩ := hOrder.reached earlier hEarlier
    exact time_lt_of_index_lt hIncreasing hEarlierEntry hEntry (Nat.succ_lt_succ hBefore)
  reached := by
    intro other hOther
    rcases mem_append.mp hOther with hBefore | hLast
    · exact hOrder.skip.reached other hBefore
    · rw [mem_singleton.mp hLast]
      exact ⟨index, Nat.lt_succ_self index, hEntry⟩

theorem researchStep_keeps (hIncreasing : data.times.Pairwise (· < ·))
    (hBounds : request.minWeight ≤ request.maxWeight)
    (hAligned : ∀ symbol, data.rows symbol ≠ [] → AlignedRows request candlesBySymbol data symbol)
    (hRoom : index + 1 + data.holding < data.times.length)
    (hKept : TradesValid request candlesBySymbol data state ∧ TradesInOrder data index state)
    (hStep : researchStep request data levels state index = .ok next) :
    TradesValid request candlesBySymbol data next ∧ TradesInOrder data (index + 1) next := by
  obtain ⟨hValid, hOrder⟩ := hKept
  rcases researchStep_cases hStep with ⟨-, rfl⟩ | ⟨hFree, found, hFound, rfl⟩
  · exact ⟨hValid, hOrder.skip⟩
  · cases found with
    | none => exact ⟨hValid, hOrder.skip⟩
    | some pair =>
      obtain ⟨trade, leaving⟩ := pair
      obtain ⟨hRows, hTrade⟩ := validTradeAt_of_tradeAt hBounds hAligned hRoom hFound
      exact ⟨hValid.record hIncreasing hFree hRows hTrade,
        hOrder.record hIncreasing hTrade.entryTime⟩

end Loop

theorem trades_kept {floats : FloatArithmetic} {request : CrossAssetResearchRequest}
    {candlesBySymbol : String → Option (List Candle)} {trades : List CrossAssetPortfolioTrade}
    (hRun : runCrossAssetRelativeStrengthResearch floats request candlesBySymbol = .ok trades) :
    ∃ data state index, prepareCrossAssetData floats request candlesBySymbol = .ok data ∧
      state.trades = trades ∧ TradesValid request candlesBySymbol data state ∧
      TradesInOrder data index state := by
  simp only [runCrossAssetRelativeStrengthResearch, bind_eq_ok, pure_eq_ok] at hRun
  obtain ⟨data, hPrepared, final, hLoop, rfl⟩ := hRun
  obtain ⟨plan, -, -, hPlan, -⟩ := prepareCrossAssetData_eq_ok hPrepared
  have hIncreasing := (dataSound_of_prepare hPrepared).increasing
  have hValid : TradesValid request candlesBySymbol data ⟨[], 0⟩ :=
    ⟨fun _ hNone => absurd hNone not_mem_nil, fun _ => List.Pairwise.nil,
      fun _ _ hNone => absurd hNone not_mem_nil⟩
  have hOrder : TradesInOrder data data.requiredLookback ⟨[], 0⟩ :=
    ⟨List.Pairwise.nil, fun _ hNone => absurd hNone not_mem_nil⟩
  have hFinal := foldlM_range'_invariant
    (I := fun index state =>
      TradesValid request candlesBySymbol data state ∧ TradesInOrder data index state)
    (fun index state next hAfter hBefore hKept hStep =>
      researchStep_keeps hIncreasing (weights_of_researchPlan hPlan)
        (alignedRows_of_prepare hPrepared) (by omega) hKept hStep) ⟨hValid, hOrder⟩ hLoop
  exact ⟨data, final, _, hPrepared, rfl, hFinal⟩

end AegisQuant.Research
