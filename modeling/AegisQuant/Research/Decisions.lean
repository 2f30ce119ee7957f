import AegisQuant.Research.CrossAssetNoLookAhead

/-! The candles at which a cross-asset run decides. With one active position it
skips those that a position is held over, so whether it decides at a candle
follows from the positions before it; every trade is the position of a candle
that it decides at, and the run fails where one of them cannot be left. -/
namespace AegisQuant.Research
open Fallible List Option

/-- What is bought after a candle, and until when. -/
structure Position where
  symbol : String
  entryPrice : Decimal
  exitPrice : Decimal
  weight : Decimal
  exitIndex : Nat

/-- The position that is taken at the candle of `index`, if the run decides
there. -/
def positionAt (request : CrossAssetResearchRequest) (data : CrossAssetData) (levels : RunLevels)
    (index : Nat) : Option Position := do
  let (top, _) ← selectAt request request.lookupSymbols data.features index levels.basketVolThreshold
  let exit ← (crossAssetExitIndex request data.holding (data.rows top.symbol)
    (index + 1)).toOption.join
  let entryCandle ← (data.rows top.symbol)[index + 1]?
  let exitCandle ← (data.rows top.symbol)[exit.index]?
  if index + 1 < exit.index ∧ 0 < entryCandle.open then
    some {
      symbol := top.symbol
      entryPrice := entryCandle.open
      exitPrice := exitCandle.open
      weight := crossAssetWeight request data.features index top.symbol levels.medianVol24h
      exitIndex := exit.index }
  else none

/-- The first candle that is not skipped after a position. -/
def nextAvailable (request : CrossAssetResearchRequest) (before : Nat) : Option Position → Nat
  | some position => if request.oneActivePosition then position.exitIndex + 1 else before
  | none => before

/-- Those of the candles that are not skipped. -/
def decidedFrom (request : CrossAssetResearchRequest) (data : CrossAssetData) (levels : RunLevels) :
    List Nat → Nat → List Nat
  | [], _ => []
  | index :: rest, nextAvailableIndex =>
    if request.oneActivePosition && index < nextAvailableIndex then
      decidedFrom request data levels rest nextAvailableIndex
    else
      index :: decidedFrom request data levels rest
        (nextAvailable request nextAvailableIndex (positionAt request data levels index))

/-- The candles that the run goes over. -/
def loopIndices (data : CrossAssetData) : List Nat :=
  range' data.requiredLookback
    (data.times.length - (data.holding + 1) - data.requiredLookback)

def decidedIndices (request : CrossAssetResearchRequest) (data : CrossAssetData)
    (levels : RunLevels) : List Nat :=
  decidedFrom request data levels (loopIndices data) 0

/-- A symbol is selected whose position has no end. -/
def FailsAt (request : CrossAssetResearchRequest) (data : CrossAssetData) (levels : RunLevels)
    (index : Nat) : Prop :=
  ∃ top second fault, selectAt request request.lookupSymbols data.features index
      levels.basketVolThreshold = some (top, second) ∧
    crossAssetExitIndex request data.holding (data.rows top.symbol) (index + 1) = .error fault

def CrossAssetPortfolioTrade.position (trade : CrossAssetPortfolioTrade) (leaving : CrossAssetExit) :
    Position where
  symbol := trade.symbol
  entryPrice := trade.entryPrice
  exitPrice := trade.exitPrice
  weight := trade.weight
  exitIndex := leaving.index

section Positions
variable {request : CrossAssetResearchRequest} {data : CrossAssetData} {levels : RunLevels}
  {index tradeIndex : Nat} {found : Option (CrossAssetPortfolioTrade × CrossAssetExit)}
  {trade : CrossAssetPortfolioTrade} {leaving : CrossAssetExit}

theorem loopIndices_room {index : Nat} (hIndex : index ∈ loopIndices data) :
    data.requiredLookback ≤ index ∧ index + 1 + data.holding < data.times.length := by
  rw [loopIndices, mem_range'_1] at hIndex
  omega

theorem mem_of_mem_decidedFrom {indices : List Nat} {nextAvailableIndex : Nat}
    (hIndex : index ∈ decidedFrom request data levels indices nextAvailableIndex) :
    index ∈ indices := by
  induction indices generalizing nextAvailableIndex with
  | nil => exact hIndex
  | cons head rest ih =>
    rw [decidedFrom] at hIndex
    split at hIndex
    · exact mem_cons_of_mem _ (ih hIndex)
    · rcases mem_cons.mp hIndex with rfl | hLater
      · exact mem_cons_self ..
      · exact mem_cons_of_mem _ (ih hLater)

theorem prices_of_buildTrade {medianVol24h : Decimal} {top second : CrossAssetScore}
    (hTrade : buildTrade request data medianVol24h index tradeIndex top second leaving = some trade) :
    ∃ entryCandle exitCandle, (data.rows top.symbol)[index + 1]? = some entryCandle ∧
      (data.rows top.symbol)[leaving.index]? = some exitCandle ∧ 0 < entryCandle.open ∧
      trade.symbol = top.symbol ∧ trade.entryPrice = entryCandle.open ∧
      trade.exitPrice = exitCandle.open ∧
      trade.weight = crossAssetWeight request data.features index top.symbol medianVol24h ∧
      trade.netPnlPct =
        (percent (trade.exitPrice / trade.entryPrice - 1) - request.drag) * trade.weight := by
  simp only [buildTrade, bind_eq_bind, bind_eq_some_iff] at hTrade
  obtain ⟨entryCandle, hEntry, exitCandle, hExit, _, -, _, -, _, -, _, -, hTrade⟩ := hTrade
  split at hTrade
  · cases hTrade
  · rename_i hPrice
    cases hTrade
    exact ⟨entryCandle, exitCandle, hEntry, hExit, not_le.mp hPrice, rfl, rfl, rfl, rfl, rfl⟩

theorem positionAt_of_some
    (hFound : tradeAt request data levels index tradeIndex = .ok (some (trade, leaving))) :
    positionAt request data levels index = some (trade.position leaving) := by
  obtain ⟨top, second, hSelected, hExit, hLater, -, hBuilt⟩ := tradeAt_eq_some_iff.mp hFound
  obtain ⟨entryCandle, exitCandle, hEntry, hLeft, hPrice, hSymbol, hEntryPrice, hExitPrice, hWeight,
    -⟩ := prices_of_buildTrade hBuilt
  simp only [positionAt, hSelected, hExit, bind_eq_bind, bind_some, Except.toOption,
    join_some, hEntry, hLeft]
  rw [if_pos ⟨hLater, hPrice⟩, CrossAssetPortfolioTrade.position, hSymbol, hEntryPrice, hExitPrice,
    hWeight]

theorem tradeAt_of_position (hSound : DataSound data) {position : Position}
    (hPosition : positionAt request data levels index = some position) (tradeIndex : Nat) :
    ∃ trade leaving, tradeAt request data levels index tradeIndex = .ok (some (trade, leaving)) := by
  simp only [positionAt, bind_eq_bind, bind_eq_some_iff, join_eq_some_iff,
    toOption_eq_some, ite_none_right_eq_some] at hPosition
  obtain ⟨⟨top, second⟩, hSelected, exit, hExit, entryCandle, hEntry, _, -, ⟨hLater, hPrice⟩, -⟩ :=
    hPosition
  obtain ⟨_, -, hLeft⟩ := crossAssetExitIndex_lt hExit
  have hEnd : exit.index < data.times.length := hLeft.trans_le (hSound.rows top.symbol)
  obtain ⟨trade, hTrade⟩ := isSome_iff_exists.mp
    ((buildTrade_isSome request levels.medianVol24h tradeIndex second hSound hEntry hLeft).mpr
      (not_le.mpr hPrice))
  exact ⟨trade, exit, tradeAt_eq_some_iff.mpr
    ⟨top, second, hSelected, hExit, hLater, hEnd, hTrade⟩⟩

/-- What the run finds at a candle is the position that is taken there. -/
theorem positionAt_of_tradeAt (hSound : DataSound data)
    (hFound : tradeAt request data levels index tradeIndex = .ok found) :
    positionAt request data levels index =
      found.map fun (trade, leaving) => trade.position leaving := by
  cases found with
  | some pair => exact positionAt_of_some hFound
  | none =>
    cases hPosition : positionAt request data levels index with
    | none => rfl
    | some position =>
      obtain ⟨trade, leaving, hTrade⟩ := tradeAt_of_position hSound hPosition tradeIndex
      rw [hFound] at hTrade
      cases hTrade

theorem tradeAt_eq_ok_iff (tradeIndex : Nat) :
    (∃ found, tradeAt request data levels index tradeIndex = .ok found) ↔
      ¬FailsAt request data levels index := by
  constructor
  · rintro ⟨found, hFound⟩ ⟨top, second, fault, hSelected, hFault⟩
    simp only [tradeAt, hSelected, hFault] at hFound
    cases hFound
  · intro hFine
    cases hSelected : selectAt request request.lookupSymbols data.features index
        levels.basketVolThreshold with
    | none => exact ⟨none, by simp only [tradeAt, hSelected]⟩
    | some pair =>
      obtain ⟨top, second⟩ := pair
      cases hExit : crossAssetExitIndex request data.holding (data.rows top.symbol) (index + 1) with
      | error fault => exact absurd ⟨top, second, fault, hSelected, hExit⟩ hFine
      | ok leaving =>
        refine ⟨leaving.bind (tradeUntil request data levels index tradeIndex top second), ?_⟩
        simp only [tradeAt, hSelected, hExit, ok_bind]
        rfl

theorem exitOnHit_eq_error_iff {rows : List Candle} {entryIndex deadline : Nat} {entry : Decimal}
    {hit : Decimal → Bool} {reason : String} {fault : Fault} :
    exitOnHit rows entryIndex deadline entry hit reason = .error fault ↔
      fault = .divisionByZero ∧ entryIndex < deadline ∧ entry = 0 := by
  unfold exitOnHit
  split
  · rename_i hZero
    simp [hZero, eq_comm]
  · rename_i hFine
    refine iff_of_false ?_ fun hZero => hFine hZero.2
    dsimp only
    split
    · simp
    · simp

/-- The stop and the profit are measured in the entry price, before it is
checked. -/
theorem crossAssetExitIndex_eq_error_iff {holding entryIndex : Nat} {rows : List Candle}
    {fault : Fault} :
    crossAssetExitIndex request holding rows entryIndex = .error fault ↔
      fault = .divisionByZero ∧ request.exitRule ≠ .fixedHold ∧
        entryIndex < min (entryIndex + holding) (rows.length - 1) ∧
        ∃ entryCandle, rows[entryIndex]? = some entryCandle ∧ entryCandle.open = 0 := by
  unfold crossAssetExitIndex
  cases hEntry : rows[entryIndex]? with
  | none => simp
  | some entryCandle =>
    cases hRule : request.exitRule with
    | fixedHold => simp
    | stopPct stopPct =>
      simp only [map_eq_error, exitOnHit_eq_error_iff]
      simp
    | takeProfitPct takeProfitPct =>
      simp only [map_eq_error, exitOnHit_eq_error_iff]
      simp

theorem nextAvailableIndex_record (state : ResearchState) :
    (state.record request found).nextAvailableIndex =
      nextAvailable request state.nextAvailableIndex
        (found.map fun (trade, leaving) => trade.position leaving) := by
  cases found with
  | none => rfl
  | some pair => rfl

end Positions

section Loop
variable {request : CrossAssetResearchRequest} {data : CrossAssetData} {levels : RunLevels}
  {state final : ResearchState} {indices : List Nat}

/-- A run succeeds unless it fails at a candle that it decides at. -/
theorem exists_foldlM_researchStep_iff (hSound : DataSound data) (indices : List Nat)
    (state : ResearchState) :
    (∃ final, indices.foldlM (researchStep request data levels) state = .ok final) ↔
      ∀ index ∈ decidedFrom request data levels indices state.nextAvailableIndex,
        ¬FailsAt request data levels index := by
  induction indices generalizing state with
  | nil => exact ⟨fun _ _ hNone => absurd hNone not_mem_nil, fun _ => ⟨state, rfl⟩⟩
  | cons index rest ih =>
    rw [foldlM_cons, decidedFrom, researchStep]
    split
    · exact ih state
    · cases hFound : tradeAt request data levels index state.trades.length with
      | error fault =>
        refine iff_of_false (by rintro ⟨final, ⟨⟩⟩) fun hFine => ?_
        obtain ⟨found, hOk⟩ := (tradeAt_eq_ok_iff state.trades.length).mpr
          (hFine index (mem_cons_self ..))
        rw [hFound] at hOk
        cases hOk
      | ok found =>
        have hHere := (tradeAt_eq_ok_iff state.trades.length).mp ⟨found, hFound⟩
        have hRest := ih (state.record request found)
        rw [nextAvailableIndex_record, ← positionAt_of_tradeAt hSound hFound] at hRest
        rw [forall_mem_cons]
        exact hRest.trans (and_iff_right hHere).symm

theorem trades_of_foldlM_researchStep (hSound : DataSound data) {Observed : Type}
    {observe : CrossAssetPortfolioTrade → Observed} {value : Position → Observed}
    (hValue : ∀ index tradeIndex trade leaving,
      tradeAt request data levels index tradeIndex = .ok (some (trade, leaving)) →
        observe trade = value (trade.position leaving))
    (hRun : indices.foldlM (researchStep request data levels) state = .ok final) :
    final.trades.map observe = state.trades.map observe ++
      ((decidedFrom request data levels indices state.nextAvailableIndex).filterMap
        (positionAt request data levels)).map value := by
  induction indices generalizing state with
  | nil =>
    rw [foldlM_nil, pure_eq_ok] at hRun
    simp [decidedFrom, hRun]
  | cons index rest ih =>
    obtain ⟨next, hStep, hRest⟩ := bind_eq_ok.mp hRun
    have hLater := ih hRest
    rcases researchStep_cases hStep with ⟨hBusy, rfl⟩ | ⟨hFree, found, hFound, rfl⟩
    · rw [decidedFrom, if_pos (by simpa using hBusy)]
      exact hLater
    · have hPosition := positionAt_of_tradeAt hSound hFound
      rw [nextAvailableIndex_record, ← hPosition] at hLater
      rw [decidedFrom, if_neg (by simpa using hFree), hLater]
      cases found with
      | none =>
        rw [filterMap_cons_none hPosition]
        rfl
      | some pair =>
        rw [filterMap_cons_some hPosition, ResearchState.record, map_append,
          map_singleton, append_assoc, hValue _ _ _ _ hFound]
        rfl

end Loop

section Run
variable {floats : FloatArithmetic} {request : CrossAssetResearchRequest} {data : CrossAssetData}
  {candlesBySymbol : String → Option (List Candle)} {trades : List CrossAssetPortfolioTrade}

theorem exists_trades_iff
    (hPrepared : prepareCrossAssetData floats request candlesBySymbol = .ok data) :
    (∃ trades, runCrossAssetRelativeStrengthResearch floats request candlesBySymbol = .ok trades) ↔
      ∀ index ∈ decidedIndices request data (runLevels floats request data),
        ¬FailsAt request data (runLevels floats request data) index := by
  have hLoop : (∃ final, (loopIndices data).foldlM
        (researchStep request data (runLevels floats request data)) ⟨[], 0⟩ = .ok final) ↔
      ∀ index ∈ decidedIndices request data (runLevels floats request data),
        ¬FailsAt request data (runLevels floats request data) index :=
    exists_foldlM_researchStep_iff (dataSound_of_prepare hPrepared) (loopIndices data) ⟨[], 0⟩
  simp only [runCrossAssetRelativeStrengthResearch, hPrepared, ok_bind, bind_eq_ok, pure_eq_ok]
  constructor
  · rintro ⟨_, final, hFinal, -⟩
    exact hLoop.mp ⟨final, hFinal⟩
  · intro hFine
    obtain ⟨final, hFinal⟩ := hLoop.mpr hFine
    exact ⟨_, final, hFinal, rfl⟩

theorem trades_of_run
    (hPrepared : prepareCrossAssetData floats request candlesBySymbol = .ok data)
    {Observed : Type} {observe : CrossAssetPortfolioTrade → Observed} {value : Position → Observed}
    (hValue : ∀ index tradeIndex trade leaving,
      tradeAt request data (runLevels floats request data) index tradeIndex =
        .ok (some (trade, leaving)) → observe trade = value (trade.position leaving))
    (hRun : runCrossAssetRelativeStrengthResearch floats request candlesBySymbol = .ok trades) :
    trades.map observe = ((decidedIndices request data (runLevels floats request data)).filterMap
      (positionAt request data (runLevels floats request data))).map value := by
  simp only [runCrossAssetRelativeStrengthResearch, hPrepared, ok_bind,
    bind_eq_ok, pure_eq_ok] at hRun
  obtain ⟨final, hFinal, rfl⟩ := hRun
  exact trades_of_foldlM_researchStep (dataSound_of_prepare hPrepared) hValue hFinal

end Run

end AegisQuant.Research
