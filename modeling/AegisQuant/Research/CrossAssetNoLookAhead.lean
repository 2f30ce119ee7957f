import AegisQuant.Research.Alignment

/-! Two research runs whose candles agree at the first aligned times. What is
decided at a candle, and every exit among these times, reads them only, up to
the levels that are computed once over the whole run. -/
namespace AegisQuant.Research
open Fallible List Option

section Locality
variable {rows : List Candle} {index k : Nat} (hIndex : index < k)
include hIndex

theorem returnOver_take (lookback : Nat) :
    returnOver (rows.take k) index lookback = returnOver rows index lookback := by
  have hEarlier : index - lookback < k := by omega
  rw [returnOver, getElem?_take_of_lt hEarlier, getElem?_take_of_lt hIndex, returnOver]

omit hIndex in
theorem hourlyReturns_take : hourlyReturns (rows.take k) = (hourlyReturns rows).take k := by
  rw [hourlyReturns, hourlyReturns, ← map_take, take_range, length_take]
  apply map_congr_left
  intro index hRange
  have hBefore := (mem_range.mp hRange).trans_le (Nat.min_le_left k rows.length)
  exact returnOver_take hBefore 1

omit hIndex in
/-- A slice that ends within the first `k` items. -/
theorem slice_take {α : Type} {items : List α} {start length : Nat} (hEnd : start + length ≤ k) :
    ((items.take k).drop start).take length = (items.drop start).take length := by
  rw [drop_take, take_take, Nat.min_eq_left (by omega)]

theorem realizedVol_take (floats : FloatArithmetic) (returns : List (Option Decimal))
    (lookback : Nat) :
    realizedVol floats (returns.take k) index lookback = realizedVol floats returns index lookback := by
  unfold realizedVol
  split
  · rfl
  · rw [slice_take (by omega)]

theorem distanceFromHighPct_take (lookback : Nat) :
    distanceFromHighPct (rows.take k) index lookback = distanceFromHighPct rows index lookback := by
  unfold distanceFromHighPct
  split
  · rw [slice_take (by omega), getElem?_take_of_lt hIndex]
  · rfl

theorem featureRow_take (floats : FloatArithmetic) (lookbacks : CrossAssetFeatureLookbacks) :
    featureRow floats lookbacks (rows.take k) index = featureRow floats lookbacks rows index := by
  simp only [featureRow, hourlyReturns_take, returnOver_take hIndex, realizedVol_take hIndex,
    distanceFromHighPct_take hIndex]

end Locality

/-- The two runs read the same up to the candle of `k`. -/
structure AgreeUntil (k : Nat) (first second : CrossAssetData) : Prop where
  holding : first.holding = second.holding
  requiredLookback : first.requiredLookback = second.requiredLookback
  timesLength : first.times.length = second.times.length
  times : first.times.take k = second.times.take k
  rowsLength : ∀ symbol, (first.rows symbol).length = (second.rows symbol).length
  rows : ∀ symbol, (first.rows symbol).take k = (second.rows symbol).take k
  features : ∀ symbol, ∀ index < k, (first.features symbol)[index]? = (second.features symbol)[index]?

/-- The levels of the run are the same as far as the request uses them. -/
structure LevelsAgree (request : CrossAssetResearchRequest) (first second : RunLevels) : Prop where
  basketVolThreshold : first.basketVolThreshold = second.basketVolThreshold
  medianVol24h : request.sizingMode = .volatilityNormalized →
    first.medianVol24h = second.medianVol24h

section Decisions
variable {request : CrossAssetResearchRequest} {first second : CrossAssetFeatures}
  {index index' : Nat} (hFeatures : ∀ symbol, (first symbol)[index]? = (second symbol)[index']?)
include hFeatures
variable (symbols : List String)

theorem basketReturnPct_congr (lookback : Nat) :
    basketReturnPct symbols first index lookback = basketReturnPct symbols second index' lookback := by
  simp only [basketReturnPct, hFeatures]

theorem basketVolDecimal_congr :
    basketVolDecimal symbols first index = basketVolDecimal symbols second index' := by
  simp only [basketVolDecimal, hFeatures]

theorem crossAssetRanking_congr :
    crossAssetRanking request symbols first index = crossAssetRanking request symbols second index' := by
  have hScore : crossAssetScore request first index = crossAssetScore request second index' := by
    funext symbol
    rw [crossAssetScore, hFeatures, crossAssetScore]
  rw [crossAssetRanking, hScore, crossAssetRanking]

theorem crossAssetMarketFilterPasses_congr :
    crossAssetMarketFilterPasses request symbols first index =
      crossAssetMarketFilterPasses request symbols second index' := by
  simp only [crossAssetMarketFilterPasses, basketReturnPct_congr hFeatures, hFeatures]

variable (threshold : Option Decimal)

theorem basketVolFilterPasses_congr : basketVolFilterPasses request symbols first index threshold =
      basketVolFilterPasses request symbols second index' threshold := by
  simp only [basketVolFilterPasses, basketVolDecimal_congr hFeatures]

theorem crossAssetVolFilterPasses_congr (selectedSymbol : String) :
    crossAssetVolFilterPasses request symbols first index selectedSymbol =
      crossAssetVolFilterPasses request symbols second index' selectedSymbol := by
  simp only [crossAssetVolFilterPasses, hFeatures]

theorem crossAssetOverextensionFilterPasses_congr (selectedSymbol : String) :
    crossAssetOverextensionFilterPasses request first index selectedSymbol =
      crossAssetOverextensionFilterPasses request second index' selectedSymbol := by
  rw [crossAssetOverextensionFilterPasses, hFeatures, crossAssetOverextensionFilterPasses]

/-- An entry is decided by the features of the candle. -/
theorem selectAt_congr : selectAt request symbols first index threshold =
      selectAt request symbols second index' threshold := by
  unfold selectAt
  rw [crossAssetMarketFilterPasses_congr hFeatures, basketVolFilterPasses_congr hFeatures,
    crossAssetRanking_congr hFeatures]
  simp only [crossAssetVolFilterPasses_congr hFeatures,
    crossAssetOverextensionFilterPasses_congr hFeatures]

theorem crossAssetWeight_congr (symbol : String) {median median' : Decimal}
    (hMedian : request.sizingMode = .volatilityNormalized → median = median') :
    crossAssetWeight request first index symbol median =
      crossAssetWeight request second index' symbol median' := by
  cases hMode : request.sizingMode with
  | equalNotional => simp only [crossAssetWeight, hMode]
  | volatilityNormalized => simp only [crossAssetWeight, hMode, hFeatures, hMedian hMode]

end Decisions

theorem getElem?_of_take_eq {α : Type} {first second : List α} {k index : Nat}
    (hAgree : first.take k = second.take k) (hIndex : index < k) : first[index]? = second[index]? := by
  rw [← getElem?_take_of_lt hIndex, hAgree, getElem?_take_of_lt hIndex]

section Exits
variable {first second : List Candle} {k entryIndex deadline : Nat} {entry : Decimal}
  {hit : Decimal → Bool} {reason : String} {found found' : CrossAssetExit}
variable {request : CrossAssetResearchRequest}

section
variable (hLength : first.length = second.length) (hRows : first.take k = second.take k)
  (hDeadline : deadline ≤ first.length - 1)
  (hFirst : exitOnHit first entryIndex deadline entry hit reason = .ok found)
  (hSecond : exitOnHit second entryIndex deadline entry hit reason = .ok found')
include hLength hRows hDeadline hFirst hSecond

/-- An exit before the candle of `k` is decided by the candles before it. -/
theorem exitOnHit_eq_of_lt (hBefore : found.index < k) : found' = found := by
  unfold exitOnHit at hFirst hSecond
  by_cases hZero : entryIndex < deadline ∧ entry = 0
  · rw [if_pos hZero] at hFirst
    cases hFirst
  rw [if_neg hZero] at hFirst hSecond
  dsimp only at hFirst hSecond
  split at hFirst
  · rename_i index hFound
    obtain ⟨hHit, hRange, hMissed⟩ := find?_range'_eq_some.mp hFound
    have hWithin := mem_range'_1.mp hRange
    have hNext : min (index + 1) (first.length - 1) = index + 1 := Nat.min_eq_left (by omega)
    rw [hNext] at hFirst
    cases hFirst
    have hIndex : index + 1 < k := hBefore
    have hSame : (range' entryIndex (deadline - entryIndex)).find? (fun index =>
        hit (percent ((second[index]?.map (·.close)).getD 0 / entry - 1))) = some index := by
      apply find?_range'_eq_some.mpr
      refine ⟨?_, hRange, ?_⟩
      · rw [← getElem?_of_take_eq hRows (by omega)]
        exact hHit
      · intro earlier hAfter hEarlier
        rw [← getElem?_of_take_eq hRows (by omega)]
        exact hMissed earlier hAfter hEarlier
    rw [hSame, ← hLength] at hSecond
    cases hSecond
    rw [hNext]
  · rename_i hNone
    cases hFirst
    have hEnd : deadline < k := hBefore
    have hSame : (range' entryIndex (deadline - entryIndex)).find? (fun index =>
        hit (percent ((second[index]?.map (·.close)).getD 0 / entry - 1))) = none := by
      rw [find?_range'_eq_none] at hNone ⊢
      intro index hAfter hIndex
      rw [← getElem?_of_take_eq hRows (by omega)]
      exact hNone index hAfter hIndex
    rw [hSame] at hSecond
    cases hSecond
    rfl

theorem exitOnHit_agree : found = found' ∨ k ≤ found.index ∧ k ≤ found'.index := by
  by_cases hBefore : found.index < k
  · exact .inl (exitOnHit_eq_of_lt hLength hRows hDeadline hFirst hSecond hBefore).symm
  · by_cases hBefore' : found'.index < k
    · exact .inl (exitOnHit_eq_of_lt hLength.symm hRows.symm (hLength ▸ hDeadline) hSecond hFirst
        hBefore')
    · exact .inr ⟨not_lt.mp hBefore, not_lt.mp hBefore'⟩

end

theorem exitOnHit_index_le (hDeadline : deadline ≤ first.length - 1)
    (hFirst : exitOnHit first entryIndex deadline entry hit reason = .ok found) :
    found.index ≤ first.length - 1 := by
  unfold exitOnHit at hFirst
  split at hFirst
  · cases hFirst
  · dsimp only at hFirst
    split at hFirst
    · cases hFirst
      exact Nat.min_le_right _ _
    · cases hFirst
      exact hDeadline

variable {holding : Nat}

/-- The deadline alone decides, or the first hit of a rule does. -/
theorem crossAssetExitIndex_cases {entryCandle : Candle} {leaving : Option CrossAssetExit}
    (hEntry : first[entryIndex]? = some entryCandle)
    (hExit : crossAssetExitIndex request holding first entryIndex = .ok leaving) :
    let deadline := min (entryIndex + holding) (first.length - 1)
    ∃ found, leaving = some found ∧
      ((request.exitRule = .fixedHold ∧ found = ⟨deadline, "fixed_hold"⟩) ∨
        (∃ stopPct, request.exitRule = .stopPct stopPct ∧
          exitOnHit first entryIndex deadline entryCandle.open (fun pnlPct => pnlPct ≤ -stopPct)
            "stop_pct" = .ok found) ∨
        ∃ takeProfitPct, request.exitRule = .takeProfitPct takeProfitPct ∧
          exitOnHit first entryIndex deadline entryCandle.open
            (fun pnlPct => takeProfitPct ≤ pnlPct) "take_profit_pct" = .ok found) := by
  simp only [crossAssetExitIndex, hEntry] at hExit
  cases hRule : request.exitRule with
  | fixedHold =>
    simp only [hRule] at hExit
    cases hExit
    exact ⟨_, rfl, .inl ⟨rfl, rfl⟩⟩
  | stopPct stopPct =>
    simp only [hRule, map_eq_ok] at hExit
    obtain ⟨found, hFound, rfl⟩ := hExit
    exact ⟨found, rfl, .inr (.inl ⟨stopPct, rfl, hFound⟩)⟩
  | takeProfitPct takeProfitPct =>
    simp only [hRule, map_eq_ok] at hExit
    obtain ⟨found, hFound, rfl⟩ := hExit
    exact ⟨found, rfl, .inr (.inr ⟨takeProfitPct, rfl, hFound⟩)⟩

/-- After an entry before the candle of `k`, both runs leave alike or both
leave from that candle on. -/
theorem crossAssetExitIndex_agree (hLength : first.length = second.length)
    (hRows : first.take k = second.take k) (hEntry : entryIndex < k)
    {leaving leaving' : Option CrossAssetExit}
    (hFirst : crossAssetExitIndex request holding first entryIndex = .ok leaving)
    (hSecond : crossAssetExitIndex request holding second entryIndex = .ok leaving') :
    leaving = leaving' ∨ ∃ found found', leaving = some found ∧ leaving' = some found' ∧
      k ≤ found.index ∧ k ≤ found'.index := by
  have hSame := getElem?_of_take_eq hRows hEntry
  cases hCandle : first[entryIndex]? with
  | none =>
    rw [hCandle] at hSame
    simp only [crossAssetExitIndex, hCandle, ← hSame] at hFirst hSecond
    exact .inl (Except.ok.inj (hFirst.symm.trans hSecond))
  | some entryCandle =>
    rw [hCandle] at hSame
    have hDeadline := Nat.min_le_right (entryIndex + holding) (first.length - 1)
    simp only [crossAssetExitIndex, hCandle, ← hSame, ← hLength] at hFirst hSecond
    cases hRule : request.exitRule with
    | fixedHold =>
      simp only [hRule] at hFirst hSecond
      exact .inl (Except.ok.inj (hFirst.symm.trans hSecond))
    | stopPct stopPct =>
      simp only [hRule, map_eq_ok] at hFirst hSecond
      obtain ⟨found, hHit, rfl⟩ := hFirst
      obtain ⟨found', hHit', rfl⟩ := hSecond
      exact (exitOnHit_agree hLength hRows hDeadline hHit hHit').imp (congrArg some)
        fun hLate => ⟨found, found', rfl, rfl, hLate⟩
    | takeProfitPct takeProfitPct =>
      simp only [hRule, map_eq_ok] at hFirst hSecond
      obtain ⟨found, hHit, rfl⟩ := hFirst
      obtain ⟨found', hHit', rfl⟩ := hSecond
      exact (exitOnHit_agree hLength hRows hDeadline hHit hHit').imp (congrArg some)
        fun hLate => ⟨found, found', rfl, rfl, hLate⟩

theorem crossAssetExitIndex_lt
    (hExit : crossAssetExitIndex request holding first entryIndex = .ok (some found)) :
    ∃ entryCandle, first[entryIndex]? = some entryCandle ∧ found.index < first.length := by
  cases hCandle : first[entryIndex]? with
  | none =>
    simp only [crossAssetExitIndex, hCandle] at hExit
    cases hExit
  | some entryCandle =>
    refine ⟨entryCandle, rfl, ?_⟩
    obtain ⟨hEntry, -⟩ := List.getElem?_eq_some_iff.mp hCandle
    have hDeadline := Nat.min_le_right (entryIndex + holding) (first.length - 1)
    have hLast : found.index ≤ first.length - 1 := by
      obtain ⟨_, hSame, ⟨-, rfl⟩ | ⟨_, -, hHit⟩ | ⟨_, -, hHit⟩⟩ :=
        crossAssetExitIndex_cases hCandle hExit
      · cases hSame
        exact hDeadline
      · cases hSame
        exact exitOnHit_index_le hDeadline hHit
      · cases hSame
        exact exitOnHit_index_le hDeadline hHit
    omega

end Exits

/-- The aligned times increase, no symbol has more candles than there are
times, and every candle has its features. -/
structure DataSound (data : CrossAssetData) : Prop where
  increasing : data.times.Pairwise (· < ·)
  rows : ∀ symbol, (data.rows symbol).length ≤ data.times.length
  features : ∀ symbol, (data.features symbol).length = (data.rows symbol).length

/-- The trade ends before the aligned time of `k`, or there is no such time. -/
def settledBefore (times : List DateTime) (k : Nat) (trade : CrossAssetPortfolioTrade) : Bool :=
  times[k]?.all fun time => trade.exitTime < time

section Trades
variable {request : CrossAssetResearchRequest} {first second data : CrossAssetData}
  {levels levels' : RunLevels} {index tradeIndex k : Nat} {top next : CrossAssetScore}
  {found : Option (CrossAssetPortfolioTrade × CrossAssetExit)}

theorem buildTrade_congr (hAgree : AgreeUntil k first second)
    (hLevels : LevelsAgree request levels levels') {found : CrossAssetExit}
    (hEntry : index + 1 < k) (hExit : found.index < k) :
    buildTrade request first levels.medianVol24h index tradeIndex top next found =
      buildTrade request second levels'.medianVol24h index tradeIndex top next found := by
  have hIndex : index < k := by omega
  have hFeatures symbol := hAgree.features symbol index hIndex
  unfold buildTrade
  rw [getElem?_of_take_eq (hAgree.rows top.symbol) hEntry,
    getElem?_of_take_eq (hAgree.rows top.symbol) hExit, hFeatures,
    getElem?_of_take_eq hAgree.times hIndex, getElem?_of_take_eq hAgree.times hEntry,
    getElem?_of_take_eq hAgree.times hExit, crossAssetWeight_congr hFeatures _ hLevels.medianVol24h]
  simp only [basketReturnPct_congr hFeatures, basketVolPct, basketVolDecimal_congr hFeatures]

/-- With the exit in range, only the entry price decides whether there is a
trade. -/
theorem buildTrade_isSome (request : CrossAssetResearchRequest) (medianVol24h : Decimal)
    (tradeIndex : Nat) (next : CrossAssetScore) (hSound : DataSound data) {entryCandle : Candle}
    (hEntry : (data.rows top.symbol)[index + 1]? = some entryCandle) {found : CrossAssetExit}
    (hExit : found.index < (data.rows top.symbol).length) :
    (buildTrade request data medianVol24h index tradeIndex top next found).isSome ↔
      ¬entryCandle.open ≤ 0 := by
  obtain ⟨hBefore, -⟩ := List.getElem?_eq_some_iff.mp hEntry
  have hTimes := hSound.rows top.symbol
  have hFeature : index < (data.features top.symbol).length := by
    rw [hSound.features]
    omega
  unfold buildTrade
  rw [hEntry, getElem?_eq_getElem hExit, getElem?_eq_getElem hFeature,
    getElem?_eq_getElem (show index < data.times.length by omega),
    getElem?_eq_getElem (show index + 1 < data.times.length by omega),
    getElem?_eq_getElem (show found.index < data.times.length by omega)]
  by_cases hPrice : entryCandle.open ≤ 0
  · simp [hPrice]
  · simp [hPrice]

variable {trade : CrossAssetPortfolioTrade}

theorem exitTime_of_buildTrade {medianVol24h : Decimal} {found : CrossAssetExit}
    (hTrade : buildTrade request data medianVol24h index tradeIndex top next found = some trade) :
    data.times[found.index]? = some trade.exitTime := by
  simp only [buildTrade, bind_eq_bind, bind_eq_some_iff] at hTrade
  obtain ⟨entryCandle, -, exitCandle, -, feature, -, signalTime, -, entryTime, -, exitTime, hExitTime,
    hTrade⟩ := hTrade
  split at hTrade
  · cases hTrade
  · cases hTrade
    exact hExitTime

/-- A symbol is selected, its exit found, and the trade made between. -/
theorem tradeAt_eq_ok (hFound : tradeAt request data levels index tradeIndex = .ok found) :
    selectAt request request.lookupSymbols data.features index levels.basketVolThreshold = none ∧
      found = none ∨
    ∃ top next leaving, selectAt request request.lookupSymbols data.features index
        levels.basketVolThreshold = some (top, next) ∧
      crossAssetExitIndex request data.holding (data.rows top.symbol) (index + 1) = .ok leaving ∧
      found = leaving.bind (tradeUntil request data levels index tradeIndex top next) := by
  unfold tradeAt at hFound
  split at hFound
  · rename_i hNone
    cases hFound
    exact .inl ⟨hNone, rfl⟩
  · rename_i top next hSelected
    obtain ⟨leaving, hLeaving, hFound⟩ := bind_eq_ok.mp hFound
    rw [pure_eq_ok] at hFound
    exact .inr ⟨top, next, leaving, hSelected, hLeaving, hFound.symm⟩

theorem tradeAt_eq_some_iff {leaving : CrossAssetExit} :
    tradeAt request data levels index tradeIndex = .ok (some (trade, leaving)) ↔
      ∃ top second, selectAt request request.lookupSymbols data.features index
          levels.basketVolThreshold = some (top, second) ∧
        crossAssetExitIndex request data.holding (data.rows top.symbol) (index + 1) =
          .ok (some leaving) ∧
        index + 1 < leaving.index ∧ leaving.index < data.times.length ∧
        buildTrade request data levels.medianVol24h index tradeIndex top second leaving =
          some trade := by
  constructor
  · intro hFound
    rcases tradeAt_eq_ok hFound with ⟨-, hNone⟩ | ⟨top, second, exit, hSelected, hExit, hSome⟩
    · cases hNone
    · obtain ⟨taken, rfl, hTrade⟩ := bind_eq_some_iff.mp hSome.symm
      simp only [tradeUntil, ite_none_left_eq_some, map_eq_some_iff, Prod.mk.injEq] at hTrade
      obtain ⟨hRange, built, hBuilt, rfl, rfl⟩ := hTrade
      exact ⟨top, second, hSelected, hExit, by omega, by omega, hBuilt⟩
  · rintro ⟨top, second, hSelected, hExit, hLater, hEnd, hBuilt⟩
    have hRange : ¬(leaving.index ≤ index + 1 ∨ data.times.length ≤ leaving.index) := by omega
    simp only [tradeAt, hSelected, hExit, ok_bind, bind_some, tradeUntil,
      if_neg hRange, hBuilt, map_some]
    rfl

theorem tradeAt_eq_some {leaving : CrossAssetExit}
    (hFound : tradeAt request data levels index tradeIndex = .ok (some (trade, leaving))) :
    index + 1 < leaving.index ∧ data.times[leaving.index]? = some trade.exitTime := by
  obtain ⟨top, next, -, -, hLater, -, hBuilt⟩ := tradeAt_eq_some_iff.mp hFound
  exact ⟨hLater, exitTime_of_buildTrade hBuilt⟩

theorem tradeUntil_late (levels : RunLevels) (tradeIndex : Nat) (next : CrossAssetScore)
    (hSound : DataSound data) (hEntry : index + 1 < k) {exit : CrossAssetExit}
    (hExit : crossAssetExitIndex request data.holding (data.rows top.symbol) (index + 1) =
      .ok (some exit)) (hLate : k ≤ exit.index) :
    ∃ entryCandle, (data.rows top.symbol)[index + 1]? = some entryCandle ∧
      (tradeUntil request data levels index tradeIndex top next exit = none ∧ entryCandle.open ≤ 0 ∨
        (∃ trade, tradeUntil request data levels index tradeIndex top next exit =
          some (trade, exit)) ∧ ¬entryCandle.open ≤ 0) := by
  obtain ⟨entryCandle, hCandle, hBound⟩ := crossAssetExitIndex_lt hExit
  have hRows := hSound.rows top.symbol
  have hRange : ¬(exit.index ≤ index + 1 ∨ data.times.length ≤ exit.index) := by omega
  have hSome := buildTrade_isSome request levels.medianVol24h tradeIndex next hSound hCandle hBound
  refine ⟨entryCandle, hCandle, ?_⟩
  rw [tradeUntil, if_neg hRange]
  cases hTrade : buildTrade request data levels.medianVol24h index tradeIndex top next exit with
  | none =>
    rw [hTrade] at hSome
    exact .inl ⟨rfl, not_not.mp fun hPrice => Bool.false_ne_true (hSome.mpr hPrice)⟩
  | some trade =>
    rw [hTrade] at hSome
    exact .inr ⟨⟨trade, rfl⟩, hSome.mp rfl⟩

/-- The same finding, or two trades that leave late. -/
def FoundAlike (k : Nat) (found found' : Option (CrossAssetPortfolioTrade × CrossAssetExit)) :
    Prop :=
  found = found' ∨ ∃ trade exit trade' exit', found = some (trade, exit) ∧
    found' = some (trade', exit') ∧ k ≤ exit.index ∧ k ≤ exit'.index

/-- Both runs enter on the same candle, so both trades are made or none is. -/
theorem foundAlike_of_late (hAgree : AgreeUntil k first second) (hFirst : DataSound first)
    (hSecond : DataSound second) (hEntry : index + 1 < k) (tradeIndex : Nat)
    (next : CrossAssetScore) {exit exit' : CrossAssetExit}
    (hExit : crossAssetExitIndex request first.holding (first.rows top.symbol) (index + 1) =
      .ok (some exit))
    (hExit' : crossAssetExitIndex request second.holding (second.rows top.symbol) (index + 1) =
      .ok (some exit')) (hLate : k ≤ exit.index) (hLate' : k ≤ exit'.index) :
    FoundAlike k (tradeUntil request first levels index tradeIndex top next exit)
      (tradeUntil request second levels' index tradeIndex top next exit') := by
  obtain ⟨entryCandle, hCandle, hMade⟩ :=
    tradeUntil_late levels tradeIndex next hFirst hEntry hExit hLate
  obtain ⟨entryCandle', hCandle', hMade'⟩ :=
    tradeUntil_late levels' tradeIndex next hSecond hEntry hExit' hLate'
  rw [getElem?_of_take_eq (hAgree.rows top.symbol) hEntry, hCandle'] at hCandle
  cases hCandle
  rcases hMade with ⟨hNone, hPrice⟩ | ⟨⟨trade, hTrade⟩, hPrice⟩
  · rcases hMade' with ⟨hNone', -⟩ | ⟨-, hPrice'⟩
    · exact .inl (hNone.trans hNone'.symm)
    · exact absurd hPrice hPrice'
  · rcases hMade' with ⟨-, hPrice'⟩ | ⟨⟨trade', hTrade'⟩, -⟩
    · exact absurd hPrice' hPrice
    · exact .inr ⟨trade, exit, trade', exit', hTrade, hTrade', hLate, hLate'⟩

/-- What is decided and entered before the candle of `k`. -/
theorem tradeAt_agree (hAgree : AgreeUntil k first second)
    (hLevels : LevelsAgree request levels levels') (hFirst : DataSound first)
    (hSecond : DataSound second) (hEntry : index + 1 < k)
    {found found' : Option (CrossAssetPortfolioTrade × CrossAssetExit)}
    (hFound : tradeAt request first levels index tradeIndex = .ok found)
    (hFound' : tradeAt request second levels' index tradeIndex = .ok found') :
    FoundAlike k found found' := by
  have hSame : selectAt request request.lookupSymbols first.features index
      levels'.basketVolThreshold = selectAt request request.lookupSymbols second.features index
        levels'.basketVolThreshold :=
    selectAt_congr (fun symbol => hAgree.features symbol index (Nat.lt_of_succ_lt hEntry)) _ _
  rcases tradeAt_eq_ok hFound with ⟨hNone, rfl⟩ | ⟨top, next, leaving, hSelected, hLeaving, rfl⟩
  · rcases tradeAt_eq_ok hFound' with ⟨-, rfl⟩ | ⟨_, _, _, hSelected', -⟩
    · exact .inl rfl
    · rw [hLevels.basketVolThreshold, hSame, hSelected'] at hNone
      cases hNone
  · rw [hLevels.basketVolThreshold, hSame] at hSelected
    rcases tradeAt_eq_ok hFound' with ⟨hNone', -⟩ | ⟨_, _, leaving', hSelected', hLeaving', rfl⟩
    · rw [hNone'] at hSelected
      cases hSelected
    · cases hSelected.symm.trans hSelected'
      have hExits := hLeaving
      rw [hAgree.holding] at hExits
      rcases crossAssetExitIndex_agree (hAgree.rowsLength top.symbol) (hAgree.rows top.symbol) hEntry
        hExits hLeaving' with rfl | ⟨exit, exit', rfl, rfl, hLate, hLate'⟩
      · cases leaving with
        | none => exact .inl (bind_none _)
        | some exit =>
          rw [bind_some, bind_some]
          by_cases hBefore : exit.index < k
          · refine .inl ?_
            rw [tradeUntil, tradeUntil, hAgree.timesLength,
              buildTrade_congr hAgree hLevels hEntry hBefore]
          · exact foundAlike_of_late hAgree hFirst hSecond hEntry tradeIndex next hLeaving hLeaving'
              (not_lt.mp hBefore) (not_lt.mp hBefore)
      · rw [bind_some, bind_some]
        exact foundAlike_of_late hAgree hFirst hSecond hEntry tradeIndex next hLeaving hLeaving' hLate
          hLate'

theorem settledBefore_iff (hIncreasing : data.times.Pairwise (· < ·)) {exitIndex : Nat}
    (hExit : data.times[exitIndex]? = some trade.exitTime) :
    settledBefore data.times k trade = true ↔ exitIndex < k := by
  obtain ⟨hBound, hTime⟩ := List.getElem?_eq_some_iff.mp hExit
  rw [settledBefore, ← hTime]
  cases hLast : data.times[k]? with
  | none =>
    have hLength := getElem?_eq_none_iff.mp hLast
    simp only [all_none, true_iff]
    omega
  | some time =>
    obtain ⟨hWithin, rfl⟩ := List.getElem?_eq_some_iff.mp hLast
    have hOrder := List.pairwise_iff_getElem.mp hIncreasing
    simp only [Option.all_some, decide_eq_true_eq]
    constructor
    · intro hBefore
      by_contra hLate
      rcases (not_lt.mp hLate).lt_or_eq with hLater | rfl
      · exact lt_asymm hBefore (hOrder k exitIndex hWithin hBound hLater)
      · exact lt_irrefl _ hBefore
    · exact hOrder exitIndex k hBound hWithin

end Trades

/-- The two loops before the candle of `index`: the same settled trades, and as
long as a trade can still be settled, the same number of trades and the same
waiting. -/
structure LoopAgree (k : Nat) (first second : CrossAssetData) (index : Nat)
    (state other : ResearchState) : Prop where
  settled : state.trades.filter (settledBefore first.times k) =
    other.trades.filter (settledBefore second.times k)
  pending : index + 1 < k → state.trades.length = other.trades.length ∧
    (state.nextAvailableIndex = other.nextAvailableIndex ∨
      k ≤ state.nextAvailableIndex ∧ k ≤ other.nextAvailableIndex)

section Loop
variable {request : CrossAssetResearchRequest} {first second data : CrossAssetData}
  {levels levels' : RunLevels} {index k : Nat} {state other next next' : ResearchState}

/-- A step waits for the exit of the open trade, or it records what it finds. -/
theorem researchStep_cases (hStep : researchStep request data levels state index = .ok next) :
    (request.oneActivePosition = true ∧ index < state.nextAvailableIndex) ∧ next = state ∨
    ¬(request.oneActivePosition = true ∧ index < state.nextAvailableIndex) ∧
      ∃ found, tradeAt request data levels index state.trades.length = .ok found ∧
        next = state.record request found := by
  simp only [researchStep, Bool.and_eq_true, decide_eq_true_eq] at hStep
  split at hStep
  · rename_i hBusy
    cases hStep
    exact .inl ⟨hBusy, rfl⟩
  · rename_i hFree
    obtain ⟨found, hFound, rfl⟩ := map_eq_ok.mp hStep
    exact .inr ⟨hFree, found, hFound, rfl⟩

theorem filter_append_settled (hSound : DataSound data) {trade : CrossAssetPortfolioTrade}
    {exit : CrossAssetExit} {tradeIndex : Nat}
    (hFound : tradeAt request data levels index tradeIndex = .ok (some (trade, exit)))
    (trades : List CrossAssetPortfolioTrade) :
    (trades ++ [trade]).filter (settledBefore data.times k) =
      trades.filter (settledBefore data.times k) ++ if exit.index < k then [trade] else [] := by
  have hSettled := settledBefore_iff (k := k) hSound.increasing (tradeAt_eq_some hFound).2
  rw [filter_append]
  split
  · rename_i hBefore
    rw [filter_cons_of_pos (hSettled.mpr hBefore), filter_nil]
  · rename_i hLate
    rw [filter_cons_of_neg (fun hHolds => hLate (hSettled.mp hHolds)), filter_nil]

/-- When the entry is on the candle of `k` or later, nothing is settled. -/
theorem settled_of_late (hSound : DataSound data) (hLate : k ≤ index + 1)
    (hStep : researchStep request data levels state index = .ok next) :
    next.trades.filter (settledBefore data.times k) =
      state.trades.filter (settledBefore data.times k) := by
  rcases researchStep_cases hStep with ⟨-, rfl⟩ | ⟨-, found, hFound, rfl⟩
  · rfl
  · cases found with
    | none => rfl
    | some pair =>
      have hAfter := (tradeAt_eq_some hFound).1
      rw [ResearchState.record, filter_append_settled hSound hFound, if_neg (by omega), append_nil]

/-- What two loops at the same place find is recorded alike. -/
theorem LoopAgree.record (hFirst : DataSound first) (hSecond : DataSound second)
    (hLoop : LoopAgree k first second index state other) (hEarly : index + 1 < k)
    {found found' : Option (CrossAssetPortfolioTrade × CrossAssetExit)} {tradeIndex : Nat}
    (hFound : tradeAt request first levels index tradeIndex = .ok found)
    (hFound' : tradeAt request second levels' index tradeIndex = .ok found')
    (hSame : FoundAlike k found found') :
    LoopAgree k first second (index + 1) (state.record request found)
      (other.record request found') := by
  obtain ⟨hCount, hWaiting⟩ := hLoop.pending hEarly
  rcases hSame with rfl | ⟨trade, exit, trade', exit', rfl, rfl, hBehind, hBehind'⟩
  · cases found with
    | none => exact ⟨hLoop.settled, fun _ => ⟨hCount, hWaiting⟩⟩
    | some pair =>
      refine ⟨?_, fun _ => ⟨?_, ?_⟩⟩
      · rw [ResearchState.record, ResearchState.record, filter_append_settled hFirst hFound,
          filter_append_settled hSecond hFound', hLoop.settled]
      · rw [ResearchState.record, ResearchState.record, length_append, length_append, hCount]
      · simp only [ResearchState.record]
        split
        · exact .inl rfl
        · exact hWaiting
  · refine ⟨?_, fun _ => ⟨?_, ?_⟩⟩
    · rw [ResearchState.record, ResearchState.record, filter_append_settled hFirst hFound,
        filter_append_settled hSecond hFound', hLoop.settled, if_neg (not_lt.mpr hBehind),
        if_neg (not_lt.mpr hBehind')]
    · simp only [ResearchState.record, length_append, length_singleton, hCount]
    · simp only [ResearchState.record]
      split
      · exact .inr ⟨by omega, by omega⟩
      · exact hWaiting

theorem LoopAgree.step (hAgree : AgreeUntil k first second)
    (hLevels : LevelsAgree request levels levels') (hFirst : DataSound first)
    (hSecond : DataSound second) (hLoop : LoopAgree k first second index state other)
    (hStep : researchStep request first levels state index = .ok next)
    (hStep' : researchStep request second levels' other index = .ok next') :
    LoopAgree k first second (index + 1) next next' := by
  by_cases hLate : k ≤ index + 1
  · refine ⟨?_, fun hEarly => by omega⟩
    rw [settled_of_late hFirst hLate hStep, settled_of_late hSecond hLate hStep', hLoop.settled]
  · have hEarly := not_le.mp hLate
    obtain ⟨hCount, hWaiting⟩ := hLoop.pending hEarly
    have hBusy : index < state.nextAvailableIndex ↔ index < other.nextAvailableIndex := by
      rcases hWaiting with hSame | ⟨hBehind, hBehind'⟩
      · rw [hSame]
      · omega
    rcases researchStep_cases hStep with ⟨⟨hOne, hWaits⟩, rfl⟩ | ⟨hFree, found, hFound, rfl⟩
    · rcases researchStep_cases hStep' with ⟨-, rfl⟩ | ⟨hFree', -⟩
      · exact ⟨hLoop.settled, fun _ => ⟨hCount, hWaiting⟩⟩
      · exact absurd ⟨hOne, hBusy.mp hWaits⟩ hFree'
    · rcases researchStep_cases hStep' with ⟨⟨hOne, hWaits⟩, -⟩ | ⟨-, found', hFound', rfl⟩
      · exact absurd ⟨hOne, hBusy.mpr hWaits⟩ hFree
      · rw [← hCount] at hFound'
        exact hLoop.record hFirst hSecond hEarly hFound hFound'
          (tradeAt_agree hAgree hLevels hFirst hSecond hEarly hFound hFound')

end Loop

section Preparation
variable {floats : FloatArithmetic} {request : CrossAssetResearchRequest}
  {candlesBySymbol first second : String → Option (List Candle)} {data data' : CrossAssetData}

theorem prepareCrossAssetData_eq_ok
    (hPrepared : prepareCrossAssetData floats request candlesBySymbol = .ok data) :
    ∃ plan alignment expected, researchPlan request = .ok plan ∧
      Aligned request plan.interval candlesBySymbol request.lookupSymbols alignment ∧
      plan.interval.candlesBetween request.startTime request.endTime = .ok expected ∧
      data.times.length = expected ∧
      data = alignedData floats plan request.lookupSymbols alignment := by
  simp only [prepareCrossAssetData, bind_eq_ok, mapError_eq_ok, pure_eq_ok] at hPrepared
  obtain ⟨plan, hPlan, alignment, hAlignment, expected, hExpected, _, hCoverage, rfl⟩ := hPrepared
  simp only [checkCoverage, bind_eq_ok, require_eq_ok, decide_eq_true_eq] at hCoverage
  exact ⟨plan, alignment, expected, hPlan, aligned_of_foldlM hAlignment, hExpected,
    hCoverage.choose_spec.1, rfl⟩

theorem interval_of_researchPlan {plan : ResearchPlan} (hPlan : researchPlan request = .ok plan) :
    request.parsedTimeframe = .ok plan.interval := by
  simp only [researchPlan, bind_eq_ok, pure_eq_ok] at hPlan
  obtain ⟨_, -, interval, hInterval, _, -, _, -, _, -, _, -, _, -, rfl⟩ := hPlan
  exact hInterval

theorem dataSound_of_prepare
    (hPrepared : prepareCrossAssetData floats request candlesBySymbol = .ok data) :
    DataSound data := by
  obtain ⟨plan, alignment, -, -, hAligned, -, -, rfl⟩ := prepareCrossAssetData_eq_ok hPrepared
  refine ⟨?_, fun symbol => length_takeRows_le _ _ (fun _ => Nat.zero_le _) symbol, ?_⟩
  · cases hTimes : alignment.alignedTimes with
    | none => simp [alignedData, hTimes]
    | some times => simpa [alignedData, hTimes] using hAligned.increasing times hTimes
  · intro symbol
    simp only [alignedData, computeCrossAssetFeatures, length_map, length_range]

theorem features_of_rowsAgree {rows rows' : String → List Candle} {k : Nat}
    (hRows : ∀ symbol, RowsAgree k (rows symbol) (rows' symbol))
    (lookbacks : CrossAssetFeatureLookbacks) (symbol : String) {index : Nat} (hIndex : index < k) :
    (computeCrossAssetFeatures floats rows lookbacks symbol)[index]? =
      (computeCrossAssetFeatures floats rows' lookbacks symbol)[index]? := by
  have hRow : featureRow floats lookbacks (rows symbol) index =
      featureRow floats lookbacks (rows' symbol) index := by
    rw [← featureRow_take hIndex, (hRows symbol).take, featureRow_take hIndex]
  simp only [computeCrossAssetFeatures, getElem?_map, (hRows symbol).length]
  cases hRange : (range (rows' symbol).length)[index]? with
  | none => rfl
  | some found =>
    obtain ⟨hBound, hFound⟩ := List.getElem?_eq_some_iff.mp hRange
    rw [getElem_range] at hFound
    rw [← hFound, map_some, map_some, hRow]

theorem rowsAgree_of_candles {k : Nat} {times times' : List DateTime} {candles candles' : List Candle}
    (hLength : times.length = times'.length) (hTimes : times.take k = times'.take k)
    (hCovered : ∀ time ∈ times, time ∈ openTimes candles)
    (hCovered' : ∀ time ∈ times', time ∈ openTimes candles')
    (hCandles : ∀ time ∈ times.take k, candleAt candles time = candleAt candles' time) :
    RowsAgree k (times.filterMap (candleAt candles)) (times'.filterMap (candleAt candles')) := by
  have hRows := map_some_filterMap fun time hTime => candleAt_isSome (hCovered time hTime)
  have hRows' := map_some_filterMap fun time hTime => candleAt_isSome (hCovered' time hTime)
  constructor
  · have hCount := congrArg length hRows
    have hCount' := congrArg length hRows'
    rw [length_map, length_map] at hCount hCount'
    rw [hCount, hCount', hLength]
  · apply map_injective_iff.mpr (some_injective Candle)
    rw [map_take, hRows, map_take, hRows', ← map_take, ← map_take, ← hTimes]
    exact map_congr_left hCandles

theorem agreeUntil_of_candles {k : Nat} {interval : CandleInterval}
    (hInterval : request.parsedTimeframe = .ok interval)
    (hFirst : prepareCrossAssetData floats request first = .ok data)
    (hSecond : prepareCrossAssetData floats request second = .ok data')
    (hTimes : data.times.take k = data'.times.take k)
    (hCandles : ∀ symbol ∈ request.lookupSymbols, ∀ time ∈ data.times.take k,
      candleAt (windowCandles request interval ((first symbol).getD [])) time =
        candleAt (windowCandles request interval ((second symbol).getD [])) time) :
    AgreeUntil k data data' := by
  obtain ⟨plan, alignment, expected, hPlan, hAligned, hExpected, hCount, rfl⟩ :=
    prepareCrossAssetData_eq_ok hFirst
  obtain ⟨plan', alignment', expected', hPlan', hAligned', hExpected', hCount', rfl⟩ :=
    prepareCrossAssetData_eq_ok hSecond
  cases hPlan.symm.trans hPlan'
  cases hExpected.symm.trans hExpected'
  cases hInterval.symm.trans (interval_of_researchPlan hPlan)
  have hLength := Int.ofNat_inj.mp (hCount.trans hCount'.symm)
  have hCovered {candlesBySymbol : String → Option (List Candle)} {alignment : Alignment}
      (hDone : Aligned request plan.interval candlesBySymbol request.lookupSymbols alignment)
      {symbol : String} (hSymbol : symbol ∈ request.lookupSymbols) :
      ∀ time ∈ alignment.alignedTimes.getD [],
        time ∈ openTimes (windowCandles request plan.interval ((candlesBySymbol symbol).getD [])) := by
    cases hSet : alignment.alignedTimes with
    | none => simp
    | some times => exact hDone.covered times hSet symbol hSymbol
  have hRows : ∀ symbol, RowsAgree k
      ((alignedData floats plan request.lookupSymbols alignment).rows symbol)
      ((alignedData floats plan request.lookupSymbols alignment').rows symbol) := by
    apply takeRows_agree
    · intro symbol
      rw [hAligned.normalized, hAligned'.normalized]
      by_cases hSymbol : symbol ∈ request.lookupSymbols
      · rw [if_pos hSymbol, if_pos hSymbol]
        exact rowsAgree_of_candles hLength hTimes (hCovered hAligned hSymbol)
          (hCovered hAligned' hSymbol) (hCandles symbol hSymbol)
      · rw [if_neg hSymbol, if_neg hSymbol, filterMap_candleAt_nil, filterMap_candleAt_nil]
        exact ⟨rfl, rfl⟩
    · exact fun _ => ⟨rfl, rfl⟩
  exact ⟨rfl, rfl, hLength, hTimes, fun symbol => (hRows symbol).length,
    fun symbol => (hRows symbol).take,
    fun symbol index hIndex => features_of_rowsAgree hRows plan.lookbacks symbol hIndex⟩

end Preparation

/-- No look-ahead beyond the levels of the run. Two runs of a request whose
candles agree at the first `k` aligned times settle the same trades before
the next one, if they have the same volatility threshold and, when it is used,
the same median volatility. -/
theorem cross_asset_settled_trades_agree (floats : FloatArithmetic)
    (request : CrossAssetResearchRequest) {interval : CandleInterval}
    (hInterval : request.parsedTimeframe = .ok interval)
    {first second : String → Option (List Candle)} {data data' : CrossAssetData}
    (hFirst : prepareCrossAssetData floats request first = .ok data)
    (hSecond : prepareCrossAssetData floats request second = .ok data') {k : Nat}
    (hTimes : data.times.take k = data'.times.take k)
    (hCandles : ∀ symbol ∈ request.lookupSymbols, ∀ time ∈ data.times.take k,
      candleAt (windowCandles request interval ((first symbol).getD [])) time =
        candleAt (windowCandles request interval ((second symbol).getD [])) time)
    (hThreshold : basketVolThreshold floats request data.features =
      basketVolThreshold floats request data'.features)
    (hMedian : request.sizingMode = .volatilityNormalized →
      medianAssetVol24h floats request.lookupSymbols data.features =
        medianAssetVol24h floats request.lookupSymbols data'.features)
    {trades trades' : List CrossAssetPortfolioTrade}
    (hRun : runCrossAssetRelativeStrengthResearch floats request first = .ok trades)
    (hRun' : runCrossAssetRelativeStrengthResearch floats request second = .ok trades') :
    trades.filter (settledBefore data.times k) = trades'.filter (settledBefore data'.times k) := by
  have hAgree := agreeUntil_of_candles hInterval hFirst hSecond hTimes hCandles
  have hLevels : LevelsAgree request (runLevels floats request data)
      (runLevels floats request data') := by
    refine ⟨hThreshold, fun hMode => ?_⟩
    rw [runLevels, runLevels, hMedian hMode]
  simp only [runCrossAssetRelativeStrengthResearch, hFirst, hSecond, ok_bind,
    bind_eq_ok, pure_eq_ok] at hRun hRun'
  obtain ⟨final, hLoop, rfl⟩ := hRun
  obtain ⟨final', hLoop', rfl⟩ := hRun'
  rw [← hAgree.timesLength, ← hAgree.requiredLookback, ← hAgree.holding] at hLoop'
  have hStart : LoopAgree k data data' data.requiredLookback ⟨[], 0⟩ ⟨[], 0⟩ :=
    ⟨rfl, fun _ => ⟨rfl, .inl rfl⟩⟩
  exact (foldlM_range'_related (R := LoopAgree k data data')
    (fun _ _ _ _ _ hBefore hStep hStep' => hBefore.step hAgree hLevels
      (dataSound_of_prepare hFirst) (dataSound_of_prepare hSecond) hStep hStep')
    hStart hLoop hLoop').settled

def sampleFloats : FloatArithmetic where
  sqrt variance := some ((Nat.sqrt (variance * 10 ^ 30).floor.toNat : Decimal) / 10 ^ 15)
  rank last percentile := last * percentile / 100
  difference left right := some (left - right)

def sampleRequest (percentile : Decimal) : CrossAssetResearchRequest where
  symbols := ["BTCUSDT", "ETHUSDT"]
  timeframe := "4h"
  startTime := 0
  endTime := CandleInterval.fourHours.duration * 22
  rankingLookbackHours := 24
  rankMetric := .rawReturn
  minTopReturnPct := -100
  minRankSpreadPct := 0
  holdingHours := 4
  feeBps := 0
  slippageBps := 0
  oneActivePosition := true
  sizingMode := .volatilityNormalized
  minWeight := 1 / 4
  maxWeight := 1
  marketFilter := .none
  volFilter := .basketVolBelowPercentile percentile
  overextensionFilter := .none
  exitRule := .fixedHold

def sampleTimes : List DateTime :=
  (range 22).map fun index : Nat => CandleInterval.fourHours.duration * index

def sampleCandle (index : Nat) (close : Decimal) : Candle where
  symbol := .btcusdt
  interval := .fourHours
  openTime := CandleInterval.fourHours.duration * index
  closeTime := CandleInterval.fourHours.duration * (index + 1) - DateTime.milliseconds 1
  «open» := 100
  high := 200
  low := 100
  close := close
  volume := 1
  quoteVolume := none
  tradeCount := 1
  isClosed := true

def sampleRows (lastClose : Decimal) : List Candle :=
  ((range 21).map fun index => sampleCandle index (if index % 2 = 0 then 100 else 200)) ++
    [sampleCandle 21 lastClose]

def sampleCandles (lastClose : Decimal) (symbol : String) : Option (List Candle) :=
  if symbol ∈ ["BTCUSDT", "ETHUSDT"] then some (sampleRows lastClose) else none

theorem sampleCandles_agree (percentile : Decimal) :
    ∀ symbol ∈ (sampleRequest percentile).lookupSymbols, ∀ time ∈ sampleTimes.take 21,
      candleAt (windowCandles (sampleRequest percentile) .fourHours
          ((sampleCandles 100 symbol).getD [])) time =
        candleAt (windowCandles (sampleRequest percentile) .fourHours
          ((sampleCandles 200 symbol).getD [])) time := by
  have hWindow : ∀ lastClose ∈ ([100, 200] : List Decimal),
      windowCandles (sampleRequest 0) .fourHours (sampleRows lastClose) = sampleRows lastClose := by
    decide +kernel
  have hSame : ∀ time ∈ sampleTimes.take 21,
      candleAt (sampleRows 100) time = candleAt (sampleRows 200) time := by
    decide +kernel
  have hSymbols : ∀ symbol ∈ (sampleRequest percentile).lookupSymbols,
      symbol ∈ ["BTCUSDT", "ETHUSDT"] := by
    have hListed : ∀ symbol ∈ (sampleRequest 0).lookupSymbols, symbol ∈ ["BTCUSDT", "ETHUSDT"] := by
      decide +kernel
    exact hListed
  intro symbol hSymbol time hTime
  rw [sampleCandles, if_pos (hSymbols symbol hSymbol), sampleCandles,
    if_pos (hSymbols symbol hSymbol), getD_some, getD_some]
  calc
    _ = candleAt (sampleRows 100) time := congrArg (candleAt · time) (hWindow 100 (by simp))
    _ = candleAt (sampleRows 200) time := hSame time hTime
    _ = _ := congrArg (candleAt · time) (hWindow 200 (by simp)).symm

/-- Under the greatest volatility of either run, both trade alike. -/
theorem cross_asset_settled_trades_agree_sample : ∃ trades trades',
      runCrossAssetRelativeStrengthResearch sampleFloats (sampleRequest 100) (sampleCandles 100) =
        .ok trades ∧
      runCrossAssetRelativeStrengthResearch sampleFloats (sampleRequest 100) (sampleCandles 200) =
        .ok trades' ∧
      trades.filter (settledBefore sampleTimes 21) = trades'.filter (settledBefore sampleTimes 21) := by
  have hFirst : (prepareCrossAssetData sampleFloats (sampleRequest 100) (sampleCandles 100)).toOption.map
      (fun data => (data.times, basketVolThreshold sampleFloats (sampleRequest 100) data.features,
        medianAssetVol24h sampleFloats (sampleRequest 100).lookupSymbols data.features)) =
      some (sampleTimes, some (3 / 4), some (3 / 4)) := by
    decide +kernel
  have hSecond : (prepareCrossAssetData sampleFloats (sampleRequest 100) (sampleCandles 200)).toOption.map
      (fun data => (data.times, basketVolThreshold sampleFloats (sampleRequest 100) data.features,
        medianAssetVol24h sampleFloats (sampleRequest 100).lookupSymbols data.features)) =
      some (sampleTimes, some (3 / 4), some (3 / 4)) := by
    decide +kernel
  have hRuns : ∀ lastClose ∈ ([100, 200] : List Decimal), (runCrossAssetRelativeStrengthResearch
      sampleFloats (sampleRequest 100) (sampleCandles lastClose)).toOption.isSome = true := by
    decide +kernel
  obtain ⟨data, hData, hFigures⟩ := map_eq_some_iff.mp hFirst
  obtain ⟨data', hData', hFigures'⟩ := map_eq_some_iff.mp hSecond
  obtain ⟨trades, hTrades⟩ := isSome_iff_exists.mp (hRuns 100 (by simp))
  obtain ⟨trades', hTrades'⟩ := isSome_iff_exists.mp (hRuns 200 (by simp))
  rw [toOption_eq_some] at hData hData' hTrades hTrades'
  simp only [Prod.mk.injEq] at hFigures hFigures'
  obtain ⟨hTimes, hThreshold, hMedian⟩ := hFigures
  obtain ⟨hTimes', hThreshold', hMedian'⟩ := hFigures'
  have hInterval : (sampleRequest 100).parsedTimeframe = .ok .fourHours := by decide +kernel
  have hSettled := cross_asset_settled_trades_agree sampleFloats (sampleRequest 100) hInterval hData
    hData' (k := 21) (by rw [hTimes, hTimes']) (hTimes ▸ sampleCandles_agree 100)
    (hThreshold.trans hThreshold'.symm)
    (fun _ => hMedian.trans hMedian'.symm) hTrades hTrades'
  rw [hTimes, hTimes'] at hSettled
  exact ⟨trades, trades', hTrades, hTrades', hSettled⟩

/-- The threshold is the percentile over the whole run: after the same 21
candles, the last one decides whether an earlier trade is made. -/
theorem later_candle_moves_threshold :
    ¬∀ (request : CrossAssetResearchRequest) (interval : CandleInterval)
      (first second : String → Option (List Candle)) (data data' : CrossAssetData) (k : Nat)
      (trades trades' : List CrossAssetPortfolioTrade),
      request.parsedTimeframe = .ok interval →
      prepareCrossAssetData sampleFloats request first = .ok data →
      prepareCrossAssetData sampleFloats request second = .ok data' →
      data.times.take k = data'.times.take k →
      (∀ symbol ∈ request.lookupSymbols, ∀ time ∈ data.times.take k,
        candleAt (windowCandles request interval ((first symbol).getD [])) time =
          candleAt (windowCandles request interval ((second symbol).getD [])) time) →
      runCrossAssetRelativeStrengthResearch sampleFloats request first = .ok trades →
      runCrossAssetRelativeStrengthResearch sampleFloats request second = .ok trades' →
      trades.filter (settledBefore data.times k) = trades'.filter (settledBefore data'.times k) := by
  intro hNoLookAhead
  have hPrepared : ∀ lastClose ∈ ([100, 200] : List Decimal),
      (prepareCrossAssetData sampleFloats (sampleRequest 0) (sampleCandles lastClose)).toOption.map
        (·.times) = some sampleTimes := by
    decide +kernel
  have hFirst : (runCrossAssetRelativeStrengthResearch sampleFloats (sampleRequest 0)
      (sampleCandles 100)).toOption.map
        (fun trades => (trades.filter (settledBefore sampleTimes 21)).length) = some 0 := by
    decide +kernel
  have hSecond : (runCrossAssetRelativeStrengthResearch sampleFloats (sampleRequest 0)
      (sampleCandles 200)).toOption.map
        (fun trades => (trades.filter (settledBefore sampleTimes 21)).length) = some 1 := by
    decide +kernel
  have hInterval : (sampleRequest 0).parsedTimeframe = .ok .fourHours := by decide +kernel
  obtain ⟨data, hData, hTimes⟩ := map_eq_some_iff.mp (hPrepared 100 (by simp))
  obtain ⟨data', hData', hTimes'⟩ := map_eq_some_iff.mp (hPrepared 200 (by simp))
  obtain ⟨trades, hTrades, hNone⟩ := map_eq_some_iff.mp hFirst
  obtain ⟨trades', hTrades', hOne⟩ := map_eq_some_iff.mp hSecond
  rw [toOption_eq_some] at hData hData' hTrades hTrades'
  have hSame := hNoLookAhead (sampleRequest 0) .fourHours (sampleCandles 100) (sampleCandles 200) data
    data' 21 trades trades' hInterval hData hData' (by rw [hTimes, hTimes'])
    (hTimes ▸ sampleCandles_agree 0) hTrades hTrades'
  rw [hTimes, hTimes'] at hSame
  rw [hSame, hOne] at hNone
  cases hNone

end AegisQuant.Research
