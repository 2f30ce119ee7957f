import AegisQuant.Library.Folds
import AegisQuant.Research.CheckedRun
import AegisQuant.Research.Decisions
import AegisQuant.Research.ShadowAgreement

/-! The partial operations of the cross-asset run are guarded, but for one. Each
step before and after the loop reads in range and divides by what is not zero,
and so does each turn of the loop up to its exit, so the run agrees with the
one whose only fault is a stop or a profit that is measured in a price of zero. -/
namespace AegisQuant.Research

/-- The position of a percentile lies in the list. -/
def FloatArithmetic.RankInRange (floats : FloatArithmetic) : Prop :=
  ∀ last percentile, 0 ≤ percentile → percentile ≤ 100 →
    0 ≤ floats.rank last percentile ∧ floats.rank last percentile ≤ last

namespace Checked
open Fallible SortByKey List Option

section Operations
variable {α : Type} {items : List α}

theorem item_of_getElem? {index : Nat} {value : α} (hValue : items[index]? = some value) :
    item items index = .ok value := by
  rw [item, hValue]
  rfl

theorem slice_of_le {start stop : Nat} (hStart : start ≤ stop) (hStop : stop ≤ items.length) :
    slice items start stop = .ok ((items.drop start).take (stop - start)) :=
  if_pos ⟨hStart, hStop⟩

theorem checkedDiv_of_ne {left right : Decimal} (hRight : right ≠ 0) :
    checkedDiv left right = .ok (left / right) :=
  if_neg hRight

theorem integerDiv_of_ne {left right : Int} (hRight : right ≠ 0) :
    integerDiv left right = .ok (left.tdiv right) :=
  if_neg hRight

theorem basketMean_eq {values : List Decimal} (hSome : values ≠ []) :
    basketMean values = .ok (Research.basketMean values) :=
  checkedDiv_of_ne (Nat.cast_ne_zero.mpr (length_pos_iff.mpr hSome).ne')

theorem clamp_hundred (value : Decimal) : 0 ≤ clamp 0 100 value ∧ clamp 0 100 value ≤ 100 :=
  clamp_between (by norm_num) value

section
variable {floats : FloatArithmetic} (hRank : floats.RankInRange) (values : List Decimal)
include hRank

theorem percentileDecimal_eq (percentileValue : Decimal) :
    percentileDecimal floats values percentileValue =
      .ok (Research.percentileDecimal floats values percentileValue) := by
  unfold percentileDecimal Research.percentileDecimal
  split
  · rfl
  · rename_i hSome
    have hLength : (sort id values).length = values.length :=
      (perm_sort id values).length_eq
    have hPositive : 0 < values.length :=
      length_pos_iff.mpr fun hNone => hSome (by rw [hNone]; rfl)
    obtain ⟨hLow, hHigh⟩ := hRank (values.length - 1) (clamp 0 100 percentileValue)
      (clamp_hundred percentileValue).1 (clamp_hundred percentileValue).2
    dsimp only
    generalize floats.rank (values.length - 1) (clamp 0 100 percentileValue) = rank at hLow hHigh ⊢
    have hCeil : rank.ceil.toNat ≤ values.length - 1 := by
      rw [Int.toNat_le]
      exact Rat.ceil_le_iff.mpr (by exact_mod_cast hHigh)
    have hFloor : rank.floor.toNat ≤ rank.ceil.toNat :=
      Int.toNat_le_toNat (Int.cast_le.mp (rank.floor_le.trans Rat.le_ceil))
    have hLower := getElem?_eq_getElem
      (show rank.floor.toNat < (sort id values).length by omega)
    have hUpper := getElem?_eq_getElem
      (show rank.ceil.toNat < (sort id values).length by omega)
    split
    · rfl
    · rw [item_of_getElem? hLower, item_of_getElem? hUpper, hLower, hUpper]
      cases floats.difference rank.ceil.toNat rank with
      | none => rfl
      | some lowerWeight =>
        cases floats.difference rank rank.floor.toNat with
        | none => rfl
        | some upperWeight => rfl

theorem medianDecimalVec_eq :
    medianDecimalVec floats values = .ok (Research.medianDecimalVec floats values) := by
  rw [medianDecimalVec, percentileDecimal_eq hRank]
  rfl

end

end Operations

section Features
variable {floats : FloatArithmetic} {candles : List Candle} {index lookback : Nat}
variable {lookbacks : CrossAssetFeatureLookbacks}

theorem returnOver_eq (hIndex : index < candles.length) (lookback : Nat) :
    returnOver candles index lookback = .ok (Research.returnOver candles index lookback) := by
  unfold returnOver Research.returnOver
  split
  · rfl
  · have hPrevious := getElem?_eq_getElem (show index - lookback < candles.length by omega)
    have hCurrent := getElem?_eq_getElem hIndex
    rw [item_of_getElem? hPrevious, item_of_getElem? hCurrent, hPrevious, hCurrent, ok_bind]
    dsimp only [bind_eq_bind, bind_some]
    split
    · rename_i hPositive
      rw [ok_bind, checkedDiv_of_ne hPositive.ne']
      rfl
    · rfl

theorem hourlyReturns_eq (candles : List Candle) :
    hourlyReturns candles = .ok (Research.hourlyReturns candles) :=
  mapM_eq_ok_map fun _ hIndex => returnOver_eq (mem_range.mp hIndex) 1

theorem realizedVol_eq (hLookback : 0 < lookback) {returns : List (Option Decimal)}
    (hIndex : index < returns.length) :
    realizedVol floats index lookback returns =
      .ok (Research.realizedVol floats returns index lookback) := by
  unfold realizedVol Research.realizedVol
  split
  · rfl
  · have hSpan : index + 1 - (index + 1 - lookback) = lookback := by omega
    have hCount : (lookback : Decimal) ≠ 0 := Nat.cast_ne_zero.mpr hLookback.ne'
    rw [slice_of_le (by omega) (by omega), ok_bind, hSpan]
    cases ((returns.drop (index + 1 - lookback)).take lookback).mapM id with
    | none => rfl
    | some values =>
      dsimp only
      rw [checkedDiv_of_ne hCount, ok_bind, checkedDiv_of_ne hCount]
      rfl

theorem distanceFromHighPct_eq (hIndex : index < candles.length) (lookback : Nat) :
    distanceFromHighPct candles index lookback =
      .ok (Research.distanceFromHighPct candles index lookback) := by
  unfold distanceFromHighPct Research.distanceFromHighPct
  split
  · have hSpan : index + 1 - (index + 1 - lookback) = lookback := by omega
    have hCurrent := getElem?_eq_getElem hIndex
    rw [slice_of_le (by omega) (by omega), ok_bind, hSpan, item_of_getElem? hCurrent, hCurrent]
    dsimp only [bind_eq_bind, bind_some]
    split
    · rename_i hPositive
      rw [ok_bind, checkedDiv_of_ne hPositive.ne']
      rfl
    · rfl
  · rfl

structure LookbacksPositive (lookbacks : CrossAssetFeatureLookbacks) : Prop where
  ranking : 0 < lookbacks.ranking
  twentyFourHours : 0 < lookbacks.twentyFourHours
  seventyTwoHours : 0 < lookbacks.seventyTwoHours

section
variable (hLookbacks : LookbacksPositive lookbacks)
include hLookbacks

theorem featureRow_eq (hIndex : index < candles.length) :
    featureRow floats candles index lookbacks (Research.hourlyReturns candles) =
      .ok (Research.featureRow floats lookbacks candles index) := by
  have hReturns : index < (Research.hourlyReturns candles).length := by
    rwa [Research.hourlyReturns, length_map, length_range]
  rw [featureRow, distanceFromHighPct_eq hIndex, returnOver_eq hIndex, returnOver_eq hIndex,
    returnOver_eq hIndex, returnOver_eq hIndex, realizedVol_eq hLookbacks.twentyFourHours hReturns,
    realizedVol_eq hLookbacks.seventyTwoHours hReturns, realizedVol_eq hLookbacks.ranking hReturns]
  rfl

theorem featureRows_eq (candles : List Candle) : featureRows floats candles lookbacks =
      .ok ((range candles.length).map (Research.featureRow floats lookbacks candles)) := by
  rw [featureRows, hourlyReturns_eq, ok_bind]
  exact mapM_eq_ok_map fun _ hIndex => featureRow_eq hLookbacks (mem_range.mp hIndex)

theorem computeCrossAssetFeatures_eq {symbols : List String} {rows : String → List Candle}
    (hRows : ∀ symbol, symbol ∉ symbols → rows symbol = []) :
    computeCrossAssetFeatures floats symbols rows lookbacks =
      .ok (Research.computeCrossAssetFeatures floats rows lookbacks) := by
  have hSteps : ∀ features, ∀ symbol ∈ symbols, (do
      let found ← featureRows floats (rows symbol) lookbacks
      pure (Function.update features symbol found) : Except Fault CrossAssetFeatures) =
        .ok (Function.update features symbol
          (Research.computeCrossAssetFeatures floats rows lookbacks symbol)) := by
    intro features symbol _
    rw [featureRows_eq hLookbacks]
    rfl
  rw [computeCrossAssetFeatures, foldlM_eq_ok_foldl hSteps]
  congr 1
  funext symbol
  rw [Folds.foldl_update]
  split
  · rfl
  · rename_i hAbsent
    rw [Research.computeCrossAssetFeatures, hRows symbol hAbsent]
    rfl

end

end Features

section Selection
variable {request : CrossAssetResearchRequest} {symbols : List String}
  {features : CrossAssetFeatures} {index : Nat}

theorem crossAssetScore_eq (symbol : String) : crossAssetScore request features index symbol =
      .ok (Research.crossAssetScore request features index symbol) := by
  unfold crossAssetScore Research.crossAssetScore
  cases (features symbol)[index]? with
  | none => rfl
  | some feature =>
    cases hReturn : feature.lookbackReturn with
    | none => simp [hReturn]
    | some returnValue =>
      cases request.rankMetric with
      | rawReturn => simp [hReturn]
      | volAdjustedReturn =>
        cases hVol : feature.lookbackVol with
        | none => simp [hReturn, hVol]
        | some vol =>
          by_cases hPositive : vol ≤ 0
          · simp [hReturn, hVol, hPositive]
          · have hDiv : checkedDiv returnValue vol = .ok (returnValue / vol) :=
              checkedDiv_of_ne (not_le.mp hPositive).ne'
            simp [hReturn, hVol, hPositive, hDiv]

theorem crossAssetRanking_eq : crossAssetRanking request symbols features index =
      .ok (Research.crossAssetRanking request symbols features index) := by
  rw [crossAssetRanking, mapM_eq_ok_map fun symbol _ => crossAssetScore_eq symbol,
    ok_bind, filterMap_map, Function.id_comp]
  rfl

theorem ne_nil_of_mapM {α β : Type} {f : α → Option β} {items : List α} {values : List β}
    (hItems : items ≠ []) (hValues : items.mapM f = some values) : values ≠ [] := by
  cases items with
  | nil => exact absurd rfl hItems
  | cons item rest =>
    simp only [mapM_cons, bind_eq_bind, bind_eq_some_iff] at hValues
    obtain ⟨value, -, others, -, hValues⟩ := hValues
    cases hValues
    exact cons_ne_nil _ _

section
variable (hSymbols : symbols ≠ [])
include hSymbols

theorem basketReturnPct_eq (lookback : Nat) : basketReturnPct symbols features index lookback =
      .ok (Research.basketReturnPct symbols features index lookback) := by
  have hMean : Research.basketReturnPct symbols features index lookback =
      (basketReturns symbols features index lookback).bind fun returns =>
        some (percent (Research.basketMean returns)) := rfl
  rw [basketReturnPct, hMean]
  cases hReturns : basketReturns symbols features index lookback with
  | none => rfl
  | some returns =>
    dsimp only
    rw [basketMean_eq (ne_nil_of_mapM hSymbols hReturns)]
    rfl

theorem basketVolDecimal_eq : basketVolDecimal symbols features index =
      .ok (Research.basketVolDecimal symbols features index) := by
  unfold basketVolDecimal Research.basketVolDecimal
  split
  · rename_i hNone
    rw [hNone]
    rfl
  · rename_i vols hVols
    rw [hVols, basketMean_eq (ne_nil_of_mapM hSymbols hVols)]
    rfl

theorem basketVolPct_eq :
    basketVolPct symbols features index = .ok (Research.basketVolPct symbols features index) := by
  rw [basketVolPct, basketVolDecimal_eq hSymbols]
  rfl

theorem crossAssetMarketFilterPasses_eq :
    crossAssetMarketFilterPasses request symbols features index =
      .ok (Research.crossAssetMarketFilterPasses request symbols features index) := by
  unfold crossAssetMarketFilterPasses
  cases hFilter : request.marketFilter with
  | none => simp [Research.crossAssetMarketFilterPasses, hFilter]
  | basket72hReturnGt thresholdPct =>
    simp [Research.crossAssetMarketFilterPasses, hFilter, basketReturnPct_eq hSymbols, Except.map]
  | basket24hReturnGt thresholdPct =>
    simp [Research.crossAssetMarketFilterPasses, hFilter, basketReturnPct_eq hSymbols, Except.map]
  | atLeastNSymbolsPositive24h minSymbols => rfl

theorem basketVolFilterPasses_eq (threshold : Option Decimal) :
    basketVolFilterPasses request symbols features index threshold =
      .ok (Research.basketVolFilterPasses request symbols features index threshold) := by
  unfold basketVolFilterPasses Research.basketVolFilterPasses
  cases request.volFilter with
  | none => rfl
  | assetNotExtremeVsBasket maxRatio => rfl
  | basketVolBelowPercentile percentile =>
    dsimp only
    rw [basketVolDecimal_eq hSymbols]
    rfl

theorem crossAssetVolFilterPasses_eq (selectedSymbol : String) :
    crossAssetVolFilterPasses request symbols features index selectedSymbol =
      .ok (Research.crossAssetVolFilterPasses request symbols features index selectedSymbol) := by
  unfold crossAssetVolFilterPasses Research.crossAssetVolFilterPasses
  cases request.volFilter with
  | none => rfl
  | basketVolBelowPercentile percentile => rfl
  | assetNotExtremeVsBasket maxRatio =>
    dsimp only
    cases (features selectedSymbol)[index]?.bind (·.vol24h) with
    | none => rfl
    | some assetVol =>
      dsimp only [any_some]
      split
      · rfl
      · rename_i hAll
        rw [basketMean_eq fun hNone => hSymbols (length_eq_zero_iff.mp
          ((not_not.mp hAll).symm.trans (length_eq_zero_iff.mpr hNone)))]
        rfl

end

theorem crossAssetWeight_eq (symbol : String) (medianVol24h : Decimal) :
    crossAssetWeight request features index symbol medianVol24h =
      .ok (Research.crossAssetWeight request features index symbol medianVol24h) := by
  unfold crossAssetWeight Research.crossAssetWeight
  cases request.sizingMode with
  | equalNotional => rfl
  | volatilityNormalized =>
    dsimp only
    cases (features symbol)[index]?.bind (·.vol24h) with
    | none => rfl
    | some vol =>
      dsimp only
      split
      · rfl
      · rename_i hPositive
        rw [checkedDiv_of_ne (not_le.mp (not_or.mp hPositive).1).ne']
        rfl

theorem selectAt_eq (hTwo : 2 ≤ symbols.length) (threshold : Option Decimal) :
    selectAt request symbols features index threshold =
      .ok (Research.selectAt request symbols features index threshold) := by
  have hSymbols : symbols ≠ [] := ne_nil_of_length_pos (by omega)
  unfold selectAt Research.selectAt
  rw [crossAssetMarketFilterPasses_eq hSymbols, ok_bind]
  split
  · rfl
  · rw [basketVolFilterPasses_eq hSymbols, ok_bind]
    split
    · rfl
    · rw [crossAssetRanking_eq, ok_bind]
      dsimp only
      split
      · rfl
      · rename_i hAll
        cases hRanking : Research.crossAssetRanking request symbols features index with
        | nil => exact absurd (hRanking ▸ show 0 < symbols.length by omega) hAll
        | cons top rest => cases rest with
          | nil => exact absurd (hRanking ▸ show 1 < symbols.length by omega) hAll
          | cons second rest =>
            rw [item_of_getElem? (show (top :: second :: rest)[0]? = some top from rfl),
              item_of_getElem? (show (top :: second :: rest)[1]? = some second from rfl),
              ok_bind, ok_bind, crossAssetVolFilterPasses_eq hSymbols,
              ok_bind]
            dsimp only
            split
            · rfl
            · split
              · rfl
              · split
                · rfl
                · split
                  · rfl
                  · rfl

end Selection

section Exits
variable {rows : List Candle} {entryIndex deadline : Nat} {entry : Decimal} {hit : Decimal → Bool}

theorem firstHit_eq (hEntry : entry ≠ 0) {indices : List Nat}
    (hRange : ∀ index ∈ indices, index < rows.length) :
    firstHit rows entry hit indices = .ok (indices.find? fun index =>
      hit (percent ((rows[index]?.map (·.close)).getD 0 / entry - 1))) := by
  induction indices with
  | nil => rfl
  | cons index rest ih =>
    obtain ⟨hIndex, hRest⟩ := forall_mem_cons.mp hRange
    have hCandle := getElem?_eq_getElem hIndex
    rw [firstHit, item_of_getElem? hCandle, ok_bind, checkedDiv_of_ne hEntry,
      ok_bind, ih hRest, find?_cons, hCandle, map_some, getD_some]
    cases hit (percent (rows[index].close / entry - 1)) with
    | true => rfl
    | false => rfl

/-- The first close already is divided by an entry price of zero. -/
theorem exitOnHit_eq (hEntry : entryIndex < rows.length) (hDeadline : deadline ≤ rows.length)
    (reason : String) :
    exitOnHit rows entryIndex deadline entry hit reason =
      Research.exitOnHit rows entryIndex deadline entry hit reason := by
  unfold exitOnHit Research.exitOnHit
  by_cases hZero : entryIndex < deadline ∧ entry = 0
  · obtain ⟨hLater, rfl⟩ := hZero
    obtain ⟨count, hCount⟩ := Nat.exists_eq_add_of_lt hLater
    have hSpan : deadline - entryIndex = count + 1 := by omega
    rw [if_pos ⟨hLater, rfl⟩, hSpan, range'_succ, firstHit,
      item_of_getElem? (getElem?_eq_getElem hEntry)]
    rfl
  · rw [if_neg hZero]
    dsimp only
    by_cases hLater : entryIndex < deadline
    · have hRange : ∀ index ∈ range' entryIndex (deadline - entryIndex), index < rows.length := by
        intro index hIndex
        rw [mem_range'_1] at hIndex
        omega
      rw [firstHit_eq (fun hNone => hZero ⟨hLater, hNone⟩) hRange, ok_bind]
      generalize find? _ (range' entryIndex (deadline - entryIndex)) = found
      cases found with
      | none => rfl
      | some index => rfl
    · have hSpan : deadline - entryIndex = 0 := by omega
      rw [hSpan]
      rfl

theorem crossAssetExitIndex_eq (request : CrossAssetResearchRequest) (holding : Nat)
    (rows : List Candle) (entryIndex : Nat) :
    crossAssetExitIndex request holding rows entryIndex =
      Research.crossAssetExitIndex request holding rows entryIndex := by
  unfold crossAssetExitIndex Research.crossAssetExitIndex
  cases hEntry : rows[entryIndex]? with
  | none => rfl
  | some entryCandle =>
    obtain ⟨hIndex, -⟩ := List.getElem?_eq_some_iff.mp hEntry
    have hDeadline : min (entryIndex + holding) (rows.length - 1) ≤ rows.length := by omega
    cases request.exitRule with
    | fixedHold => rfl
    | stopPct stopPct =>
      dsimp only
      rw [exitOnHit_eq hIndex hDeadline]
    | takeProfitPct takeProfitPct =>
      dsimp only
      rw [exitOnHit_eq hIndex hDeadline]

end Exits

section Preparation
variable {floats : FloatArithmetic} {request : CrossAssetResearchRequest} {plan : ResearchPlan}

theorem crossAssetHoursToCandles_eq (hours : Nat) (interval : CandleInterval) :
    crossAssetHoursToCandles hours interval = Research.crossAssetHoursToCandles hours interval := by
  unfold crossAssetHoursToCandles Research.crossAssetHoursToCandles
  dsimp only
  split
  · rfl
  · rename_i hPositive
    rw [integerDiv_of_ne (by omega)]
    rfl

theorem crossAssetHoursToCandles_pos {hours count : Nat} {interval : CandleInterval}
    (hCount : Research.crossAssetHoursToCandles hours interval = .ok count) : 0 < count := by
  unfold Research.crossAssetHoursToCandles at hCount
  dsimp only at hCount
  split at hCount
  · cases hCount
  · cases hCount
    omega

theorem researchPlan_eq (request : CrossAssetResearchRequest) :
    researchPlan request = Research.researchPlan request := by
  simp only [researchPlan, crossAssetHoursToCandles_eq]
  rfl

/-- A plan that is made looks back and holds over at least a candle. -/
theorem plan_positive (hPlan : Research.researchPlan request = .ok plan) :
    LookbacksPositive plan.lookbacks ∧ 0 < plan.holding := by
  simp only [Research.researchPlan, bind_eq_ok, pure_eq_ok] at hPlan
  obtain ⟨_, -, _, -, _, hRanking, _, hHolding, _, -, _, hDay, _, hDays, rfl⟩ := hPlan
  exact ⟨⟨crossAssetHoursToCandles_pos hRanking, crossAssetHoursToCandles_pos hDay,
    crossAssetHoursToCandles_pos hDays⟩, crossAssetHoursToCandles_pos hHolding⟩

theorem two_le_lookupSymbols (hPlan : Research.researchPlan request = .ok plan) :
    2 ≤ request.lookupSymbols.length := by
  simp only [Research.researchPlan, bind_eq_ok] at hPlan
  obtain ⟨_, hValid, -⟩ := hPlan
  simp only [CrossAssetResearchRequest.validate, bind_eq_ok, require_eq_ok,
    decide_eq_true_eq] at hValid
  obtain ⟨_, hTwo, -⟩ := hValid
  rwa [CrossAssetResearchRequest.lookupSymbols, length_map]

theorem candlesBetween_eq (interval : CandleInterval) (startTime endTime : DateTime) :
    candlesBetween interval startTime endTime =
      (interval.candlesBetween startTime endTime).mapError Fault.core := by
  have hStep : interval.duration / 1000000 ≠ 0 := by
    cases interval <;> decide
  unfold candlesBetween CandleInterval.candlesBetween
  split
  · rfl
  · rw [integerDiv_of_ne hStep, ok_bind]
    dsimp only
    split
    · rfl
    · rfl

theorem prepareCrossAssetData_eq (floats : FloatArithmetic) (request : CrossAssetResearchRequest)
    (candlesBySymbol : String → Option (List Candle)) :
    prepareCrossAssetData floats request candlesBySymbol =
      Research.prepareCrossAssetData floats request candlesBySymbol := by
  unfold prepareCrossAssetData Research.prepareCrossAssetData
  rw [researchPlan_eq]
  cases hPlan : Research.researchPlan request with
  | error fault => rfl
  | ok plan =>
    have hFeatures (times : List DateTime) (normalized : String → List Candle) :
        computeCrossAssetFeatures floats request.lookupSymbols
          (takeRows times request.lookupSymbols normalized fun _ => []) plan.lookbacks =
        .ok (Research.computeCrossAssetFeatures floats
          (takeRows times request.lookupSymbols normalized fun _ => []) plan.lookbacks) :=
      computeCrossAssetFeatures_eq (plan_positive hPlan).1 fun _ hAbsent =>
        takeRows_of_not_mem hAbsent
    simp only [ok_bind, candlesBetween_eq, hFeatures]
    rfl

theorem basketVolPercentile_eq (hRank : floats.RankInRange) {symbols : List String}
    (hSymbols : symbols ≠ []) (features : CrossAssetFeatures) (percentileValue : Decimal) :
    basketVolPercentile floats symbols features percentileValue =
      .ok (Research.basketVolPercentile floats symbols features percentileValue) := by
  rw [basketVolPercentile, mapM_eq_ok_map fun index _ => basketVolDecimal_eq hSymbols,
    ok_bind, percentileDecimal_eq hRank, filterMap_map, Function.id_comp]
  rfl

theorem runLevels_eq (hRank : floats.RankInRange) (hSymbols : request.lookupSymbols ≠ [])
    (data : CrossAssetData) :
    runLevels floats request data = .ok (Research.runLevels floats request data) := by
  have hThreshold : basketVolThreshold floats request data.features =
      .ok (Research.basketVolThreshold floats request data.features) := by
    unfold basketVolThreshold Research.basketVolThreshold
    cases request.volFilter with
    | none => rfl
    | assetNotExtremeVsBasket maxRatio => rfl
    | basketVolBelowPercentile percentile => exact basketVolPercentile_eq hRank hSymbols _ _
  rw [runLevels, hThreshold, ok_bind, medianAssetVol24h, percentileDecimal_eq hRank]
  rfl

end Preparation

section Loop
variable {request : CrossAssetResearchRequest} {data : CrossAssetData} {levels : RunLevels}
  {index : Nat} {top second : CrossAssetScore} {exit : CrossAssetExit}

theorem buildTrade_eq (hSymbols : request.lookupSymbols ≠ []) (hSound : DataSound data)
    (hEntry : index + 1 < (data.rows top.symbol).length)
    (hExit : exit.index < (data.rows top.symbol).length) (medianVol24h : Decimal)
    (tradeIndex : Nat) :
    buildTrade request data medianVol24h index tradeIndex top second exit =
      .ok (Research.buildTrade request data medianVol24h index tradeIndex top second exit) := by
  have hTimes := hSound.rows top.symbol
  have hFeatures := hSound.features top.symbol
  have hEntryCandle := getElem?_eq_getElem hEntry
  have hExitCandle := getElem?_eq_getElem hExit
  have hFeature := getElem?_eq_getElem
    (show index < (data.features top.symbol).length by omega)
  have hSignalTime := getElem?_eq_getElem (show index < data.times.length by omega)
  have hEntryTime := getElem?_eq_getElem (show index + 1 < data.times.length by omega)
  have hExitTime := getElem?_eq_getElem (show exit.index < data.times.length by omega)
  unfold buildTrade Research.buildTrade
  rw [hEntryCandle, hExitCandle, hFeature, hSignalTime, hEntryTime, hExitTime,
    item_of_getElem? hEntryCandle, item_of_getElem? hExitCandle, item_of_getElem? hFeature,
    item_of_getElem? hSignalTime, item_of_getElem? hEntryTime, item_of_getElem? hExitTime]
  dsimp only [bind_eq_bind, bind_some, ok_bind]
  split
  · rfl
  · rename_i hPrice
    rw [crossAssetWeight_eq, checkedDiv_of_ne (not_le.mp hPrice).ne', basketReturnPct_eq hSymbols,
      basketReturnPct_eq hSymbols, basketVolPct_eq hSymbols]
    rfl

/-- Every turn of the loop reads in range, up to the exit of its position. -/
theorem tradeAt_eq (hTwo : 2 ≤ request.lookupSymbols.length) (hSound : DataSound data)
    (tradeIndex : Nat) :
    tradeAt request data levels index tradeIndex =
      Research.tradeAt request data levels index tradeIndex := by
  have hSymbols : request.lookupSymbols ≠ [] := ne_nil_of_length_pos (by omega)
  unfold tradeAt Research.tradeAt
  rw [selectAt_eq hTwo, ok_bind]
  cases Research.selectAt request request.lookupSymbols data.features index
      levels.basketVolThreshold with
  | none => rfl
  | some pair =>
    obtain ⟨top, second⟩ := pair
    dsimp only
    rw [crossAssetExitIndex_eq]
    cases hLeaving : Research.crossAssetExitIndex request data.holding (data.rows top.symbol)
        (index + 1) with
    | error fault => rfl
    | ok leaving =>
      cases leaving with
      | none => rfl
      | some exit =>
        obtain ⟨_, hEntry, hExit⟩ := crossAssetExitIndex_lt hLeaving
        obtain ⟨hIndex, -⟩ := List.getElem?_eq_some_iff.mp hEntry
        rw [ok_bind, ok_bind]
        dsimp only [bind_some]
        unfold tradeUntil Research.tradeUntil
        split
        · rfl
        · rw [buildTrade_eq hSymbols hSound hIndex hExit]
          rfl

theorem runCrossAssetRelativeStrengthResearch_eq {floats : FloatArithmetic}
    (hRank : floats.RankInRange) (request : CrossAssetResearchRequest)
    (candlesBySymbol : String → Option (List Candle)) :
    runCrossAssetRelativeStrengthResearch floats request candlesBySymbol =
      Research.runCrossAssetRelativeStrengthResearch floats request candlesBySymbol := by
  unfold runCrossAssetRelativeStrengthResearch Research.runCrossAssetRelativeStrengthResearch
  rw [prepareCrossAssetData_eq]
  cases hPrepared : Research.prepareCrossAssetData floats request candlesBySymbol with
  | error fault => rfl
  | ok data =>
    obtain ⟨plan, -, -, hPlan, -⟩ := prepareCrossAssetData_eq_ok hPrepared
    have hTwo := two_le_lookupSymbols hPlan
    have hStep : researchStep request data (Research.runLevels floats request data) =
        Research.researchStep request data (Research.runLevels floats request data) := by
      funext state index
      rw [researchStep, Research.researchStep, tradeAt_eq hTwo (dataSound_of_prepare hPrepared)]
    rw [ok_bind, ok_bind, runLevels_eq hRank (ne_nil_of_length_pos (by omega)), ok_bind, hStep]

end Loop

section Result
variable {floats : FloatArithmetic} {trades : List CrossAssetPortfolioTrade}

theorem equityNext_eq (scan : EquityScan) (pnlPct : Decimal) :
    equityNext scan pnlPct = .ok (scan.next pnlPct) := by
  unfold equityNext EquityScan.next
  dsimp only
  split
  · rename_i hPeak
    rw [checkedDiv_of_ne hPeak.ne']
    rfl
  · rfl

theorem crossAssetMetricSummary_eq (hRank : floats.RankInRange)
    (trades : List CrossAssetPortfolioTrade) :
    crossAssetMetricSummary floats trades =
      .ok (Research.crossAssetMetricSummary floats trades) := by
  unfold crossAssetMetricSummary Research.crossAssetMetricSummary
  split
  · rfl
  · rename_i hSome
    have hCount : (trades.length : Decimal) ≠ 0 :=
      Nat.cast_ne_zero.mpr fun hNone => hSome (isEmpty_iff_length_eq_zero.mpr hNone)
    dsimp only
    rw [checkedDiv_of_ne hCount, medianDecimalVec_eq hRank, checkedDiv_of_ne hCount,
      foldlM_eq_ok_foldl fun scan pnlPct _ => equityNext_eq scan pnlPct]
    rfl

theorem maxSymbolConcentrationPct_eq (distribution : List (String × Int)) (totalTrades : Nat) :
    maxSymbolConcentrationPct distribution totalTrades =
      .ok (Research.maxSymbolConcentrationPct distribution totalTrades) := by
  unfold maxSymbolConcentrationPct Research.maxSymbolConcentrationPct
  split
  · rfl
  · rename_i hSome
    exact checkedDiv_of_ne (Nat.cast_ne_zero.mpr hSome)

theorem crossAssetWindowsFrom_eq (hRank : floats.RankInRange) (endTime : DateTime) (index : Int)
    (cursor : DateTime) :
    crossAssetWindowsFrom floats trades endTime index cursor =
      .ok (Research.crossAssetWindowsFrom floats endTime trades index cursor) := by
  fun_induction Research.crossAssetWindowsFrom floats endTime trades index cursor with
  | case1 index cursor hRoom windowEnd ih =>
    rw [crossAssetWindowsFrom, if_pos hRoom]
    dsimp only
    rw [ih, crossAssetWindow, crossAssetMetricSummary_eq hRank]
    rfl
  | case2 index cursor hDone => rw [crossAssetWindowsFrom, if_neg hDone]

section
variable (hRank : floats.RankInRange) (runId : Uuid) (request : CrossAssetResearchRequest)
include hRank

theorem completeCrossAssetRun_eq (trades : List CrossAssetPortfolioTrade) :
    completeCrossAssetRun floats trades runId request =
      .ok (Research.completeCrossAssetRun floats runId request trades) := by
  unfold completeCrossAssetRun hasWeak2025Plus
  simp only [crossAssetWindowsFrom_eq hRank, crossAssetMetricSummary_eq hRank,
    maxSymbolConcentrationPct_eq, medianDecimalVec_eq hRank, ok_bind]
  rfl

/-- The run with its partial operations is the run whose only fault is the
division by the entry price. -/
theorem crossAssetResearchRun_eq (candlesBySymbol : String → Option (List Candle)) :
    crossAssetResearchRun floats runId request candlesBySymbol =
      Research.crossAssetResearchRun floats runId request candlesBySymbol := by
  unfold crossAssetResearchRun Research.crossAssetResearchRun
  rw [runCrossAssetRelativeStrengthResearch_eq hRank]
  cases Research.runCrossAssetRelativeStrengthResearch floats request candlesBySymbol with
  | error fault => rfl
  | ok trades => exact completeCrossAssetRun_eq hRank runId request trades

end

end Result

end Checked

end AegisQuant.Research
