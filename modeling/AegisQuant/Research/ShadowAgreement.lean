import AegisQuant.Research.ClosedBasket
import AegisQuant.Research.ShadowWindow

/-! The shadow observation and the research run decide alike. On a basket
without gaps, the preview at a candle selects a symbol exactly if the run that may
hold several positions trades it at that candle. -/
namespace AegisQuant.Research
open Fallible List Option CandleInterval

section Signal
variable {floats : FloatArithmetic} {request : CrossAssetResearchRequest} {symbols : List String}
  {features : CrossAssetFeatures} {index : Nat} {top second : CrossAssetScore}

theorem length_crossAssetRanking_le :
    (crossAssetRanking request symbols features index).length ≤ symbols.length := by
  rw [crossAssetRanking, (SortByKey.perm_sort _ _).length_eq]
  exact length_filterMap_le _ _

theorem symbol_of_crossAssetScore {symbol : String} {score : CrossAssetScore}
    (hScore : crossAssetScore request features index symbol = some score) :
    score.symbol = symbol := by
  unfold crossAssetScore at hScore
  simp only [bind_eq_bind, bind_eq_some_iff] at hScore
  obtain ⟨feature, -, returnValue, -, hScore⟩ := hScore
  split at hScore
  · cases hScore
    rfl
  · obtain ⟨vol, -, hScore⟩ := bind_eq_some_iff.mp hScore
    split at hScore
    · cases hScore
    · cases hScore
      rfl

theorem symbol_mem_of_ranking {score : CrossAssetScore}
    (hScore : score ∈ crossAssetRanking request symbols features index) :
    score.symbol ∈ symbols := by
  rw [crossAssetRanking, (SortByKey.perm_sort _ _).mem_iff] at hScore
  obtain ⟨symbol, hSymbol, hScore⟩ := mem_filterMap.mp hScore
  rwa [symbol_of_crossAssetScore hScore]

theorem selectAt_eq_some {threshold : Option Decimal} :
    selectAt request symbols features index threshold = some (top, second) ↔
      crossAssetMarketFilterPasses request symbols features index = true ∧
      basketVolFilterPasses request symbols features index threshold = true ∧
      symbols.length ≤ (crossAssetRanking request symbols features index).length ∧
      (∃ rest, crossAssetRanking request symbols features index = top :: second :: rest) ∧
      request.minTopReturnPct < top.returnPct ∧
      request.minRankSpreadPct ≤ top.returnPct - second.returnPct ∧
      crossAssetVolFilterPasses request symbols features index top.symbol = true ∧
      crossAssetOverextensionFilterPasses request features index top.symbol = true := by
  simp only [selectAt, ite_none_left_eq_some, Bool.not_eq_true', Bool.not_eq_false, not_lt]
  refine and_congr_right fun _ => and_congr_right fun _ => and_congr_right fun _ => ?_
  split
  · rename_i first next rest hRanking
    rw [hRanking]
    simp only [ite_none_left_eq_some, not_le, not_lt, Bool.not_eq_false,
      some.injEq, Prod.mk.injEq, cons.injEq]
    constructor
    · rintro ⟨hTop, hSpread, hVol, hExtension, rfl, rfl⟩
      exact ⟨⟨rest, rfl, rfl, rfl⟩, hTop, hSpread, hVol, hExtension⟩
    · rintro ⟨⟨_, rfl, rfl, -⟩, hTop, hSpread, hVol, hExtension⟩
      exact ⟨hTop, hSpread, hVol, hExtension, rfl, rfl⟩
  · rename_i hShort
    constructor
    · intro hNone
      cases hNone
    · rintro ⟨⟨rest, hRanking⟩, -⟩
      exact absurd hRanking (hShort top second rest)

/-- The preview makes the checks of an entry, in another order. -/
theorem shadowSignal_passed_iff :
    (shadowSignal floats request symbols features index).passed = true ↔
      ∃ top second, selectAt request symbols features index
        (shadowVolThreshold floats request symbols features) = some (top, second) := by
  have hLength : (crossAssetRanking request symbols features index).length ≤ symbols.length :=
    length_crossAssetRanking_le
  simp only [selectAt_eq_some]
  unfold shadowSignal
  cases hRanking : crossAssetRanking request symbols features index with
  | nil => simp
  | cons top rest => cases rest with
    | nil => simp
    | cons second rest =>
      rw [hRanking] at hLength
      simp only [getElem?_cons_zero, getElem?_cons_succ, bind_eq_bind,
        Option.bind_some, Option.pure_def, Option.any_some, Bool.and_eq_true, decide_eq_true_eq,
        cons.injEq]
      constructor
      · rintro ⟨⟨⟨⟨⟨hMarket, hBasket⟩, hVol, hExtension⟩, hAll⟩, hTop⟩, hSpread⟩
        exact ⟨top, second, hMarket, hBasket, hAll.ge, ⟨rest, rfl, rfl, rfl⟩, hTop, hSpread, hVol,
          hExtension⟩
      · rintro ⟨_, _, hMarket, hBasket, hAll, ⟨_, rfl, rfl, -⟩, hTop, hSpread, hVol, hExtension⟩
        exact ⟨⟨⟨⟨⟨hMarket, hBasket⟩, hVol, hExtension⟩, hLength.antisymm hAll⟩, hTop⟩, hSpread⟩

theorem shadowSignal_of_ranking (floats : FloatArithmetic) {rest : List CrossAssetScore}
    (hRanking : crossAssetRanking request symbols features index = top :: second :: rest) :
    (shadowSignal floats request symbols features index).ranking = top :: second :: rest ∧
      (shadowSignal floats request symbols features index).rankSpreadPct =
        some (top.returnPct - second.returnPct) := by
  unfold shadowSignal
  rw [hRanking]
  exact ⟨rfl, rfl⟩

end Signal

section Loop
variable {request : CrossAssetResearchRequest} {data : CrossAssetData} {levels : RunLevels}
  {index tradeIndex : Nat} {top second : CrossAssetScore} {trade : CrossAssetPortfolioTrade}
  {leaving : CrossAssetExit}

section
variable (data : CrossAssetData) (levels : RunLevels) (hRule : request.exitRule = .fixedHold)
include hRule

theorem tradeAt_total (index tradeIndex : Nat) :
    ∃ found, tradeAt request data levels index tradeIndex = .ok found := by
  unfold tradeAt
  split
  · exact ⟨none, rfl⟩
  · rename_i top next hSelected
    unfold crossAssetExitIndex
    rw [hRule]
    dsimp only
    split
    · exact ⟨_, rfl⟩
    · exact ⟨_, rfl⟩

/-- A run that may hold several positions records what it finds at every
candle, and nothing else. -/
theorem foldlM_researchStep (hMany : request.oneActivePosition = false) (indices : List Nat)
    (state : ResearchState) :
    ∃ final, indices.foldlM (researchStep request data levels) state = .ok final ∧
      (∀ trade ∈ final.trades, trade ∈ state.trades ∨ ∃ index ∈ indices, ∃ tradeIndex leaving,
        tradeAt request data levels index tradeIndex = .ok (some (trade, leaving))) ∧
      (∀ trade ∈ state.trades, trade ∈ final.trades) ∧
      ∀ index ∈ indices, ∃ tradeIndex, ∀ trade leaving,
        tradeAt request data levels index tradeIndex = .ok (some (trade, leaving)) →
          trade ∈ final.trades := by
  induction indices generalizing state with
  | nil =>
    refine ⟨state, rfl, fun trade hTrade => .inl hTrade, fun trade hTrade => hTrade, ?_⟩
    intro index hIndex
    cases hIndex
  | cons index rest ih =>
    obtain ⟨found, hFound⟩ := tradeAt_total data levels hRule index state.trades.length
    have hStep : researchStep request data levels state index =
        .ok (state.record request found) := by
      unfold researchStep
      rw [hMany, hFound]
      rfl
    have hKept : ∀ trade ∈ state.trades, trade ∈ (state.record request found).trades := by
      intro trade hTrade
      cases found with
      | none => exact hTrade
      | some pair => exact mem_append_left _ hTrade
    obtain ⟨final, hFinal, hFrom, hOld, hAll⟩ := ih (state.record request found)
    refine ⟨final, ?_, ?_, fun trade hTrade => hOld trade (hKept trade hTrade), ?_⟩
    · rw [foldlM_cons, hStep, ok_bind, hFinal]
    · intro trade hTrade
      rcases hFrom trade hTrade with hRecorded | ⟨other, hOther, hSource⟩
      · cases found with
        | none => exact .inl hRecorded
        | some pair =>
          rcases mem_append.mp hRecorded with hBefore | hNew
          · exact .inl hBefore
          · rw [mem_singleton.mp hNew]
            exact .inr ⟨index, mem_cons_self .., _, pair.2, hFound⟩
      · exact .inr ⟨other, mem_cons_of_mem _ hOther, hSource⟩
    · intro other hOther
      rcases mem_cons.mp hOther with rfl | hLater
      · refine ⟨state.trades.length, fun trade leaving hTrade => hOld trade ?_⟩
        rw [hFound] at hTrade
        cases hTrade
        exact mem_append_right _ (mem_singleton_self _)
      · exact hAll other hLater

end

structure Carries (data : CrossAssetData) (index : Nat) (top second : CrossAssetScore)
    (trade : CrossAssetPortfolioTrade) : Prop where
  symbol : trade.symbol = top.symbol
  signalTime : data.times[index]? = some trade.signalTime
  topScore : trade.rankingSnapshot.topScore = top.score
  topReturnPct : trade.rankingSnapshot.topReturnPct = top.returnPct
  rankSpreadPct : trade.rankingSnapshot.rankSpreadPct = top.returnPct - second.returnPct

theorem carries_of_buildTrade {medianVol24h : Decimal} {exit : CrossAssetExit}
    (hTrade : buildTrade request data medianVol24h index tradeIndex top second exit = some trade) :
    Carries data index top second trade := by
  simp only [buildTrade, bind_eq_bind, bind_eq_some_iff] at hTrade
  obtain ⟨entryCandle, -, exitCandle, -, feature, -, signalTime, hSignalTime, entryTime, -, exitTime,
    -, hTrade⟩ := hTrade
  split at hTrade
  · cases hTrade
  · cases hTrade
    exact ⟨rfl, hSignalTime, rfl, rfl, rfl⟩

theorem carries_of_tradeAt
    (hFound : tradeAt request data levels index tradeIndex = .ok (some (trade, leaving))) :
    ∃ top second, selectAt request request.lookupSymbols data.features index
        levels.basketVolThreshold = some (top, second) ∧ Carries data index top second trade := by
  obtain ⟨top, second, hSelected, -, -, -, hBuilt⟩ := tradeAt_eq_some_iff.mp hFound
  exact ⟨top, second, hSelected, carries_of_buildTrade hBuilt⟩

theorem tradeAt_of_selectAt (hRule : request.exitRule = .fixedHold) (hSound : DataSound data)
    (hSelected : selectAt request request.lookupSymbols data.features index
      levels.basketVolThreshold = some (top, second))
    (hHolding : 0 < data.holding) (hEnd : index + 1 + data.holding < (data.rows top.symbol).length)
    (hOpen : ∀ candle ∈ data.rows top.symbol, 0 < candle.open) (tradeIndex : Nat) :
    ∃ trade leaving, tradeAt request data levels index tradeIndex = .ok (some (trade, leaving)) := by
  have hEntry := getElem?_eq_getElem (show index + 1 < (data.rows top.symbol).length by omega)
  have hTimes := hSound.rows top.symbol
  have hDeadline : min (index + 1 + data.holding) ((data.rows top.symbol).length - 1) =
      index + 1 + data.holding := Nat.min_eq_left (by omega)
  have hBuilt : (buildTrade request data levels.medianVol24h index tradeIndex top second
      ⟨index + 1 + data.holding, "fixed_hold"⟩).isSome :=
    (buildTrade_isSome request levels.medianVol24h tradeIndex second hSound hEntry hEnd).mpr
      (not_le.mpr (hOpen _ (getElem_mem _)))
  obtain ⟨trade, hTrade⟩ := isSome_iff_exists.mp hBuilt
  have hExit : crossAssetExitIndex request data.holding (data.rows top.symbol) (index + 1) =
      .ok (some ⟨index + 1 + data.holding, "fixed_hold"⟩) := by
    simp only [crossAssetExitIndex, hEntry, hRule, hDeadline]
  exact ⟨trade, ⟨index + 1 + data.holding, "fixed_hold"⟩, tradeAt_eq_some_iff.mpr
    ⟨top, second, hSelected, hExit, Nat.lt_add_of_pos_right hHolding, hEnd.trans_le hTimes, hTrade⟩⟩

end Loop

/-- What the default request comes to, in candles of four hours. -/
def relativeStrengthV1Plan : ResearchPlan where
  interval := .fourHours
  lookbacks := ⟨3, 2, 6, 18⟩
  holding := 3
  requiredLookback := 18

def severalPositionsRequest (startTime endTime : DateTime) : CrossAssetResearchRequest :=
  { relativeStrengthContinuationV1DefaultRequest startTime endTime with oneActivePosition := false }

section Request
variable {startTime endTime : DateTime}

theorem lookupSymbols_default (startTime endTime : DateTime) :
    (relativeStrengthContinuationV1DefaultRequest startTime endTime).lookupSymbols =
      defaultCrossAssetRobustnessSymbols := by
  have hSymbols : defaultCrossAssetRobustnessSymbols.map normalizeSymbol =
      defaultCrossAssetRobustnessSymbols := by decide +kernel
  exact hSymbols

theorem lookupSymbols_several (startTime endTime : DateTime) :
    (severalPositionsRequest startTime endTime).lookupSymbols = defaultCrossAssetRobustnessSymbols :=
  lookupSymbols_default startTime endTime

theorem nodup_defaultSymbols : defaultCrossAssetRobustnessSymbols.Nodup := by decide +kernel

theorem parsedTimeframe_default :
    (severalPositionsRequest startTime endTime).parsedTimeframe = .ok .fourHours := by
  have hInterval : fromStr "4h" = .ok .fourHours := by decide +kernel
  exact congrArg (Except.mapError Fault.core) hInterval

theorem validate_default (hTimes : startTime < endTime) :
    (severalPositionsRequest startTime endTime).validate = .ok () := by
  have hSymbols : (defaultCrossAssetRobustnessSymbols.all fun symbol => trim symbol ≠ "") = true := by
    decide +kernel
  simp only [CrossAssetResearchRequest.validate, bind_eq_ok, require_eq_ok, parsedTimeframe_default]
  refine ⟨(), rfl, (), hSymbols, .fourHours, rfl, (), rfl, (), decide_eq_true hTimes, (), rfl, (), ?_,
    (), ?_, ?_⟩
  · show (decide ((0 : Decimal) < 25 / 100) && decide ((0 : Decimal) < 1)) = true
    decide +kernel
  · show decide ((25 / 100 : Decimal) ≤ 1) = true
    decide +kernel
  · show (decide ((0 : Decimal) ≤ 10) && decide ((0 : Decimal) ≤ 5)) = true
    decide +kernel

theorem hours_default :
    crossAssetHoursToCandles 12 .fourHours = .ok 3 ∧ crossAssetHoursToCandles 6 .fourHours = .ok 2 ∧
      crossAssetHoursToCandles 24 .fourHours = .ok 6 ∧
      crossAssetHoursToCandles 72 .fourHours = .ok 18 := by
  decide +kernel

theorem researchPlan_default (hTimes : startTime < endTime) :
    researchPlan (severalPositionsRequest startTime endTime) = .ok relativeStrengthV1Plan := by
  obtain ⟨hTwelve, hSix, hDay, hThreeDays⟩ := hours_default
  have hRanking : crossAssetHoursToCandles
      (severalPositionsRequest startTime endTime).rankingLookbackHours .fourHours = .ok 3 := hTwelve
  have hHolding : crossAssetHoursToCandles
      (severalPositionsRequest startTime endTime).holdingHours .fourHours = .ok 3 := hTwelve
  simp only [researchPlan, validate_default hTimes, parsedTimeframe_default, hRanking, hHolding, hSix,
    hDay, hThreeDays, ok_bind]
  rfl

end Request

section Preview
variable {candlesBySymbol : String → Option (List Candle)} {first : DateTime} {count start : Nat}

theorem hasGap_gapFreeTimes {interval : CandleInterval} :
    hasGap interval (gapFreeTimes interval first count) = false := by
  rw [hasGap, List.any_eq_false]
  intro pair hPair
  rw [sub_of_mem_zip_gapFreeTimes hPair, seconds_duration]
  simp

variable {startTime endTime : DateTime}

theorem shadowRequiredLookback_default :
    shadowRequiredLookback (relativeStrengthContinuationV1DefaultRequest startTime endTime)
      .fourHours = relativeStrengthV1Plan.requiredLookback := by
  obtain ⟨hTwelve, hSix, hDay, hThreeDays⟩ := hours_default
  have hRanking : crossAssetHoursToCandles
      (relativeStrengthContinuationV1DefaultRequest startTime endTime).rankingLookbackHours
        .fourHours = .ok 3 := hTwelve
  simp only [shadowRequiredLookback, hRanking, hSix, hDay, hThreeDays]
  rfl

theorem shadowLookbacks_default :
    shadowLookbacks (relativeStrengthContinuationV1DefaultRequest startTime endTime) .fourHours =
      relativeStrengthV1Plan.lookbacks := by
  obtain ⟨hTwelve, hSix, hDay, hThreeDays⟩ := hours_default
  have hRanking : crossAssetHoursToCandles
      (relativeStrengthContinuationV1DefaultRequest startTime endTime).rankingLookbackHours
        .fourHours = .ok 3 := hTwelve
  simp only [shadowLookbacks, hRanking, hSix, hDay, hThreeDays]
  rfl

/-- With enough candles the preview answers with the signal at the last of them,
computed from the rows of the latest nineteen. -/
theorem evaluatePreview_basket (floats : FloatArithmetic)
    (hBasket : ClosedBasket .fourHours defaultCrossAssetRobustnessSymbols candlesBySymbol first count)
    (hIndex : start + relativeStrengthV1Plan.requiredLookback < count) (candidateId : Uuid)
    (packageId : String) (candidateStatus : ResearchCandidateStatus)
    (serverObservationOnlyMode : Bool) (generatedAt : DateTime) :
    ∃ window answer warnings, (∀ symbol ∈ defaultCrossAssetRobustnessSymbols, window symbol =
        ((basketRows .fourHours candlesBySymbol first count symbol).take
          (start + relativeStrengthV1Plan.requiredLookback + 1)).drop start) ∧
      (∀ symbol, symbol ∉ defaultCrossAssetRobustnessSymbols → window symbol = []) ∧
      (∀ decision status reason warnings,
        (answer decision status reason warnings).decision = decision) ∧
      evaluateCrossAssetShadowObservationPreview floats candidateId packageId candidateStatus
        (candlesUpTo (first + fourHours.duration *
          (start + relativeStrengthV1Plan.requiredLookback : Nat)) candlesBySymbol) none
        serverObservationOnlyMode generatedAt =
      signalPreview answer
        (computeCrossAssetFeatures floats window relativeStrengthV1Plan.lookbacks)
        relativeStrengthV1Plan.requiredLookback
        (shadowSignal floats
          (relativeStrengthContinuationV1DefaultRequest generatedAt generatedAt)
          defaultCrossAssetRobustnessSymbols
          (computeCrossAssetFeatures floats window relativeStrengthV1Plan.lookbacks)
          relativeStrengthV1Plan.requiredLookback) warnings := by
  have hInterval : fromStr (relativeStrengthContinuationV1DefaultRequest generatedAt
      generatedAt).timeframe = .ok .fourHours := by
    show fromStr "4h" = .ok .fourHours
    decide +kernel
  generalize hLatest : first + fourHours.duration *
    (start + relativeStrengthV1Plan.requiredLookback : Nat) = latest
  generalize hStart : (⟨⟨none, fun _ => []⟩, []⟩ : ShadowAlignment) = begin
  generalize hAlignment : defaultCrossAssetRobustnessSymbols.foldl
    (alignClosed .fourHours (candlesUpTo latest candlesBySymbol)) begin = alignment
  have hTimes : alignment.alignedTimes = some (gapFreeTimes .fourHours first
      (start + relativeStrengthV1Plan.requiredLookback + 1)) := by
    rw [← hAlignment, ← hLatest]
    refine foldl_alignClosed
      (fun symbol hSymbol => openTimes_closedCandles hBasket hSymbol hIndex) (.inr ⟨?_, ?_⟩)
    · rw [← hStart]
    · exact cons_ne_nil _ _
  have hLast : (gapFreeTimes .fourHours first
      (start + relativeStrengthV1Plan.requiredLookback + 1)).getLast? = some latest :=
    hLatest ▸ getLast?_gapFreeTimes
  have hUpTo : (gapFreeTimes .fourHours first
      (start + relativeStrengthV1Plan.requiredLookback + 1)).filter (fun time => time ≤ latest) =
        gapFreeTimes .fourHours first (start + relativeStrengthV1Plan.requiredLookback + 1) :=
    hLatest ▸ filter_le_gapFreeTimes hIndex
  have hDrop : (gapFreeTimes .fourHours first
      (start + relativeStrengthV1Plan.requiredLookback + 1)).drop
        (start + relativeStrengthV1Plan.requiredLookback + 1 -
          (relativeStrengthV1Plan.requiredLookback + 1)) =
      gapFreeTimes .fourHours (first + fourHours.duration * start)
        (relativeStrengthV1Plan.requiredLookback + 1) := by
    rw [Nat.add_assoc, Nat.add_sub_cancel, drop_gapFreeTimes]
  have hEnough : ¬start + relativeStrengthV1Plan.requiredLookback + 1 <
      relativeStrengthV1Plan.requiredLookback + 1 := by omega
  refine ⟨takeRows (gapFreeTimes .fourHours (first + fourHours.duration * start)
    (relativeStrengthV1Plan.requiredLookback + 1)) defaultCrossAssetRobustnessSymbols
      alignment.normalized fun _ => [], emptyPreview candidateId packageId candidateStatus none
        serverObservationOnlyMode generatedAt (some latest), alignment.warnings, ?_, ?_,
          fun _ _ _ _ => rfl, ?_⟩
  · intro symbol hSymbol
    obtain ⟨candles, hCandles⟩ := hBasket.present symbol hSymbol
    rw [takeRows_of_mem nodup_defaultSymbols hSymbol, ← hAlignment, normalized_foldl_alignClosed,
      if_pos hSymbol, Nat.add_assoc, ← slice_basketRows hBasket hSymbol (by omega), hCandles,
      getD_some]
    apply filterMap_congr
    intro time hTime
    apply candleAt_closedCandles hBasket hSymbol hCandles
    rw [← drop_gapFreeTimes] at hTime
    rw [← hLatest]
    exact ((mem_gapFreeTimes_until hIndex).mpr (mem_of_mem_drop hTime)).2
  · intro symbol hAbsent
    exact takeRows_of_not_mem hAbsent
  · unfold evaluateCrossAssetShadowObservationPreview
    simp only [hInterval, lookupSymbols_default, hStart, hAlignment, hTimes, getD_some, hLast,
      hUpTo, length_gapFreeTimes, shadowRequiredLookback_default, hDrop, hEnough,
      shadowLookbacks_default, hasGap_gapFreeTimes, any_none, Bool.false_eq_true, if_false,
      Nat.add_sub_cancel]

end Preview

/-- The trade is what the preview says. -/
structure Matches (preview : CrossAssetShadowObservationPreviewResult)
    (trade : CrossAssetPortfolioTrade) : Prop where
  decision : preview.decision = .wouldSelect
  selectedSymbol : preview.selectedSymbol = some trade.symbol
  top : ∃ top, preview.rankingSnapshot[0]? = some top ∧ top.symbol = trade.symbol ∧
    top.score = trade.rankingSnapshot.topScore ∧
    top.returnPct = trade.rankingSnapshot.topReturnPct
  rankSpreadPct : preview.rankSpreadPct = some trade.rankingSnapshot.rankSpreadPct

section Agreement
variable {floats : FloatArithmetic} {request : CrossAssetResearchRequest} {symbols : List String}
  {features : CrossAssetFeatures} {index : Nat} {top second : CrossAssetScore}
  {answer : CrossAssetShadowObservationDecision → CrossAssetShadowObservationStatus → String →
    List String → CrossAssetShadowObservationPreviewResult} {warnings : List String}

theorem signalPreview_of_selectAt (hSelected : selectAt request symbols features index
      (shadowVolThreshold floats request symbols features) = some (top, second))
    {data : CrossAssetData} {place : Nat} {trade : CrossAssetPortfolioTrade}
    (hAnswer : ∀ decision status reason warnings,
      (answer decision status reason warnings).decision = decision)
    (hCarries : Carries data place top second trade) :
    Matches (signalPreview answer features index
      (shadowSignal floats request symbols features index) warnings) trade := by
  have hPassed := shadowSignal_passed_iff.mpr ⟨top, second, hSelected⟩
  obtain ⟨-, -, -, ⟨rest, hRanking⟩, -⟩ := selectAt_eq_some.mp hSelected
  obtain ⟨hOrder, hSpread⟩ := shadowSignal_of_ranking floats hRanking
  refine ⟨?_, ?_, ?_, ?_⟩
  · simp only [signalPreview, hPassed, if_true, hAnswer]
  · simp only [signalPreview, hPassed, if_true, hOrder, getElem?_cons_zero, map_some,
      hCarries.symbol]
  · refine ⟨shadowRankingRow features index 0 top, ?_, hCarries.symbol.symm, hCarries.topScore.symm,
      hCarries.topReturnPct.symm⟩
    simp only [signalPreview, hOrder, getElem?_mapIdx, getElem?_cons_zero, map_some]
  · simp only [signalPreview, hSpread, hCarries.rankSpreadPct]

theorem selectAt_of_signalPreview : (signalPreview answer features index
      (shadowSignal floats request symbols features index) warnings).selectedSymbol.isSome →
    ∃ top second, selectAt request symbols features index
      (shadowVolThreshold floats request symbols features) = some (top, second) := by
  intro hSome
  rw [← shadowSignal_passed_iff]
  by_contra hFailed
  simp only [signalPreview, hFailed] at hSome
  cases hSome

end Agreement

section Run
variable {startTime endTime : DateTime} {interval : CandleInterval} {count : Nat}

theorem lt_of_candlesBetween (hRoom : interval.candlesBetween startTime endTime = .ok (count : Int)) :
    startTime < endTime := by
  by_contra hOrder
  rw [candlesBetween, if_pos (not_lt.mp hOrder)] at hRoom
  cases hRoom

theorem selectAt_default (startTime endTime generatedAt : DateTime) (floats : FloatArithmetic)
    {window features : CrossAssetFeatures} {index place : Nat}
    (hFeatures : ∀ symbol, (window symbol)[index]? = (features symbol)[place]?) :
    selectAt (relativeStrengthContinuationV1DefaultRequest generatedAt generatedAt)
        defaultCrossAssetRobustnessSymbols window index
        (shadowVolThreshold floats (relativeStrengthContinuationV1DefaultRequest generatedAt generatedAt)
          defaultCrossAssetRobustnessSymbols window) =
      selectAt (severalPositionsRequest startTime endTime) defaultCrossAssetRobustnessSymbols features
        place none :=
  selectAt_congr hFeatures defaultCrossAssetRobustnessSymbols none

/-- The trades of the run are the selections at the candles that leave room for
the lookback and the exit. -/
theorem runResearch_basket (floats : FloatArithmetic)
    {candlesBySymbol : String → Option (List Candle)} {first : DateTime}
    (hBasket : ClosedBasket .fourHours defaultCrossAssetRobustnessSymbols candlesBySymbol first count)
    (hWindow : WholeWindow .fourHours defaultCrossAssetRobustnessSymbols candlesBySymbol count
      startTime endTime)
    (hLong : relativeStrengthV1Plan.requiredLookback + relativeStrengthV1Plan.holding + 1 < count) :
    ∃ data trades, BasketData floats relativeStrengthV1Plan defaultCrossAssetRobustnessSymbols
        candlesBySymbol first count data ∧
      runCrossAssetRelativeStrengthResearch floats (severalPositionsRequest startTime endTime)
        candlesBySymbol = .ok trades ∧
      (∀ trade ∈ trades, ∃ place top second,
        selectAt (severalPositionsRequest startTime endTime) defaultCrossAssetRobustnessSymbols
          data.features place none = some (top, second) ∧ Carries data place top second trade) ∧
      ∀ place top second, relativeStrengthV1Plan.requiredLookback ≤ place →
        place + relativeStrengthV1Plan.holding + 1 < count →
        selectAt (severalPositionsRequest startTime endTime) defaultCrossAssetRobustnessSymbols
          data.features place none = some (top, second) →
        ∃ trade ∈ trades, Carries data place top second trade := by
  have hLookups := lookupSymbols_several startTime endTime
  have hRule : (severalPositionsRequest startTime endTime).exitRule = .fixedHold := rfl
  have hMany : (severalPositionsRequest startTime endTime).oneActivePosition = false := rfl
  obtain ⟨data, hData, hPrepared⟩ := prepareCrossAssetData_basket floats
    (researchPlan_default (lt_of_candlesBetween hWindow.room))
    (hLookups ▸ nodup_defaultSymbols) (hLookups ▸ cons_ne_nil _ _) (hLookups ▸ hBasket)
    (hLookups ▸ hWindow) hLong
  rw [hLookups] at hPrepared
  obtain ⟨final, hFinal, hFrom, -, hAll⟩ := foldlM_researchStep data
    (runLevels floats (severalPositionsRequest startTime endTime) data) hRule hMany
      (range' data.requiredLookback
        (data.times.length - (data.holding + 1) - data.requiredLookback)) ⟨[], 0⟩
  refine ⟨data, final.trades, hPrepared, ?_, ?_, ?_⟩
  · simp only [runCrossAssetRelativeStrengthResearch, hData, ok_bind, hFinal]
    rfl
  · intro trade hTrade
    rcases hFrom trade hTrade with hStart | ⟨place, -, tradeIndex, leaving, hFound⟩
    · cases hStart
    · obtain ⟨top, second, hSelected, hCarries⟩ := carries_of_tradeAt hFound
      rw [hLookups] at hSelected
      exact ⟨place, top, second, hSelected, hCarries⟩
  · intro place top second hLookback hHolding hSelected
    have hRange : place ∈ range' data.requiredLookback
        (data.times.length - (data.holding + 1) - data.requiredLookback) := by
      rw [mem_range'_1, hPrepared.times, length_gapFreeTimes, hPrepared.holding,
        hPrepared.requiredLookback]
      omega
    obtain ⟨tradeIndex, hRecorded⟩ := hAll place hRange
    obtain ⟨-, -, -, ⟨rest, hRanking⟩, -⟩ := selectAt_eq_some.mp hSelected
    have hTop : top.symbol ∈ defaultCrossAssetRobustnessSymbols :=
      symbol_mem_of_ranking (hRanking ▸ mem_cons_self ..)
    have hRows : data.rows top.symbol =
        basketRows .fourHours candlesBySymbol first count top.symbol :=
      hPrepared.rows top.symbol hTop
    have hEnd : place + 1 + data.holding < (data.rows top.symbol).length := by
      rw [hRows, length_basketRows hBasket hTop, hPrepared.holding]
      omega
    have hOpen : ∀ candle ∈ data.rows top.symbol, 0 < candle.open := by
      rw [hRows]
      exact fun candle hCandle => open_pos_of_mem_basketRows hBasket hTop hCandle
    have hHeld : 0 < data.holding := hPrepared.holding ▸ Nat.succ_pos 2
    have hChosen : selectAt (severalPositionsRequest startTime endTime)
        (severalPositionsRequest startTime endTime).lookupSymbols data.features place
        (runLevels floats (severalPositionsRequest startTime endTime) data).basketVolThreshold =
          some (top, second) := hLookups ▸ hSelected
    obtain ⟨trade, leaving, hFound⟩ := tradeAt_of_selectAt hRule (dataSound_of_prepare hData) hChosen
      hHeld hEnd hOpen tradeIndex
    obtain ⟨other, next, hOther, hCarries⟩ := carries_of_tradeAt hFound
    rw [hChosen] at hOther
    cases hOther
    exact ⟨trade, hRecorded trade leaving hFound, hCarries⟩

end Run

/-- The shadow observation agrees with the research. For every basket of closed
four-hour candles without a gap, the preview on the candles up to one of the
times selects a symbol exactly if the run over the whole window, with several
positions at a time, trades this symbol on a signal at that time; and then the
preview shows the figures of the trade. -/
theorem shadow_preview_agrees_with_research (floats : FloatArithmetic)
    (candlesBySymbol : String → Option (List Candle)) (first : DateTime) (count : Nat)
    (hBasket : ClosedBasket .fourHours defaultCrossAssetRobustnessSymbols candlesBySymbol first count)
    (startTime endTime : DateTime)
    (hWindow : WholeWindow .fourHours defaultCrossAssetRobustnessSymbols candlesBySymbol count
      startTime endTime)
    (index : Nat) (hLookback : relativeStrengthV1Plan.requiredLookback ≤ index)
    (hHolding : index + relativeStrengthV1Plan.holding + 1 < count) (candidateId : Uuid)
    (packageId : String) (candidateStatus : ResearchCandidateStatus)
    (serverObservationOnlyMode : Bool) (generatedAt : DateTime) :
    let time := first + fourHours.duration * index
    let preview := evaluateCrossAssetShadowObservationPreview floats candidateId packageId
      candidateStatus (candlesUpTo time candlesBySymbol) none serverObservationOnlyMode generatedAt
    ∃ trades, runCrossAssetRelativeStrengthResearch floats
        (severalPositionsRequest startTime endTime) candlesBySymbol = .ok trades ∧
      (∀ symbol, preview.decision = .wouldSelect ∧ preview.selectedSymbol = some symbol ↔
        ∃ trade ∈ trades, trade.signalTime = time ∧ trade.symbol = symbol) ∧
      ∀ trade ∈ trades, trade.signalTime = time → Matches preview trade := by
  intro time preview
  obtain ⟨start, rfl⟩ := Nat.exists_eq_add_of_le' hLookback
  obtain ⟨data, trades, hPrepared, hRun, hTraded, hSelections⟩ :=
    runResearch_basket floats hBasket hWindow (by omega)
  obtain ⟨window, answer, warnings, hRows, hAbsent, hAnswer, hPreview⟩ :=
    evaluatePreview_basket floats hBasket (show start + relativeStrengthV1Plan.requiredLookback <
      count by omega) candidateId packageId candidateStatus serverObservationOnlyMode generatedAt
  have hFeatures : ∀ symbol,
      (computeCrossAssetFeatures floats window relativeStrengthV1Plan.lookbacks symbol)[
        relativeStrengthV1Plan.requiredLookback]? =
      (data.features symbol)[start + relativeStrengthV1Plan.requiredLookback]? := by
    intro symbol
    rw [hPrepared.features]
    apply computeCrossAssetFeatures_window floats ⟨by decide, by decide, by decide, by decide⟩
    by_cases hSymbol : symbol ∈ defaultCrossAssetRobustnessSymbols
    · rw [hRows symbol hSymbol, hPrepared.rows symbol hSymbol]
      rfl
    · rw [hAbsent symbol hSymbol, hPrepared.absent symbol hSymbol, take_nil, drop_nil]
  have hSame := selectAt_default startTime endTime generatedAt floats hFeatures
  have hTime : data.times[start + relativeStrengthV1Plan.requiredLookback]? = some time := by
    rw [hPrepared.times]
    exact getElem?_gapFreeTimes (by omega)
  have hMatches : ∀ trade ∈ trades, trade.signalTime = time → Matches preview trade := by
    intro trade hTrade hSignal
    obtain ⟨place, top, second, hSelected, hCarries⟩ := hTraded trade hTrade
    have hPlace : start + relativeStrengthV1Plan.requiredLookback = place := by
      have hDistinct : data.times.Nodup := hPrepared.times ▸ nodup_gapFreeTimes
      obtain ⟨hBound, -⟩ := List.getElem?_eq_some_iff.mp hTime
      apply (getElem?_inj hBound hDistinct).mp
      rw [hTime, hCarries.signalTime, hSignal]
    rw [← hPlace, ← hSame] at hSelected
    rw [show preview = _ from hPreview]
    exact signalPreview_of_selectAt hSelected hAnswer hCarries
  refine ⟨trades, hRun, ?_, hMatches⟩
  intro symbol
  constructor
  · rintro ⟨-, hShown⟩
    have hSome : preview.selectedSymbol.isSome := isSome_of_eq_some hShown
    rw [show preview = _ from hPreview] at hSome
    obtain ⟨top, second, hSelected⟩ := selectAt_of_signalPreview hSome
    rw [hSame] at hSelected
    obtain ⟨trade, hTrade, hCarries⟩ := hSelections _ top second (by omega) (by omega) hSelected
    have hSignal : trade.signalTime = time := by
      rw [hCarries.signalTime] at hTime
      exact some.inj hTime
    have hSymbol := (hMatches trade hTrade hSignal).selectedSymbol
    rw [hShown] at hSymbol
    exact ⟨trade, hTrade, hSignal, (some.inj hSymbol).symm⟩
  · rintro ⟨trade, hTrade, hSignal, rfl⟩
    have hTradeMatches := hMatches trade hTrade hSignal
    exact ⟨hTradeMatches.decision, hTradeMatches.selectedSymbol⟩

/-- Bitcoin rises, the others stay where they are. -/
def trendingCandle (symbol : String) (index : Nat) : Candle :=
  { sampleCandle index (if symbol = "BTCUSDT" then (100 + 2 * index + index % 2 : Nat)
      else (100 + index % 2 : Nat)) with
    symbol := (Symbol.new symbol).toOption.getD .btcusdt }

/-- The latest candle comes first. -/
def trendingBasket (symbol : String) : Option (List Candle) :=
  if symbol ∈ defaultCrossAssetRobustnessSymbols then
    some ((range 24).map (trendingCandle symbol)).reverse
  else none

theorem trendingBasket_eq_some {symbol : String} {candles : List Candle}
    (hCandles : trendingBasket symbol = some candles) :
    candles = ((range 24).map (trendingCandle symbol)).reverse := by
  unfold trendingBasket at hCandles
  split at hCandles
  · exact (some.inj hCandles).symm
  · cases hCandles

theorem closedBasket_trending :
    ClosedBasket .fourHours defaultCrossAssetRobustnessSymbols trendingBasket 0 24 where
  present := fun symbol hSymbol => ⟨_, if_pos hSymbol⟩
  openTimes := by
    intro symbol _ candles hCandles
    rw [trendingBasket_eq_some hCandles, List.map_reverse, List.map_map]
    have hTimes : (range 24).map ((·.openTime) ∘ trendingCandle symbol) =
        gapFreeTimes .fourHours 0 24 := by
      apply map_congr_left
      intro index _
      exact (zero_add _).symm
    rw [hTimes]
    exact reverse_perm _
  closed := by
    intro symbol _ candles hCandles candle hCandle
    rw [trendingBasket_eq_some hCandles, mem_reverse] at hCandle
    obtain ⟨index, -, rfl⟩ := mem_map.mp hCandle
    exact ⟨rfl, rfl⟩
  prices := by
    intro symbol _ candles hCandles candle hCandle
    rw [trendingBasket_eq_some hCandles, mem_reverse] at hCandle
    obtain ⟨index, -, rfl⟩ := mem_map.mp hCandle
    have hOpen : (0 : Decimal) < 100 := by decide +kernel
    refine ⟨hOpen, ?_⟩
    simp only [trendingCandle, sampleCandle]
    split
    · exact Nat.cast_pos.mpr (by omega)
    · exact Nat.cast_pos.mpr (by omega)

theorem closeTime_trending {symbol : String} {candles : List Candle}
    (hCandles : trendingBasket symbol = some candles) :
    ∀ candle ∈ candles, candle.closeTime ≤ candle.openTime + fourHours.duration := by
  intro candle hCandle
  rw [trendingBasket_eq_some hCandles, mem_reverse] at hCandle
  obtain ⟨index, hIndex, rfl⟩ := mem_map.mp hCandle
  have hAll : ∀ index ∈ range 24, (sampleCandle index 0).closeTime ≤
      (sampleCandle index 0).openTime + fourHours.duration := by
    decide +kernel
  exact hAll index hIndex

theorem shadow_preview_agrees_sample : ∃ trades, runCrossAssetRelativeStrengthResearch sampleFloats
        (severalPositionsRequest 0 (0 + fourHours.duration * (24 : Nat)))
        trendingBasket = .ok trades ∧
      ∃ trade ∈ trades, trade.signalTime = 0 + fourHours.duration * (18 : Nat) ∧
        trade.symbol = "BTCUSDT" := by
  have hShown : (evaluateCrossAssetShadowObservationPreview sampleFloats ⟨0⟩ "package"
        .acceptedForShadow (candlesUpTo (0 + fourHours.duration * (18 : Nat))
          trendingBasket) none true 0).decision = .wouldSelect ∧
      (evaluateCrossAssetShadowObservationPreview sampleFloats ⟨0⟩ "package"
        .acceptedForShadow (candlesUpTo (0 + fourHours.duration * (18 : Nat))
          trendingBasket) none true 0).selectedSymbol = some "BTCUSDT" := by
    decide +kernel
  obtain ⟨trades, hRun, hSame, -⟩ := shadow_preview_agrees_with_research sampleFloats trendingBasket 0 24
    closedBasket_trending 0 (0 + fourHours.duration * (24 : Nat))
    (wholeWindow_of_closeTimes closedBasket_trending
      (fun _ _ _ hCandles => closeTime_trending hCandles) (by decide) (by decide))
    18 (by decide) (by decide) ⟨0⟩ "package" .acceptedForShadow true 0
  exact ⟨trades, hRun, (hSame "BTCUSDT").mp hShown⟩

end AegisQuant.Research
