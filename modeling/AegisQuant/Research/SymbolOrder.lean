import AegisQuant.Library.Reordering
import AegisQuant.Research.CheckedRunAgrees

/-! The symbols of a cross-asset request as a set. The order, the letter case
and the surrounding spaces of the entries are of no account while no symbol is
given twice. A symbol that is given twice loses its candles, since those taken
for its first entry are gone for the second. -/
namespace AegisQuant.Research
open Fallible Reordering List Option CrossAssetResearchRequest

/-- Entries that differ in order, letter case and surrounding spaces only. -/
def SameSymbols (symbols other : List String) : Prop :=
  (other.map normalizeSymbol).Perm (symbols.map normalizeSymbol)

/-- The candles of every symbol are those of the aligned times, one for each in
their order, and the trades are the same for every way to write the symbols. -/
structure RowsAligned (floats : FloatArithmetic) (request : CrossAssetResearchRequest)
    (candlesBySymbol : String → Option (List Candle)) (data : CrossAssetData) : Prop where
  rows : ∀ symbol ∈ request.lookupSymbols, (data.rows symbol).map (·.openTime) = data.times
  trades : ∀ symbols, SameSymbols request.symbols symbols →
    runCrossAssetRelativeStrengthResearch floats { request with symbols := symbols }
        candlesBySymbol =
      runCrossAssetRelativeStrengthResearch floats request candlesBySymbol

section Alignment
variable {request : CrossAssetResearchRequest} {interval : CandleInterval}
  {candlesBySymbol : String → Option (List Candle)} {symbols other : List String}
  {alignment : Alignment}

theorem mem_alignedTimes {times : List DateTime}
    (hFold : symbols.foldlM (alignSymbol request interval candlesBySymbol) ⟨none, fun _ => []⟩ =
      .ok alignment) (hTimes : alignment.alignedTimes = some times) (time : DateTime) :
    time ∈ times ↔ ∀ symbol ∈ symbols,
      time ∈ openTimes (windowCandles request interval ((candlesBySymbol symbol).getD [])) := by
  have hCommon : (alignment.alignedTimes = none → symbols = []) ∧
      ∀ times, alignment.alignedTimes = some times → (time ∈ times ↔ ∀ symbol ∈ symbols,
        time ∈ openTimes (windowCandles request interval ((candlesBySymbol symbol).getD []))) := by
    refine foldlM_invariant_of_done (I := fun done (alignment : Alignment) =>
      (alignment.alignedTimes = none → done = []) ∧
        ∀ times, alignment.alignedTimes = some times → (time ∈ times ↔ ∀ symbol ∈ done,
          time ∈ openTimes (windowCandles request interval ((candlesBySymbol symbol).getD []))))
      ?_ ⟨fun _ => rfl, by simp⟩ hFold
    rintro done before symbol next ⟨hStarted, hBefore⟩ hStep
    unfold alignSymbol at hStep
    split at hStep
    · cases hStep
    · rename_i candles hCandles
      cases hStep
      refine ⟨by simp, ?_⟩
      rintro times ⟨⟩
      rw [forall_mem_append, forall_mem_singleton, hCandles, getD_some]
      cases hAligned : before.alignedTimes with
      | none => simp [hStarted hAligned]
      | some existing =>
        dsimp only
        rw [mem_filter, hBefore existing hAligned, decide_eq_true_eq]
  exact hCommon.2 times hTimes

theorem exists_alignment_iff (alignment : Alignment) :
    (∃ final, symbols.foldlM (alignSymbol request interval candlesBySymbol) alignment = .ok final) ↔
      ∀ symbol ∈ symbols, (candlesBySymbol symbol).isSome := by
  induction symbols generalizing alignment with
  | nil => exact ⟨fun _ _ hNone => absurd hNone not_mem_nil, fun _ => ⟨alignment, rfl⟩⟩
  | cons symbol rest ih =>
    rw [foldlM_cons, forall_mem_cons, alignSymbol]
    cases candlesBySymbol symbol with
    | none => exact iff_of_false (by rintro ⟨_, ⟨⟩⟩) fun hSome => by cases hSome.1
    | some candles => exact (ih _).trans (and_iff_right rfl).symm

theorem alignment_perm (hPerm : other.Perm symbols) (hSome : symbols ≠ [])
    (hFold : symbols.foldlM (alignSymbol request interval candlesBySymbol) ⟨none, fun _ => []⟩ =
      .ok alignment) :
    ∃ alignment', other.foldlM (alignSymbol request interval candlesBySymbol) ⟨none, fun _ => []⟩ =
        .ok alignment' ∧
      alignment'.alignedTimes.getD [] = alignment.alignedTimes.getD [] ∧
      alignment'.normalized = alignment.normalized := by
  have hFound := (exists_alignment_iff ⟨none, fun _ => []⟩).mp ⟨alignment, hFold⟩
  obtain ⟨alignment', hFold'⟩ := (exists_alignment_iff ⟨none, fun _ => []⟩).mpr
    fun symbol hSymbol => hFound symbol (hPerm.mem_iff.mp hSymbol)
  have hAligned := aligned_of_foldlM hFold
  have hAligned' := aligned_of_foldlM hFold'
  refine ⟨alignment', hFold', ?_, ?_⟩
  · cases hTimes : alignment.alignedTimes with
    | none => exact absurd (hAligned.started hTimes) hSome
    | some times => cases hTimes' : alignment'.alignedTimes with
      | none =>
        rw [hAligned'.started hTimes'] at hPerm
        exact absurd hPerm.symm.eq_nil hSome
      | some times' =>
        refine @SortByKey.eq_of_strict DateTime DateTime _ id _ _ (hAligned.increasing _ hTimes)
          (hAligned'.increasing _ hTimes') fun time => ?_
        rw [getD_some, getD_some, mem_alignedTimes hFold hTimes, mem_alignedTimes hFold' hTimes']
        exact forall_congr' fun symbol => imp_congr_left hPerm.mem_iff
  · funext symbol
    rw [hAligned.normalized, hAligned'.normalized]
    simp only [hPerm.mem_iff]

theorem takeRows_perm (hPerm : other.Perm symbols) (hOnce : symbols.Nodup) (times : List DateTime)
    (normalized : String → List Candle) :
    takeRows times other normalized (fun _ => []) =
      takeRows times symbols normalized fun _ => [] := by
  funext symbol
  by_cases hSymbol : symbol ∈ symbols
  · rw [takeRows_of_mem hOnce hSymbol,
      takeRows_of_mem (hPerm.nodup_iff.mpr hOnce) (hPerm.mem_iff.mpr hSymbol)]
  · rw [takeRows_of_not_mem hSymbol, takeRows_of_not_mem (mt hPerm.mem_iff.mp hSymbol)]

variable {normalized rows : String → List Candle}

theorem takeRows_nil_of_normalized (times : List DateTime) (symbols : List String) {symbol : String}
    (hGone : normalized symbol = []) (hSymbol : symbol ∈ symbols)
    : takeRows times symbols normalized rows symbol = [] := by
  induction symbols generalizing normalized rows with
  | nil => cases hSymbol
  | cons head rest ih =>
    rw [takeRows]
    by_cases hRest : symbol ∈ rest
    · refine ih ?_ hRest
      by_cases hSame : symbol = head
      · rw [hSame, Function.update_self]
      · rwa [Function.update_of_ne hSame]
    · obtain rfl : symbol = head := (mem_cons.mp hSymbol).resolve_right hRest
      rw [takeRows_of_not_mem hRest, Function.update_self, hGone, filterMap_candleAt_nil]

/-- A symbol that is given twice ends up without candles. -/
theorem takeRows_of_duplicate (times : List DateTime) {symbol : String}
    (hTwice : symbols.Duplicate symbol) :
    takeRows times symbols normalized rows symbol = [] := by
  induction hTwice generalizing normalized rows with
  | cons_mem hRest =>
    rw [takeRows]
    exact takeRows_nil_of_normalized times _ (Function.update_self ..) hRest
  | cons_duplicate _ ih => exact ih

end Alignment

section Figures
variable {request : CrossAssetResearchRequest} {symbols other : List String}
  {features : CrossAssetFeatures} {floats : FloatArithmetic} {index : Nat}

theorem basketMean_perm {values values' : List Decimal} (hPerm : values.Perm values') :
    basketMean values = basketMean values' := by
  rw [basketMean, basketMean, hPerm.sum_eq, hPerm.length_eq]

section
variable (hPerm : other.Perm symbols)
include hPerm

theorem basketReturnPct_perm (lookback : Nat) : basketReturnPct other features index lookback =
      basketReturnPct symbols features index lookback := by
  unfold basketReturnPct
  apply bind_mapM_perm _ hPerm
  intro returns returns' hReturns
  rw [basketMean_perm hReturns]

theorem basketVolDecimal_perm (index : Nat) :
    basketVolDecimal other features index = basketVolDecimal symbols features index := by
  unfold basketVolDecimal
  apply bind_mapM_perm _ hPerm
  intro vols vols' hVols
  rw [basketMean_perm hVols]

theorem basketVolFilterPasses_perm (threshold : Option Decimal) :
    basketVolFilterPasses request other features index threshold =
      basketVolFilterPasses request symbols features index threshold := by
  unfold basketVolFilterPasses
  rw [basketVolDecimal_perm hPerm]

theorem crossAssetMarketFilterPasses_perm :
    crossAssetMarketFilterPasses request other features index =
      crossAssetMarketFilterPasses request symbols features index := by
  unfold crossAssetMarketFilterPasses
  rw [basketReturnPct_perm hPerm, basketReturnPct_perm hPerm]
  simp only [hPerm.countP_eq]

theorem crossAssetVolFilterPasses_perm (selectedSymbol : String) :
    crossAssetVolFilterPasses request other features index selectedSymbol =
      crossAssetVolFilterPasses request symbols features index selectedSymbol := by
  have hVols := hPerm.filterMap fun symbol => (features symbol)[index]?.bind (·.vol24h)
  unfold crossAssetVolFilterPasses
  simp only [hVols.length_eq, hPerm.length_eq, basketMean_perm hVols]

end

theorem nodup_scores (hOnce : symbols.Nodup) :
    ((symbols.filterMap (crossAssetScore request features index)).map (·.symbol)).Nodup := by
  induction symbols with
  | nil => exact nodup_nil
  | cons symbol rest ih =>
    obtain ⟨hHead, hRest⟩ := nodup_cons.mp hOnce
    rw [filterMap_cons]
    cases hScore : crossAssetScore request features index symbol with
    | none => exact ih hRest
    | some score =>
      rw [map_cons, nodup_cons]
      refine ⟨fun hLater => hHead ?_, ih hRest⟩
      obtain ⟨score', hScore', hSame⟩ := mem_map.mp hLater
      obtain ⟨symbol', hSymbol', hFound⟩ := mem_filterMap.mp hScore'
      rw [symbol_of_crossAssetScore hScore, symbol_of_crossAssetScore hFound] at hSame
      exact hSame ▸ hSymbol'

/-- Equal scores are in the order of their symbols, not in that of the list. -/
theorem crossAssetRanking_perm (hPerm : other.Perm symbols) (hOnce : symbols.Nodup) :
    crossAssetRanking request other features index =
      crossAssetRanking request symbols features index := by
  apply SortByKey.sort_eq_of_perm (hPerm.filterMap _)
  exact SortByKey.nodup_map_of_decides
    (fun _ _ hKeys => congrArg (fun key => (ofLex key).2) hKeys) (nodup_scores hOnce)

theorem selectAt_perm (hPerm : other.Perm symbols) (hOnce : symbols.Nodup)
    (threshold : Option Decimal) :
    selectAt request other features index threshold =
      selectAt request symbols features index threshold := by
  unfold selectAt
  rw [crossAssetMarketFilterPasses_perm hPerm, basketVolFilterPasses_perm hPerm,
    crossAssetRanking_perm hPerm hOnce, hPerm.length_eq]
  simp only [crossAssetVolFilterPasses_perm hPerm]

theorem runLevels_perm {symbols : List String}
    (hPerm : (symbols.map normalizeSymbol).Perm request.lookupSymbols) (data : CrossAssetData) :
    runLevels floats { request with symbols := symbols } data = runLevels floats request data := by
  have hPercentile (percentile : Decimal) :
      basketVolPercentile floats (symbols.map normalizeSymbol) data.features percentile =
        basketVolPercentile floats request.lookupSymbols data.features percentile := by
    have hVols : basketVolDecimal (symbols.map normalizeSymbol) data.features =
        basketVolDecimal request.lookupSymbols data.features :=
      funext (basketVolDecimal_perm hPerm)
    rw [basketVolPercentile, basketVolPercentile, hVols, min?_perm hPerm]
  have hMedian : medianAssetVol24h floats (symbols.map normalizeSymbol) data.features =
      medianAssetVol24h floats request.lookupSymbols data.features := by
    have hVols := hPerm.flatMap_right fun symbol => (data.features symbol).filterMap (·.vol24h)
    simp only [medianAssetVol24h, percentileDecimal, sort_perm hVols, hVols.length_eq,
      hVols.isEmpty_eq]
  unfold runLevels basketVolThreshold
  simp only [lookupSymbols] at hPercentile hMedian ⊢
  simp only [hPercentile, hMedian]

end Figures

section Run
variable {floats : FloatArithmetic} {request : CrossAssetResearchRequest} {symbols : List String}
  {candlesBySymbol : String → Option (List Candle)} {data : CrossAssetData}

theorem validate_perm (hPerm : SameSymbols request.symbols symbols)
    (hValid : request.validate = .ok ()) :
    ({ request with symbols := symbols } : CrossAssetResearchRequest).validate = .ok () := by
  simp only [validate, bind_eq_ok, require_eq_ok] at hValid ⊢
  obtain ⟨_, hTwo, _, hNonempty, hRest⟩ := hValid
  have hLength : symbols.length = request.symbols.length := by
    have hSame := hPerm.length_eq
    rwa [length_map, length_map] at hSame
  have hFilled : ∀ symbol ∈ symbols, trim symbol ≠ "" := by
    intro symbol hSymbol hEmpty
    have hThere := hPerm.mem_iff.mp (mem_map_of_mem hSymbol)
    rw [normalizeSymbol_eq_empty.mpr hEmpty] at hThere
    obtain ⟨other, hOther, hNone⟩ := mem_map.mp hThere
    exact of_decide_eq_true (all_eq_true.mp hNonempty other hOther)
      (normalizeSymbol_eq_empty.mp hNone)
  refine ⟨(), hLength ▸ hTwo, (), all_eq_true.mpr fun symbol hSymbol => ?_, hRest⟩
  exact decide_eq_true (hFilled symbol hSymbol)

theorem researchPlan_perm {plan : ResearchPlan} (hPerm : SameSymbols request.symbols symbols)
    (hPlan : researchPlan request = .ok plan) :
    researchPlan { request with symbols := symbols } = .ok plan := by
  simp only [researchPlan, bind_eq_ok] at hPlan ⊢
  obtain ⟨_, hValid, hRest⟩ := hPlan
  exact ⟨(), validate_perm hPerm hValid, hRest⟩

section
variable (hPerm : SameSymbols request.symbols symbols)
include hPerm

/-- What the loop reads is the same. -/
theorem prepareCrossAssetData_perm (hOnce : request.lookupSymbols.Nodup)
    (hPrepared : prepareCrossAssetData floats request candlesBySymbol = .ok data) :
    prepareCrossAssetData floats { request with symbols := symbols } candlesBySymbol = .ok data := by
  simp only [prepareCrossAssetData, bind_eq_ok, pure_eq_ok] at hPrepared ⊢
  obtain ⟨plan, hPlan, alignment, hAlignment, expected, hExpected, _, hCoverage, rfl⟩ := hPrepared
  have hSome : request.lookupSymbols ≠ [] :=
    ne_nil_of_length_pos (zero_lt_two.trans_le (Checked.two_le_lookupSymbols hPlan))
  obtain ⟨alignment', hAlignment', hTimes, hNormalized⟩ := alignment_perm hPerm hSome hAlignment
  refine ⟨plan, researchPlan_perm hPerm hPlan, alignment', hAlignment', expected, hExpected, (),
    ?_, ?_⟩
  · rw [hTimes]
    exact hCoverage
  · unfold alignedData
    rw [hTimes, hNormalized]
    exact congrArg (fun rows : String → List Candle => (⟨_, _, _, rows,
      computeCrossAssetFeatures floats rows plan.lookbacks⟩ : CrossAssetData))
      (takeRows_perm hPerm hOnce _ _)

theorem buildTrade_perm (medianVol24h : Decimal) (index tradeIndex : Nat)
    (top second : CrossAssetScore) (exit : CrossAssetExit) :
    buildTrade { request with symbols := symbols } data medianVol24h index tradeIndex top second
        exit =
      buildTrade request data medianVol24h index tradeIndex top second exit := by
  have hReturn (lookback : Nat) :
      basketReturnPct (symbols.map normalizeSymbol) data.features index lookback =
        basketReturnPct (request.symbols.map normalizeSymbol) data.features index lookback :=
    basketReturnPct_perm hPerm lookback
  unfold buildTrade basketVolPct lookupSymbols
  simp only [hReturn, basketVolDecimal_perm hPerm]
  rfl

theorem tradeAt_perm (hOnce : request.lookupSymbols.Nodup) (levels : RunLevels)
    (index tradeIndex : Nat) :
    tradeAt { request with symbols := symbols } data levels index tradeIndex =
      tradeAt request data levels index tradeIndex := by
  have hSelected : selectAt { request with symbols := symbols } (symbols.map normalizeSymbol)
      data.features index levels.basketVolThreshold =
        selectAt request request.lookupSymbols data.features index levels.basketVolThreshold :=
    selectAt_perm hPerm hOnce _
  unfold tradeAt
  rw [lookupSymbols, hSelected]
  cases selectAt request request.lookupSymbols data.features index levels.basketVolThreshold with
  | none => rfl
  | some pair =>
    unfold tradeUntil
    simp only [buildTrade_perm hPerm]
    rfl

theorem trades_perm (hOnce : request.lookupSymbols.Nodup)
    (hPrepared : prepareCrossAssetData floats request candlesBySymbol = .ok data) :
    runCrossAssetRelativeStrengthResearch floats { request with symbols := symbols }
        candlesBySymbol =
      runCrossAssetRelativeStrengthResearch floats request candlesBySymbol := by
  have hStep (levels : RunLevels) : researchStep { request with symbols := symbols } data levels =
      researchStep request data levels := by
    funext state index
    unfold researchStep
    rw [tradeAt_perm hPerm hOnce]
    rfl
  rw [runCrossAssetRelativeStrengthResearch, runCrossAssetRelativeStrengthResearch,
    prepareCrossAssetData_perm hPerm hOnce hPrepared, hPrepared, ok_bind, ok_bind,
    runLevels_perm hPerm, hStep]

end

theorem rows_aligned (hOnce : request.lookupSymbols.Nodup)
    (hPrepared : prepareCrossAssetData floats request candlesBySymbol = .ok data) {symbol : String}
    (hSymbol : symbol ∈ request.lookupSymbols) :
    (data.rows symbol).map (·.openTime) = data.times := by
  obtain ⟨plan, alignment, -, -, hAligned, -, -, rfl⟩ := prepareCrossAssetData_eq_ok hPrepared
  have hCovered : ∀ time ∈ alignment.alignedTimes.getD [], time ∈ openTimes
      (windowCandles request plan.interval ((candlesBySymbol symbol).getD [])) := by
    cases hTimes : alignment.alignedTimes with
    | none => simp
    | some times => exact hAligned.covered times hTimes symbol hSymbol
  change (takeRows (alignment.alignedTimes.getD []) request.lookupSymbols alignment.normalized
    (fun _ => []) symbol).map (·.openTime) = alignment.alignedTimes.getD []
  rw [takeRows_of_mem hOnce hSymbol, hAligned.normalized, if_pos hSymbol]
  exact map_openTime_filterMap hCovered

/-- A run over several candles has none for a symbol that is given twice. -/
theorem nodup_of_rows_aligned
    (hPrepared : prepareCrossAssetData floats request candlesBySymbol = .ok data)
    (hRows : ∀ symbol ∈ request.lookupSymbols, (data.rows symbol).map (·.openTime) = data.times) :
    request.lookupSymbols.Nodup := by
  by_contra hTwice
  obtain ⟨symbol, hSymbol⟩ := exists_duplicate_iff_not_nodup.mpr hTwice
  have hTimes := hRows symbol hSymbol.mem
  simp only [prepareCrossAssetData, bind_eq_ok, pure_eq_ok, checkCoverage,
    require_eq_ok, decide_eq_true_eq] at hPrepared
  obtain ⟨plan, -, alignment, -, expected, -, _, ⟨_, -, _, -, hEnough⟩, rfl⟩ := hPrepared
  have hNone : (alignedData floats plan request.lookupSymbols alignment).rows symbol = [] :=
    takeRows_of_duplicate _ hSymbol
  rw [hNone] at hTimes
  have hEmpty : alignment.alignedTimes.getD [] = [] := hTimes.symm
  rw [hEmpty] at hEnough
  cases hEnough

end Run

/-- For every request and candle map that pass the coverage checks, the rows are
aligned and the way the symbols are written is of no account exactly when no
symbol is given twice. -/
theorem rows_aligned_iff_nodup (floats : FloatArithmetic) (request : CrossAssetResearchRequest)
    (candlesBySymbol : String → Option (List Candle)) {data : CrossAssetData}
    (hPrepared : prepareCrossAssetData floats request candlesBySymbol = .ok data) :
    RowsAligned floats request candlesBySymbol data ↔ request.lookupSymbols.Nodup := by
  constructor
  · intro hAligned
    exact nodup_of_rows_aligned hPrepared hAligned.rows
  · intro hOnce
    constructor
    case rows => exact fun symbol hSymbol => rows_aligned hOnce hPrepared hSymbol
    case trades => exact fun symbols hPerm => trades_perm hPerm hOnce hPrepared

theorem rows_aligned_iff_nodup_sample : ∃ data,
    prepareCrossAssetData sampleFloats (sampleRequest 100) (sampleCandles 100) = .ok data ∧
      RowsAligned sampleFloats (sampleRequest 100) (sampleCandles 100) data := by
  have hSample : (prepareCrossAssetData sampleFloats (sampleRequest 100)
      (sampleCandles 100)).toOption.isSome = true := by
    decide +kernel
  obtain ⟨data, hData⟩ := isSome_iff_exists.mp hSample
  rw [toOption_eq_some] at hData
  exact ⟨data, hData, (rows_aligned_iff_nodup sampleFloats (sampleRequest 100) (sampleCandles 100)
    hData).mpr (by decide +kernel)⟩

/-- The first symbol is given once more, in small letters. -/
def repeatedRequest : CrossAssetResearchRequest :=
  { sampleRequest 100 with symbols := ["BTCUSDT", " btcusdt", "ETHUSDT"] }

/-- A symbol that is written in two ways has no candles left. -/
theorem repeated_symbol_unaligned :
    ¬∀ (request : CrossAssetResearchRequest) (candlesBySymbol : String → Option (List Candle)) data,
      prepareCrossAssetData sampleFloats request candlesBySymbol = .ok data →
        RowsAligned sampleFloats request candlesBySymbol data := by
  intro hAligned
  have hSample : (prepareCrossAssetData sampleFloats repeatedRequest
      (sampleCandles 100)).toOption.map (fun data =>
        ((data.rows "BTCUSDT").length, data.times.length)) = some (0, 22) := by
    decide +kernel
  obtain ⟨data, hData, hLengths⟩ := map_eq_some_iff.mp hSample
  rw [toOption_eq_some] at hData
  have hListed : "BTCUSDT" ∈ repeatedRequest.lookupSymbols := by decide +kernel
  have hRows := (hAligned repeatedRequest (sampleCandles 100) data hData).rows "BTCUSDT" hListed
  have hTimes := congrArg length hRows
  rw [length_map, (Prod.mk.inj hLengths).1, (Prod.mk.inj hLengths).2] at hTimes
  cases hTimes

end AegisQuant.Research
