import AegisQuant.Research.CheckedRunAgrees

/-! Prices that crash the cross-asset run. An entry at a price that is not
positive is skipped, but a stop or a profit is measured in the price before it
is looked at, so the run ends in a division by zero at the first entry at a
price of zero that it decides on, and at nothing else. -/
namespace AegisQuant.Research
open Fallible

/-- The run divides by zero nowhere and reads nothing out of range, and skips
every candidate whose entry price is not positive. -/
structure CrashFree (floats : FloatArithmetic) (runId : Uuid) (request : CrossAssetResearchRequest)
    (candlesBySymbol : String → Option (List Candle)) : Prop where
  divisions :
    Checked.crossAssetResearchRun floats runId request candlesBySymbol ≠ .error .divisionByZero
  indices : Checked.crossAssetResearchRun floats runId request candlesBySymbol ≠
    .error Checked.indexOutOfRange
  skips : ∀ data, prepareCrossAssetData floats request candlesBySymbol = .ok data →
    ∀ index ∈ decidedIndices request data (runLevels floats request data),
    ∀ top second entryCandle, selectAt request request.lookupSymbols data.features index
        (runLevels floats request data).basketVolThreshold = some (top, second) →
      (data.rows top.symbol)[index + 1]? = some entryCandle → entryCandle.open ≤ 0 →
      ∀ tradeIndex, Checked.tradeAt request data (runLevels floats request data) index tradeIndex =
        .ok none

/-- No symbol is selected at a candle, of those that the run decides at, whose
next candle opens at zero. -/
def NoEntryAtZero (floats : FloatArithmetic) (request : CrossAssetResearchRequest)
    (data : CrossAssetData) : Prop :=
  ∀ index ∈ decidedIndices request data (runLevels floats request data),
    ∀ top second entryCandle, selectAt request request.lookupSymbols data.features index
        (runLevels floats request data).basketVolThreshold = some (top, second) →
      (data.rows top.symbol)[index + 1]? = some entryCandle → entryCandle.open ≠ 0

/-- Every fault is a typed error. -/
def Refuses {α : Type} (computation : Except Fault α) : Prop :=
  ∀ fault, computation = .error fault → ∃ error, fault = .core error

section Refusals
variable {α β : Type} {first : Except Fault α}

theorem refuses_ok (value : α) : Refuses (.ok value : Except Fault α) := by
  intro fault hFault
  cases hFault

theorem refuses_core (error : CoreError) : Refuses (.error (.core error) : Except Fault α) := by
  rintro fault ⟨⟩
  exact ⟨error, rfl⟩

theorem Refuses.bind (hFirst : Refuses first) {next : α → Except Fault β}
    (hNext : ∀ value, Refuses (next value)) : Refuses (first >>= next) := by
  intro fault hFault
  rcases bind_eq_error.mp hFault with hHere | ⟨value, -, hLater⟩
  · exact hFirst fault hHere
  · exact hNext value fault hLater

theorem refuses_require (passed : Bool) (error : CoreError) :
    Refuses (require passed (.core error)) := by
  cases passed with
  | true => exact refuses_ok ()
  | false => exact refuses_core error

theorem refuses_mapError (computation : Except CoreError α) :
    Refuses (computation.mapError Fault.core) := by
  cases computation with
  | error error => exact refuses_core error
  | ok value => exact refuses_ok value

theorem refuses_foldlM {step : α → β → Except Fault α}
    (hStep : ∀ state item, Refuses (step state item)) (items : List β) (start : α) : Refuses (items.foldlM step start) := by
  intro fault hFault
  obtain ⟨state, item, -, hHere⟩ := exists_of_foldlM_eq_error hFault
  exact hStep state item fault hHere

variable (request : CrossAssetResearchRequest)

theorem refuses_validate : Refuses request.validate := by
  unfold CrossAssetResearchRequest.validate
  apply (refuses_require _ _).bind
  intro _
  apply (refuses_require _ _).bind
  intro _
  apply (refuses_mapError _).bind
  intro _
  apply (refuses_require _ _).bind
  intro _
  apply (refuses_require _ _).bind
  intro _
  apply (refuses_require _ _).bind
  intro _
  apply (refuses_require _ _).bind
  intro _
  apply (refuses_require _ _).bind
  intro _
  exact refuses_require _ _

theorem refuses_crossAssetHoursToCandles (hours : Nat) (interval : CandleInterval) :
    Refuses (crossAssetHoursToCandles hours interval) := by
  unfold crossAssetHoursToCandles
  dsimp only
  split
  · exact refuses_core _
  · exact refuses_ok _

theorem refuses_researchPlan : Refuses (researchPlan request) := by
  unfold researchPlan
  apply (refuses_validate request).bind
  intro _
  apply (refuses_mapError _).bind
  intro interval
  apply (refuses_crossAssetHoursToCandles _ interval).bind
  intro _
  apply (refuses_crossAssetHoursToCandles _ interval).bind
  intro _
  apply (refuses_crossAssetHoursToCandles _ interval).bind
  intro _
  apply (refuses_crossAssetHoursToCandles _ interval).bind
  intro _
  apply (refuses_crossAssetHoursToCandles _ interval).bind
  intro _
  exact refuses_ok _

theorem refuses_alignSymbol (interval : CandleInterval)
    (candlesBySymbol : String → Option (List Candle)) (alignment : Alignment) (symbol : String) :
    Refuses (alignSymbol request interval candlesBySymbol alignment symbol) := by
  unfold alignSymbol
  split
  · exact refuses_core _
  · exact refuses_ok _

theorem refuses_prepareCrossAssetData (floats : FloatArithmetic) (request : CrossAssetResearchRequest)
    (candlesBySymbol : String → Option (List Candle)) :
    Refuses (prepareCrossAssetData floats request candlesBySymbol) := by
  unfold prepareCrossAssetData
  apply (refuses_researchPlan request).bind
  intro plan
  apply (refuses_foldlM (refuses_alignSymbol request plan.interval candlesBySymbol) _ _).bind
  intro alignment
  apply (refuses_mapError _).bind
  intro expected
  apply Refuses.bind
  · unfold checkCoverage
    apply (refuses_require _ _).bind
    intro _
    apply (refuses_require _ _).bind
    intro _
    exact refuses_require _ _
  · intro _
    exact refuses_ok _

end Refusals

section Crashes
variable {floats : FloatArithmetic} {request : CrossAssetResearchRequest} {data : CrossAssetData}
  {candlesBySymbol : String → Option (List Candle)} {levels : RunLevels} {index : Nat}

theorem fault_of_researchStep {state : ResearchState} {fault : Fault}
    (hFault : researchStep request data levels state index = .error fault) :
    fault = .divisionByZero := by
  unfold researchStep at hFault
  split at hFault
  · cases hFault
  · rw [map_eq_error] at hFault
    unfold tradeAt at hFault
    split at hFault
    · cases hFault
    · rcases bind_eq_error.mp hFault with hExit | ⟨leaving, -, hLater⟩
      · exact (crossAssetExitIndex_eq_error_iff.mp hExit).1
      · cases hLater

theorem fault_of_run {fault : Fault}
    (hPrepared : prepareCrossAssetData floats request candlesBySymbol = .ok data)
    (hFault : runCrossAssetRelativeStrengthResearch floats request candlesBySymbol = .error fault) :
    fault = .divisionByZero := by
  simp only [runCrossAssetRelativeStrengthResearch, hPrepared, ok_bind] at hFault
  rcases bind_eq_error.mp hFault with hLoop | ⟨final, -, hLater⟩
  · obtain ⟨_, _, -, hStep⟩ := exists_of_foldlM_eq_error hLoop
    exact fault_of_researchStep hStep
  · cases hLater

theorem run_ne_indexOutOfRange (floats : FloatArithmetic) (request : CrossAssetResearchRequest)
    (candlesBySymbol : String → Option (List Candle)) :
    runCrossAssetRelativeStrengthResearch floats request candlesBySymbol ≠
      .error Checked.indexOutOfRange := by
  intro hFault
  cases hPrepared : prepareCrossAssetData floats request candlesBySymbol with
  | ok data => cases fault_of_run hPrepared hFault
  | error fault =>
    obtain ⟨error, rfl⟩ :=
      refuses_prepareCrossAssetData floats request candlesBySymbol fault hPrepared
    simp only [runCrossAssetRelativeStrengthResearch, hPrepared] at hFault
    cases hFault

theorem run_ne_divisionByZero_iff :
    runCrossAssetRelativeStrengthResearch floats request candlesBySymbol ≠ .error .divisionByZero ↔
      ∀ data, prepareCrossAssetData floats request candlesBySymbol = .ok data →
        ∀ index ∈ decidedIndices request data (runLevels floats request data),
          ¬FailsAt request data (runLevels floats request data) index := by
  constructor
  · intro hFine data hPrepared
    rw [← exists_trades_iff hPrepared]
    cases hRun : runCrossAssetRelativeStrengthResearch floats request candlesBySymbol with
    | ok trades => exact ⟨trades, rfl⟩
    | error fault => exact absurd (fault_of_run hPrepared hRun ▸ hRun) hFine
  · intro hFine hFault
    cases hPrepared : prepareCrossAssetData floats request candlesBySymbol with
    | ok data =>
      obtain ⟨trades, hRun⟩ := (exists_trades_iff hPrepared).mpr (hFine data hPrepared)
      rw [hRun] at hFault
      cases hFault
    | error fault =>
      obtain ⟨error, rfl⟩ :=
        refuses_prepareCrossAssetData floats request candlesBySymbol fault hPrepared
      simp only [runCrossAssetRelativeStrengthResearch, hPrepared] at hFault
      cases hFault

/-- Within the loop, the position has candles left after its entry. -/
theorem failsAt_iff (hPrepared : prepareCrossAssetData floats request candlesBySymbol = .ok data)
    (hIndex : index ∈ decidedIndices request data levels) :
    FailsAt request data levels index ↔ request.exitRule ≠ .fixedHold ∧
      ∃ top second entryCandle, selectAt request request.lookupSymbols data.features index
          levels.basketVolThreshold = some (top, second) ∧
        (data.rows top.symbol)[index + 1]? = some entryCandle ∧ entryCandle.open = 0 := by
  have hRoom := (loopIndices_room (mem_of_mem_decidedFrom hIndex)).2
  have hHolding : 0 < data.holding := by
    obtain ⟨plan, -, -, hPlan, -, -, -, rfl⟩ := prepareCrossAssetData_eq_ok hPrepared
    exact (Checked.plan_positive hPlan).2
  have hLater {symbol : String} {entryCandle : Candle}
      (hEntry : (data.rows symbol)[index + 1]? = some entryCandle) :
      index + 1 < min (index + 1 + data.holding) ((data.rows symbol).length - 1) := by
    have hLength := (alignedRows_of_prepare hPrepared symbol
      (List.ne_nil_of_mem (List.mem_of_getElem? hEntry))).length
    omega
  unfold FailsAt
  simp only [crossAssetExitIndex_eq_error_iff]
  constructor
  · rintro ⟨top, second, fault, hSelected, -, hRule, -, entryCandle, hEntry, hZero⟩
    exact ⟨hRule, top, second, entryCandle, hSelected, hEntry, hZero⟩
  · rintro ⟨hRule, top, second, entryCandle, hSelected, hEntry, hZero⟩
    exact ⟨top, second, .divisionByZero, hSelected, rfl, hRule, hLater hEntry, entryCandle, hEntry,
      hZero⟩

/-- Where the run goes on, a price that is not positive makes no trade. -/
theorem tradeAt_eq_none (hFine : ¬FailsAt request data levels index) {top second : CrossAssetScore}
    {entryCandle : Candle} (hSelected : selectAt request request.lookupSymbols data.features index
      levels.basketVolThreshold = some (top, second))
    (hEntry : (data.rows top.symbol)[index + 1]? = some entryCandle) (hPrice : entryCandle.open ≤ 0)
    (tradeIndex : Nat) : tradeAt request data levels index tradeIndex = .ok none := by
  obtain ⟨found, hFound⟩ := (tradeAt_eq_ok_iff tradeIndex).mpr hFine
  cases found with
  | none => exact hFound
  | some pair =>
    obtain ⟨_, _, hSame, -, -, -, hBuilt⟩ := tradeAt_eq_some_iff.mp hFound
    rw [hSelected] at hSame
    cases hSame
    obtain ⟨candle, _, hCandle, -, hPositive, -⟩ := prices_of_buildTrade hBuilt
    rw [hEntry] at hCandle
    cases hCandle
    exact absurd hPositive (not_lt.mpr hPrice)

end Crashes

/-- The run is free of crashes, whatever the prices, exactly when it holds for a
fixed time or decides on no entry at a price of zero. -/
theorem crash_free_iff (floats : FloatArithmetic) (hRank : floats.RankInRange) (runId : Uuid)
    (request : CrossAssetResearchRequest) (candlesBySymbol : String → Option (List Candle)) :
    CrashFree floats runId request candlesBySymbol ↔ request.exitRule = .fixedHold ∨
      ∀ data, prepareCrossAssetData floats request candlesBySymbol = .ok data →
        NoEntryAtZero floats request data := by
  have hRun : ∀ fault, Checked.crossAssetResearchRun floats runId request candlesBySymbol =
      .error fault ↔
        runCrossAssetRelativeStrengthResearch floats request candlesBySymbol = .error fault := by
    intro fault
    rw [Checked.crossAssetResearchRun_eq hRank, crossAssetResearchRun, map_eq_error]
  have hFine : (∀ data, prepareCrossAssetData floats request candlesBySymbol = .ok data →
      ∀ index ∈ decidedIndices request data (runLevels floats request data),
        ¬FailsAt request data (runLevels floats request data) index) ↔
      request.exitRule = .fixedHold ∨
        ∀ data, prepareCrossAssetData floats request candlesBySymbol = .ok data →
          NoEntryAtZero floats request data := by
    by_cases hRule : request.exitRule = .fixedHold
    · refine iff_of_true (fun data hPrepared index hIndex hFails => ?_) (.inl hRule)
      exact ((failsAt_iff hPrepared hIndex).mp hFails).1 hRule
    · rw [or_iff_right hRule]
      refine forall₂_congr fun data hPrepared => forall₂_congr fun index hIndex => ?_
      rw [failsAt_iff hPrepared hIndex]
      constructor
      · intro hNone top second entryCandle hSelected hEntry hZero
        exact hNone ⟨hRule, top, second, entryCandle, hSelected, hEntry, hZero⟩
      · rintro hNone ⟨-, top, second, entryCandle, hSelected, hEntry, hZero⟩
        exact hNone top second entryCandle hSelected hEntry hZero
  rw [← hFine, ← run_ne_divisionByZero_iff]
  constructor
  · intro hFree hFault
    exact hFree.divisions ((hRun _).mpr hFault)
  · intro hDivisions
    constructor
    case divisions => exact fun hFault => hDivisions ((hRun _).mp hFault)
    case indices =>
      exact fun hFault => run_ne_indexOutOfRange floats request candlesBySymbol ((hRun _).mp hFault)
    case skips =>
      intro data hPrepared index hIndex top second entryCandle hSelected hEntry hPrice tradeIndex
      obtain ⟨plan, -, -, hPlan, -⟩ := prepareCrossAssetData_eq_ok hPrepared
      rw [Checked.tradeAt_eq (Checked.two_le_lookupSymbols hPlan) (dataSound_of_prepare hPrepared)]
      exact tradeAt_eq_none (run_ne_divisionByZero_iff.mp hDivisions data hPrepared index hIndex)
        hSelected hEntry hPrice tradeIndex

theorem rankInRange_sample : sampleFloats.RankInRange := by
  intro last percentile hLow hHigh
  have hLast : (0 : Decimal) ≤ last := Nat.cast_nonneg last
  constructor
  · exact div_nonneg (mul_nonneg hLast hLow) (by norm_num)
  · change (last : Decimal) * percentile / 100 ≤ last
    rw [div_le_iff₀ (by norm_num)]
    exact mul_le_mul_of_nonneg_left hHigh hLast

theorem crash_free_sample : CrashFree sampleFloats ⟨1⟩ (sampleRequest 100) (sampleCandles 100) :=
  (crash_free_iff sampleFloats rankInRange_sample ⟨1⟩ (sampleRequest 100) (sampleCandles 100)).mpr
    (.inl rfl)

def stoppedRequest : CrossAssetResearchRequest :=
  { sampleRequest 100 with exitRule := .stopPct 5 }

def zeroOpenCandles (symbol : String) : Option (List Candle) :=
  (sampleCandles 100 symbol).map fun candles =>
    candles.set 19 { sampleCandle 19 200 with «open» := 0, low := 0 }

/-- An entry at a price of zero crashes the run instead of being skipped. -/
theorem entry_at_zero_crashes :
    ¬∀ (request : CrossAssetResearchRequest) (candlesBySymbol : String → Option (List Candle)),
      CrashFree sampleFloats ⟨1⟩ request candlesBySymbol := by
  intro hFree
  have hCrash : (Checked.crossAssetResearchRun sampleFloats ⟨1⟩ stoppedRequest zeroOpenCandles).map
      (fun _ => ()) = .error .divisionByZero := by
    decide +kernel
  exact (hFree stoppedRequest zeroOpenCandles).divisions (map_eq_error.mp hCrash)

end AegisQuant.Research
