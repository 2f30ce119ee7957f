import AegisQuant.Research.CrossAssetWindows
import AegisQuant.Research.Decisions

/-! What a trade may lose. The weight of a trade and the costs charged on it are
bounded from below only, so a trade can lose more than there is: its growth
factor is negative, and two such losses are compounded into a profit. -/
namespace AegisQuant.Research
open Fallible List Option

def PositivePrices (candle : Candle) : Prop :=
  0 < candle.open ∧ 0 < candle.high ∧ 0 < candle.low ∧ 0 < candle.close

/-- No trade loses more than there is, the metrics stay within what can be
lost, and losing trades alone make no profit. -/
structure LossesKept (run : CrossAssetResearchRun) : Prop where
  growth : ∀ trade ∈ run.trades, 0 ≤ growth trade
  drawdown : -100 ≤ run.result.maxDrawdownPct ∧ run.result.maxDrawdownPct ≤ 0
  compounded : -100 ≤ run.result.compoundedPnlPct
  losing : (∀ trade ∈ run.trades, trade.netPnlPct ≤ 0) → run.result.compoundedPnlPct ≤ 0 ∧
    run.result.portfolioStatus ≠ .promising ∧ run.result.portfolioStatus ≠ .weak ∧
    run.result.portfolioStatus ≠ .overfitRisk

/-- At every candle that the run decides at, the price of the position it takes
falls so little that the loss and the costs, at its weight, stay within what
there is. -/
def LosesAtMostAll (request : CrossAssetResearchRequest) (data : CrossAssetData)
    (levels : RunLevels) : Prop :=
  ∀ index ∈ decidedIndices request data levels, ∀ position,
    positionAt request data levels index = some position →
      position.entryPrice * (1 + request.drag / 100 - 1 / position.weight) ≤ position.exitPrice

/-- What the equity is multiplied by when the position ends. -/
def Position.growth (request : CrossAssetResearchRequest) (position : Position) : Decimal :=
  1 + (percent (position.exitPrice / position.entryPrice - 1) - request.drag) * position.weight / 100

section Scan
variable {pnlValues : List Decimal}

structure EquityScan.Bounded (scan : EquityScan) : Prop where
  equity : 0 ≤ scan.equity
  peak : scan.equity ≤ scan.peak
  started : 1 ≤ scan.peak
  drawdown : -100 ≤ scan.maxDrawdownPct ∧ scan.maxDrawdownPct ≤ 0

theorem EquityScan.Bounded.next {scan : EquityScan} (hScan : scan.Bounded) {pnlPct : Decimal}
    (hFactor : 0 ≤ 1 + pnlPct / 100) : (scan.next pnlPct).Bounded := by
  have hEquity : 0 ≤ scan.equity * (1 + pnlPct / 100) := mul_nonneg hScan.equity hFactor
  have hStarted : 1 ≤ max scan.peak (scan.equity * (1 + pnlPct / 100)) :=
    hScan.started.trans (le_max_left _ _)
  have hPeak := zero_lt_one.trans_le hStarted
  refine ⟨hEquity, le_max_right _ _, hStarted, ?_⟩
  simp only [EquityScan.next, if_pos hPeak]
  have hFall : -100 ≤ percent
      (scan.equity * (1 + pnlPct / 100) / max scan.peak (scan.equity * (1 + pnlPct / 100)) - 1) := by
    have hRatio := div_nonneg hEquity hPeak.le
    unfold percent
    linarith
  exact ⟨le_min hScan.drawdown.1 hFall, (min_le_left _ _).trans hScan.drawdown.2⟩

theorem bounded_equityScan (hFactors : ∀ pnlPct ∈ pnlValues, 0 ≤ 1 + pnlPct / 100) :
    (equityScan pnlValues).Bounded := by
  induction pnlValues using reverseRecOn with
  | nil => exact ⟨zero_le_one, le_rfl, le_rfl, by norm_num [equityScan], le_rfl⟩
  | append_singleton before pnlPct ih =>
    rw [equityScan, foldl_append]
    exact (ih fun other hOther => hFactors other (mem_append_left _ hOther)).next
      (hFactors pnlPct (by simp))

theorem equity_le_one (hFactors : ∀ pnlPct ∈ pnlValues, 0 ≤ 1 + pnlPct / 100)
    (hLosses : ∀ pnlPct ∈ pnlValues, pnlPct ≤ 0) : (equityScan pnlValues).equity ≤ 1 := by
  induction pnlValues using reverseRecOn with
  | nil => exact le_rfl
  | append_singleton before pnlPct ih =>
    have hBefore := ih (fun other hOther => hFactors other (mem_append_left _ hOther))
      fun other hOther => hLosses other (mem_append_left _ hOther)
    have hLoss := hLosses pnlPct (by simp)
    rw [equityScan, foldl_append]
    exact mul_le_one₀ hBefore (hFactors pnlPct (by simp)) (by linarith)

end Scan

theorem lossesKept_of_growth (floats : FloatArithmetic) (runId : Uuid)
    (request : CrossAssetResearchRequest) {trades : List CrossAssetPortfolioTrade}
    (hGrowth : ∀ trade ∈ trades, 0 ≤ growth trade) :
    LossesKept (completeCrossAssetRun floats runId request trades) := by
  have hFactors : ∀ pnlPct ∈ trades.map (·.netPnlPct), 0 ≤ 1 + pnlPct / 100 :=
    forall_mem_map.mpr hGrowth
  have hScan := bounded_equityScan hFactors
  have hDrawdown : (completeCrossAssetRun floats runId request trades).result.maxDrawdownPct =
      (equityScan (trades.map (·.netPnlPct))).maxDrawdownPct := maxDrawdownPct_summary
  have hCompounded : (completeCrossAssetRun floats runId request trades).result.compoundedPnlPct =
      percent ((equityScan (trades.map (·.netPnlPct))).equity - 1) := compoundedPnlPct_summary
  constructor
  case growth => exact hGrowth
  case drawdown => exact hDrawdown ▸ hScan.drawdown
  case compounded =>
    have hEquity := hScan.equity
    rw [hCompounded, percent]
    linarith
  case losing =>
    intro hLosses
    have hEquity := equity_le_one hFactors (forall_mem_map.mpr hLosses)
    have hNoProfit :
        (completeCrossAssetRun floats runId request trades).result.compoundedPnlPct ≤ 0 := by
      rw [hCompounded, percent]
      linarith
    have hStatus : (completeCrossAssetRun floats runId request trades).result.portfolioStatus =
          .tooSparse ∨
        (completeCrossAssetRun floats runId request trades).result.portfolioStatus = .negative := by
      change classifyCrossAssetPortfolio _ _ _ _ = _ ∨ classifyCrossAssetPortfolio _ _ _ _ = _
      unfold classifyCrossAssetPortfolio
      split
      · exact .inl rfl
      · exact .inr (if_pos hNoProfit)
    rcases hStatus with hStatus | hStatus
    · simp [hNoProfit, hStatus]
    · simp [hNoProfit, hStatus]

section Positions
variable {floats : FloatArithmetic} {request : CrossAssetResearchRequest} {data : CrossAssetData}
  {levels : RunLevels} {candlesBySymbol : String → Option (List Candle)} {index : Nat}
  {position : Position}

theorem minWeight_pos_of_researchPlan {plan : ResearchPlan}
    (hPlan : researchPlan request = .ok plan) : 0 < request.minWeight := by
  simp only [researchPlan, bind_eq_ok] at hPlan
  obtain ⟨_, hValid, -⟩ := hPlan
  simp only [CrossAssetResearchRequest.validate, bind_eq_ok, require_eq_ok,
    Bool.and_eq_true, decide_eq_true_eq] at hValid
  obtain ⟨_, -, _, -, _, -, _, -, _, -, _, -, _, hPositive, -⟩ := hValid
  exact hPositive.1

/-- The prices of a position are those of candles, and its weight is within the
bounds of the request. -/
theorem positionAt_eq_some {plan : ResearchPlan} (hPlan : researchPlan request = .ok plan)
    (hPosition : positionAt request data levels index = some position) :
    0 < position.entryPrice ∧
      (∃ candle ∈ data.rows position.symbol, position.exitPrice = candle.open) ∧
      0 < position.weight ∧ position.weight ≤ request.maxWeight := by
  simp only [positionAt, bind_eq_bind, bind_eq_some_iff, ite_none_right_eq_some] at hPosition
  obtain ⟨⟨top, second⟩, -, exit, -, entryCandle, -, exitCandle, hExit, ⟨-, hPrice⟩, hSome⟩ :=
    hPosition
  obtain ⟨hLow, hHigh⟩ := crossAssetWeight_between (weights_of_researchPlan hPlan) data.features index
    top.symbol levels.medianVol24h
  cases hSome
  exact ⟨hPrice, ⟨exitCandle, mem_of_getElem? hExit, rfl⟩,
    (minWeight_pos_of_researchPlan hPlan).trans_le hLow, hHigh⟩

theorem growth_nonneg_iff (hEntry : 0 < position.entryPrice) (hWeight : 0 < position.weight) :
    0 ≤ position.growth request ↔
      position.entryPrice * (1 + request.drag / 100 - 1 / position.weight) ≤ position.exitPrice := by
  have hGrowth : position.growth request = position.weight / position.entryPrice *
      (position.exitPrice -
        position.entryPrice * (1 + request.drag / 100 - 1 / position.weight)) := by
    unfold Position.growth percent
    field_simp
    ring
  rw [hGrowth, mul_nonneg_iff_of_pos_left (div_pos hWeight hEntry), sub_nonneg]

theorem growth_of_tradeAt {tradeIndex : Nat} {trade : CrossAssetPortfolioTrade}
    {leaving : CrossAssetExit}
    (hFound : tradeAt request data levels index tradeIndex = .ok (some (trade, leaving))) :
    growth trade = (trade.position leaving).growth request := by
  obtain ⟨_, _, -, -, -, -, hBuilt⟩ := tradeAt_eq_some_iff.mp hFound
  obtain ⟨_, _, -, -, -, -, -, -, -, hNet⟩ := prices_of_buildTrade hBuilt
  rw [growth, hNet]
  rfl

section
variable
  (hPrices : ∀ symbol candles, candlesBySymbol symbol = some candles → ∀ candle ∈ candles, PositivePrices candle)
  (hPrepared : prepareCrossAssetData floats request candlesBySymbol = .ok data)
include hPrices hPrepared

theorem positivePrices_rows {symbol : String} {candle : Candle}
    (hCandle : candle ∈ data.rows symbol) : PositivePrices candle := by
  have hRows := alignedRows_of_prepare hPrepared symbol (ne_nil_of_mem hCandle)
  obtain ⟨candles, hCandles, hGiven, -⟩ := hRows.given candle hCandle
  exact hPrices symbol candles hCandles candle hGiven

theorem exists_trades_of_positivePrices :
    ∃ trades, runCrossAssetRelativeStrengthResearch floats request candlesBySymbol = .ok trades := by
  rw [exists_trades_iff hPrepared]
  rintro index - ⟨top, second, fault, -, hFault⟩
  obtain ⟨-, -, -, entryCandle, hEntry, hZero⟩ := crossAssetExitIndex_eq_error_iff.mp hFault
  have hOpen := (positivePrices_rows hPrices hPrepared (mem_of_getElem? hEntry)).1
  exact hOpen.ne' hZero

end

theorem growth_nonneg_iff_losesAtMostAll {trades : List CrossAssetPortfolioTrade}
    (hPrepared : prepareCrossAssetData floats request candlesBySymbol = .ok data)
    (hTrades : runCrossAssetRelativeStrengthResearch floats request candlesBySymbol = .ok trades) :
    (∀ trade ∈ trades, 0 ≤ growth trade) ↔
      LosesAtMostAll request data (runLevels floats request data) := by
  obtain ⟨plan, -, -, hPlan, -⟩ := prepareCrossAssetData_eq_ok hPrepared
  have hGrowths : trades.map growth =
      ((decidedIndices request data (runLevels floats request data)).filterMap
        (positionAt request data (runLevels floats request data))).map (Position.growth request) :=
    trades_of_run hPrepared (fun _ _ _ _ hFound => growth_of_tradeAt hFound) hTrades
  have hEach (index : Nat) (position : Position)
      (hPosition : positionAt request data (runLevels floats request data) index = some position) :
      0 ≤ position.growth request ↔
        position.entryPrice * (1 + request.drag / 100 - 1 / position.weight) ≤
          position.exitPrice := by
    obtain ⟨hEntry, -, hWeight, -⟩ := positionAt_eq_some hPlan hPosition
    exact growth_nonneg_iff hEntry hWeight
  have hMapped : (∀ trade ∈ trades, 0 ≤ growth trade) ↔
      ∀ factor ∈ trades.map growth, 0 ≤ factor := forall_mem_map.symm
  rw [hMapped, hGrowths, List.forall_mem_map]
  simp only [mem_filterMap]
  constructor
  · intro hFactors index hIndex position hPosition
    exact (hEach index position hPosition).mp (hFactors position ⟨index, hIndex, hPosition⟩)
  · rintro hMost position ⟨index, hIndex, hPosition⟩
    exact (hEach index position hPosition).mpr (hMost index hIndex position hPosition)

theorem losesAtMostAll_of_maxWeight
    (hPrices : ∀ symbol candles, candlesBySymbol symbol = some candles →
      ∀ candle ∈ candles, PositivePrices candle)
    (hPrepared : prepareCrossAssetData floats request candlesBySymbol = .ok data)
    (hRoom : request.maxWeight * (1 + request.drag / 100) ≤ 1) :
    LosesAtMostAll request data levels := by
  intro index _ position hPosition
  obtain ⟨plan, -, -, hPlan, -⟩ := prepareCrossAssetData_eq_ok hPrepared
  obtain ⟨hEntry, ⟨candle, hCandle, hExit⟩, hPositive, hHigh⟩ := positionAt_eq_some hPlan hPosition
  have hMost : 1 + request.drag / 100 ≤ 1 / position.weight := by
    rw [le_div_iff₀ hPositive]
    rcases le_or_gt 0 (1 + request.drag / 100) with hCosts | hCosts
    · calc
        (1 + request.drag / 100) * position.weight ≤ (1 + request.drag / 100) * request.maxWeight :=
          mul_le_mul_of_nonneg_left hHigh hCosts
        _ ≤ 1 := by rwa [mul_comm]
    · exact (mul_nonpos_of_nonpos_of_nonneg hCosts.le hPositive.le).trans zero_le_one
  calc
    position.entryPrice * (1 + request.drag / 100 - 1 / position.weight) ≤ 0 :=
      mul_nonpos_of_nonneg_of_nonpos hEntry.le (sub_nonpos.mpr hMost)
    _ ≤ position.exitPrice := hExit ▸ (positivePrices_rows hPrices hPrepared hCandle).1.le

end Positions

/-- With positive prices, the losses of every run stay within what there is
exactly when the weights and the costs are small enough for the falls of the
prices that they are exposed to. -/
theorem losing_trades_stay_losses_iff (floats : FloatArithmetic) (runId : Uuid)
    (request : CrossAssetResearchRequest) (candlesBySymbol : String → Option (List Candle))
    (hPrices : ∀ symbol candles, candlesBySymbol symbol = some candles →
      ∀ candle ∈ candles, PositivePrices candle) :
    (∀ run, crossAssetResearchRun floats runId request candlesBySymbol = .ok run → LossesKept run) ↔
    ∀ data, prepareCrossAssetData floats request candlesBySymbol = .ok data →
      LosesAtMostAll request data (runLevels floats request data) := by
  constructor
  · intro hKept data hPrepared
    obtain ⟨trades, hTrades⟩ := exists_trades_of_positivePrices hPrices hPrepared
    have hRun : crossAssetResearchRun floats runId request candlesBySymbol =
        .ok (completeCrossAssetRun floats runId request trades) := by
      rw [crossAssetResearchRun, hTrades]
      rfl
    exact (growth_nonneg_iff_losesAtMostAll hPrepared hTrades).mp (hKept _ hRun).growth
  · intro hMost run hRun
    obtain ⟨trades, hTrades, rfl⟩ := map_eq_ok.mp hRun
    obtain ⟨data, -, -, hPrepared, -⟩ := trades_kept hTrades
    exact lossesKept_of_growth floats runId request
      ((growth_nonneg_iff_losesAtMostAll hPrepared hTrades).mpr (hMost data hPrepared))

theorem positivePrices_sample {symbol : String} {candles : List Candle}
    (hGiven : sampleCandles 100 symbol = some candles) :
    ∀ candle ∈ candles, PositivePrices candle := by
  have hRows : ∀ candle ∈ sampleRows 100,
      0 < candle.open ∧ 0 < candle.high ∧ 0 < candle.low ∧ 0 < candle.close := by
    decide +kernel
  unfold sampleCandles at hGiven
  split at hGiven
  · cases hGiven
    exact hRows
  · cases hGiven

/-- A run with one trade, at a weight of no more than one and without costs. -/
theorem losing_trades_stay_losses_sample : ∃ run,
    crossAssetResearchRun sampleFloats ⟨1⟩ (sampleRequest 100) (sampleCandles 100) = .ok run ∧
      run.trades.length = 1 ∧ LossesKept run := by
  have hSample : (crossAssetResearchRun sampleFloats ⟨1⟩ (sampleRequest 100)
      (sampleCandles 100)).toOption.map (fun run => run.trades.length) = some 1 := by
    decide +kernel
  obtain ⟨run, hRun, hOne⟩ := map_eq_some_iff.mp hSample
  rw [toOption_eq_some] at hRun
  have hRoom : (sampleRequest 100).maxWeight * (1 + (sampleRequest 100).drag / 100) ≤ 1 := by
    decide +kernel
  exact ⟨run, hRun, hOne, (losing_trades_stay_losses_iff sampleFloats ⟨1⟩ (sampleRequest 100)
    (sampleCandles 100) (fun _ _ hGiven => positivePrices_sample hGiven)).mpr
      (fun _ hPrepared => losesAtMostAll_of_maxWeight
        (fun _ _ hGiven => positivePrices_sample hGiven) hPrepared hRoom) run hRun⟩

/-- Three times the capital is bought at every signal. -/
def leveredRequest : CrossAssetResearchRequest :=
  { sampleRequest 100 with
    oneActivePosition := false
    sizingMode := .equalNotional
    maxWeight := 3
    volFilter := .none }

/-- The price falls by four fifths in each of the last two candles. -/
def fallingCandle (index : Nat) : Candle :=
  { sampleCandle index (if index < 19 then 100 else if index = 19 then 20 else 4) with
    «open» := if index < 20 then 100 else if index = 20 then 20 else 4
    high := 100
    low := 4 }

def fallingCandles (symbol : String) : Option (List Candle) :=
  if symbol ∈ ["BTCUSDT", "ETHUSDT"] then some ((range 22).map fallingCandle) else none

/-- Two trades that each lose 240 percent are compounded into a profit. -/
theorem losses_compound_to_profit :
    ¬∀ (request : CrossAssetResearchRequest) (candlesBySymbol : String → Option (List Candle)),
      (∀ symbol candles, candlesBySymbol symbol = some candles →
        ∀ candle ∈ candles, PositivePrices candle) →
      ∀ run, crossAssetResearchRun sampleFloats ⟨1⟩ request candlesBySymbol = .ok run →
        LossesKept run := by
  intro hKept
  have hPositive : ∀ candle ∈ (range 22).map fallingCandle,
      0 < candle.open ∧ 0 < candle.high ∧ 0 < candle.low ∧ 0 < candle.close := by
    decide +kernel
  have hPrices : ∀ symbol candles, fallingCandles symbol = some candles →
      ∀ candle ∈ candles, PositivePrices candle := by
    intro symbol candles hGiven
    unfold fallingCandles at hGiven
    split at hGiven
    · cases hGiven
      exact hPositive
    · cases hGiven
  have hSample : (crossAssetResearchRun sampleFloats ⟨1⟩ leveredRequest
      fallingCandles).toOption.map (fun run =>
        (run.trades.map (·.netPnlPct), run.result.compoundedPnlPct)) = some ([-240, -240], 96) := by
    decide +kernel
  obtain ⟨run, hRun, hFigures⟩ := map_eq_some_iff.mp hSample
  rw [toOption_eq_some] at hRun
  obtain ⟨hNet, hCompounded⟩ := Prod.mk.inj hFigures
  have hLosses : ∀ pnlPct ∈ run.trades.map (·.netPnlPct), pnlPct ≤ 0 := by
    rw [hNet]
    decide
  have hNoProfit := ((hKept leveredRequest fallingCandles hPrices run hRun).losing
    (forall_mem_map.mp hLosses)).1
  rw [hCompounded] at hNoProfit
  exact absurd hNoProfit (by decide)

end AegisQuant.Research
