import AegisQuant.Library.Falls
import AegisQuant.Replay.ExitAttribution
import AegisQuant.Strategy.Evaluate

/-! The drawdown of a holding window. It is computed from the trades in the
order of their results, the worst first, where a drawdown is a matter of the
order in which the trades were entered. -/
namespace AegisQuant.Replay
open Strategy Fallible SortByKey List

def countedTrades (trades : List StrategyExitAttributionTrade) (holdingCandles : Nat) :
    List StrategyExitAttributionTrade :=
  (trades.filter (·.holdingCandles = holdingCandles)).filter (·.status ≠ .dataQualityDegraded)

/-- The results of the counted trades, in the order of their entries. -/
def netPnlSeries (trades : List StrategyExitAttributionTrade) (holdingCandles : Nat) :
    List Decimal :=
  (sort (·.entryCandleOpenTime) (countedTrades trades holdingCandles)).filterMap
    (·.netPnlPct)

/-- The window reports the deepest fall of the series, and none if there is
nothing to add up. -/
def StrategyExitAttributionHoldingWindow.ReportsDrawdown
    (window : StrategyExitAttributionHoldingWindow) (series : List Decimal) : Prop :=
  window.maxDrawdownPct.elim (series = []) (IsGreatest (Falls.falls series))

section Series
variable {values : List Decimal}

/-- One value of the scan that the fold makes. -/
def drawdownStep : Decimal × Decimal × Decimal → Decimal → Decimal × Decimal × Decimal :=
  fun (cumulative, peak, maxDrawdown) value =>
    let cumulative := cumulative + value
    let peak := if cumulative > peak then cumulative else peak
    let drawdown := peak - cumulative
    (cumulative, peak, if drawdown > maxDrawdown then drawdown else maxDrawdown)

variable (values : List Decimal)

theorem scanned_foldl_drawdownStep : Falls.Scanned values (values.foldl drawdownStep (0, 0, 0)).1
      (values.foldl drawdownStep (0, 0, 0)).2.1 (values.foldl drawdownStep (0, 0, 0)).2.2 := by
  induction values using reverseRecOn with
  | nil => exact Falls.scanned_nil
  | append_singleton values value ih =>
    rw [foldl_append, foldl_cons, foldl_nil]
    simp only [drawdownStep, gt_iff_lt, ← max_def_lt]
    exact ih.concat value

theorem isGreatest_maxDrawdownFromPctSeries :
    IsGreatest (Falls.falls values) (maxDrawdownFromPctSeries values) :=
  (scanned_foldl_drawdownStep values).deepest

theorem maxDrawdownFromPctSeries_sort :
    maxDrawdownFromPctSeries (sort id values) = Falls.losses values := by
  have hSorted : (sort id values).Pairwise (· ≤ ·) := pairwise_sort id values
  rw [← Falls.losses_perm (perm_sort id values)]
  exact (isGreatest_maxDrawdownFromPctSeries _).unique
    (Falls.isGreatest_losses_iff.mpr (Falls.lossesInOneRun_of_pairwise hSorted))

end Series

section Window
variable {request : StrategyExitAttributionRequest} {trades : List StrategyExitAttributionTrade}

theorem netPnlSeries_perm (trades : List StrategyExitAttributionTrade) (holdingCandles : Nat) :
    (netPnlSeries trades holdingCandles).Perm
      ((countedTrades trades holdingCandles).filterMap (·.netPnlPct)) :=
  (perm_sort _ _).filterMap _

theorem holdingWindowSummary_maxDrawdownPct (holdingCandles : Nat) :
    (holdingWindowSummary request trades holdingCandles).maxDrawdownPct =
      if netPnlSeries trades holdingCandles = [] then none
      else some (Falls.losses (netPnlSeries trades holdingCandles)) := by
  have hPerm := netPnlSeries_perm trades holdingCandles
  have hEmpty : sort id ((countedTrades trades holdingCandles).filterMap (·.netPnlPct)) =
      [] ↔ netPnlSeries trades holdingCandles = [] := by
    rw [← length_eq_zero_iff, ← length_eq_zero_iff, (perm_sort id _).length_eq, hPerm.length_eq]
  have hDrawdown := maxDrawdownFromPctSeries_sort
    ((countedTrades trades holdingCandles).filterMap (·.netPnlPct))
  rw [← Falls.losses_perm hPerm] at hDrawdown
  change (if sort id ((countedTrades trades holdingCandles).filterMap (·.netPnlPct)) = []
    then none else some (maxDrawdownFromPctSeries (sort id
      ((countedTrades trades holdingCandles).filterMap (·.netPnlPct))))) = _
  rw [hDrawdown]
  exact if_congr hEmpty rfl rfl

theorem holdingWindowSummary_reportsDrawdown_iff (holdingCandles : Nat) :
    (holdingWindowSummary request trades holdingCandles).ReportsDrawdown
        (netPnlSeries trades holdingCandles) ↔
      Falls.LossesInOneRun (netPnlSeries trades holdingCandles) := by
  rw [StrategyExitAttributionHoldingWindow.ReportsDrawdown, holdingWindowSummary_maxDrawdownPct]
  by_cases hEmpty : netPnlSeries trades holdingCandles = []
  · rw [if_pos hEmpty, hEmpty]
    exact ⟨fun _ => ⟨[], [], [], rfl, by simp, by simp, by simp⟩, fun _ => rfl⟩
  · rw [if_neg hEmpty]
    exact Falls.isGreatest_losses_iff

end Window

section Attribution
variable {rules : StrategyRules} {signalId : Nat → Uuid} {correlationId : Uuid}
  {request : StrategyExitAttributionRequest} {strategyConfig : StrategyConfig} {symbol : Symbol}
  {candles : List Candle} {computedAt : DateTime} {result : StrategyExitAttributionResult}

section
variable
  (hResult : calculateExitAttribution rules signalId correlationId request strategyConfig symbol candles computedAt = .ok result)
include hResult

theorem perHoldingWindow_eq : result.perHoldingWindow =
      request.normalizedHoldingWindows.map (holdingWindowSummary request result.trades) := by
  unfold calculateExitAttribution at hResult
  obtain ⟨_, -, hResult⟩ := bind_eq_ok.mp hResult
  obtain ⟨_, -, hResult⟩ := bind_eq_ok.mp hResult
  obtain ⟨_, -, hResult⟩ := bind_eq_ok.mp hResult
  obtain ⟨state, -, hResult⟩ := bind_eq_ok.mp hResult
  rw [← pure_eq_ok.mp hResult]

/-- A holding window reports the deepest fall of its trades in the order of
their entries exactly when its losing trades follow one another. -/
theorem window_drawdown_chronological_iff {window : StrategyExitAttributionHoldingWindow}
    (hWindow : window ∈ result.perHoldingWindow) :
    window.ReportsDrawdown (netPnlSeries result.trades window.holdingCandles) ↔
      Falls.LossesInOneRun (netPnlSeries result.trades window.holdingCandles) := by
  rw [perHoldingWindow_eq hResult] at hWindow
  obtain ⟨holdingCandles, -, rfl⟩ := mem_map.mp hWindow
  exact holdingWindowSummary_reportsDrawdown_iff holdingCandles

end

end Attribution

def samplePrices : List Decimal := [100, 101, 102, 101, 100, 101, 102, 101, 103, 104, 103, 102]

def sampleDrawdownRequest : StrategyExitAttributionRequest where
  strategyId := "momentum_v1"
  symbol := "btcusdt"
  timeframe := "1m"
  startTime := 0
  endTime := DateTime.seconds 720
  holdingWindows := [1]
  feeBps := 0
  slippageBps := 0

def sampleDrawdown (count : Nat) : Except Fault StrategyExitAttributionResult :=
  calculateExitAttribution strategyRules (fun _ => ⟨7⟩) ⟨8⟩ sampleDrawdownRequest
    { sampleSimulation.strategyConfig with holdingCandles := some 1 } .btcusdt
    ((samplePrices.take count).zipIdx.map fun (price, minute) => sampleCandle minute price) 0

/-- A loss followed by a gain is reported as it is. -/
theorem window_drawdown_chronological_sample : ∃ result, sampleDrawdown 9 = .ok result ∧
    ∃ window ∈ result.perHoldingWindow, window.maxDrawdownPct = some (100 / 101) ∧
      window.ReportsDrawdown (netPnlSeries result.trades window.holdingCandles) := by
  have hValues : (sampleDrawdown 9).toOption.map (fun result => result.perHoldingWindow.map
      fun window => (window.maxDrawdownPct, netPnlSeries result.trades window.holdingCandles)) =
        some [(some (100 / 101), [-100 / 101, 200 / 101])] := by decide +kernel
  obtain ⟨result, hRun, hWindows⟩ := Option.map_eq_some_iff.mp hValues
  rw [toOption_eq_some] at hRun
  obtain ⟨window, hWindow, hPair⟩ := mem_map.mp (hWindows ▸ mem_singleton_self _)
  obtain ⟨hDrawdown, hSeries⟩ := Prod.mk.inj hPair
  refine ⟨result, hRun, window, hWindow, hDrawdown,
    (window_drawdown_chronological_iff hRun hWindow).mpr ?_⟩
  rw [hSeries]
  exact ⟨[], [-100 / 101], [200 / 101], rfl, by simp, by norm_num, by norm_num⟩

/-- A loss, a gain and a loss are reported as the two losses together. -/
theorem window_drawdown_not_chronological : ∃ result, sampleDrawdown 12 = .ok result ∧
    ∃ window ∈ result.perHoldingWindow,
      ¬window.ReportsDrawdown (netPnlSeries result.trades window.holdingCandles) := by
  have hValues : (sampleDrawdown 12).toOption.map (fun result => result.perHoldingWindow.map
      fun window => (window.maxDrawdownPct, netPnlSeries result.trades window.holdingCandles)) =
        some [(some (100 / 101 + 100 / 103), [-100 / 101, 200 / 101, -100 / 103])] := by
    decide +kernel
  obtain ⟨result, hRun, hWindows⟩ := Option.map_eq_some_iff.mp hValues
  rw [toOption_eq_some] at hRun
  obtain ⟨window, hWindow, hPair⟩ := mem_map.mp (hWindows ▸ mem_singleton_self _)
  obtain ⟨hDrawdown, hSeries⟩ := Prod.mk.inj hPair
  refine ⟨result, hRun, window, hWindow, ?_⟩
  rw [StrategyExitAttributionHoldingWindow.ReportsDrawdown, hDrawdown, hSeries]
  intro hGreatest
  have hDeepest := hGreatest.unique (isGreatest_maxDrawdownFromPctSeries _)
  exact absurd hDeepest (by decide +kernel)

end AegisQuant.Replay
