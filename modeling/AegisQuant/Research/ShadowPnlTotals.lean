import Mathlib.Algebra.BigOperators.Ring.Finset
import Mathlib.Data.List.Destutter
import AegisQuant.Library.Groups
import AegisQuant.Research.ShadowPnl

/-! The totals of the attribution: every run is accounted for in every holding
window, and the order of what is read does not matter. -/
namespace AegisQuant.Research
open Reordering SortByKey List

section Order
variable {request : ResearchShadowPnlAttributionRequest} {candidate : ResearchCandidate}
  {trades otherTrades : List ResearchShadowPnlAttributionTrade}
  {runs otherRuns : List ResearchShadowPnlRunInput} {candles otherCandles : List Candle}

theorem windowResults_perm (hPerm : otherTrades.Perm trades) :
    (windowResults otherTrades).Perm (windowResults trades) :=
  hPerm.flatMap_right _

theorem windowValues_perm (hPerm : otherTrades.Perm trades) (holdingWindow : Nat) :
    windowValues otherTrades holdingWindow = windowValues trades holdingWindow :=
  sort_perm <| (((windowResults_perm hPerm).filter _).filter _).filterMap _

theorem summarize_perm (hPerm : otherTrades.Perm trades) :
    summarize request otherTrades = summarize request trades := by
  have hResults := windowResults_perm hPerm
  have hWindows : summarizeWindow request otherTrades = summarizeWindow request trades := by
    funext holdingWindow
    rw [summarizeWindow, summarizeWindow, windowValues_perm hPerm]
  simp only [summarize, hWindows, (hPerm.filter _).length_eq, (hResults.filter _).length_eq,
    ((hResults.filterMap _).filter _).length_eq]

/-- Neither the order of the runs nor that of the candles shows in the summary. -/
theorem summary_perm (hDistinct : (candles.map (·.openTime)).Nodup)
    (hRuns : otherRuns.Perm runs) (hCandles : otherCandles.Perm candles) (computedAt : DateTime) :
    (calculateResearchShadowPnlAttribution candidate request otherRuns otherCandles
        computedAt).summary =
      (calculateResearchShadowPnlAttribution candidate request runs candles computedAt).summary := by
  have hSorted : sort (·.openTime) otherCandles = sort (·.openTime) candles :=
    sort_eq_of_perm hCandles hDistinct
  have hSortedRuns : (sort (·.shadowCreatedAt) otherRuns).Perm
      (sort (·.shadowCreatedAt) runs) :=
    ((perm_sort _ otherRuns).trans hRuns).trans (perm_sort _ runs).symm
  simp only [calculateResearchShadowPnlAttribution, hSorted]
  exact summarize_perm (hSortedRuns.map _)

end Order

section HoldingWindows
variable (request : ResearchShadowPnlAttributionRequest)

theorem normalizedHoldingWindows_eq : ∃ windows : List Nat, windows ≠ [] ∧
    (∀ window ∈ windows, 0 < window) ∧
    request.normalizedHoldingWindows = (sort id windows).destutter (· ≠ ·) := by
  unfold ResearchShadowPnlAttributionRequest.normalizedHoldingWindows
  by_cases hEmpty : (request.holdingWindows.filter (0 < ·)).isEmpty
  · refine ⟨defaultShadowPnlHoldingWindows, by decide, by decide, ?_⟩
    dsimp only
    rw [if_pos hEmpty]
  · refine ⟨request.holdingWindows.filter (0 < ·), mt isEmpty_iff.mpr hEmpty, ?_, ?_⟩
    · intro window hWindow
      simpa using (mem_filter.mp hWindow).2
    · dsimp only
      rw [if_neg hEmpty]

theorem pairwise_normalizedHoldingWindows : request.normalizedHoldingWindows.Pairwise (· < ·) := by
  obtain ⟨windows, -, -, hWindows⟩ := normalizedHoldingWindows_eq request
  have hSorted := (pairwise_sort id windows).sublist (destutter_sublist (· ≠ ·) _)
  have hChain := isChain_destutter (· ≠ ·) (sort id windows)
  rw [← hWindows] at hSorted hChain
  apply isChain_iff_pairwise.mp
  rw [isChain_iff_getElem] at hChain ⊢
  intro index hIndex
  have hLe := pairwise_iff_getElem.mp hSorted index (index + 1) (by omega) hIndex
    (Nat.lt_succ_self index)
  exact lt_of_le_of_ne hLe (hChain index hIndex)

theorem normalizedHoldingWindows_ne_nil : request.normalizedHoldingWindows ≠ [] := by
  obtain ⟨windows, hSome, -, hWindows⟩ := normalizedHoldingWindows_eq request
  rw [hWindows, Ne, destutter_eq_nil]
  intro hNone
  have hPerm := perm_sort id windows
  rw [hNone] at hPerm
  exact hSome hPerm.nil_eq.symm

def shortestWindow : Nat := request.normalizedHoldingWindows.head (normalizedHoldingWindows_ne_nil request)

theorem shortestWindow_mem : shortestWindow request ∈ request.normalizedHoldingWindows :=
  head_mem _

theorem shortestWindow_le {window : Nat} (hWindow : window ∈ request.normalizedHoldingWindows) :
    shortestWindow request ≤ window := by
  have hPairwise := pairwise_normalizedHoldingWindows request
  unfold shortestWindow
  revert hWindow hPairwise
  generalize normalizedHoldingWindows_ne_nil request = hSome
  revert hSome
  cases request.normalizedHoldingWindows with
  | nil => exact fun hSome => absurd rfl hSome
  | cons first rest =>
    intro _ hWindow hPairwise
    rcases mem_cons.mp hWindow with rfl | hLater
    · exact le_rfl
    · exact ((pairwise_cons.mp hPairwise).1 window hLater).le

end HoldingWindows

section Complete
variable {request : ResearchShadowPnlAttributionRequest} {candidate : ResearchCandidate}
  {candles : List Candle}
  {trades : List ResearchShadowPnlAttributionTrade}

/-- A result is either without a candle to sell at, or has a profit. -/
def WindowDecided (window : ResearchShadowPnlTradeHoldingWindowResult) : Prop :=
  window.status = .insufficientForwardData ∧ window.netPnlPct = none ∨
    window.status ≠ .insufficientForwardData ∧ window.netPnlPct.isSome = true

/-- Its profit enters the totals of its holding window. -/
def counted (window : ResearchShadowPnlTradeHoldingWindowResult) : Bool :=
  window.netPnlPct.isSome && decide (window.status ≠ .gapDetected)

theorem settled_insufficientWindow (holdingWindow : Nat) :
    WindowDecided (insufficientWindow request holdingWindow) := .inl ⟨rfl, rfl⟩

section
variable (interval : CandleInterval) (entryIndex : Nat) (entry : Candle) (holdingWindow : Nat)

theorem settled_windowResult :
    WindowDecided (windowResult request interval candles entryIndex entry holdingWindow) := by
  unfold windowResult
  split
  · exact settled_insufficientWindow holdingWindow
  · refine .inr ⟨?_, rfl⟩
    dsimp only
    split_ifs <;> exact fun hStatus => nomatch hStatus

theorem holdingWindow_windowResult :
    (windowResult request interval candles entryIndex entry holdingWindow).holdingWindow =
      holdingWindow := by
  unfold windowResult
  split <;> rfl

end

variable (run : ResearchShadowPnlRunInput)

theorem settled_attributeRun :
    ∀ window ∈ (attributeRun request candidate candles run).holdingWindows, WindowDecided window := by
  intro window hWindow
  obtain ⟨holdingWindow, -, rfl⟩ := mem_map.mp hWindow
  split
  · exact settled_windowResult _ _ _ _
  · exact settled_insufficientWindow _

theorem holdingWindows_attributeRun :
    (attributeRun request candidate candles run).holdingWindows.map (·.holdingWindow) =
      request.normalizedHoldingWindows := by
  unfold attributeRun
  dsimp only
  rw [map_map]
  conv_rhs => rw [← map_id request.normalizedHoldingWindows]
  apply map_congr_left
  intro holdingWindow _
  simp only [Function.comp_apply, id_eq]
  split
  · exact holdingWindow_windowResult _ _ _ _
  · rfl

theorem tradeCount_summarizeWindow (trades : List ResearchShadowPnlAttributionTrade)
    (holdingWindow : Nat) :
    (summarizeWindow request trades holdingWindow).tradeCount =
      ((windowResults trades).countP fun window =>
        counted window && decide (window.holdingWindow = holdingWindow) : Nat) := by
  simp only [summarizeWindow, windowValues, (perm_sort _ _).length_eq,
    length_filterMap_eq_countP, countP_filter, counted]

/-- Every result is counted once: with its profit, as a gap, or as lacking data. -/
theorem countP_settled {windows : List ResearchShadowPnlTradeHoldingWindowResult}
    (hSettled : ∀ window ∈ windows, WindowDecided window) :
    windows.countP counted + (windows.filter (·.status = .gapDetected)).length +
      (windows.filter (·.status = .insufficientForwardData)).length = windows.length := by
  induction windows with
  | nil => rfl
  | cons window rest ih =>
    have hRest := ih fun other hOther => hSettled other (mem_cons_of_mem _ hOther)
    rw [← countP_eq_length_filter, ← countP_eq_length_filter] at hRest ⊢
    rw [countP_cons, countP_cons, countP_cons, length_cons]
    rcases hSettled window (mem_cons_self ..) with ⟨hStatus, hNone⟩ | ⟨hStatus, hSome⟩
    · have hOut : counted window = false := by simp [counted, hNone]
      simp only [hStatus, hOut]
      simp
      omega
    · by_cases hGap : window.status = .gapDetected
      · have hOut : counted window = false := by simp [counted, hGap]
        simp only [hGap, hOut]
        simp
        omega
      · have hIn : counted window = true := by simp [counted, hGap, hSome]
        simp only [hGap, hStatus, hIn]
        simp
        omega

/-- Every run is accounted for in every holding window. -/
theorem counts_summarize (hTrades : ∀ trade ∈ trades,
      trade.holdingWindows.map (·.holdingWindow) = request.normalizedHoldingWindows ∧
        ∀ window ∈ trade.holdingWindows, WindowDecided window) :
    ((summarize request trades).perHoldingWindow.map (·.tradeCount)).sum +
        (summarize request trades).gapDetectedCount +
        (summarize request trades).insufficientForwardDataCount =
      trades.length * request.normalizedHoldingWindows.length := by
  have hSettled : ∀ window ∈ windowResults trades, WindowDecided window := by
    intro window hWindow
    obtain ⟨trade, hTrade, hWindow⟩ := mem_flatMap.mp hWindow
    exact (hTrades trade hTrade).2 window hWindow
  have hKeys : ∀ window ∈ windowResults trades,
      window.holdingWindow ∈ request.normalizedHoldingWindows := by
    intro window hWindow
    obtain ⟨trade, hTrade, hWindow⟩ := mem_flatMap.mp hWindow
    rw [← (hTrades trade hTrade).1]
    exact mem_map_of_mem hWindow
  have hLength : (windowResults trades).length =
      trades.length * request.normalizedHoldingWindows.length := by
    rw [windowResults, length_flatMap]
    have hEach : trades.map (fun trade => trade.holdingWindows.length) =
        trades.map fun _ => request.normalizedHoldingWindows.length := by
      apply map_congr_left
      intro trade hTrade
      rw [← (hTrades trade hTrade).1, length_map]
    rw [hEach, map_const', sum_replicate_nat]
  have hDistinct : request.normalizedHoldingWindows.Nodup :=
    (pairwise_normalizedHoldingWindows request).imp ne_of_lt
  have hSum := Groups.sum_countP_key hDistinct (·.holdingWindow) counted (windowResults trades)
  have hAll : (windowResults trades).countP (fun window =>
      counted window && decide (window.holdingWindow ∈ request.normalizedHoldingWindows)) =
        (windowResults trades).countP counted := by
    apply countP_congr
    intro window hWindow
    simp [hKeys window hWindow]
  have hCounts : ((summarize request trades).perHoldingWindow.map (·.tradeCount)).sum =
      ((windowResults trades).countP counted : Nat) := by
    rw [← hAll, ← hSum, Nat.cast_list_sum, map_map]
    simp only [summarize, map_map]
    congr 1
    apply map_congr_left
    intro holdingWindow _
    exact tradeCount_summarizeWindow trades holdingWindow
  rw [hCounts, ← Nat.cast_mul, ← hLength, ← countP_settled hSettled]
  push_cast
  rfl

end Complete

end AegisQuant.Research
