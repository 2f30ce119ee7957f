import AegisQuant.Library.Compounding
import AegisQuant.Library.Pieces
import AegisQuant.Research.CandidatePolicy
import AegisQuant.Research.ValidTrades
import Mathlib.Algebra.BigOperators.Ring.Finset

/-! The result of a cross-asset run. Its trades are cut by their entry times into
windows of a quarter, and the metrics of the run are made of those of the
windows. -/
namespace AegisQuant.Research
open Fallible Pieces List Option

inductive CrossAssetPortfolioStatus where
  | promising
  | weak
  | overfitRisk
  | negative
  | tooSparse
  deriving DecidableEq

inductive CrossAssetResearchRecommendation where
  | considerImplementationResearchOnly
  | keepResearching
  | reject
  deriving DecidableEq

structure CrossAssetMetricSummary where
  netPnlPct : Decimal
  compoundedPnlPct : Decimal
  avgTradePnlPct : Decimal
  medianTradePnlPct : Decimal
  winRate : Decimal
  maxDrawdownPct : Decimal
  worstTradePct : Decimal
  bestTradePct : Decimal
  deriving DecidableEq

/-- A window without the identifiers drawn for it and for its run. -/
structure CrossAssetPortfolioWindow where
  windowIndex : Int
  windowStart : DateTime
  windowEnd : DateTime
  tradeCount : Int
  netPnlPct : Decimal
  compoundedPnlPct : Decimal
  avgTradePnlPct : Decimal
  medianTradePnlPct : Decimal
  winRate : Decimal
  maxDrawdownPct : Decimal
  worstTradePct : Decimal
  bestTradePct : Decimal
  symbolDistribution : List (String × Int)
  deriving DecidableEq

/-- A completed result without its correlation id and times, of which the
preview of a package reads a part. -/
structure CrossAssetRunResult extends CrossAssetResearchResult where
  request : CrossAssetResearchRequest
  portfolioStatus : CrossAssetPortfolioStatus
  recommendation : CrossAssetResearchRecommendation
  netPnlPct : Decimal
  compoundedPnlPct : Decimal
  avgTradePnlPct : Decimal
  medianTradePnlPct : Decimal
  winRate : Decimal
  worstTradePct : Decimal
  bestTradePct : Decimal
  feeSlippageDragPct : Decimal
  windowCount : Int
  profitableWindows : Int
  medianWindowPnlPct : Decimal
  warnings : List String

structure CrossAssetResearchRun where
  result : CrossAssetRunResult
  trades : List CrossAssetPortfolioTrade
  windows : List CrossAssetPortfolioWindow

/-- What the loop over the profits keeps. -/
structure EquityScan where
  equity : Decimal
  peak : Decimal
  maxDrawdownPct : Decimal

def EquityScan.next (scan : EquityScan) (pnlPct : Decimal) : EquityScan :=
  let equity := scan.equity * (1 + pnlPct / 100)
  let peak := max scan.peak equity
  { equity := equity
    peak := peak
    maxDrawdownPct :=
      if 0 < peak then min scan.maxDrawdownPct (percent (equity / peak - 1))
      else scan.maxDrawdownPct }

def equityScan (pnlValues : List Decimal) : EquityScan := pnlValues.foldl EquityScan.next ⟨1, 1, 0⟩

def crossAssetMetricSummary (floats : FloatArithmetic) (trades : List CrossAssetPortfolioTrade) :
    CrossAssetMetricSummary :=
  if trades.isEmpty then ⟨0, 0, 0, 0, 0, 0, 0, 0⟩
  else
    let pnlValues := trades.map (·.netPnlPct)
    let netPnlPct := pnlValues.sum
    let wins := pnlValues.countP fun value => 0 < value
    let scan := equityScan pnlValues
    { netPnlPct := netPnlPct
      compoundedPnlPct := percent (scan.equity - 1)
      avgTradePnlPct := netPnlPct / trades.length
      medianTradePnlPct := medianDecimalVec floats pnlValues
      winRate := wins * 100 / trades.length
      maxDrawdownPct := scan.maxDrawdownPct
      worstTradePct := pnlValues.min?.getD 0
      bestTradePct := pnlValues.max?.getD 0 }

def symbolDistribution (trades : List CrossAssetPortfolioTrade) : List (String × Int) :=
  (Groups.group (·.symbol) trades).map fun group => (group.1, (group.2.length : Int))

def maxSymbolConcentrationPct (distribution : List (String × Int)) (totalTrades : Nat) : Decimal :=
  if totalTrades = 0 then 0
  else ((distribution.map (·.2)).max?.getD 0 : Int) * 100 / totalTrades

/-- `Duration::hours(24 * 91)`. -/
def windowSpan : Int := DateTime.seconds (24 * 91 * 3600)

theorem windowSpan_pos : 0 < windowSpan := by decide

def crossAssetWindow (floats : FloatArithmetic) (index : Int) (windowStart windowEnd : DateTime)
    (windowTrades : List CrossAssetPortfolioTrade) : CrossAssetPortfolioWindow :=
  let summary := crossAssetMetricSummary floats windowTrades
  { windowIndex := index
    windowStart := windowStart
    windowEnd := windowEnd
    tradeCount := windowTrades.length
    netPnlPct := summary.netPnlPct
    compoundedPnlPct := summary.compoundedPnlPct
    avgTradePnlPct := summary.avgTradePnlPct
    medianTradePnlPct := summary.medianTradePnlPct
    winRate := summary.winRate
    maxDrawdownPct := summary.maxDrawdownPct
    worstTradePct := summary.worstTradePct
    bestTradePct := summary.bestTradePct
    symbolDistribution := symbolDistribution windowTrades }

def windowTrades (windowStart windowEnd : DateTime) (trades : List CrossAssetPortfolioTrade) :
    List CrossAssetPortfolioTrade :=
  trades.filter fun trade => windowStart ≤ trade.entryTime && trade.entryTime < windowEnd

theorem toNat_sub_window_lt {cursor endTime : DateTime} (hRoom : cursor < endTime) :
    (endTime - min (cursor + windowSpan) endTime).toNat < (endTime - cursor).toNat := by
  have hSpan := windowSpan_pos
  unfold DateTime at *
  omega

def crossAssetWindowsFrom (floats : FloatArithmetic) (endTime : DateTime)
    (trades : List CrossAssetPortfolioTrade) (index : Int) (cursor : DateTime) :
    List CrossAssetPortfolioWindow :=
  if cursor < endTime then
    let windowEnd := min (cursor + windowSpan) endTime
    crossAssetWindow floats index cursor windowEnd (windowTrades cursor windowEnd trades) ::
      crossAssetWindowsFrom floats endTime trades (index + 1) windowEnd
  else []
termination_by (endTime - cursor).toNat
decreasing_by exact toNat_sub_window_lt ‹_›

def crossAssetWindows (floats : FloatArithmetic) (startTime endTime : DateTime)
    (trades : List CrossAssetPortfolioTrade) : List CrossAssetPortfolioWindow :=
  crossAssetWindowsFrom floats endTime trades 0 startTime

def hasWeak2025Plus (floats : FloatArithmetic) (trades : List CrossAssetPortfolioTrade) : Bool :=
  let early := crossAssetMetricSummary floats (trades.filter fun trade => trade.entryTime < year2025)
  let late := crossAssetMetricSummary floats (trades.filter fun trade => year2025 ≤ trade.entryTime)
  20 < early.compoundedPnlPct && late.compoundedPnlPct < 5

def classifyCrossAssetPortfolio (tradeCount : Int) (summary : CrossAssetMetricSummary)
    (maxSymbolConcentrationPct worstWindowPnlPct : Decimal) : CrossAssetPortfolioStatus :=
  if tradeCount < 50 then .tooSparse
  else if summary.compoundedPnlPct ≤ 0 then .negative
  else if 60 < maxSymbolConcentrationPct || summary.medianTradePnlPct ≤ 0 then .overfitRisk
  else if summary.maxDrawdownPct < -25 || worstWindowPnlPct < -15 then .weak
  else .promising

def CrossAssetPortfolioStatus.recommendation :
    CrossAssetPortfolioStatus → CrossAssetResearchRecommendation
  | .promising => .considerImplementationResearchOnly
  | .weak | .overfitRisk => .keepResearching
  | .negative | .tooSparse => .reject

def completeCrossAssetRun (floats : FloatArithmetic) (runId : Uuid)
    (request : CrossAssetResearchRequest) (trades : List CrossAssetPortfolioTrade) :
    CrossAssetResearchRun :=
  let windows := crossAssetWindows floats request.startTime request.endTime trades
  let summary := crossAssetMetricSummary floats trades
  let windowPnls := windows.map (·.compoundedPnlPct)
  let distribution := symbolDistribution trades
  let concentration := maxSymbolConcentrationPct distribution trades.length
  let worstWindowPnlPct := windowPnls.min?.getD 0
  let portfolioStatus :=
    classifyCrossAssetPortfolio trades.length summary concentration worstWindowPnlPct
  { result := {
      runId := runId
      request := request
      portfolioStatus := portfolioStatus
      recommendation := portfolioStatus.recommendation
      totalTrades := trades.length
      netPnlPct := summary.netPnlPct
      compoundedPnlPct := summary.compoundedPnlPct
      avgTradePnlPct := summary.avgTradePnlPct
      medianTradePnlPct := summary.medianTradePnlPct
      winRate := summary.winRate
      maxDrawdownPct := summary.maxDrawdownPct
      worstTradePct := summary.worstTradePct
      bestTradePct := summary.bestTradePct
      feeSlippageDragPct := (trades.map (·.feeSlippageDragPct)).sum
      symbolDistribution := distribution
      maxSymbolConcentrationPct := concentration
      windowCount := windows.length
      profitableWindows := windows.countP fun window => 0 < window.compoundedPnlPct
      worstWindowPnlPct := worstWindowPnlPct
      medianWindowPnlPct := medianDecimalVec floats windowPnls
      warnings :=
        (if 60 < concentration then ["max_symbol_concentration_gt_60_pct"] else []) ++
        (if worstWindowPnlPct < -15 then ["worst_window_below_minus_15_pct"] else []) ++
        (if hasWeak2025Plus floats trades then ["2025_plus_weak_relative_to_2023_2024"] else []) }
    trades := trades
    windows := windows }

def crossAssetResearchRun (floats : FloatArithmetic) (runId : Uuid)
    (request : CrossAssetResearchRequest) (candlesBySymbol : String → Option (List Candle)) :
    Except Fault CrossAssetResearchRun :=
  (runCrossAssetRelativeStrengthResearch floats request candlesBySymbol).map
    (completeCrossAssetRun floats runId request)

/-- The equity is multiplied by this when a trade ends. -/
def growth (trade : CrossAssetPortfolioTrade) : Decimal := 1 + trade.netPnlPct / 100

def equityAt (trades : List CrossAssetPortfolioTrade) (count : Nat) : Decimal :=
  ((trades.take count).map growth).prod

def CrossAssetPortfolioWindow.Counts (window : CrossAssetPortfolioWindow)
    (trade : CrossAssetPortfolioTrade) : Prop :=
  window.windowStart ≤ trade.entryTime ∧ trade.entryTime < window.windowEnd

instance decidableCounts (window : CrossAssetPortfolioWindow) (trade : CrossAssetPortfolioTrade) :
    Decidable (window.Counts trade) := inferInstanceAs (Decidable (_ ∧ _))

/-- The windows lie next to each other from the start of the request to its end
and count every trade once, their metrics make up those of the run, and the run
has the deepest fall of its equity, which no fall within a window exceeds. -/
structure WindowsPartition (request : CrossAssetResearchRequest) (run : CrossAssetResearchRun) :
    Prop where
  first : run.windows.head?.map (·.windowStart) = some request.startTime
  last : run.windows.getLast?.map (·.windowEnd) = some request.endTime
  contiguous : run.windows.IsChain fun window next => next.windowStart = window.windowEnd
  nonempty : ∀ window ∈ run.windows, window.windowStart < window.windowEnd
  counts : ∀ window ∈ run.windows,
    window.tradeCount = run.trades.countP fun trade => window.Counts trade
  countedOnce : ∀ trade ∈ run.trades, (run.windows.countP fun window => window.Counts trade) = 1
  tradeCount : (run.windows.map (·.tradeCount)).sum = run.result.totalTrades
  netPnlPct : (run.windows.map (·.netPnlPct)).sum = run.result.netPnlPct
  compoundedPnlPct : (run.windows.map fun window => 1 + window.compoundedPnlPct / 100).prod =
    1 + run.result.compoundedPnlPct / 100
  maxDrawdownPct : IsLeast {fall | ∃ earlier later, earlier ≤ later ∧ later ≤ run.trades.length ∧
    fall = (equityAt run.trades later / equityAt run.trades earlier - 1) * 100}
    run.result.maxDrawdownPct
  deepest : ∀ window ∈ run.windows, run.result.maxDrawdownPct ≤ window.maxDrawdownPct

section Metrics
variable {floats : FloatArithmetic} {trades part : List CrossAssetPortfolioTrade}

theorem equityAt_eq (count : Nat) :
    equityAt trades count = Compounding.levelAt (trades.map growth) count := by
  rw [equityAt, Compounding.levelAt, map_take]

theorem growth_pos {trade : CrossAssetPortfolioTrade} (hNet : -100 < trade.netPnlPct) :
    0 < growth trade := by
  unfold growth
  linarith

theorem factor_pos (hNet : ∀ trade ∈ trades, -100 < trade.netPnlPct) :
    ∀ factor ∈ trades.map growth, 0 < factor := by
  intro factor hFactor
  obtain ⟨trade, hTrade, rfl⟩ := mem_map.mp hFactor
  exact growth_pos (hNet trade hTrade)

theorem min_percent (ratio other : Decimal) :
    min (percent (ratio - 1)) (percent (other - 1)) = percent (min ratio other - 1) := by
  have hMonotone : Monotone fun value : Decimal => percent (value - 1) := by
    intro value larger hLe
    exact mul_le_mul_of_nonneg_right (sub_le_sub_right hLe 1) (by norm_num)
  exact (hMonotone.map_min).symm

theorem scanned_equityScan (hNet : ∀ trade ∈ trades, -100 < trade.netPnlPct) :
    ∃ deepest, (equityScan (trades.map (·.netPnlPct))).maxDrawdownPct = percent (deepest - 1) ∧
      Compounding.Scanned (trades.map growth) (equityScan (trades.map (·.netPnlPct))).equity
        (equityScan (trades.map (·.netPnlPct))).peak deepest := by
  induction trades using reverseRecOn with
  | nil => exact ⟨1, by simp [equityScan, percent], Compounding.scanned_nil⟩
  | append_singleton trades trade ih =>
    have hBefore (other : CrossAssetPortfolioTrade) (hOther : other ∈ trades) :=
      hNet other (mem_append_left _ hOther)
    obtain ⟨deepest, hDeepest, hScanned⟩ := ih hBefore
    have hFactor := growth_pos (hNet trade (by simp))
    have hNext := hScanned.concat (factor_pos hBefore) hFactor
    have hPeak := lt_of_lt_of_le one_pos hNext.one_le_peak
    have hScan : equityScan ((trades ++ [trade]).map (·.netPnlPct)) =
        (equityScan (trades.map (·.netPnlPct))).next trade.netPnlPct := by
      simp [equityScan]
    rw [hScan, map_append, map_singleton]
    refine ⟨_, ?_, hNext⟩
    rw [← min_percent, ← hDeepest]
    exact if_pos hPeak

theorem netPnlPct_summary :
    (crossAssetMetricSummary floats trades).netPnlPct = (trades.map (·.netPnlPct)).sum := by
  cases trades with
  | nil => rfl
  | cons trade rest => rfl

theorem compoundedPnlPct_summary : (crossAssetMetricSummary floats trades).compoundedPnlPct =
    percent ((equityScan (trades.map (·.netPnlPct))).equity - 1) := by
  cases trades with
  | nil => simp [crossAssetMetricSummary, equityScan, percent]
  | cons trade rest => rfl

theorem maxDrawdownPct_summary : (crossAssetMetricSummary floats trades).maxDrawdownPct =
    (equityScan (trades.map (·.netPnlPct))).maxDrawdownPct := by
  cases trades with
  | nil => rfl
  | cons trade rest => rfl

theorem one_add_compoundedPnlPct (hNet : ∀ trade ∈ trades, -100 < trade.netPnlPct) :
    1 + (crossAssetMetricSummary floats trades).compoundedPnlPct / 100 =
      (trades.map growth).prod := by
  obtain ⟨_, -, hScanned⟩ := scanned_equityScan hNet
  rw [compoundedPnlPct_summary, percent, hScanned.level]
  ring

theorem isLeast_maxDrawdownPct (hNet : ∀ trade ∈ trades, -100 < trade.netPnlPct) :
    IsLeast {fall | ∃ earlier later, earlier ≤ later ∧ later ≤ trades.length ∧
      fall = (equityAt trades later / equityAt trades earlier - 1) * 100}
      (crossAssetMetricSummary floats trades).maxDrawdownPct := by
  obtain ⟨deepest, hDeepest, hScanned⟩ := scanned_equityScan hNet
  rw [maxDrawdownPct_summary, hDeepest]
  constructor
  · obtain ⟨earlier, later, hOrder, hLater, hRatio⟩ := hScanned.deepest.1
    rw [length_map] at hLater
    refine ⟨earlier, later, hOrder, hLater, ?_⟩
    rw [hRatio, percent, equityAt_eq, equityAt_eq]
  · rintro _ ⟨earlier, later, hOrder, hLater, rfl⟩
    have hRatio := hScanned.deepest.2
      ⟨earlier, later, hOrder, (length_map growth).symm ▸ hLater, rfl⟩
    rw [equityAt_eq, equityAt_eq]
    exact mul_le_mul_of_nonneg_right (sub_le_sub_right hRatio 1) (by norm_num)

theorem maxDrawdownPct_le_of_infix (hPart : part <:+: trades)
    (hNet : ∀ trade ∈ trades, -100 < trade.netPnlPct) :
    (crossAssetMetricSummary floats trades).maxDrawdownPct ≤
      (crossAssetMetricSummary floats part).maxDrawdownPct := by
  obtain ⟨deepest, hDeepest, hScanned⟩ := scanned_equityScan hNet
  obtain ⟨inPart, hInPart, hScannedPart⟩ := scanned_equityScan fun trade hTrade =>
    hNet trade (hPart.subset hTrade)
  have hLe : deepest ≤ inPart := hScannedPart.deepest.mono hScanned.deepest
    (Compounding.ratios_subset_of_infix (hPart.map growth) (factor_pos hNet))
  rw [maxDrawdownPct_summary, maxDrawdownPct_summary, hDeepest, hInPart]
  exact mul_le_mul_of_nonneg_right (sub_le_sub_right hLe 1) (by norm_num)

end Metrics

section Windows
variable {floats : FloatArithmetic} {endTime cursor : DateTime} {index : Int}
  {trades : List CrossAssetPortfolioTrade}

def CrossAssetPortfolioWindow.unnumbered (window : CrossAssetPortfolioWindow) :
    CrossAssetPortfolioWindow := { window with windowIndex := 0 }

def windowOf (floats : FloatArithmetic) (trades : List CrossAssetPortfolioTrade)
    (piece : Int × Int) : CrossAssetPortfolioWindow :=
  crossAssetWindow floats 0 piece.1 piece.2 (windowTrades piece.1 piece.2 trades)

theorem unnumbered_crossAssetWindowsFrom :
    (crossAssetWindowsFrom floats endTime trades index cursor).map (·.unnumbered) =
      (pieces windowSpan windowSpan_pos endTime cursor).map (windowOf floats trades) := by
  induction cursor using pieces.induct windowSpan windowSpan_pos endTime
    generalizing index with
  | case1 cursor hRoom ih =>
    rw [crossAssetWindowsFrom, if_pos hRoom, pieces_of_lt hRoom, map_cons, map_cons, ih]
    rfl
  | case2 cursor hEnd =>
    rw [crossAssetWindowsFrom, if_neg hEnd, pieces_of_le (not_lt.mp hEnd)]
    rfl

theorem map_crossAssetWindowsFrom {α : Type} (field : CrossAssetPortfolioWindow → α)
    (hField : ∀ window, field window.unnumbered = field window) :
    (crossAssetWindowsFrom floats endTime trades index cursor).map field =
      (pieces windowSpan windowSpan_pos endTime cursor).map
        fun piece => field (windowOf floats trades piece) := by
  calc (crossAssetWindowsFrom floats endTime trades index cursor).map field
      = ((crossAssetWindowsFrom floats endTime trades index cursor).map (·.unnumbered)).map
          field := by
        rw [List.map_map]
        exact map_congr_left fun window _ => (hField window).symm
    _ = _ := by
        rw [unnumbered_crossAssetWindowsFrom, List.map_map]
        rfl

variable {window : CrossAssetPortfolioWindow}

theorem exists_piece_of_mem
    (hWindow : window ∈ crossAssetWindowsFrom floats endTime trades index cursor) :
    ∃ piece ∈ pieces windowSpan windowSpan_pos endTime cursor,
      windowOf floats trades piece = window.unnumbered := by
  apply List.mem_map.mp
  rw [← unnumbered_crossAssetWindowsFrom]
  exact mem_map_of_mem hWindow

theorem windowTrades_eq (piece : Int × Int) : windowTrades piece.1 piece.2 trades =
    trades.filter fun trade => Pieces.Holds piece trade.entryTime := by
  apply filter_congr
  intro trade _
  exact (Bool.decide_and ..).symm

/-- The trades of a run are in order, and are entered within its span. -/
structure EntriesWithin (startTime endTime : DateTime) (trades : List CrossAssetPortfolioTrade) :
    Prop where
  ordered : trades.Pairwise fun earlier later => earlier.entryTime ≤ later.entryTime
  after : ∀ trade ∈ trades, startTime ≤ trade.entryTime
  before : ∀ trade ∈ trades, trade.entryTime < endTime

section
variable (hEntries : EntriesWithin cursor endTime trades)
include hEntries

theorem EntriesWithin.flatMap_windowTrades :
    ((pieces windowSpan windowSpan_pos endTime cursor).flatMap fun piece =>
      windowTrades piece.1 piece.2 trades) = trades := by
  simp only [windowTrades_eq]
  exact flatMap_filter_pieces hEntries.ordered hEntries.after hEntries.before

theorem sum_tradeCount :
    ((crossAssetWindowsFrom floats endTime trades index cursor).map (·.tradeCount)).sum =
      trades.length := by
  rw [map_crossAssetWindowsFrom (·.tradeCount) fun _ => rfl]
  conv_rhs => rw [← hEntries.flatMap_windowTrades, length_flatMap, Nat.cast_list_sum, List.map_map]
  rfl

theorem sum_netPnlPct :
    ((crossAssetWindowsFrom floats endTime trades index cursor).map (·.netPnlPct)).sum =
      (trades.map (·.netPnlPct)).sum := by
  rw [map_crossAssetWindowsFrom (·.netPnlPct) fun _ => rfl]
  conv_rhs => rw [← hEntries.flatMap_windowTrades, map_flatMap, flatMap_def,
    List.sum_flatten, List.map_map]
  apply congrArg sum
  apply map_congr_left
  intro piece _
  exact netPnlPct_summary

theorem prod_compoundedPnlPct (hNet : ∀ trade ∈ trades, -100 < trade.netPnlPct) :
    ((crossAssetWindowsFrom floats endTime trades index cursor).map
      fun window => 1 + window.compoundedPnlPct / 100).prod = (trades.map growth).prod := by
  rw [map_crossAssetWindowsFrom _ fun _ => rfl]
  conv_rhs => rw [← hEntries.flatMap_windowTrades, map_flatMap, flatMap_def,
    List.prod_flatten, List.map_map]
  apply congrArg prod
  apply map_congr_left
  intro piece _
  exact one_add_compoundedPnlPct fun trade hTrade => hNet trade (mem_of_mem_filter hTrade)

end

theorem spans_crossAssetWindowsFrom (floats : FloatArithmetic) (endTime cursor : DateTime)
    (index : Int) (trades : List CrossAssetPortfolioTrade) :
    (crossAssetWindowsFrom floats endTime trades index cursor).map
      (fun window => (window.windowStart, window.windowEnd)) =
        pieces windowSpan windowSpan_pos endTime cursor := by
  rw [map_crossAssetWindowsFrom (fun window => (window.windowStart, window.windowEnd)) fun _ => rfl]
  exact map_id _

theorem head?_windowStart (hRoom : cursor < endTime) :
    (crossAssetWindowsFrom floats endTime trades index cursor).head?.map (·.windowStart) =
      some cursor := by
  have hHead : (pieces windowSpan windowSpan_pos endTime cursor).head?.map Prod.fst =
      some cursor := head?_pieces hRoom
  rwa [← spans_crossAssetWindowsFrom floats endTime cursor index trades,
    List.head?_map, Option.map_map] at hHead

theorem getLast?_windowEnd (hRoom : cursor < endTime) :
    (crossAssetWindowsFrom floats endTime trades index cursor).getLast?.map (·.windowEnd) =
      some endTime := by
  have hLast : (pieces windowSpan windowSpan_pos endTime cursor).getLast?.map Prod.snd =
      some endTime := getLast?_pieces hRoom
  rwa [← spans_crossAssetWindowsFrom floats endTime cursor index trades,
    List.getLast?_map, Option.map_map] at hLast

theorem isChain_windows : (crossAssetWindowsFrom floats endTime trades index cursor).IsChain
    fun window next => next.windowStart = window.windowEnd := by
  have hChain : (pieces windowSpan windowSpan_pos endTime cursor).IsChain
      fun piece next => next.1 = piece.2 := isChain_pieces
  rw [← spans_crossAssetWindowsFrom floats endTime cursor index trades] at hChain
  exact (isChain_map _).mp hChain

theorem windowStart_lt_windowEnd
    (hWindow : window ∈ crossAssetWindowsFrom floats endTime trades index cursor) :
    window.windowStart < window.windowEnd := by
  have hPiece : (window.windowStart, window.windowEnd) ∈
      pieces windowSpan windowSpan_pos endTime cursor := by
    rw [← spans_crossAssetWindowsFrom]
    exact mem_map.mpr ⟨window, hWindow, rfl⟩
  exact (fits_of_mem hPiece).nonempty

theorem EntriesWithin.countP_counts (hEntries : EntriesWithin cursor endTime trades)
    {trade : CrossAssetPortfolioTrade} (hTrade : trade ∈ trades) :
    ((crossAssetWindowsFrom floats endTime trades index cursor).countP
      fun window => window.Counts trade) = 1 := by
  have hPieces : ((pieces windowSpan windowSpan_pos endTime cursor).countP
      fun piece => Pieces.Holds piece trade.entryTime) = 1 :=
    countP_holds (hEntries.after trade hTrade) (hEntries.before trade hTrade)
  have hSame : (crossAssetWindowsFrom floats endTime trades index cursor).map
      (fun window => decide (window.Counts trade)) =
        (pieces windowSpan windowSpan_pos endTime cursor).map
          fun piece => decide (Pieces.Holds piece trade.entryTime) :=
    map_crossAssetWindowsFrom (fun window => decide (window.Counts trade)) fun _ => rfl
  have hCount := congrArg (countP id) hSame
  rw [countP_map, countP_map] at hCount
  exact hCount.trans hPieces

theorem tradeCount_eq_countP
    (hWindow : window ∈ crossAssetWindowsFrom floats endTime trades index cursor) :
    window.tradeCount = trades.countP fun trade => window.Counts trade := by
  obtain ⟨piece, -, hPiece⟩ := exists_piece_of_mem hWindow
  have hCount : window.tradeCount = (windowTrades piece.1 piece.2 trades).length :=
    congrArg (·.tradeCount) hPiece.symm
  have hStart : window.windowStart = piece.1 := congrArg (·.windowStart) hPiece.symm
  have hEnd : window.windowEnd = piece.2 := congrArg (·.windowEnd) hPiece.symm
  have hHolds (trade : CrossAssetPortfolioTrade) :
      Pieces.Holds piece trade.entryTime ↔ window.Counts trade := by
    rw [Pieces.Holds, CrossAssetPortfolioWindow.Counts, hStart, hEnd]
  rw [hCount, windowTrades_eq, ← countP_eq_length_filter]
  simp only [hHolds]

theorem EntriesWithin.maxDrawdownPct_le (hEntries : EntriesWithin cursor endTime trades)
    (hNet : ∀ trade ∈ trades, -100 < trade.netPnlPct)
    (hWindow : window ∈ crossAssetWindowsFrom floats endTime trades index cursor) :
    (crossAssetMetricSummary floats trades).maxDrawdownPct ≤ window.maxDrawdownPct := by
  obtain ⟨piece, hPieces, hPiece⟩ := exists_piece_of_mem hWindow
  have hPart : windowTrades piece.1 piece.2 trades <:+: trades := by
    conv_rhs => rw [← hEntries.flatMap_windowTrades]
    exact infix_of_mem_flatten (mem_map_of_mem hPieces)
  have hDrawdown : window.maxDrawdownPct =
      (crossAssetMetricSummary floats (windowTrades piece.1 piece.2 trades)).maxDrawdownPct :=
    congrArg (·.maxDrawdownPct) hPiece.symm
  rw [hDrawdown]
  exact maxDrawdownPct_le_of_infix hPart hNet

end Windows

section Run
variable {floats : FloatArithmetic} {request : CrossAssetResearchRequest}
  {candlesBySymbol : String → Option (List Candle)} {trades : List CrossAssetPortfolioTrade}

/-- The trades of a run are entered in order on the opens of candles of the
window. -/
theorem entriesWithin_of_run
    (hCandles : ∀ symbol candles, candlesBySymbol symbol = some candles →
      ∀ candle ∈ candles, candle.openTime < candle.closeTime)
    (hRun : runCrossAssetRelativeStrengthResearch floats request candlesBySymbol = .ok trades) :
    EntriesWithin request.startTime request.endTime trades := by
  obtain ⟨data, state, _, -, rfl, hValid, hOrder⟩ := trades_kept hRun
  have hEntry (trade : CrossAssetPortfolioTrade) (hTrade : trade ∈ state.trades) :
      request.startTime ≤ trade.entryTime ∧ trade.entryTime < request.endTime := by
    obtain ⟨hRows, signalIndex, _, hAt⟩ := hValid.valid trade hTrade
    have hTime := hAt.entryTime
    rw [← hRows.times, getElem?_map] at hTime
    obtain ⟨candle, hCandle, hOpen⟩ := map_eq_some_iff.mp hTime
    obtain ⟨candles, hGiven, hMem, -, hStart, hClose⟩ :=
      hRows.given candle (mem_of_getElem? hCandle)
    rw [← hOpen]
    exact ⟨hStart, lt_of_lt_of_le (hCandles _ candles hGiven candle hMem) hClose⟩
  exact ⟨hOrder.ordered.imp le_of_lt, fun trade hTrade => (hEntry trade hTrade).1,
    fun trade hTrade => (hEntry trade hTrade).2⟩

theorem start_lt_end_of_run
    (hRun : runCrossAssetRelativeStrengthResearch floats request candlesBySymbol = .ok trades) :
    request.startTime < request.endTime := by
  obtain ⟨data, -, -, hPrepared, -⟩ := trades_kept hRun
  obtain ⟨plan, -, -, hPlan, -⟩ := prepareCrossAssetData_eq_ok hPrepared
  simp only [researchPlan, bind_eq_ok] at hPlan
  obtain ⟨_, hValid, -⟩ := hPlan
  simp only [CrossAssetResearchRequest.validate, bind_eq_ok, require_eq_ok,
    decide_eq_true_eq] at hValid
  obtain ⟨_, -, _, -, _, -, _, -, _, hWindow, -⟩ := hValid
  exact hWindow

end Run

/-- For every request and map of candles that open before they close, the
windows of a run that succeeds partition it when no trade loses everything. -/
theorem cross_asset_windows_partition (floats : FloatArithmetic) (runId : Uuid)
    (request : CrossAssetResearchRequest) (candlesBySymbol : String → Option (List Candle))
    (hCandles : ∀ symbol candles, candlesBySymbol symbol = some candles →
      ∀ candle ∈ candles, candle.openTime < candle.closeTime)
    {run : CrossAssetResearchRun}
    (hRun : crossAssetResearchRun floats runId request candlesBySymbol = .ok run)
    (hNet : ∀ trade ∈ run.trades, -100 < trade.netPnlPct) : WindowsPartition request run := by
  obtain ⟨trades, hTrades, rfl⟩ := map_eq_ok.mp hRun
  have hEntries := entriesWithin_of_run hCandles hTrades
  have hRoom := start_lt_end_of_run hTrades
  constructor
  case first => exact head?_windowStart hRoom
  case last => exact getLast?_windowEnd hRoom
  case contiguous => exact isChain_windows
  case nonempty => exact fun _ hWindow => windowStart_lt_windowEnd hWindow
  case counts => exact fun _ hWindow => tradeCount_eq_countP hWindow
  case countedOnce => exact fun _ hTrade => hEntries.countP_counts hTrade
  case tradeCount => exact sum_tradeCount hEntries
  case netPnlPct => exact (sum_netPnlPct hEntries).trans netPnlPct_summary.symm
  case compoundedPnlPct =>
    exact (prod_compoundedPnlPct hEntries hNet).trans (one_add_compoundedPnlPct hNet).symm
  case maxDrawdownPct => exact isLeast_maxDrawdownPct hNet
  case deepest => exact fun _ hWindow => hEntries.maxDrawdownPct_le hNet hWindow

/-- A run with one trade. -/
theorem cross_asset_windows_partition_sample : ∃ run,
    crossAssetResearchRun sampleFloats ⟨1⟩ (sampleRequest 100) (sampleCandles 100) = .ok run ∧
    run.trades.length = 1 ∧ WindowsPartition (sampleRequest 100) run := by
  have hSample : (crossAssetResearchRun sampleFloats ⟨1⟩ (sampleRequest 100)
      (sampleCandles 100)).toOption.map (fun run =>
        (run.trades.length, decide (∀ trade ∈ run.trades, -100 < trade.netPnlPct))) =
          some (1, true) := by
    decide +kernel
  obtain ⟨run, hRun, hFigures⟩ := map_eq_some_iff.mp hSample
  rw [toOption_eq_some] at hRun
  obtain ⟨hOne, hNet⟩ := Prod.mk.inj hFigures
  have hCandles : ∀ symbol candles, sampleCandles 100 symbol = some candles →
      ∀ candle ∈ candles, candle.openTime < candle.closeTime := by
    intro symbol candles hGiven
    unfold sampleCandles at hGiven
    split at hGiven
    · cases hGiven
      decide +kernel
    · cases hGiven
  exact ⟨run, hRun, hOne, cross_asset_windows_partition sampleFloats ⟨1⟩ (sampleRequest 100)
    (sampleCandles 100) hCandles hRun (of_decide_eq_true hNet)⟩

end AegisQuant.Research
