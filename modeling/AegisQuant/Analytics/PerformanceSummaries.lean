import AegisQuant.Core.Basic
import AegisQuant.Library.Folds
import AegisQuant.Library.Reordering
import Mathlib.Algebra.Group.Prod
import Mathlib.Algebra.Order.Field.Rat
import Mathlib.Tactic.Ring

/-! Performance summaries of strategies and their combination. The list of
summaries is taken from its end: the last one seeds the accumulators, the others
are added in order. -/
namespace AegisQuant.Analytics
open Reordering Folds List Option

inductive StrategyPerformanceMode where
  | backtest
  | paper
  | shadow
  | combined
  deriving DecidableEq

structure StrategyPerformanceSummary where
  strategyId : Option String
  symbol : Option String
  timeframe : Option String
  mode : StrategyPerformanceMode
  windowStart : DateTime
  windowEnd : DateTime
  totalRuns : Int
  totalSignals : Int
  approvedRiskDecisions : Int
  rejectedRiskDecisions : Int
  riskRejectionRate : Decimal
  shadowWouldSubmitCount : Int
  shadowNoSignalCount : Int
  shadowRiskRejectedCount : Int
  paperOrdersCount : Int
  paperPositionsOpened : Int
  paperPositionsClosed : Int
  realizedPnl : Decimal
  unrealizedPnl : Decimal
  winRate : Option Decimal
  avgWin : Option Decimal
  avgLoss : Option Decimal
  maxDrawdownPct : Option Decimal
  backtestRunsCount : Int
  bestBacktestPnlPct : Option Decimal
  worstBacktestPnlPct : Option Decimal
  avgBacktestPnlPct : Option Decimal
  createdAt : DateTime
  computedAt : DateTime
  deriving DecidableEq

def calculateStrategyRejectionRate (rejected total : Int) : Decimal :=
  if total ≤ 0 then 0 else rejected / total

def calculateStrategyWinRate (wins total : Int) : Option Decimal :=
  if total ≤ 0 then none else some (wins / total)

def calculateStrategyAveragePnl (total : Decimal) (count : Int) : Option Decimal :=
  if count ≤ 0 then none else some (total / count)

structure CombinedTotals where
  combined : StrategyPerformanceSummary
  totalWinningOutcomes : Decimal
  totalAvgWinSum : Decimal
  totalAvgLossSum : Decimal
  avgWinCount : Int
  avgLossCount : Int
  avgBacktestSum : Decimal

def guardedProduct : Option Decimal → Int → Decimal
  | some average, count => if count > 0 then average * count else 0
  | none, _ => 0

def plainProduct : Option Decimal → Int → Decimal
  | some average, count => average * count
  | none, _ => 0

def countIfSome (average : Option Decimal) (count : Int) : Int :=
  if average.isSome then count else 0

def seedTotals (first : StrategyPerformanceSummary) : CombinedTotals where
  combined := { first with mode := .combined }
  totalWinningOutcomes := guardedProduct first.winRate first.paperPositionsClosed
  totalAvgWinSum := guardedProduct first.avgWin first.paperPositionsClosed
  totalAvgLossSum := guardedProduct first.avgLoss first.paperPositionsClosed
  avgWinCount := countIfSome first.avgWin first.paperPositionsClosed
  avgLossCount := countIfSome first.avgLoss first.paperPositionsClosed
  avgBacktestSum := guardedProduct first.avgBacktestPnlPct first.backtestRunsCount

def addSummary (totals : CombinedTotals) (summary : StrategyPerformanceSummary) :
    CombinedTotals where
  combined := { totals.combined with
    windowStart := min totals.combined.windowStart summary.windowStart
    windowEnd := max totals.combined.windowEnd summary.windowEnd
    totalRuns := totals.combined.totalRuns + summary.totalRuns
    totalSignals := totals.combined.totalSignals + summary.totalSignals
    approvedRiskDecisions :=
      totals.combined.approvedRiskDecisions + summary.approvedRiskDecisions
    rejectedRiskDecisions :=
      totals.combined.rejectedRiskDecisions + summary.rejectedRiskDecisions
    shadowWouldSubmitCount :=
      totals.combined.shadowWouldSubmitCount + summary.shadowWouldSubmitCount
    shadowNoSignalCount := totals.combined.shadowNoSignalCount + summary.shadowNoSignalCount
    shadowRiskRejectedCount :=
      totals.combined.shadowRiskRejectedCount + summary.shadowRiskRejectedCount
    paperOrdersCount := totals.combined.paperOrdersCount + summary.paperOrdersCount
    paperPositionsOpened := totals.combined.paperPositionsOpened + summary.paperPositionsOpened
    paperPositionsClosed := totals.combined.paperPositionsClosed + summary.paperPositionsClosed
    realizedPnl := totals.combined.realizedPnl + summary.realizedPnl
    unrealizedPnl := totals.combined.unrealizedPnl + summary.unrealizedPnl
    backtestRunsCount := totals.combined.backtestRunsCount + summary.backtestRunsCount
    createdAt := min totals.combined.createdAt summary.createdAt
    computedAt := max totals.combined.computedAt summary.computedAt
    maxDrawdownPct := merge max totals.combined.maxDrawdownPct summary.maxDrawdownPct
    bestBacktestPnlPct :=
      merge max totals.combined.bestBacktestPnlPct summary.bestBacktestPnlPct
    worstBacktestPnlPct :=
      merge min totals.combined.worstBacktestPnlPct summary.worstBacktestPnlPct }
  totalWinningOutcomes :=
    totals.totalWinningOutcomes + plainProduct summary.winRate summary.paperPositionsClosed
  totalAvgWinSum :=
    totals.totalAvgWinSum + plainProduct summary.avgWin summary.paperPositionsClosed
  totalAvgLossSum :=
    totals.totalAvgLossSum + plainProduct summary.avgLoss summary.paperPositionsClosed
  avgWinCount := totals.avgWinCount + countIfSome summary.avgWin summary.paperPositionsClosed
  avgLossCount := totals.avgLossCount + countIfSome summary.avgLoss summary.paperPositionsClosed
  avgBacktestSum :=
    totals.avgBacktestSum + plainProduct summary.avgBacktestPnlPct summary.backtestRunsCount

def finishTotals (totals : CombinedTotals) : StrategyPerformanceSummary :=
  let combined := totals.combined
  let totalRiskDecisions := combined.approvedRiskDecisions + combined.rejectedRiskDecisions
  { combined with
    riskRejectionRate :=
      calculateStrategyRejectionRate combined.rejectedRiskDecisions totalRiskDecisions
    winRate :=
      if combined.paperPositionsClosed > 0 then
        some (totals.totalWinningOutcomes / combined.paperPositionsClosed)
      else none
    avgWin := calculateStrategyAveragePnl totals.totalAvgWinSum totals.avgWinCount
    avgLoss := calculateStrategyAveragePnl totals.totalAvgLossSum totals.avgLossCount
    avgBacktestPnlPct :=
      calculateStrategyAveragePnl totals.avgBacktestSum combined.backtestRunsCount }

def combineStrategyPerformanceSummaries (summaries : List StrategyPerformanceSummary) :
    Option StrategyPerformanceSummary :=
  match summaries.getLast? with
  | none => none
  | some first => some (finishTotals (summaries.dropLast.foldl addSummary (seedTotals first)))

/-- The counts and amounts that add up. -/
def addedUp (summary : StrategyPerformanceSummary) :
    Int × Int × Int × Int × Int × Int × Int × Int × Int × Int × Int × Decimal × Decimal :=
  (summary.totalRuns, summary.totalSignals, summary.approvedRiskDecisions,
    summary.rejectedRiskDecisions, summary.shadowWouldSubmitCount, summary.shadowNoSignalCount,
    summary.shadowRiskRejectedCount, summary.paperOrdersCount, summary.paperPositionsOpened,
    summary.paperPositionsClosed, summary.backtestRunsCount, summary.realizedPnl,
    summary.unrealizedPnl)

/-- What the sum of the products gains from the summary that seeds it. -/
def seedingError (average : Option Decimal) (count : Int) : Decimal :=
  guardedProduct average count - plainProduct average count

/-- An average weighted by a count over a population, as the combination has it
when `last` is the last summary. -/
def weightedAverage (average : StrategyPerformanceSummary → Option Decimal)
    (count population : StrategyPerformanceSummary → Int)
    (summaries : List StrategyPerformanceSummary) (last : StrategyPerformanceSummary) :
    Option Decimal :=
  calculateStrategyAveragePnl
    ((summaries.map fun summary => plainProduct (average summary) (count summary)).sum +
      seedingError (average last) (count last))
    (summaries.map population).sum

/-- What the combination is for: totals are sums, bounds are extrema, and the
averages are weighted ones. Only these depend on which summary is the last. -/
structure MergeOf (summaries : List StrategyPerformanceSummary)
    (last merged : StrategyPerformanceSummary) : Prop where
  mode : merged.mode = .combined
  totals : addedUp merged = (summaries.map addedUp).sum
  windowStart : (summaries.map (·.windowStart)).min? = some merged.windowStart
  windowEnd : (summaries.map (·.windowEnd)).max? = some merged.windowEnd
  createdAt : (summaries.map (·.createdAt)).min? = some merged.createdAt
  computedAt : (summaries.map (·.computedAt)).max? = some merged.computedAt
  maxDrawdownPct : merged.maxDrawdownPct = (summaries.filterMap (·.maxDrawdownPct)).max?
  bestBacktestPnlPct : merged.bestBacktestPnlPct = (summaries.filterMap (·.bestBacktestPnlPct)).max?
  worstBacktestPnlPct :
    merged.worstBacktestPnlPct = (summaries.filterMap (·.worstBacktestPnlPct)).min?
  riskRejectionRate : merged.riskRejectionRate =
    calculateStrategyRejectionRate merged.rejectedRiskDecisions
      (merged.approvedRiskDecisions + merged.rejectedRiskDecisions)
  winRate : merged.winRate =
    weightedAverage (·.winRate) (·.paperPositionsClosed) (·.paperPositionsClosed) summaries last
  avgWin : merged.avgWin = weightedAverage (·.avgWin) (·.paperPositionsClosed)
    (fun summary => countIfSome summary.avgWin summary.paperPositionsClosed) summaries last
  avgLoss : merged.avgLoss = weightedAverage (·.avgLoss) (·.paperPositionsClosed)
    (fun summary => countIfSome summary.avgLoss summary.paperPositionsClosed) summaries last
  avgBacktestPnlPct : merged.avgBacktestPnlPct =
    weightedAverage (·.avgBacktestPnlPct) (·.backtestRunsCount) (·.backtestRunsCount) summaries last

section Merge
variable {summaries other rest : List StrategyPerformanceSummary}
  {first last merged : StrategyPerformanceSummary}
variable {average : StrategyPerformanceSummary → Option Decimal}
  {count population : StrategyPerformanceSummary → Int}

theorem calculateStrategyAveragePnl_of_pos (total : Decimal) (count : Int) :
    calculateStrategyAveragePnl total count = if count > 0 then some (total / count) else none := by
  rw [calculateStrategyAveragePnl]
  by_cases hCount : count ≤ 0
  · rw [if_pos hCount, if_neg (not_lt.mpr hCount)]
  · rw [if_neg hCount, if_pos (not_le.mp hCount)]

theorem average_foldl (sum : CombinedTotals → Decimal) (size : CombinedTotals → Int)
    (hSum : ∀ totals summary, sum (addSummary totals summary) =
      sum totals + plainProduct (average summary) (count summary))
    (hSumSeed : sum (seedTotals first) = guardedProduct (average first) (count first))
    (hSize : ∀ totals summary, size (addSummary totals summary) = size totals + population summary)
    (hSizeSeed : size (seedTotals first) = population first) :
    calculateStrategyAveragePnl (sum (rest.foldl addSummary (seedTotals first)))
        (size (rest.foldl addSummary (seedTotals first))) =
      weightedAverage average count population (first :: rest) first := by
  rw [weightedAverage, sum_foldl addSummary sum hSum, sum_foldl addSummary size hSize,
    hSumSeed, hSizeSeed, map_cons, sum_cons, map_cons, sum_cons, seedingError]
  congr 1
  ring

theorem combine_merges (rest : List StrategyPerformanceSummary)
    (first : StrategyPerformanceSummary) : ∃ merged,
    combineStrategyPerformanceSummaries (rest ++ [first]) = some merged ∧
      MergeOf (first :: rest) first merged := by
  refine ⟨finishTotals (rest.foldl addSummary (seedTotals first)), ?_, ?_⟩
  · rw [combineStrategyPerformanceSummaries, getLast?_concat, dropLast_concat]
  · exact
      { mode := kept_foldl addSummary (·.combined.mode) (fun _ _ => rfl) (seedTotals first) rest
        totals := sum_foldl addSummary (fun totals => addedUp totals.combined) (fun _ _ => rfl)
          (seedTotals first) rest
        windowStart := min?_foldl addSummary (·.combined.windowStart) (fun _ _ => rfl)
          (seedTotals first) rest
        windowEnd := max?_foldl addSummary (·.combined.windowEnd) (fun _ _ => rfl)
          (seedTotals first) rest
        createdAt := min?_foldl addSummary (·.combined.createdAt) (fun _ _ => rfl)
          (seedTotals first) rest
        computedAt := max?_foldl addSummary (·.combined.computedAt) (fun _ _ => rfl)
          (seedTotals first) rest
        maxDrawdownPct := merge_max_foldl addSummary (·.combined.maxDrawdownPct)
          (fun _ _ => rfl) rfl rest
        bestBacktestPnlPct := merge_max_foldl addSummary (·.combined.bestBacktestPnlPct)
          (fun _ _ => rfl) rfl rest
        worstBacktestPnlPct := merge_min_foldl addSummary (·.combined.worstBacktestPnlPct)
          (fun _ _ => rfl) rfl rest
        riskRejectionRate := rfl
        winRate := (calculateStrategyAveragePnl_of_pos _ _).symm.trans
          (average_foldl (·.totalWinningOutcomes) (·.combined.paperPositionsClosed)
            (fun _ _ => rfl) rfl (fun _ _ => rfl) rfl)
        avgWin := average_foldl (·.totalAvgWinSum) (·.avgWinCount) (fun _ _ => rfl) rfl
          (fun _ _ => rfl) rfl
        avgLoss := average_foldl (·.totalAvgLossSum) (·.avgLossCount) (fun _ _ => rfl) rfl
          (fun _ _ => rfl) rfl
        avgBacktestPnlPct := average_foldl (·.avgBacktestSum) (·.combined.backtestRunsCount)
          (fun _ _ => rfl) rfl (fun _ _ => rfl) rfl }

theorem weightedAverage_perm (hPerm : other.Perm summaries) :
    weightedAverage average count population other last =
      weightedAverage average count population summaries last := by
  rw [weightedAverage, weightedAverage, (hPerm.map _).sum_eq, (hPerm.map population).sum_eq]

/-- What a list merges to does not depend on its order, but for the last one. -/
theorem MergeOf.perm (hMerge : MergeOf summaries last merged) (hPerm : other.Perm summaries) :
    MergeOf other last merged where
  mode := hMerge.mode
  totals := hMerge.totals.trans (hPerm.map _).sum_eq.symm
  windowStart := (min?_perm (hPerm.map _)).trans hMerge.windowStart
  windowEnd := (max?_perm (hPerm.map _)).trans hMerge.windowEnd
  createdAt := (min?_perm (hPerm.map _)).trans hMerge.createdAt
  computedAt := (max?_perm (hPerm.map _)).trans hMerge.computedAt
  maxDrawdownPct :=
    hMerge.maxDrawdownPct.trans (max?_perm (hPerm.filterMap _)).symm
  bestBacktestPnlPct :=
    hMerge.bestBacktestPnlPct.trans (max?_perm (hPerm.filterMap _)).symm
  worstBacktestPnlPct :=
    hMerge.worstBacktestPnlPct.trans (min?_perm (hPerm.filterMap _)).symm
  riskRejectionRate := hMerge.riskRejectionRate
  winRate := hMerge.winRate.trans (weightedAverage_perm hPerm).symm
  avgWin := hMerge.avgWin.trans (weightedAverage_perm hPerm).symm
  avgLoss := hMerge.avgLoss.trans (weightedAverage_perm hPerm).symm
  avgBacktestPnlPct := hMerge.avgBacktestPnlPct.trans (weightedAverage_perm hPerm).symm

/-- A summary without the strategy, symbol and timeframe it is about. -/
def withoutLabels (summary : StrategyPerformanceSummary) : StrategyPerformanceSummary :=
  { summary with strategyId := none, symbol := none, timeframe := none }

theorem MergeOf.withoutLabels_eq_iff {otherLast otherMerged : StrategyPerformanceSummary}
    (hMerge : MergeOf summaries last merged) (hOther : MergeOf summaries otherLast otherMerged) :
    withoutLabels otherMerged = withoutLabels merged ↔
      otherMerged.winRate = merged.winRate ∧ otherMerged.avgWin = merged.avgWin ∧
        otherMerged.avgLoss = merged.avgLoss ∧
          otherMerged.avgBacktestPnlPct = merged.avgBacktestPnlPct := by
  have hTotals : addedUp otherMerged = addedUp merged := hOther.totals.trans hMerge.totals.symm
  have hMode : otherMerged.mode = merged.mode := hOther.mode.trans hMerge.mode.symm
  have hStart := some.inj (hOther.windowStart.symm.trans hMerge.windowStart)
  have hEnd := some.inj (hOther.windowEnd.symm.trans hMerge.windowEnd)
  have hCreated := some.inj (hOther.createdAt.symm.trans hMerge.createdAt)
  have hComputed := some.inj (hOther.computedAt.symm.trans hMerge.computedAt)
  have hDrawdown := hOther.maxDrawdownPct.trans hMerge.maxDrawdownPct.symm
  have hBest := hOther.bestBacktestPnlPct.trans hMerge.bestBacktestPnlPct.symm
  have hWorst := hOther.worstBacktestPnlPct.trans hMerge.worstBacktestPnlPct.symm
  simp only [addedUp, Prod.mk.injEq] at hTotals
  have hRejection : otherMerged.riskRejectionRate = merged.riskRejectionRate := by
    rw [hOther.riskRejectionRate, hMerge.riskRejectionRate, hTotals.2.2.1, hTotals.2.2.2.1]
  simp only [withoutLabels, StrategyPerformanceSummary.mk.injEq, hTotals, hMode, hStart, hEnd,
    hCreated, hComputed, hDrawdown, hBest, hWorst, hRejection, true_and, and_true]

end Merge

section Order
variable {summaries rest : List StrategyPerformanceSummary} {x y : StrategyPerformanceSummary}

/-- Any order of the list gives the same summary, apart from its labels. -/
def OrderIndependent (summaries : List StrategyPerformanceSummary) : Prop :=
  ∀ other : List StrategyPerformanceSummary, other.Perm summaries →
    (combineStrategyPerformanceSummaries other).map withoutLabels =
      (combineStrategyPerformanceSummaries summaries).map withoutLabels

/-- The seeding has the same error for both, or the population is empty. A count
that is not negative has none. -/
def SeededAlike (average : StrategyPerformanceSummary → Option Decimal)
    (count population : StrategyPerformanceSummary → Int)
    (summaries : List StrategyPerformanceSummary) (x y : StrategyPerformanceSummary) : Prop :=
  0 < (summaries.map population).sum →
    seedingError (average x) (count x) = seedingError (average y) (count y)

theorem seedingError_of_nonneg {average : Option Decimal} {count : Int} (hCount : 0 ≤ count) :
    seedingError average count = 0 := by
  cases average with
  | none => exact sub_self 0
  | some value =>
    rw [seedingError, guardedProduct, plainProduct]
    by_cases hPositive : count > 0
    · rw [if_pos hPositive, sub_self]
    · have hZero : count = 0 := le_antisymm (not_lt.mp hPositive) hCount
      simp [hZero]

/-- It makes no difference which of the two is the last. -/
structure SeedAlike (summaries : List StrategyPerformanceSummary)
    (x y : StrategyPerformanceSummary) : Prop where
  winRate : SeededAlike (·.winRate) (·.paperPositionsClosed) (·.paperPositionsClosed) summaries x y
  avgWin : SeededAlike (·.avgWin) (·.paperPositionsClosed)
    (fun summary => countIfSome summary.avgWin summary.paperPositionsClosed) summaries x y
  avgLoss : SeededAlike (·.avgLoss) (·.paperPositionsClosed)
    (fun summary => countIfSome summary.avgLoss summary.paperPositionsClosed) summaries x y
  avgBacktestPnlPct :
    SeededAlike (·.avgBacktestPnlPct) (·.backtestRunsCount) (·.backtestRunsCount) summaries x y

theorem weightedAverage_eq_iff {average : StrategyPerformanceSummary → Option Decimal}
    {count population : StrategyPerformanceSummary → Int} :
    weightedAverage average count population summaries x =
        weightedAverage average count population summaries y ↔
      SeededAlike average count population summaries x y := by
  rw [weightedAverage, weightedAverage, calculateStrategyAveragePnl_of_pos,
    calculateStrategyAveragePnl_of_pos]
  by_cases hPopulation : (summaries.map population).sum > 0
  · have hNonzero : ((summaries.map population).sum : Decimal) ≠ 0 :=
      Int.cast_ne_zero.mpr (ne_of_gt hPopulation)
    rw [if_pos hPopulation, if_pos hPopulation, some_inj, div_left_inj' hNonzero, add_right_inj]
    exact (imp_iff_right hPopulation).symm
  · rw [if_neg hPopulation, if_neg hPopulation]
    exact iff_of_true rfl fun hPositive => absurd hPositive hPopulation

theorem combine_merges_of_last (hPerm : (x :: rest).Perm summaries) : ∃ merged,
    combineStrategyPerformanceSummaries (rest ++ [x]) = some merged ∧
      MergeOf summaries x merged := by
  obtain ⟨merged, hCombine, hMerge⟩ := combine_merges rest x
  exact ⟨merged, hCombine, hMerge.perm hPerm.symm⟩

theorem combine_isSome (hSome : summaries ≠ []) :
    ∃ merged, combineStrategyPerformanceSummaries summaries = some merged := by
  rw [combineStrategyPerformanceSummaries, getLast?_eq_some_getLast hSome]
  exact ⟨_, rfl⟩

theorem merges_of_combine {merged : StrategyPerformanceSummary}
    (hCombine : combineStrategyPerformanceSummaries summaries = some merged) :
    ∃ last ∈ summaries, MergeOf summaries last merged := by
  rcases eq_nil_or_concat' summaries with rfl | ⟨rest, last, rfl⟩
  · cases hCombine
  · obtain ⟨combined, hSame, hMerge⟩ :=
      combine_merges_of_last (perm_append_singleton last rest).symm
    cases hSame.symm.trans hCombine
    exact ⟨last, mem_append_right _ (mem_singleton_self last), hMerge⟩

theorem MergeOf.withoutLabels_eq_iff_seedAlike {merged other : StrategyPerformanceSummary}
    (hFirst : MergeOf summaries x merged) (hSecond : MergeOf summaries y other) :
    withoutLabels merged = withoutLabels other ↔ SeedAlike summaries x y := by
  rw [hSecond.withoutLabels_eq_iff hFirst, hFirst.winRate, hSecond.winRate, hFirst.avgWin,
    hSecond.avgWin, hFirst.avgLoss, hSecond.avgLoss, hFirst.avgBacktestPnlPct,
    hSecond.avgBacktestPnlPct, weightedAverage_eq_iff, weightedAverage_eq_iff,
    weightedAverage_eq_iff, weightedAverage_eq_iff]
  exact ⟨fun ⟨hWin, hAvgWin, hAvgLoss, hBacktest⟩ => ⟨hWin, hAvgWin, hAvgLoss, hBacktest⟩,
    fun hAlike => ⟨hAlike.winRate, hAlike.avgWin, hAlike.avgLoss, hAlike.avgBacktestPnlPct⟩⟩

/-- The order of the list makes no difference exactly if any of its summaries
may be the last. -/
theorem orderIndependent_iff (summaries : List StrategyPerformanceSummary) :
    OrderIndependent summaries ↔ ∀ x ∈ summaries, ∀ y ∈ summaries, SeedAlike summaries x y := by
  constructor
  · intro hOrder x hx y hy
    obtain ⟨before, hBefore⟩ := exists_perm_cons hx
    obtain ⟨others, hOthers⟩ := exists_perm_cons hy
    obtain ⟨merged, hCombine, hMerge⟩ := combine_merges_of_last hBefore
    obtain ⟨other, hCombineOther, hMergeOther⟩ := combine_merges_of_last hOthers
    have hFirst := hOrder _ ((perm_append_singleton x before).trans hBefore)
    have hSecond := hOrder _ ((perm_append_singleton y others).trans hOthers)
    have hSame := hFirst.trans hSecond.symm
    rw [hCombine, hCombineOther] at hSame
    exact (hMerge.withoutLabels_eq_iff_seedAlike hMergeOther).mp (some.inj hSame)
  · intro hSeed other hPerm
    rcases eq_nil_or_concat' summaries with rfl | ⟨rest, x, rfl⟩
    · rw [hPerm.eq_nil]
    · rcases eq_nil_or_concat' other with rfl | ⟨others, y, rfl⟩
      · cases rest <;> cases hPerm.symm.eq_nil
      · obtain ⟨merged, hCombine, hMerge⟩ :=
          combine_merges_of_last (perm_append_singleton x rest).symm
        obtain ⟨other, hCombineOther, hMergeOther⟩ := combine_merges_of_last
          ((perm_append_singleton y others).symm.trans hPerm)
        rw [hCombine, hCombineOther]
        have hAlike := hSeed y (hPerm.subset (by simp)) x (by simp)
        exact congrArg some
          ((hMergeOther.withoutLabels_eq_iff_seedAlike hMerge).mpr hAlike)

end Order

end AegisQuant.Analytics
