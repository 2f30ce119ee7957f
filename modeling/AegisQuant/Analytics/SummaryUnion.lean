import AegisQuant.Analytics.PerformanceSummaries
import AegisQuant.Library.Averages
import AegisQuant.Store.Database
import Mathlib.Algebra.BigOperators.Ring.Finset

/-! The summaries of the three modes, computed from the rows their queries
select, and what their combination says about all those rows together. -/
namespace AegisQuant.Analytics
open Averages List Option WeightedMeans

structure StrategyPerformanceRequest where
  strategyId : Option String
  symbol : Option String
  timeframe : Option String
  mode : StrategyPerformanceMode
  startTime : Option DateTime
  endTime : Option DateTime

def analyticsDefaultWindow : Int := DateTime.seconds (7 * 86400)

def analyticsWindow (request : StrategyPerformanceRequest) (computedAt : DateTime) :
    DateTime × DateTime :=
  let endTime := request.endTime.getD computedAt
  let startTime := request.startTime.getD (endTime - analyticsDefaultWindow)
  if startTime ≤ endTime then (startTime, endTime) else (endTime, startTime)

def emptyStrategyPerformanceSummary (request : StrategyPerformanceRequest)
    (window : DateTime × DateTime) (computedAt : DateTime) : StrategyPerformanceSummary where
  strategyId := request.strategyId
  symbol := request.symbol
  timeframe := request.timeframe
  mode := request.mode
  windowStart := window.1
  windowEnd := window.2
  totalRuns := 0
  totalSignals := 0
  approvedRiskDecisions := 0
  rejectedRiskDecisions := 0
  riskRejectionRate := 0
  shadowWouldSubmitCount := 0
  shadowNoSignalCount := 0
  shadowRiskRejectedCount := 0
  paperOrdersCount := 0
  paperPositionsOpened := 0
  paperPositionsClosed := 0
  realizedPnl := 0
  unrealizedPnl := 0
  winRate := none
  avgWin := none
  avgLoss := none
  maxDrawdownPct := none
  backtestRunsCount := 0
  bestBacktestPnlPct := none
  worstBacktestPnlPct := none
  avgBacktestPnlPct := none
  createdAt := computedAt
  computedAt := computedAt

/-- `AVG` of a column, which is null for no rows. -/
def sqlAvg (values : List Decimal) : Option Decimal :=
  if values = [] then none else some (mean values)

structure BacktestRunRow where
  status : String
  pnl : Decimal
  pnlPct : Decimal
  winRate : Decimal
  avgWin : Decimal
  avgLoss : Decimal
  maxDrawdownPct : Decimal
  createdAt : DateTime
  deriving DecidableEq

structure TestnetShadowRunRow where
  decision : String
  riskDecisionId : Option Uuid
  signalId : Option Uuid
  deriving DecidableEq

/-- The counts of signals, decisions and orders in the window. -/
structure PaperCounts where
  totalSignals : Nat
  approvedDecisions : Nat
  rejectedDecisions : Nat
  paperOrders : Nat

def isCompleted (run : BacktestRunRow) : Bool := run.status == "COMPLETED"

def isClosed (position : PaperPositionRecord) : Bool := position.status == "closed"

def isWinning (position : PaperPositionRecord) : Bool :=
  isClosed position && decide (position.realizedPnl > 0)

def isLosing (position : PaperPositionRecord) : Bool :=
  isClosed position && decide (position.realizedPnl < 0)

/-- The values of a column in the rows that pass a filter. -/
def selected {Row : Type} (filter : Row → Bool) (column : Row → Decimal) (rows : List Row) :
    List Decimal :=
  (rows.filter filter).map column

def getBacktestModeSummary (request : StrategyPerformanceRequest) (computedAt : DateTime)
    (runs : List BacktestRunRow) : StrategyPerformanceSummary :=
  let summary := emptyStrategyPerformanceSummary request (analyticsWindow request computedAt)
    computedAt
  { summary with
    totalRuns := runs.length
    backtestRunsCount := runs.length
    realizedPnl := (runs.map (·.pnl)).sum
    winRate := sqlAvg (selected isCompleted (·.winRate) runs)
    avgWin := sqlAvg (selected isCompleted (·.avgWin) runs)
    avgLoss := sqlAvg (selected isCompleted (·.avgLoss) runs)
    maxDrawdownPct := (selected isCompleted (·.maxDrawdownPct) runs).max?
    bestBacktestPnlPct := (selected isCompleted (·.pnlPct) runs).max?
    worstBacktestPnlPct := (selected isCompleted (·.pnlPct) runs).min?
    avgBacktestPnlPct := sqlAvg (selected isCompleted (·.pnlPct) runs)
    createdAt := (runs.map (·.createdAt)).min?.getD computedAt }

/-- The positions are those of the default account. Without one there are none,
and no drawdowns either. -/
def getPaperModeSummary (request : StrategyPerformanceRequest) (computedAt : DateTime)
    (counts : PaperCounts) (positions : List PaperPositionRecord) (drawdowns : List Decimal) :
    StrategyPerformanceSummary :=
  let summary := emptyStrategyPerformanceSummary request (analyticsWindow request computedAt)
    computedAt
  let positionsClosed : Int := (positions.filter isClosed).length
  let wins : Int := (positions.filter isWinning).length
  { summary with
    totalSignals := counts.totalSignals
    approvedRiskDecisions := counts.approvedDecisions
    rejectedRiskDecisions := counts.rejectedDecisions
    riskRejectionRate := calculateStrategyRejectionRate counts.rejectedDecisions
      (counts.approvedDecisions + counts.rejectedDecisions)
    paperOrdersCount := counts.paperOrders
    totalRuns := positions.length
    paperPositionsOpened := positions.length
    paperPositionsClosed := positionsClosed
    realizedPnl := (positions.map (·.realizedPnl)).sum
    unrealizedPnl := (positions.map (·.unrealizedPnl)).sum
    winRate := calculateStrategyWinRate wins positionsClosed
    avgWin := sqlAvg (selected isWinning (·.realizedPnl) positions)
    avgLoss := sqlAvg (selected isLosing (·.realizedPnl) positions)
    maxDrawdownPct :=
      if request.strategyId.isNone && request.symbol.isNone && request.timeframe.isNone then
        drawdowns.max?
      else none }

def getShadowModeSummary (request : StrategyPerformanceRequest) (computedAt : DateTime)
    (runs : List TestnetShadowRunRow) : StrategyPerformanceSummary :=
  let summary := emptyStrategyPerformanceSummary request (analyticsWindow request computedAt)
    computedAt
  let rejected : Int := runs.countP (·.decision == "RISK_REJECTED")
  let approved : Int := runs.countP fun run =>
    run.riskDecisionId.isSome && run.decision != "RISK_REJECTED"
  { summary with
    totalRuns := runs.length
    totalSignals := runs.countP (·.signalId.isSome)
    approvedRiskDecisions := approved
    rejectedRiskDecisions := rejected
    riskRejectionRate := calculateStrategyRejectionRate rejected (approved + rejected)
    shadowWouldSubmitCount := runs.countP (·.decision == "WOULD_SUBMIT")
    shadowNoSignalCount := runs.countP (·.decision == "NO_SIGNAL")
    shadowRiskRejectedCount := rejected }

/-- The rows the three queries of a request select, and when each was run. -/
structure SelectedRows where
  backtestRuns : List BacktestRunRow
  counts : PaperCounts
  positions : List PaperPositionRecord
  drawdowns : List Decimal
  shadowRuns : List TestnetShadowRunRow
  backtestAt : DateTime
  paperAt : DateTime
  shadowAt : DateTime
  combinedAt : DateTime

def getStrategyPerformanceSummary (request : StrategyPerformanceRequest) (rows : SelectedRows) :
    StrategyPerformanceSummary :=
  let backtest (request : StrategyPerformanceRequest) :=
    getBacktestModeSummary request rows.backtestAt rows.backtestRuns
  let paper (request : StrategyPerformanceRequest) :=
    getPaperModeSummary request rows.paperAt rows.counts rows.positions rows.drawdowns
  let shadow (request : StrategyPerformanceRequest) :=
    getShadowModeSummary request rows.shadowAt rows.shadowRuns
  match request.mode with
  | .backtest => backtest request
  | .paper => paper request
  | .shadow => shadow request
  | .combined =>
    (combineStrategyPerformanceSummaries
      [backtest { request with mode := .backtest }, paper { request with mode := .paper },
        shadow { request with mode := .shadow }]).getD
      (emptyStrategyPerformanceSummary request (analyticsWindow request rows.combinedAt)
        rows.combinedAt)

/-- A summary has the figures of these positions and backtest runs. Without a
closed position its win rate and averages are about something else. -/
structure Summarises (positions : List PaperPositionRecord) (runs : List BacktestRunRow)
    (summary : StrategyPerformanceSummary) : Prop where
  positionsClosed : summary.paperPositionsClosed = (positions.filter isClosed).length
  winRate : positions.filter isClosed ≠ [] → summary.winRate =
    calculateStrategyWinRate (positions.filter isWinning).length (positions.filter isClosed).length
  avgWin : positions.filter isClosed ≠ [] →
    summary.avgWin = sqlAvg (selected isWinning (·.realizedPnl) positions)
  avgLoss : positions.filter isClosed ≠ [] →
    summary.avgLoss = sqlAvg (selected isLosing (·.realizedPnl) positions)
  runsCount : summary.backtestRunsCount = runs.length
  avgBacktestPnlPct : summary.avgBacktestPnlPct = sqlAvg (selected isCompleted (·.pnlPct) runs)

/-- A summary with the rows it is computed from. -/
structure Book where
  positions : List PaperPositionRecord
  runs : List BacktestRunRow
  summary : StrategyPerformanceSummary
  summarises : Summarises positions runs summary

section Modes
variable (request : StrategyPerformanceRequest) (computedAt : DateTime)

def paperBook (counts : PaperCounts) (positions : List PaperPositionRecord)
    (drawdowns : List Decimal) : Book where
  positions := positions
  runs := []
  summary := getPaperModeSummary request computedAt counts positions drawdowns
  summarises := ⟨rfl, fun _ => rfl, fun _ => rfl, fun _ => rfl, rfl, rfl⟩

end Modes

/-- The combined averages are those of all positions and runs together. -/
def MergesUnion (books : List Book) : Prop :=
  ∀ combined, combineStrategyPerformanceSummaries (books.map (·.summary)) = some combined →
    combined.winRate = calculateStrategyWinRate
      ((books.flatMap (·.positions)).filter isWinning).length
      ((books.flatMap (·.positions)).filter isClosed).length ∧
    combined.avgWin = sqlAvg (selected isWinning (·.realizedPnl) (books.flatMap (·.positions))) ∧
    combined.avgLoss = sqlAvg (selected isLosing (·.realizedPnl) (books.flatMap (·.positions))) ∧
    combined.avgBacktestPnlPct = sqlAvg (selected isCompleted (·.pnlPct) (books.flatMap (·.runs)))

def averageCrossTerms (values : Book → List Decimal) (weight : Book → Nat) (books : List Book) :
    Decimal :=
  crossTerms (fun book => mean (values book))
    (fun book => (weight book : Decimal)) (fun book => ((values book).length : Decimal)) books

def winnings (book : Book) : List Decimal := selected isWinning (·.realizedPnl) book.positions

def losses (book : Book) : List Decimal := selected isLosing (·.realizedPnl) book.positions

def returns (book : Book) : List Decimal := selected isCompleted (·.pnlPct) book.runs

def closedIfAny (values : Book → List Decimal) (book : Book) : Nat :=
  if values book = [] then 0 else (book.positions.filter isClosed).length

/-- The weights of the averages make no difference, and runs without a completed
one do not count as an average of zero. -/
structure WeightsAgree (books : List Book) : Prop where
  avgWin : averageCrossTerms winnings (closedIfAny winnings) books = 0
  avgLoss : averageCrossTerms losses (closedIfAny losses) books = 0
  completed : books.flatMap (·.runs) ≠ [] → books.flatMap returns ≠ []
  avgBacktestPnlPct : averageCrossTerms returns (fun book => book.runs.length) books = 0

section Averages
variable {books : List Book} {values : Book → List Decimal} {weight : Book → Nat}

theorem flatMap_eq_nil_of_weight (hValues : ∀ book, values book ≠ [] → 0 < weight book)
    (hNone : (books.map weight).sum = 0) : books.flatMap values = [] := by
  rw [flatMap_eq_nil_iff]
  intro book hBook
  by_contra hSome
  have hWeight := sum_eq_zero_iff.mp hNone _ (mem_map_of_mem hBook)
  exact absurd hWeight (hValues book hSome).ne'

theorem averageCrossTerms_of_nil (hNone : books.flatMap values = []) :
    averageCrossTerms values weight books = 0 := by
  rw [averageCrossTerms, crossTerms_eq, total_length, weighted_mean_length, hNone]
  simp

/-- The weighted average of the books is the average of all their values if and
only if the cross terms cancel out and there is a value where there is a weight. -/
theorem average_books_iff (hValues : ∀ book, values book ≠ [] → 0 < weight book) :
    calculateStrategyAveragePnl
          (weighted (fun book => mean (values book))
            (fun book => (weight book : Decimal)) books)
          ((books.map weight).sum : Nat) =
        sqlAvg (books.flatMap values) ↔
      ((books.map weight).sum ≠ 0 → books.flatMap values ≠ []) ∧
        averageCrossTerms values weight books = 0 := by
  rw [calculateStrategyAveragePnl, sqlAvg]
  by_cases hSome : books.flatMap values = []
  · rw [if_pos hSome]
    by_cases hWeight : (books.map weight).sum = 0
    · rw [if_pos (by omega)]
      exact iff_of_true rfl ⟨fun hNonzero => absurd hWeight hNonzero, averageCrossTerms_of_nil hSome⟩
    · rw [if_neg (by omega)]
      exact iff_of_false (some_ne_none _) fun hAgree => hAgree.1 hWeight hSome
  · have hWeight : (books.map weight).sum ≠ 0 := fun hNone =>
      hSome (flatMap_eq_nil_of_weight hValues hNone)
    have hTotal : total (fun book => (weight book : Decimal)) books =
        (((books.map weight).sum : Nat) : Int) := by
      rw [total, Int.cast_natCast, Nat.cast_list_sum, List.map_map]
      rfl
    have hNonzero : total (fun book => (weight book : Decimal)) books ≠ 0 := by
      rw [hTotal, Int.cast_natCast]
      exact Nat.cast_ne_zero.mpr hWeight
    rw [if_neg hSome, if_neg (by omega), some_inj, ← hTotal, mean_parts_eq_iff hNonzero hSome]
    exact (and_iff_right fun _ => hSome).symm

theorem weightedAverage_books {average : StrategyPerformanceSummary → Option Decimal}
    {count population : StrategyPerformanceSummary → Int}
    (hProduct : ∀ book : Book, plainProduct (average book.summary) (count book.summary) =
      mean (values book) * weight book)
    (hPopulation : ∀ book : Book, population book.summary = weight book)
    {last : StrategyPerformanceSummary} (hLast : 0 ≤ count last) :
    weightedAverage average count population (books.map (·.summary)) last =
      calculateStrategyAveragePnl
        (weighted (fun book => Averages.mean (values book))
          (fun book => (weight book : Decimal)) books)
        ((books.map weight).sum : Nat) := by
  rw [weightedAverage, seedingError_of_nonneg hLast, add_zero, List.map_map, List.map_map,
    Nat.cast_list_sum, List.map_map]
  congr 2
  · exact List.map_congr_left fun book _ => hProduct book
  · exact map_congr_left fun book _ => hPopulation book

end Averages

section Rows
variable {book : Book} {positions : List PaperPositionRecord}
variable {filter : PaperPositionRecord → Bool}
  {average : StrategyPerformanceSummary → Option Decimal}

variable {position : PaperPositionRecord}

theorem isClosed_of_isWinning (hWin : isWinning position = true) :
    isClosed position = true := (Bool.and_eq_true_iff.mp hWin).1

theorem isClosed_of_isLosing (hLoss : isLosing position = true) :
    isClosed position = true := (Bool.and_eq_true_iff.mp hLoss).1

theorem closed_pos_of_selected
    (hFilter : ∀ position, filter position = true → isClosed position = true)
    (hSome : selected filter (·.realizedPnl) positions ≠ []) :
    0 < (positions.filter isClosed).length := by
  rw [selected, ne_eq, map_eq_nil_iff] at hSome
  obtain ⟨position, hPosition⟩ := exists_mem_of_ne_nil _ hSome
  obtain ⟨hMem, hPass⟩ := mem_filter.mp hPosition
  exact length_pos_of_mem (mem_filter.mpr ⟨hMem, hFilter position hPass⟩)

theorem plainProduct_sqlAvg (values : List Decimal) (count : Nat) :
    plainProduct (sqlAvg values) count = mean values * count := by
  rw [sqlAvg]
  by_cases hNone : values = []
  · rw [if_pos hNone, hNone, mean, if_pos rfl, zero_mul]
    rfl
  · rw [if_neg hNone, plainProduct, Int.cast_natCast]

theorem plainProduct_zero (average : Option Decimal) : plainProduct average 0 = 0 := by
  cases average <;> simp [plainProduct]

theorem plainProduct_average
    (hFilter : ∀ position, filter position = true → isClosed position = true)
    (hAverage : book.positions.filter isClosed ≠ [] →
      average book.summary = sqlAvg (selected filter (·.realizedPnl) book.positions)) :
    plainProduct (average book.summary) book.summary.paperPositionsClosed =
      mean (selected filter (·.realizedPnl) book.positions) *
        closedIfAny (fun book => selected filter (·.realizedPnl) book.positions) book := by
  rw [book.summarises.positionsClosed, closedIfAny]
  by_cases hNone : selected filter (·.realizedPnl) book.positions = []
  · rw [if_pos hNone, Nat.cast_zero, mul_zero]
    by_cases hClosed : book.positions.filter isClosed = []
    · rw [hClosed]
      exact plainProduct_zero _
    · rw [hAverage hClosed, hNone]
      rfl
  · have hClosed := length_pos_iff.mp (closed_pos_of_selected hFilter hNone)
    rw [hAverage hClosed, plainProduct_sqlAvg, if_neg hNone]

theorem countIfSome_average (hAverage : book.positions.filter isClosed ≠ [] →
      average book.summary = sqlAvg (selected filter (·.realizedPnl) book.positions)) :
    countIfSome (average book.summary) book.summary.paperPositionsClosed =
      closedIfAny (fun book => selected filter (·.realizedPnl) book.positions) book := by
  rw [book.summarises.positionsClosed, closedIfAny, countIfSome]
  by_cases hClosed : book.positions.filter isClosed = []
  · simp [hClosed]
  · rw [hAverage hClosed, sqlAvg]
    by_cases hNone : selected filter (·.realizedPnl) book.positions = []
    · rw [if_pos hNone, if_pos hNone]
      rfl
    · rw [if_neg hNone, if_neg hNone]
      rfl

theorem plainProduct_winRate : plainProduct book.summary.winRate book.summary.paperPositionsClosed =
    ((book.positions.filter isWinning).length : Decimal) := by
  rw [book.summarises.positionsClosed]
  by_cases hClosed : book.positions.filter isClosed = []
  · have hNone : book.positions.filter isWinning = [] := by
      apply filter_eq_nil_iff.mpr
      intro position hPosition hWin
      exact filter_eq_nil_iff.mp hClosed position hPosition (isClosed_of_isWinning hWin)
    rw [hClosed, hNone]
    exact plainProduct_zero _
  · have hLength : (book.positions.filter isClosed).length ≠ 0 := fun hZero =>
      hClosed (length_eq_zero_iff.mp hZero)
    rw [book.summarises.winRate hClosed, calculateStrategyWinRate, if_neg (by omega), plainProduct]
    exact div_mul_cancel₀ _ (by exact_mod_cast hLength)

end Rows

section Union
variable (books : List Book) {last : StrategyPerformanceSummary}

theorem selected_flatMap {Row : Type} (filter : Row → Bool) (column : Row → Decimal)
    (rows : Book → List Row) : selected filter column (books.flatMap rows) =
      books.flatMap fun book => selected filter column (rows book) := by
  rw [selected, filter_flatMap, map_flatMap]
  rfl

theorem length_filter_flatMap {Row : Type} (filter : Row → Bool) (rows : Book → List Row) :
    ((books.flatMap rows).filter filter).length =
      (books.map fun book => ((rows book).filter filter).length).sum := by
  rw [filter_flatMap, length_flatMap]

theorem positionAverage_iff {average : StrategyPerformanceSummary → Option Decimal}
    {filter : PaperPositionRecord → Bool}
    (hFilter : ∀ position, filter position = true → isClosed position = true)
    (hAverage : ∀ book : Book, book.positions.filter isClosed ≠ [] →
      average book.summary = sqlAvg (selected filter (·.realizedPnl) book.positions))
    (hLast : 0 ≤ last.paperPositionsClosed) :
    weightedAverage average (·.paperPositionsClosed)
          (fun summary => countIfSome (average summary) summary.paperPositionsClosed)
          (books.map (·.summary)) last =
        sqlAvg (selected filter (·.realizedPnl) (books.flatMap (·.positions))) ↔
      averageCrossTerms (fun book => selected filter (·.realizedPnl) book.positions)
        (closedIfAny fun book => selected filter (·.realizedPnl) book.positions) books = 0 := by
  have hValues (book : Book) (hSome : selected filter (·.realizedPnl) book.positions ≠ []) :
      0 < closedIfAny (fun book => selected filter (·.realizedPnl) book.positions) book := by
    rw [closedIfAny, if_neg hSome]
    exact closed_pos_of_selected hFilter hSome
  rw [weightedAverage_books (fun book => plainProduct_average hFilter (hAverage book))
    (fun book => countIfSome_average (hAverage book)) hLast, selected_flatMap,
    average_books_iff hValues]
  apply and_iff_right
  intro hWeight hNone
  apply hWeight
  rw [sum_eq_zero_iff]
  intro size hSize
  obtain ⟨book, hBook, rfl⟩ := mem_map.mp hSize
  exact if_pos (flatMap_eq_nil_iff.mp hNone book hBook)

theorem backtestAverage_iff (hLast : 0 ≤ last.backtestRunsCount) :
    weightedAverage (·.avgBacktestPnlPct) (·.backtestRunsCount) (·.backtestRunsCount)
          (books.map (·.summary)) last =
        sqlAvg (selected isCompleted (·.pnlPct) (books.flatMap (·.runs))) ↔
      (books.flatMap (·.runs) ≠ [] → books.flatMap returns ≠ []) ∧
        averageCrossTerms returns (fun book => book.runs.length) books = 0 := by
  have hProduct (book : Book) :
      plainProduct book.summary.avgBacktestPnlPct book.summary.backtestRunsCount =
        mean (returns book) * book.runs.length := by
    rw [book.summarises.avgBacktestPnlPct, book.summarises.runsCount]
    exact plainProduct_sqlAvg _ _
  have hValues (book : Book) (hSome : returns book ≠ []) : 0 < book.runs.length := by
    rw [length_pos_iff]
    intro hNone
    rw [returns, hNone] at hSome
    exact hSome rfl
  have hRuns : (books.map fun book => book.runs.length).sum ≠ 0 ↔ books.flatMap (·.runs) ≠ [] := by
    rw [← length_flatMap, ne_eq, length_eq_zero_iff]
  rw [weightedAverage_books hProduct (fun book => book.summarises.runsCount) hLast,
    selected_flatMap, ← hRuns]
  exact average_books_iff hValues

theorem winRate_books (hLast : 0 ≤ last.paperPositionsClosed) :
    weightedAverage (·.winRate) (·.paperPositionsClosed) (·.paperPositionsClosed)
        (books.map (·.summary)) last =
      calculateStrategyWinRate ((books.flatMap (·.positions)).filter isWinning).length
        ((books.flatMap (·.positions)).filter isClosed).length := by
  have hWins : books.map ((fun summary : StrategyPerformanceSummary =>
      plainProduct summary.winRate summary.paperPositionsClosed) ∘ (·.summary)) =
        books.map fun book => ((book.positions.filter isWinning).length : Decimal) :=
    map_congr_left fun book _ => plainProduct_winRate
  have hClosed : books.map ((·.paperPositionsClosed) ∘ (·.summary)) =
      books.map fun book => ((book.positions.filter isClosed).length : Int) :=
    map_congr_left fun book _ => book.summarises.positionsClosed
  rw [weightedAverage, seedingError_of_nonneg hLast, add_zero, List.map_map, List.map_map, hWins,
    hClosed, length_filter_flatMap, length_filter_flatMap, calculateStrategyAveragePnl,
    calculateStrategyWinRate, Int.cast_natCast, Nat.cast_list_sum, Nat.cast_list_sum, List.map_map,
    List.map_map]
  rfl

/-- The combination of the summaries has the averages of all rows together if
and only if the weights of the averages agree. -/
theorem mergesUnion_iff : MergesUnion books ↔ WeightsAgree books := by
  by_cases hEmpty : books = []
  · subst hEmpty
    exact iff_of_true (fun combined hCombine => by cases hCombine)
      ⟨rfl, rfl, fun hNone => absurd rfl hNone, rfl⟩
  · obtain ⟨combined, hCombine⟩ := combine_isSome (map_eq_nil_iff.not.mpr hEmpty)
    obtain ⟨last, hLast, hMerge⟩ := merges_of_combine hCombine
    obtain ⟨book, _, rfl⟩ := mem_map.mp hLast
    have hClosed : 0 ≤ book.summary.paperPositionsClosed := by
      rw [book.summarises.positionsClosed]
      exact Int.natCast_nonneg _
    have hRuns : 0 ≤ book.summary.backtestRunsCount := by
      rw [book.summarises.runsCount]
      exact Int.natCast_nonneg _
    have hWin := positionAverage_iff books
      (fun _ => isClosed_of_isWinning) (fun book => book.summarises.avgWin) hClosed
    have hLoss := positionAverage_iff books
      (fun _ => isClosed_of_isLosing) (fun book => book.summarises.avgLoss) hClosed
    have hBacktest := backtestAverage_iff books hRuns
    rw [← hMerge.avgWin] at hWin
    rw [← hMerge.avgLoss] at hLoss
    rw [← hMerge.avgBacktestPnlPct] at hBacktest
    constructor
    · intro hUnion
      obtain ⟨_, hAvgWin, hAvgLoss, hAvgBacktest⟩ := hUnion combined hCombine
      exact ⟨hWin.mp hAvgWin, hLoss.mp hAvgLoss, (hBacktest.mp hAvgBacktest).1,
        (hBacktest.mp hAvgBacktest).2⟩
    · intro hAgree other hOther
      cases hCombine.symm.trans hOther
      exact ⟨hMerge.winRate.trans (winRate_books books hClosed), hWin.mpr hAgree.avgWin,
        hLoss.mpr hAgree.avgLoss, hBacktest.mpr ⟨hAgree.completed, hAgree.avgBacktestPnlPct⟩⟩

end Union

def samplePosition (realizedPnl : Decimal) : PaperPositionRecord where
  id := ⟨1⟩
  accountId := ⟨2⟩
  symbol := "BTCUSDT"
  side := "long"
  quantity := 0
  entryPrice := 100
  markPrice := none
  priceStatus := .live
  notional := 0
  realizedPnl := realizedPnl
  unrealizedPnl := 0
  status := "closed"
  openedAt := 0
  closedAt := some 1
  strategyId := none
  signalId := none
  riskDecisionId := none
  orderId := none
  updatedAt := 1

def sampleRequest : StrategyPerformanceRequest where
  strategyId := none
  symbol := none
  timeframe := none
  mode := .paper
  startTime := some 0
  endTime := some 1

def sampleBook (pnls : List Decimal) : Book :=
  paperBook sampleRequest 1 ⟨0, 0, 0, 0⟩ (pnls.map samplePosition) []

end AegisQuant.Analytics
