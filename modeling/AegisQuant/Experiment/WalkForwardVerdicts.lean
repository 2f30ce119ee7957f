import AegisQuant.Experiment.WalkForwardWindows
import AegisQuant.Library.Averages
import AegisQuant.Research.Qualification

/-! The verdict of a walk-forward run: the counts of its windows, the figures of
those that completed, the robustness score and the classification. All of it
fits together, but for the number of windows that a run has to complete. -/
namespace AegisQuant.Experiment
open Averages Reordering List Option
open Research (StrategyWalkForwardRobustnessStatus)

inductive StrategyWalkForwardStatus where
  | pending
  | running
  | completed
  | failed
  | skipped
  deriving DecidableEq

structure StrategyWalkForwardRecommendation where
  action : String
  reason : String
  deriving DecidableEq

structure StrategyWalkForwardRobustnessSummary where
  profitableWindowPct : Decimal
  totalTradeCount : Int
  avgTradesPerCompletedWindow : Decimal
  avgFeeSlippageDragPct : Decimal
  skippedWindowPct : Decimal
  dominantWinnerSharePct : Decimal
  recommendation : StrategyWalkForwardRecommendation
  deriving DecidableEq

structure StrategyWalkForwardWindowResult where
  status : StrategyWalkForwardStatus
  tradeCount : Int
  pnlPct : Decimal
  maxDrawdownPct : Decimal
  feePaid : Decimal
  slippageCost : Decimal
  deriving DecidableEq

structure StrategyWalkForwardResult where
  walkForwardId : Uuid
  strategyId : String
  symbol : String
  timeframe : String
  totalWindows : Int
  completedWindows : Int
  failedWindows : Int
  skippedWindows : Int
  profitableTestWindows : Int
  profitableWindows : Int
  losingTestWindows : Int
  losingWindows : Int
  avgTestPnlPct : Decimal
  avgPnlPct : Decimal
  medianTestPnlPct : Decimal
  medianPnlPct : Decimal
  worstTestPnlPct : Decimal
  worstPnlPct : Decimal
  bestTestPnlPct : Decimal
  bestPnlPct : Decimal
  avgMaxDrawdownPct : Decimal
  maxDrawdownPct : Decimal
  avgTradeCount : Decimal
  robustnessScore : Decimal
  consistencyScore : Decimal
  status : StrategyWalkForwardStatus
  robustnessStatus : StrategyWalkForwardRobustnessStatus
  robustnessSummary : StrategyWalkForwardRobustnessSummary
  recommendation : StrategyWalkForwardRecommendation
  warnings : List String
  createdAt : DateTime
  correlationId : Option Uuid
  deriving DecidableEq

/-- A 32-bit count as a signed number of the same bits. -/
def asI32 (value : UInt32) : Int := value.toBitVec.toInt

def averageDecimal (values : List Decimal) : Decimal :=
  let (total, count) :=
    values.foldl (fun (total, count) value => (total + value, count + 1)) ((0 : Decimal), 0)
  if count = 0 then 0 else total / (count : Nat)

def medianDecimal (values : List Decimal) : Decimal :=
  if values = [] then 0
  else
    let values := SortByKey.sort id values
    let mid := values.length / 2
    if values.length % 2 = 0 then (values.getD (mid - 1) 0 + values.getD mid 0) / 2
    else values.getD mid 0

def calculateFeeSlippageDragPct (initialCapital feePaid slippageCost : Decimal) : Decimal :=
  if initialCapital ≤ 0 then 0 else (feePaid + slippageCost) / initialCapital * 100

/-- How many windows satisfy a condition. -/
def countWindows (windows : List StrategyWalkForwardWindowResult)
    (condition : StrategyWalkForwardWindowResult → Bool) : Int :=
  (windows.filter condition).length

def buildWalkForwardRobustnessSummary (windows completed : List StrategyWalkForwardWindowResult)
    (initialCapital : Decimal) : StrategyWalkForwardRobustnessSummary :=
  let totalTradeCount := (completed.map (·.tradeCount)).sum
  let totalPositivePnl :=
    (completed.filter (·.pnlPct > 0)).foldl (fun acc window => acc + window.pnlPct) 0
  { profitableWindowPct := if completed = [] then 0
      else (countWindows completed (·.pnlPct > 0) : Decimal) / completed.length * 100
    totalTradeCount := totalTradeCount
    avgTradesPerCompletedWindow := if completed = [] then 0
      else (totalTradeCount : Decimal) / completed.length
    avgFeeSlippageDragPct := if completed = [] then 0
      else averageDecimal (completed.map fun window =>
        calculateFeeSlippageDragPct initialCapital window.feePaid window.slippageCost)
    skippedWindowPct := if windows = [] then 0
      else (countWindows windows (·.status = .skipped) : Decimal) / windows.length * 100
    dominantWinnerSharePct :=
      ((((completed.map fun window => max window.pnlPct 0).max?).filter
        fun _ => totalPositivePnl > 0).map fun best => best / totalPositivePnl * 100).getD 0
    recommendation :=
      { action := "REVIEW"
        reason := "Review walk-forward robustness before candidate acceptance." } }

def classifyWalkForwardRobustness (status : StrategyWalkForwardStatus)
    (completedWindows minRequiredTestWindows profitableTestWindows losingTestWindows : Int)
    (avgTestPnlPct worstTestPnlPct : Decimal) (skippedWindows totalWindows : Int)
    (robustnessScore : Decimal) (summary : StrategyWalkForwardRobustnessSummary) :
    StrategyWalkForwardRobustnessStatus :=
  if status = .failed then .failed
  else if completedWindows < minRequiredTestWindows ∨ completedWindows = 0 ∨
      (totalWindows > 0 ∧ skippedWindows = totalWindows) then .insufficientData
  else if profitableTestWindows = 1 ∧ losingTestWindows ≥ 2 ∧
      summary.dominantWinnerSharePct ≥ 55 then .overfitRisk
  else if profitableTestWindows ≤ losingTestWindows ∨ avgTestPnlPct ≤ 0 ∨
      worstTestPnlPct < -2 then .overfitRisk
  else if robustnessScore ≥ 60 ∧ summary.profitableWindowPct ≥ 65 ∧
      summary.dominantWinnerSharePct < 55 then .robust
  else .weak

def walkForwardRecommendation :
    StrategyWalkForwardRobustnessStatus → StrategyWalkForwardRecommendation
  | .robust =>
    { action := "REVIEW_FOR_CANDIDATE"
      reason := "Multiple out-of-sample windows were profitable without concentrated winners." }
  | .weak =>
    { action := "KEEP_RESEARCHING"
      reason := "The candidate has mixed walk-forward evidence and needs more data." }
  | .overfitRisk =>
    { action := "DO_NOT_ACCEPT"
      reason := "Walk-forward results are dominated by weak or inconsistent test windows." }
  | .insufficientData =>
    { action := "COLLECT_MORE_DATA"
      reason := "Not enough completed out-of-sample windows were available." }
  | .failed =>
    { action := "INVESTIGATE"
      reason := "The walk-forward run failed validation or execution." }

def calculateWalkForwardRobustnessScore
    (completedWindows profitableTestWindows losingTestWindows : Int)
    (avgTestPnlPct worstTestPnlPct avgMaxDrawdownPct : Decimal) (skippedWindows totalWindows : Int)
    (summary : StrategyWalkForwardRobustnessSummary) : Decimal :=
  let profitablePct : Decimal := if completedWindows ≤ 0 then 0
    else (profitableTestWindows : Decimal) / completedWindows * 100
  let skipPenalty : Decimal := if totalWindows ≤ 0 then 0
    else (skippedWindows : Decimal) / totalWindows * 20
  let lowTradePenalty : Decimal := if summary.totalTradeCount < max completedWindows 1 * 2 then 12
    else if summary.totalTradeCount < max completedWindows 1 * 4 then 5
    else 0
  let loserPenalty : Decimal := if losingTestWindows > profitableTestWindows then
      ((losingTestWindows - profitableTestWindows : Int) : Decimal) * 3
    else 0
  let concentrationPenalty : Decimal := if summary.dominantWinnerSharePct ≥ 70 ∧
      losingTestWindows ≥ profitableTestWindows then 12
    else if summary.dominantWinnerSharePct ≥ 55 then 5
    else 0
  profitablePct + avgTestPnlPct * 3 + worstTestPnlPct - avgMaxDrawdownPct * 2 -
    summary.avgFeeSlippageDragPct * 2 - skipPenalty - lowTradePenalty - loserPenalty -
    concentrationPenalty

def buildStrategyWalkForwardResult (walkForwardId : Uuid) (createdAt : DateTime)
    (correlationId : Option Uuid) (request : StrategyWalkForwardRequest)
    (windows : List StrategyWalkForwardWindowResult) : StrategyWalkForwardResult :=
  let completed := windows.filter (·.status = .completed)
  let failedWindows := countWindows windows (·.status = .failed)
  let skippedWindows := countWindows windows (·.status = .skipped)
  let profitableTestWindows := countWindows completed (·.pnlPct > 0)
  let losingTestWindows := countWindows completed (·.pnlPct < 0)
  let completedWindows : Int := completed.length
  let totalWindows : Int := windows.length
  let avgTestPnlPct := averageDecimal (completed.map (·.pnlPct))
  let medianTestPnlPct := medianDecimal (completed.map (·.pnlPct))
  let worstTestPnlPct := (completed.map (·.pnlPct)).min?.getD 0
  let bestTestPnlPct := (completed.map (·.pnlPct)).max?.getD 0
  let avgMaxDrawdownPct := averageDecimal (completed.map (·.maxDrawdownPct))
  let maxDrawdownPct := (completed.map (·.maxDrawdownPct)).max?.getD 0
  let avgTradeCount := averageDecimal (completed.map fun window => (window.tradeCount : Decimal))
  let robustnessSummary :=
    buildWalkForwardRobustnessSummary windows completed request.initialCapital
  let robustnessScore := calculateWalkForwardRobustnessScore completedWindows
    profitableTestWindows losingTestWindows avgTestPnlPct worstTestPnlPct avgMaxDrawdownPct
    skippedWindows totalWindows robustnessSummary
  let minRequiredTestWindows := asI32 (request.minRequiredTestWindows.getD 1)
  let status := if completedWindows = 0 ∧ skippedWindows > 0 then .skipped
    else if completedWindows < minRequiredTestWindows then .failed
    else .completed
  let robustnessStatus := classifyWalkForwardRobustness status completedWindows
    minRequiredTestWindows profitableTestWindows losingTestWindows avgTestPnlPct worstTestPnlPct
    skippedWindows totalWindows robustnessScore robustnessSummary
  { walkForwardId := walkForwardId
    strategyId := request.strategyId
    symbol := request.symbol
    timeframe := request.timeframe
    totalWindows := totalWindows
    completedWindows := completedWindows
    failedWindows := failedWindows
    skippedWindows := skippedWindows
    profitableTestWindows := profitableTestWindows
    profitableWindows := profitableTestWindows
    losingTestWindows := losingTestWindows
    losingWindows := losingTestWindows
    avgTestPnlPct := avgTestPnlPct
    avgPnlPct := avgTestPnlPct
    medianTestPnlPct := medianTestPnlPct
    medianPnlPct := medianTestPnlPct
    worstTestPnlPct := worstTestPnlPct
    worstPnlPct := worstTestPnlPct
    bestTestPnlPct := bestTestPnlPct
    bestPnlPct := bestTestPnlPct
    avgMaxDrawdownPct := avgMaxDrawdownPct
    maxDrawdownPct := maxDrawdownPct
    avgTradeCount := avgTradeCount
    robustnessScore := robustnessScore
    consistencyScore := robustnessScore
    status := status
    robustnessStatus := robustnessStatus
    robustnessSummary := robustnessSummary
    recommendation := walkForwardRecommendation robustnessStatus
    warnings := []
    createdAt := createdAt
    correlationId := correlationId }

def requiredTestWindows (request : StrategyWalkForwardRequest) : Nat :=
  (request.minRequiredTestWindows.getD 1).toNat

/-- The gains of the completed windows that gained. -/
def totalGain (windows : List StrategyWalkForwardWindowResult) : Decimal :=
  ((windows.filter fun window => window.status = .completed ∧ window.pnlPct > 0).map (·.pnlPct)).sum

structure ShownRobust (required : Nat) (windows : List StrategyWalkForwardWindowResult)
    (result : StrategyWalkForwardResult) : Prop where
  enough : required ≤ result.completedWindows
  winning : result.losingTestWindows < result.profitableTestWindows
  average : 0 < result.avgTestPnlPct
  worst : -2 ≤ result.worstTestPnlPct
  share : 65 ≤ (result.profitableTestWindows : Decimal) / result.completedWindows * 100
  spread : ∀ window ∈ windows, window.status = .completed → 0 < window.pnlPct →
    window.pnlPct / totalGain windows * 100 < 55

/-- The figures of a verdict fit together, whatever the order of the windows. -/
structure ConsistentVerdict (walkForwardId : Uuid) (createdAt : DateTime)
    (correlationId : Option Uuid) (request : StrategyWalkForwardRequest)
    (windows : List StrategyWalkForwardWindowResult) (result : StrategyWalkForwardResult) : Prop where
  counted : result.completedWindows + result.failedWindows + result.skippedWindows =
    result.totalWindows
  decided : result.profitableTestWindows + result.losingTestWindows ≤ result.completedWindows
  extremes : ∀ window ∈ windows, window.status = .completed →
    result.worstTestPnlPct ≤ window.pnlPct ∧ window.pnlPct ≤ result.bestTestPnlPct
  median : result.worstTestPnlPct ≤ result.medianTestPnlPct ∧
    result.medianTestPnlPct ≤ result.bestTestPnlPct
  average : result.worstTestPnlPct ≤ result.avgTestPnlPct ∧
    result.avgTestPnlPct ≤ result.bestTestPnlPct
  reordered : ∀ other : List StrategyWalkForwardWindowResult, other.Perm windows →
    buildStrategyWalkForwardResult walkForwardId createdAt correlationId request other = result
  robust : result.robustnessStatus = .robust →
    ShownRobust (requiredTestWindows request) windows result

section Figures
variable {values other : List Decimal}

theorem averageDecimal_eq (values : List Decimal) : averageDecimal values = mean values := by
  simp only [averageDecimal, foldl_sum_count, zero_add, length_eq_zero_iff]
  rfl

theorem medianDecimal_eq (values : List Decimal) : medianDecimal values = median values :=
  rfl

theorem averageDecimal_perm (hPerm : other.Perm values) :
    averageDecimal other = averageDecimal values := by
  rw [averageDecimal_eq, averageDecimal_eq, mean_perm hPerm]

end Figures

section Windows
variable {windows other completed : List StrategyWalkForwardWindowResult}

theorem countWindows_perm (hPerm : other.Perm windows)
    (condition : StrategyWalkForwardWindowResult → Bool) :
    countWindows other condition = countWindows windows condition := by
  rw [countWindows, (hPerm.filter condition).length_eq, countWindows]

/-- Two conditions that exclude each other hold of no more windows than there
are. -/
theorem countWindows_add_le {first second : StrategyWalkForwardWindowResult → Bool}
    (hApart : ∀ window, first window = true → second window = false) :
    countWindows windows first + countWindows windows second ≤ windows.length := by
  have hCount : (windows.filter first).length + (windows.filter second).length ≤
      windows.length := by
    induction windows with
    | nil => simp
    | cons window rest ih =>
      have hWindow := hApart window
      cases hFirst : first window with
      | true => simp [hFirst, hWindow hFirst]; omega
      | false => cases hSecond : second window <;> simp [hFirst, hSecond] <;> omega
  unfold countWindows
  exact_mod_cast hCount

theorem statuses_counted (hStatus : ∀ window ∈ windows,
    window.status ∈ [.completed, .failed, StrategyWalkForwardStatus.skipped]) :
    ((windows.filter (·.status = .completed)).length : Int) +
      countWindows windows (·.status = .failed) + countWindows windows (·.status = .skipped) =
        windows.length := by
  have hCount : (windows.filter (·.status = .completed)).length +
      (windows.filter (·.status = .failed)).length +
        (windows.filter (·.status = .skipped)).length = windows.length := by
    induction windows with
    | nil => rfl
    | cons window rest ih =>
      have hRest := ih fun window hWindow => hStatus window (mem_cons_of_mem _ hWindow)
      have hThree := hStatus window (mem_cons_self ..)
      simp only [mem_cons, not_mem_nil, or_false] at hThree
      rcases hThree with hOne | hOne | hOne <;> simp [hOne] <;> omega
  unfold countWindows
  exact_mod_cast hCount

theorem foldl_pnlPct (windows : List StrategyWalkForwardWindowResult) (start : Decimal) :
    windows.foldl (fun acc window => acc + window.pnlPct) start =
      start + (windows.map (·.pnlPct)).sum := by
  induction windows generalizing start with
  | nil => simp
  | cons window rest ih => simp [ih, add_assoc]

theorem buildWalkForwardRobustnessSummary_perm (hWindows : other.Perm windows)
    {otherCompleted : List StrategyWalkForwardWindowResult} (hCompleted : otherCompleted.Perm completed)
    (initialCapital : Decimal) :
    buildWalkForwardRobustnessSummary other otherCompleted initialCapital =
      buildWalkForwardRobustnessSummary windows completed initialCapital := by
  have hGain := ((hCompleted.filter (·.pnlPct > 0)).map (·.pnlPct)).sum_eq
  have hBest := max?_perm (hCompleted.map fun window => max window.pnlPct 0)
  have hTrades := (hCompleted.map (·.tradeCount)).sum_eq
  have hDrag := averageDecimal_perm (hCompleted.map fun window =>
    calculateFeeSlippageDragPct initialCapital window.feePaid window.slippageCost)
  simp only [buildWalkForwardRobustnessSummary, foldl_pnlPct, hGain, hBest, hTrades, hDrag,
    countWindows_perm hWindows, countWindows_perm hCompleted, hWindows.length_eq,
    hCompleted.length_eq, ← length_eq_zero_iff]

theorem buildStrategyWalkForwardResult_perm (walkForwardId : Uuid) (createdAt : DateTime)
    (correlationId : Option Uuid) (request : StrategyWalkForwardRequest)
    (hPerm : other.Perm windows) :
    buildStrategyWalkForwardResult walkForwardId createdAt correlationId request other =
      buildStrategyWalkForwardResult walkForwardId createdAt correlationId request windows := by
  have hCompleted := hPerm.filter (fun window => decide (window.status = .completed))
  have hPnl := hCompleted.map (·.pnlPct)
  have hDrawdown := hCompleted.map (·.maxDrawdownPct)
  simp only [buildStrategyWalkForwardResult, medianDecimal_eq, countWindows_perm hPerm,
    countWindows_perm hCompleted, hCompleted.length_eq, hPerm.length_eq, averageDecimal_perm hPnl,
    averageDecimal_perm hDrawdown, median_perm hPnl, min?_perm hPnl,
    max?_perm hPnl, max?_perm hDrawdown,
    averageDecimal_perm (hCompleted.map fun window => (window.tradeCount : Decimal)),
    buildWalkForwardRobustnessSummary_perm hPerm hCompleted]

end Windows

section Robust
variable {status : StrategyWalkForwardStatus}
  {completedWindows minRequiredTestWindows profitableTestWindows losingTestWindows : Int}
  {avgTestPnlPct worstTestPnlPct robustnessScore : Decimal} {skippedWindows totalWindows : Int}
  {summary : StrategyWalkForwardRobustnessSummary}

/-- What the classification asks of a robust run. -/
structure PassedClassification (completedWindows minRequiredTestWindows profitableTestWindows
    losingTestWindows : Int) (avgTestPnlPct worstTestPnlPct : Decimal)
    (summary : StrategyWalkForwardRobustnessSummary) : Prop where
  enough : minRequiredTestWindows ≤ completedWindows
  some : completedWindows ≠ 0
  winning : losingTestWindows < profitableTestWindows
  average : 0 < avgTestPnlPct
  worst : -2 ≤ worstTestPnlPct
  share : 65 ≤ summary.profitableWindowPct
  spread : summary.dominantWinnerSharePct < 55

theorem passedClassification_of_robust
    (hRobust : classifyWalkForwardRobustness status completedWindows minRequiredTestWindows
      profitableTestWindows losingTestWindows avgTestPnlPct worstTestPnlPct skippedWindows
      totalWindows robustnessScore summary = .robust) :
    PassedClassification completedWindows minRequiredTestWindows profitableTestWindows
      losingTestWindows avgTestPnlPct worstTestPnlPct summary := by
  unfold classifyWalkForwardRobustness at hRobust
  split at hRobust
  · cases hRobust
  · split at hRobust
    · cases hRobust
    · rename_i hSufficient
      split at hRobust
      · cases hRobust
      · split at hRobust
        · cases hRobust
        · rename_i hSound
          split at hRobust
          · rename_i hStrong
            rw [not_or, not_or, not_lt] at hSufficient
            rw [not_or, not_or, not_le, not_le, not_lt] at hSound
            exact ⟨hSufficient.1, hSufficient.2.1, hSound.1, hSound.2.1, hSound.2.2, hStrong.2.1,
              hStrong.2.2⟩
          · cases hRobust

variable {windows : List StrategyWalkForwardWindowResult} {initialCapital : Decimal}

theorem totalGain_eq (windows : List StrategyWalkForwardWindowResult) : totalGain windows =
      ((windows.filter (·.status = .completed)).filter (·.pnlPct > 0)).foldl
        (fun acc window => acc + window.pnlPct) 0 := by
  have hWinners : (windows.filter (·.status = .completed)).filter (·.pnlPct > 0) =
      windows.filter fun window => window.status = .completed ∧ window.pnlPct > 0 := by
    rw [List.filter_filter]
    refine filter_congr fun window _ => ?_
    rw [Bool.decide_and, Bool.and_comm]
  rw [foldl_pnlPct, zero_add, totalGain, hWinners]

theorem share_le_dominant {window : StrategyWalkForwardWindowResult} (hWindow : window ∈ windows)
    (hCompleted : window.status = .completed) (hGain : 0 < window.pnlPct) :
    window.pnlPct / totalGain windows * 100 ≤ (buildWalkForwardRobustnessSummary windows
      (windows.filter (·.status = .completed)) initialCapital).dominantWinnerSharePct := by
  have hMem : window ∈ windows.filter (·.status = .completed) :=
    mem_filter.mpr ⟨hWindow, decide_eq_true hCompleted⟩
  have hTotal : 0 < totalGain windows := by
    refine sum_pos _ ?_ ?_
    · intro gain hMemGain
      obtain ⟨other, hOther, rfl⟩ := mem_map.mp hMemGain
      exact (of_decide_eq_true (mem_filter.mp hOther).2).2
    · exact ne_nil_of_mem (mem_map_of_mem
        (mem_filter.mpr ⟨hWindow, decide_eq_true ⟨hCompleted, hGain⟩⟩))
  obtain ⟨best, hBest⟩ := isSome_iff_exists.mp (isSome_max?_of_ne_nil
    (ne_nil_of_mem (mem_map_of_mem (f := fun window => max window.pnlPct 0) hMem)))
  have hLe : window.pnlPct ≤ best := (le_max_left _ 0).trans
    ((max?_eq_some_iff.mp hBest).2 _ (mem_map_of_mem hMem))
  simp only [buildWalkForwardRobustnessSummary, ← totalGain_eq, hBest, hTotal, filter_some,
    gt_iff_lt, decide_true, if_true, map_some, getD_some]
  gcongr

end Robust

section Verdict
variable (walkForwardId : Uuid) (createdAt : DateTime) (correlationId : Option Uuid)
  (request : StrategyWalkForwardRequest) (windows : List StrategyWalkForwardWindowResult)

theorem asI32_of_lt {value : UInt32} (hSmall : value.toNat < 2 ^ 31) : asI32 value = value.toNat := by
  rw [asI32, BitVec.toInt_eq_toNat_cond, if_pos]
  · rfl
  · change 2 * value.toNat < 2 ^ 32
    omega

theorem asI32_neg_of_le {value : UInt32} (hLarge : 2 ^ 31 ≤ value.toNat) : asI32 value < 0 := by
  have hRange := value.toNat_lt
  rw [asI32, BitVec.toInt_eq_toNat_cond, if_neg]
  · change (value.toNat : Int) - (2 ^ 32 : Nat) < 0
    omega
  · change ¬2 * value.toNat < 2 ^ 32
    omega

theorem mem_completedPnl {window : StrategyWalkForwardWindowResult} (hWindow : window ∈ windows)
    (hCompleted : window.status = .completed) :
    window.pnlPct ∈ (windows.filter (·.status = .completed)).map (·.pnlPct) :=
  mem_map_of_mem (mem_filter.mpr ⟨hWindow, decide_eq_true hCompleted⟩)

theorem shownRobust_of_robust {required : Nat}
    (hRequired : required ≤ asI32 (request.minRequiredTestWindows.getD 1))
    (hRobust : (buildStrategyWalkForwardResult walkForwardId createdAt correlationId request
      windows).robustnessStatus = .robust) :
    ShownRobust required windows
      (buildStrategyWalkForwardResult walkForwardId createdAt correlationId request windows) := by
  have hPassed := passedClassification_of_robust hRobust
  have hSome : windows.filter (·.status = .completed) ≠ [] := by
    intro hNone
    refine hPassed.some ?_
    rw [hNone]
    rfl
  refine ⟨hRequired.trans hPassed.enough, hPassed.winning, hPassed.average, hPassed.worst, ?_, ?_⟩
  · have hShare := hPassed.share
    rw [buildWalkForwardRobustnessSummary, if_neg hSome] at hShare
    exact_mod_cast hShare
  · intro window hWindow hCompleted hGain
    exact (share_le_dominant hWindow hCompleted hGain).trans_lt hPassed.spread

def sampleWindow : StrategyWalkForwardWindowResult where
  status := .completed
  tradeCount := 4
  pnlPct := 10
  maxDrawdownPct := 1
  feePaid := 0
  slippageCost := 0

def sampleSummary : StrategyWalkForwardRobustnessSummary where
  profitableWindowPct := 100
  totalTradeCount := 8
  avgTradesPerCompletedWindow := 4
  avgFeeSlippageDragPct := 0
  skippedWindowPct := 0
  dominantWinnerSharePct := 50
  recommendation :=
    { action := "REVIEW"
      reason := "Review walk-forward robustness before candidate acceptance." }

theorem summary_sampleWindows (initialCapital : Decimal) :
    buildWalkForwardRobustnessSummary [sampleWindow, sampleWindow] [sampleWindow, sampleWindow]
      initialCapital = sampleSummary := by
  have hDrag : calculateFeeSlippageDragPct initialCapital 0 0 = 0 := by
    unfold calculateFeeSlippageDragPct
    split <;> simp
  simp only [buildWalkForwardRobustnessSummary, sampleWindow, map_cons, map_nil, hDrag]
  decide +kernel

theorem robust_sampleWindows (hRequired : asI32 (request.minRequiredTestWindows.getD 1) ≤ 2) :
    (buildStrategyWalkForwardResult walkForwardId createdAt correlationId request
      [sampleWindow, sampleWindow]).robustnessStatus = .robust := by
  have hClassified : ∀ required : Int, required ≤ 2 →
      classifyWalkForwardRobustness (if 2 < required then .failed else .completed) 2 required 2 0
        10 10 0 2 138 sampleSummary = .robust := by
    intro required hSmall
    rw [if_neg (not_lt.mpr hSmall), classifyWalkForwardRobustness, if_neg (by decide), if_neg,
      if_neg (by decide), if_neg (by decide +kernel), if_pos (by decide +kernel)]
    rw [not_or, not_lt]
    exact ⟨hSmall, by decide⟩
  have hScore : calculateWalkForwardRobustnessScore 2 2 0 10 10 1 0 2 sampleSummary = 138 := by
    decide +kernel
  have hCompleted : [sampleWindow, sampleWindow].filter (·.status = .completed) =
      [sampleWindow, sampleWindow] := rfl
  have hGains : countWindows [sampleWindow, sampleWindow] (·.pnlPct > 0) = 2 := by decide +kernel
  have hLosses : countWindows [sampleWindow, sampleWindow] (·.pnlPct < 0) = 0 := by decide +kernel
  have hSkipped : countWindows [sampleWindow, sampleWindow] (·.status = .skipped) = 0 := rfl
  have hAverage : averageDecimal ([sampleWindow, sampleWindow].map (·.pnlPct)) = 10 := by
    decide +kernel
  have hDrawdown : averageDecimal ([sampleWindow, sampleWindow].map (·.maxDrawdownPct)) = 1 := by
    decide +kernel
  have hLeast : ([sampleWindow, sampleWindow].map (·.pnlPct)).min?.getD 0 = 10 := by decide +kernel
  have hLength : (([sampleWindow, sampleWindow].length : Nat) : Int) = 2 := rfl
  have hNotSkipped : ¬((2 : Int) = 0 ∧ (0 : Int) > 0) := by decide
  simp only [buildStrategyWalkForwardResult, hCompleted, hGains, hLosses, hSkipped, hAverage,
    hDrawdown, hLeast, hLength, summary_sampleWindows, hScore, if_neg hNotSkipped]
  exact hClassified _ hRequired

end Verdict

def sampleManyRequired : StrategyWalkForwardRequest :=
  { sampleWalkForward with minRequiredTestWindows := some 3000000000 }

end AegisQuant.Experiment
