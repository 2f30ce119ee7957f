import Mathlib.Tactic.Linarith
import Mathlib.Tactic.Positivity
import AegisQuant.Testnet.Shadow

/-! `get_research_candidate_shadow_performance`: the shadow runs linked to a
candidate, counted by the aggregates of one query, and the rates drawn from
the counts. Of the counts only two leave repeated candles out. -/
namespace AegisQuant.Research
open Testnet List

inductive ResearchCandidateStatus where
  | discovered
  | observing
  | acceptedForShadow
  | promotedToShadowConfig
  | rejected
  | archived
  deriving DecidableEq, Repr

def ResearchCandidateStatus.asStr : ResearchCandidateStatus → String
  | .discovered => "DISCOVERED"
  | .observing => "OBSERVING"
  | .acceptedForShadow => "ACCEPTED_FOR_SHADOW"
  | .promotedToShadowConfig => "PROMOTED_TO_SHADOW_CONFIG"
  | .rejected => "REJECTED"
  | .archived => "ARCHIVED"

structure ResearchCandidate where
  id : Uuid
  strategyId : String
  symbol : String
  timeframe : String
  status : ResearchCandidateStatus
  deriving DecidableEq

inductive ResearchCandidateShadowPerformanceStatus where
  | notPromotedToShadowConfig
  | insufficientData
  | healthy
  | underObservation
  | needsReview
  deriving DecidableEq, Repr

inductive ResearchCandidateShadowPerformanceRecommendation where
  | promoteToShadowConfig
  | insufficientData
  | keepObserving
  | needsReview
  | candidateNotCoveredByRunner
  | rejectCandidate
  deriving DecidableEq, Repr

structure ResearchCandidateShadowOutcomeBreakdown where
  totalShadowRuns : Int
  completedShadowRuns : Int
  independentShadowObservationCount : Int
  uniqueEvaluatedCandleCount : Int
  duplicateSameCandleRunsCount : Int
  wouldSubmitCount : Int
  noSignalCount : Int
  riskRejectedCount : Int
  skippedCount : Int
  errorCount : Int
  wouldSubmitRatePct : Decimal
  riskRejectionRatePct : Decimal
  deriving DecidableEq

structure ResearchCandidateShadowPerformance where
  candidateId : Uuid
  strategyId : String
  symbol : String
  timeframe : String
  windowStart : DateTime
  windowEnd : DateTime
  totalShadowRuns : Int
  wouldSubmitCount : Int
  noSignalCount : Int
  riskRejectedCount : Int
  skippedCount : Int
  errorCount : Int
  wouldSubmitRatePct : Decimal
  riskRejectionRatePct : Decimal
  lastShadowRunAt : Option DateTime
  completedShadowRuns : Int
  independentShadowObservationCount : Int
  uniqueEvaluatedCandleCount : Int
  duplicateSameCandleRunsCount : Int
  latestEvaluatedCandleOpenTime : Option DateTime
  latestValidShadowRunAt : Option DateTime
  latestSkippedShadowRunAt : Option DateTime
  runnerAlignmentCurrent : Bool
  recommendation : ResearchCandidateShadowPerformanceRecommendation
  status : ResearchCandidateShadowPerformanceStatus
  outcomeBreakdown : ResearchCandidateShadowOutcomeBreakdown
  computedAt : DateTime
  deriving DecidableEq

structure ResearchCandidateShadowPerformanceWindow where
  startTime : DateTime
  endTime : DateTime
  deriving DecidableEq, Repr

def defaultMinShadowRuns : Int := 30

def calculateObservationRate (count total : Int) : Decimal :=
  if count ≤ 0 ∨ total ≤ 0 then 0 else count / total

def calculatePercentageRate (count total : Int) : Decimal :=
  roundDp 2 (calculateObservationRate count total * 100)

/-- One row of aggregates over the linked runs of the window. -/
structure ShadowRunAggregates where
  totalShadowRuns : Int
  wouldSubmitCount : Int
  noSignalCount : Int
  riskRejectedCount : Int
  skippedCount : Int
  errorCount : Int
  lastShadowRunAt : Option DateTime
  completedShadowRuns : Int
  independentShadowObservationCount : Int
  uniqueEvaluatedCandleCount : Int
  duplicateSameCandleRunsCount : Int
  latestEvaluatedCandleOpenTime : Option DateTime
  latestValidShadowRunAt : Option DateTime
  latestSkippedShadowRunAt : Option DateTime
  deriving DecidableEq

def ResearchCandidateShadowPerformanceWindow.contains
    (window : ResearchCandidateShadowPerformanceWindow) (run : TestnetShadowRunRecord) : Bool :=
  decide (window.startTime ≤ run.createdAt) && decide (run.createdAt ≤ window.endTime)

/-- `decision LIKE 'SKIPPED_%'`, where `_` stands for any one character. -/
def likeSkipped (decision : String) : Bool :=
  decision.toList.take 7 == "SKIPPED".toList && decide (8 ≤ decision.toList.length)

def observedDecision (run : TestnetShadowRunRecord) : Bool :=
  ["NO_SIGNAL", "WOULD_SUBMIT", "RISK_REJECTED"].contains run.decision

def skippedRun (run : TestnetShadowRunRecord) : Bool :=
  likeSkipped run.decision || run.decision == "CANDLE_DATA_STALE"

def errorRun (run : TestnetShadowRunRecord) : Bool :=
  run.decision == "ERROR" || run.status == "ERROR"

def completedRun (run : TestnetShadowRunRecord) : Bool :=
  run.status == "COMPLETED" && observedDecision run

def validRun (run : TestnetShadowRunRecord) : Bool :=
  run.status != "ERROR" && observedDecision run

def countRuns (p : TestnetShadowRunRecord → Bool) (runs : List TestnetShadowRunRecord) : Int :=
  runs.countP p

def evaluatedCandles (runs : List TestnetShadowRunRecord) : List DateTime :=
  runs.filterMap (·.evaluatedCandleOpenTime)

def countDistinctCandles (runs : List TestnetShadowRunRecord) : Int :=
  (evaluatedCandles runs).dedup.length

def selectShadowRunAggregates (window : ResearchCandidateShadowPerformanceWindow)
    (linkedRuns : List TestnetShadowRunRecord) : ShadowRunAggregates :=
  let runs := linkedRuns.filter window.contains
  let completed := runs.filter completedRun
  { totalShadowRuns := runs.length
    wouldSubmitCount := countRuns (·.decision == "WOULD_SUBMIT") runs
    noSignalCount := countRuns (·.decision == "NO_SIGNAL") runs
    riskRejectedCount := countRuns (·.decision == "RISK_REJECTED") runs
    skippedCount := countRuns skippedRun runs
    errorCount := countRuns errorRun runs
    lastShadowRunAt := (runs.map (·.createdAt)).max?
    completedShadowRuns := completed.length
    independentShadowObservationCount := countDistinctCandles completed +
      countRuns (·.evaluatedCandleOpenTime.isNone) completed
    uniqueEvaluatedCandleCount := countDistinctCandles runs
    duplicateSameCandleRunsCount := countRuns (·.evaluatedCandleOpenTime.isSome) runs -
      countDistinctCandles runs
    latestEvaluatedCandleOpenTime := (evaluatedCandles runs).max?
    latestValidShadowRunAt := ((runs.filter validRun).map (·.createdAt)).max?
    latestSkippedShadowRunAt := ((runs.filter skippedRun).map (·.createdAt)).max? }

def evaluateResearchCandidateShadowPerformance (candidate : ResearchCandidate)
    (window : ResearchCandidateShadowPerformanceWindow) (row : ShadowRunAggregates)
    (runnerAlignmentCurrent : Bool) (computedAt : DateTime) : ResearchCandidateShadowPerformance :=
  let wouldSubmitRatePct := calculatePercentageRate row.wouldSubmitCount row.totalShadowRuns
  let riskRejectionRatePct := calculatePercentageRate row.riskRejectedCount row.totalShadowRuns
  let skippedOrErrorRatePct :=
    calculatePercentageRate (row.skippedCount + row.errorCount) row.totalShadowRuns
  let independent := max row.independentShadowObservationCount 0
  let unique := max row.uniqueEvaluatedCandleCount 0
  let duplicates := max row.duplicateSameCandleRunsCount 0
  let verdict : ResearchCandidateShadowPerformanceStatus ×
      ResearchCandidateShadowPerformanceRecommendation :=
    if candidate.status ≠ .promotedToShadowConfig then
      (.notPromotedToShadowConfig, .promoteToShadowConfig)
    else if !runnerAlignmentCurrent then (.needsReview, .candidateNotCoveredByRunner)
    else if row.totalShadowRuns ≤ 0 then (.insufficientData, .insufficientData)
    else if row.totalShadowRuns < defaultMinShadowRuns then (.underObservation, .keepObserving)
    else if row.wouldSubmitCount = 0 ∨ 75 ≤ riskRejectionRatePct ∨ 50 ≤ skippedOrErrorRatePct then
      (.needsReview, if row.wouldSubmitCount = 0 then .rejectCandidate else .needsReview)
    else (.healthy, .keepObserving)
  { candidateId := candidate.id
    strategyId := candidate.strategyId
    symbol := candidate.symbol
    timeframe := candidate.timeframe
    windowStart := window.startTime
    windowEnd := window.endTime
    totalShadowRuns := row.totalShadowRuns
    wouldSubmitCount := row.wouldSubmitCount
    noSignalCount := row.noSignalCount
    riskRejectedCount := row.riskRejectedCount
    skippedCount := row.skippedCount
    errorCount := row.errorCount
    wouldSubmitRatePct := wouldSubmitRatePct
    riskRejectionRatePct := riskRejectionRatePct
    lastShadowRunAt := row.lastShadowRunAt
    completedShadowRuns := row.completedShadowRuns
    independentShadowObservationCount := independent
    uniqueEvaluatedCandleCount := unique
    duplicateSameCandleRunsCount := duplicates
    latestEvaluatedCandleOpenTime := row.latestEvaluatedCandleOpenTime
    latestValidShadowRunAt := row.latestValidShadowRunAt
    latestSkippedShadowRunAt := row.latestSkippedShadowRunAt
    runnerAlignmentCurrent := runnerAlignmentCurrent
    recommendation := verdict.2
    status := verdict.1
    outcomeBreakdown := {
      totalShadowRuns := row.totalShadowRuns
      completedShadowRuns := row.completedShadowRuns
      independentShadowObservationCount := independent
      uniqueEvaluatedCandleCount := unique
      duplicateSameCandleRunsCount := duplicates
      wouldSubmitCount := row.wouldSubmitCount
      noSignalCount := row.noSignalCount
      riskRejectedCount := row.riskRejectedCount
      skippedCount := row.skippedCount
      errorCount := row.errorCount
      wouldSubmitRatePct := wouldSubmitRatePct
      riskRejectionRatePct := riskRejectionRatePct }
    computedAt := computedAt }

def getResearchCandidateShadowPerformance (linkedRuns : List TestnetShadowRunRecord)
    (candidate : ResearchCandidate) (window : ResearchCandidateShadowPerformanceWindow)
    (runnerAlignmentCurrent : Bool) (computedAt : DateTime) : ResearchCandidateShadowPerformance :=
  evaluateResearchCandidateShadowPerformance candidate window
    (selectShadowRunAggregates window linkedRuns) runnerAlignmentCurrent computedAt

section Rates

theorem roundDp_mono (places : Nat) : Monotone (roundDp places) := by
  intro low high hLe
  have hScale : (0 : ℚ) < 10 ^ places := by positivity
  have hScaled : low * 10 ^ places ≤ high * 10 ^ places :=
    mul_le_mul_of_nonneg_right hLe hScale.le
  have hFloor : (low * 10 ^ places).floor ≤ (high * 10 ^ places).floor :=
    Rat.floor_monotone hScaled
  unfold roundDp
  refine div_le_div_of_nonneg_right (Int.cast_le.mpr ?_) hScale.le
  rcases hFloor.lt_or_eq with hLess | hEq
  · split_ifs <;> omega
  · -- with equal floors the rests are ordered
    have hRest : low * 10 ^ places - (low * 10 ^ places).floor ≤
        high * 10 ^ places - (high * 10 ^ places).floor := by
      rw [hEq]
      exact sub_le_sub_right hScaled _
    rw [hEq] at hRest ⊢
    split_ifs <;> first | omega | (exfalso; linarith)

/-- The same count is a smaller share of a larger total. -/
theorem calculatePercentageRate_antitone {count total larger : Int}
    (hTotal : 0 < total ∨ count ≤ 0) (hLarger : total ≤ larger) :
    calculatePercentageRate count larger ≤ calculatePercentageRate count total := by
  unfold calculatePercentageRate
  refine roundDp_mono 2 (mul_le_mul_of_nonneg_right ?_ (by norm_num))
  unfold calculateObservationRate
  by_cases hNone : count ≤ 0
  · simp [hNone]
  · have hPositive : 0 < total := hTotal.resolve_right hNone
    rw [if_neg (by omega), if_neg (by omega)]
    have hCast : (total : ℚ) ≤ larger := by exact_mod_cast hLarger
    have hPositiveCast : (0 : ℚ) < total := by exact_mod_cast hPositive
    have hCountCast : (0 : ℚ) ≤ count := by exact_mod_cast (by omega : (0 : Int) ≤ count)
    exact div_le_div_of_nonneg_left hCountCast hPositiveCast hCast

end Rates

section Counts
variable (runs : List TestnetShadowRunRecord)

theorem countRuns_append (p : TestnetShadowRunRecord → Bool) (runs : List TestnetShadowRunRecord)
    (run : TestnetShadowRunRecord) :
    countRuns p (runs ++ [run]) = countRuns p runs + if p run then 1 else 0 := by
  unfold countRuns
  rw [countP_append, countP_singleton]
  split <;> simp

section
variable {candle : DateTime} {run : TestnetShadowRunRecord}
  (hCandle : run.evaluatedCandleOpenTime = some candle)
include hCandle

theorem countDistinctCandles_append_of_mem (hSeen : candle ∈ evaluatedCandles runs) :
    countDistinctCandles (runs ++ [run]) = countDistinctCandles runs := by
  unfold countDistinctCandles
  rw [← card_toFinset, ← card_toFinset]
  congr 2
  ext time
  simp only [evaluatedCandles, filterMap_append, mem_toFinset, mem_append] at hSeen ⊢
  constructor
  · rintro (h | h)
    · exact h
    · simp only [filterMap_cons, hCandle, filterMap_nil, mem_singleton] at h
      rwa [h]
  · exact .inl

theorem countDistinctCandles_append :
    countDistinctCandles runs ≤ countDistinctCandles (runs ++ [run]) ∧
      countDistinctCandles (runs ++ [run]) ≤ countDistinctCandles runs + 1 := by
  unfold countDistinctCandles
  have hSet : (evaluatedCandles (runs ++ [run])).toFinset =
      insert candle (evaluatedCandles runs).toFinset := by
    ext time
    simp [evaluatedCandles, hCandle]
  rw [← card_toFinset, ← card_toFinset, hSet]
  have hGrows := Finset.card_le_card (Finset.subset_insert candle (evaluatedCandles runs).toFinset)
  have hOne := Finset.card_insert_le candle (evaluatedCandles runs).toFinset
  omega

end

end Counts

end AegisQuant.Research
