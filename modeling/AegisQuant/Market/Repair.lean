import AegisQuant.Market.Aggregation
import AegisQuant.Market.Continuity

/-! Repair plans. The gaps of a quality report become ranges to backfill; the
plan is compared with the slots of the window that have no closed candle. -/
namespace AegisQuant

def CandleInterval.isAggregatedFromOneMinute (interval : CandleInterval) : Bool :=
  interval ≠ .oneMinute

/-- Whole intervals of the window, as a 32-bit count. -/
def CandleInterval.candlesBetween (interval : CandleInterval) (startTime endTime : DateTime) :
    Except CoreError Int :=
  if endTime ≤ startTime then .error .invalidCandleBackfillTimeRange
  else
    let stepMs := interval.duration / 1000000
    let windowMs := (endTime - startTime).tdiv 1000000
    let candles := windowMs.tdiv stepMs
    if -2 ^ 31 ≤ candles ∧ candles < 2 ^ 31 then .ok candles
    else .error .invalidCandleBackfillEstimate

end AegisQuant

namespace AegisQuant.Market
open Fallible SortByKey List Option

inductive MarketDataRepairMode where
  | planOnly
  | repair
  deriving DecidableEq

inductive MarketDataRepairStatus where
  | noRepairNeeded
  | repairPlanned
  | repairCompleted
  | partialRepair
  | repairFailed
  | insufficientData
  | unsupportedInterval
  deriving DecidableEq

structure MarketDataRepairPlanRequest where
  exchange : MarketDataSource
  symbol : String
  interval : String
  startTime : DateTime
  endTime : DateTime
  repairMode : MarketDataRepairMode
  maxRanges : Int
  reaggregateDerivedIntervals : Bool
  correlationId : Option Uuid

def MarketDataRepairPlanRequest.parsedInterval (request : MarketDataRepairPlanRequest) :
    Except CoreError CandleInterval :=
  CandleInterval.fromStr request.interval

def MarketDataRepairPlanRequest.normalizedSymbol (request : MarketDataRepairPlanRequest) :
    Except CoreError Symbol :=
  Symbol.new request.symbol

def MarketDataRepairPlanRequest.validateWithoutIntervalSupport
    (request : MarketDataRepairPlanRequest) : Except CoreError Unit :=
  if trim request.symbol = "" then .error .emptyCandleBackfillSymbol
  else if request.endTime ≤ request.startTime then .error .invalidCandleBackfillTimeRange
  else if request.maxRanges ≤ 0 then .error .invalidMarketDataRepairMaxRanges
  else .ok ()

def MarketDataRepairPlanRequest.validate (request : MarketDataRepairPlanRequest) :
    Except CoreError Unit := do
  request.validateWithoutIntervalSupport
  let _ ← request.parsedInterval
  pure ()

def MarketDataRepairPlanRequest.qualityRequest (request : MarketDataRepairPlanRequest) :
    MarketDataQualityRequest where
  exchange := request.exchange
  symbol := request.symbol
  interval := request.interval
  startTime := request.startTime
  endTime := request.endTime
  expectedIntervalSeconds := none
  maxAllowedGapCount := none
  maxAllowedGapPct := none

structure MarketDataRepairRange where
  sourceInterval : String
  startTime : DateTime
  endTime : DateTime
  missingCandleCount : Int
  deriving DecidableEq

structure MarketDataRepairFinding where
  severity : String
  code : String
  message : String
  deriving DecidableEq

structure MarketDataRepairRecommendation where
  code : String
  message : String
  deriving DecidableEq

structure MarketDataRepairPlan where
  exchange : MarketDataSource
  symbol : String
  interval : String
  startTime : DateTime
  endTime : DateTime
  status : MarketDataRepairStatus
  initialQualityStatus : MarketDataQualityStatus
  gapCount : Int
  repairRanges : List MarketDataRepairRange
  estimatedSourceInterval : Option String
  requiresSourceInterval : Bool
  reaggregateDerivedIntervals : Bool
  findings : List MarketDataRepairFinding
  recommendations : List MarketDataRepairRecommendation
  correlationId : Option Uuid

def gapRange (sourceInterval : CandleInterval) (gap : MarketDataGap) : MarketDataRepairRange where
  sourceInterval := sourceInterval.asStr
  startTime := gap.startTime
  endTime := gap.endTime
  missingCandleCount := max
    (countExpectedCandlesForWindow sourceInterval.numSeconds gap.startTime gap.endTime)
    gap.missingCandleCount

def MarketDataRepairRange.extend (last range : MarketDataRepairRange) : MarketDataRepairRange :=
  { last with
    endTime := max last.endTime range.endTime
    missingCandleCount := last.missingCandleCount + range.missingCandleCount }

/-- A gap that touches the last range extends it; the first one for which there
is no room ends the loop. -/
def mergeRepairGaps (sourceInterval : CandleInterval) (maxRanges : Nat)
    (ranges : List MarketDataRepairRange) : List MarketDataGap → List MarketDataRepairRange
  | [] => ranges
  | gap :: rest =>
    let range := gapRange sourceInterval gap
    match ranges.getLast?.filter fun last => gap.startTime ≤ last.endTime with
    | some last =>
      mergeRepairGaps sourceInterval maxRanges (ranges.dropLast ++ [last.extend range]) rest
    | none =>
      if maxRanges ≤ ranges.length then ranges
      else mergeRepairGaps sourceInterval maxRanges (ranges ++ [range]) rest

def unsupportedIntervalPlan (request : MarketDataRepairPlanRequest) (symbol : Symbol)
    (report : MarketDataQualityReport) : MarketDataRepairPlan where
  exchange := request.exchange
  symbol := symbol.text
  interval := request.interval
  startTime := request.startTime
  endTime := request.endTime
  status := .unsupportedInterval
  initialQualityStatus := report.status
  gapCount := report.gapCount
  repairRanges := []
  estimatedSourceInterval := none
  requiresSourceInterval := false
  reaggregateDerivedIntervals := false
  findings := [⟨"MEDIUM", "unsupported_interval",
    "Interval " ++ request.interval ++ " is not supported for repair."⟩]
  recommendations := [⟨"use_supported_interval", "Use one of 1m, 5m, 15m, or 1h."⟩]
  correlationId := request.correlationId

def sourceIntervalOf (interval : CandleInterval) : CandleInterval :=
  if interval.isAggregatedFromOneMinute then .oneMinute else interval

section Plan
variable (request : MarketDataRepairPlanRequest) (symbol : Symbol) (interval : CandleInterval)
  (report : MarketDataQualityReport)

/-- The fields that all plans of a supported interval share. -/
def planWith (status : MarketDataRepairStatus) (ranges : List MarketDataRepairRange)
    (findings : List MarketDataRepairFinding)
    (recommendations : List MarketDataRepairRecommendation) : MarketDataRepairPlan where
  exchange := request.exchange
  symbol := symbol.text
  interval := interval.asStr
  startTime := request.startTime
  endTime := request.endTime
  status := status
  initialQualityStatus := report.status
  gapCount := report.gapCount
  repairRanges := ranges
  estimatedSourceInterval := some (sourceIntervalOf interval).asStr
  requiresSourceInterval := interval.isAggregatedFromOneMinute
  reaggregateDerivedIntervals :=
    interval.isAggregatedFromOneMinute && request.reaggregateDerivedIntervals
  findings := findings
  recommendations := recommendations
  correlationId := request.correlationId

def fullWindowPlan : MarketDataRepairPlan :=
  planWith request symbol interval report .insufficientData
    [{ sourceInterval := (sourceIntervalOf interval).asStr
       startTime := request.startTime
       endTime := request.endTime
       missingCandleCount := ((CandleInterval.oneMinute.candlesBetween request.startTime
        request.endTime).toOption).getD 0 }]
    [⟨"HIGH", "insufficient_market_data", "No candles exist for the requested repair window."⟩]
    [⟨"backfill_full_window", "Backfill the requested window before using it for research."⟩]

def truncatedFinding : MarketDataRepairFinding :=
  ⟨"MEDIUM", "repair_ranges_truncated",
    "Repair ranges were limited to max_ranges=" ++ toString request.maxRanges ++ "."⟩

def noRepairNeededFinding : MarketDataRepairFinding :=
  ⟨"INFO", "no_repair_needed", "No candle gaps were detected in the requested window."⟩

def plannedFindings (truncated : Bool) : List MarketDataRepairFinding :=
  if truncated then [truncatedFinding request] else []

def plannedRecommendations (truncated : Bool) : List MarketDataRepairRecommendation :=
  (if truncated then [⟨"increase_max_ranges",
    "Increase max_ranges or repair a narrower window."⟩] else []) ++
  if interval.isAggregatedFromOneMinute then [⟨"repair_source_then_reaggregate",
    "Repair missing 1m source candles, then re-aggregate the requested interval."⟩]
  else [⟨"backfill_missing_ranges", "Backfill only the missing public market-data ranges."⟩]

def planForRanges (ranges : List MarketDataRepairRange) : MarketDataRepairPlan :=
  if report.gapCount = 0 ∨ ranges = [] then
    planWith request symbol interval report .noRepairNeeded ranges [noRepairNeededFinding] []
  else
    planWith request symbol interval report .repairPlanned
      (if interval.isAggregatedFromOneMinute then
        ranges.map fun range => { range with sourceInterval := CandleInterval.oneMinute.asStr }
      else ranges)
      (plannedFindings request (ranges.length < report.gapCount))
      (plannedRecommendations interval (ranges.length < report.gapCount))

def planMarketDataRepair : Except CoreError MarketDataRepairPlan := do
  request.validateWithoutIntervalSupport
  let symbol ← request.normalizedSymbol
  match request.parsedInterval with
  | .error _ => pure (unsupportedIntervalPlan request symbol report)
  | .ok interval =>
    if report.status = .insufficientData then pure (fullWindowPlan request symbol interval report)
    else pure (planForRanges request symbol interval report
      (mergeRepairGaps (sourceIntervalOf interval) request.maxRanges.toNat [] report.gaps))

end Plan

def buildMarketDataRepairPlan (display : Decimal → String) (now : DateTime)
    (request : MarketDataRepairPlanRequest) (candles : List Candle) (maxGapsReturned : Nat) :
    Except CoreError MarketDataRepairPlan := do
  let report ← summarizeCandleContinuity display now request.qualityRequest candles maxGapsReturned
  planMarketDataRepair request report

def expectedSlots (request : MarketDataRepairPlanRequest) (interval : CandleInterval) :
    List DateTime :=
  (range (countExpectedCandlesForWindow interval.numSeconds request.startTime
    request.endTime).toNat).map fun i : Nat => request.startTime + i * interval.duration

def MarketDataRepairPlan.carries (plan : MarketDataRepairPlan) (code : String) : Prop :=
  ∃ finding ∈ plan.findings, finding.code = code

def MarketDataRepairRange.holds (range : MarketDataRepairRange) (slot : DateTime) : Prop :=
  range.startTime ≤ slot ∧ slot < range.endTime

/-- A plan covers what is missing. No repair is needed only when every expected
slot has a candle; otherwise every slot without one is in a range, unless the
plan says that its ranges are truncated, which it says only when one is left
out. The ranges are in order, disjoint, and at most as many as requested. -/
structure CoversMissing (request : MarketDataRepairPlanRequest) (interval : CandleInterval)
    (candles : List Candle) (plan : MarketDataRepairPlan) : Prop where
  complete : plan.status = .noRepairNeeded → ∀ slot ∈ expectedSlots request interval,
    slot ∈ candles.map (·.openTime)
  covered : plan.status ≠ .noRepairNeeded → ¬plan.carries "repair_ranges_truncated" →
    ∀ slot ∈ expectedSlots request interval, slot ∉ candles.map (·.openTime) →
      ∃ range ∈ plan.repairRanges, range.holds slot
  nonempty : ∀ range ∈ plan.repairRanges, range.startTime < range.endTime
  increasing : plan.repairRanges.Pairwise fun first second => first.endTime ≤ second.startTime
  bounded : plan.repairRanges.length ≤ request.maxRanges
  truncated : plan.carries "repair_ranges_truncated" → ∃ slot ∈ expectedSlots request interval,
    slot ∉ candles.map (·.openTime) ∧ ∀ range ∈ plan.repairRanges, ¬range.holds slot

section Slots
variable {request : MarketDataRepairPlanRequest} {interval : CandleInterval} {slot : DateTime}

theorem countExpectedCandlesForWindow_eq {startTime endTime : DateTime} (hWindow : startTime < endTime) :
    countExpectedCandlesForWindow interval.numSeconds startTime endTime =
      (endTime - startTime) / interval.duration := by
  rw [countExpectedCandlesForWindow_of_pos (numSeconds_pos interval) hWindow, numSeconds_mul]

theorem mem_expectedSlots : slot ∈ expectedSlots request interval ↔
    Gaps.IsSlot request.startTime request.endTime interval.duration slot := by
  have hPositive := duration_pos interval
  simp only [expectedSlots, List.mem_map, List.mem_range]
  constructor
  · rintro ⟨i, hIndex, rfl⟩
    by_cases hWindow : request.startTime < request.endTime
    · rw [countExpectedCandlesForWindow_eq hWindow] at hIndex
      have hRoom : (i + 1 : Int) * interval.duration ≤ request.endTime - request.startTime :=
        (Int.le_ediv_iff_mul_le hPositive).mp (by omega)
      rw [add_mul, one_mul] at hRoom
      refine ⟨?_, Int.le_add_of_nonneg_right (Int.mul_nonneg (by omega) hPositive.le), ?_⟩
      · rw [add_sub_cancel_left]
        exact Int.dvd_mul_left ..
      · rw [Int.add_assoc]
        exact Int.add_le_of_le_sub_left hRoom
    · rw [countExpectedCandlesForWindow, if_pos (Or.inr (not_lt.mp hWindow))] at hIndex
      cases hIndex
  · rintro ⟨⟨count, hCount⟩, hAfter, hBefore⟩
    have hWindow : request.startTime < request.endTime :=
      lt_of_le_of_lt hAfter (lt_of_lt_of_le (Int.lt_add_of_pos_right slot hPositive) hBefore)
    have hNonneg : 0 ≤ count := by
      have hProduct : 0 ≤ interval.duration * count := hCount ▸ Int.sub_nonneg_of_le hAfter
      exact Int.nonneg_of_mul_nonneg_right hProduct hPositive
    have hRoom : count + 1 ≤ (request.endTime - request.startTime) / interval.duration := by
      rw [Int.le_ediv_iff_mul_le hPositive, add_mul, one_mul, mul_comm count, ← hCount]
      have hShifted := Int.sub_le_sub_right hBefore request.startTime
      rwa [add_sub_right_comm] at hShifted
    refine ⟨count.toNat, ?_, ?_⟩
    · rw [countExpectedCandlesForWindow_eq hWindow]
      omega
    · rw [Int.toNat_of_nonneg hNonneg, mul_comm count, ← hCount, add_sub_cancel]

end Slots

section Merge
variable {sourceInterval : CandleInterval} {maxRanges : Nat}

/-- Gaps apart from each other are taken one by one while there is room. -/
theorem mergeRepairGaps_eq {gaps : List MarketDataGap} {ranges : List MarketDataRepairRange}
    (hApart : gaps.Pairwise fun first second => first.endTime < second.startTime)
    (hLast : ∀ last ∈ ranges.getLast?, ∀ gap ∈ gaps, last.endTime < gap.startTime) :
    mergeRepairGaps sourceInterval maxRanges ranges gaps =
      ranges ++ (gaps.take (maxRanges - ranges.length)).map (gapRange sourceInterval) := by
  induction gaps generalizing ranges with
  | nil => simp [mergeRepairGaps]
  | cons gap rest ih =>
    obtain ⟨hFirst, hRest⟩ := pairwise_cons.mp hApart
    have hNone : (ranges.getLast?.filter fun last => gap.startTime ≤ last.endTime) = none := by
      refine filter_eq_none_iff.mpr fun last hMem => ?_
      rw [decide_eq_true_iff]
      exact not_le.mpr (hLast last hMem gap (mem_cons_self ..))
    rw [mergeRepairGaps, hNone]
    dsimp only
    split
    · rename_i hFull
      rw [Nat.sub_eq_zero_of_le hFull, take_zero, map_nil, append_nil]
    · rename_i hRoom
      rw [ih hRest]
      · rw [length_append, length_singleton, append_assoc]
        obtain ⟨room, hTake⟩ := Nat.exists_eq_add_of_lt (not_le.mp hRoom)
        rw [hTake, Nat.add_assoc, Nat.add_sub_cancel_left, ← Nat.add_assoc, Nat.add_right_comm,
          Nat.add_sub_cancel_left]
        rfl
      · intro last hMem next hNext
        rw [getLast?_concat] at hMem
        rw [← some.inj hMem]
        exact hFirst next hNext

end Merge

section Plans
variable {request : MarketDataRepairPlanRequest} {symbol : Symbol} {interval : CandleInterval}
  {candles : List Candle} {maxGapsReturned : Nat} {report : MarketDataQualityReport}

/-- The open times, in order. -/
def sortedOpens (candles : List Candle) : List DateTime :=
  (sort (·.openTime) candles).map (·.openTime)

theorem perm_sortedOpens (candles : List Candle) :
    (sortedOpens candles).Perm (candles.map (·.openTime)) :=
  (perm_sort _ candles).map _

theorem pairwise_sortedOpens (candles : List Candle) : (sortedOpens candles).Pairwise (· ≤ ·) :=
  pairwise_map.mpr (pairwise_sort _ candles)

def windowGaps (interval : CandleInterval) (candles : List Candle) : List (DateTime × DateTime) :=
  Gaps.gaps interval.duration (sortedOpens candles)

def plannedRange (interval : CandleInterval) (gap : DateTime × DateTime) : MarketDataRepairRange :=
  gapRange (sourceIntervalOf interval) (gapBetween interval.numSeconds gap.1 gap.2)

section
variable (hInterval : request.parsedInterval = .ok interval)
include hInterval

theorem intervalSeconds_qualityRequest :
    request.qualityRequest.intervalSeconds = interval.numSeconds := by
  have hParsed : request.qualityRequest.parsedInterval = .ok interval := hInterval
  simp only [MarketDataQualityRequest.intervalSeconds, hParsed]
  rfl

theorem closedGaps_eq (hClosed : ∀ candle ∈ candles, candle.isClosed = true) :
    closedGaps request.qualityRequest candles =
      (windowGaps interval candles).map fun gap => gapBetween interval.numSeconds gap.1 gap.2 := by
  have hSeconds := intervalSeconds_qualityRequest hInterval
  have hAll : (sort (·.openTime) candles).filter (·.isClosed) = sort (·.openTime) candles :=
    filter_eq_self.mpr fun candle hCandle =>
      hClosed candle ((perm_sort _ candles).mem_iff.mp hCandle)
  rw [closedGaps, hSeconds, hAll, numSeconds_mul]
  rfl

/-- As many gaps as the report returns and the request allows become ranges. -/
theorem ranges_eq (hClosed : ∀ candle ∈ candles, candle.isClosed = true)
    (hReport : ReportsGaps request.qualityRequest candles maxGapsReturned report) :
    mergeRepairGaps (sourceIntervalOf interval) request.maxRanges.toNat [] report.gaps =
      ((windowGaps interval candles).take (min request.maxRanges.toNat maxGapsReturned)).map
        (plannedRange interval) := by
  have hSorted := pairwise_sortedOpens candles
  have hApart : report.gaps.Pairwise fun first second => first.endTime < second.startTime := by
    rw [hReport.gaps, closedGaps_eq hInterval hClosed]
    refine (pairwise_map.mpr ?_).sublist (take_sublist _ _)
    refine (Gaps.pairwise_gaps hSorted).imp ?_
    intro first second hOrder
    exact lt_of_lt_of_le (Int.lt_add_of_pos_right _ (duration_pos interval)) hOrder
  rw [mergeRepairGaps_eq hApart (by simp), hReport.gaps, closedGaps_eq hInterval hClosed,
    List.nil_append, List.length_nil, Nat.sub_zero, List.take_take, ← List.map_take, List.map_map]
  rfl

end

def spanOf (range : MarketDataRepairRange) : DateTime × DateTime := (range.startTime, range.endTime)

/-- The ranges are the first gaps, the status tells whether there are any, and
the finding whether there are more. -/
structure PlansGaps (found : List (DateTime × DateTime)) (limit : Nat)
    (plan : MarketDataRepairPlan) : Prop where
  ranges : plan.repairRanges.map spanOf = found.take limit
  status : plan.status = .noRepairNeeded ↔ found.take limit = []
  truncated : plan.carries "repair_ranges_truncated" ↔ found.take limit ≠ [] ∧ limit < found.length

theorem plansGaps_planForRanges (symbol : Symbol)
    (hInterval : request.parsedInterval = .ok interval)
    (hClosed : ∀ candle ∈ candles, candle.isClosed = true)
    (hReport : ReportsGaps request.qualityRequest candles maxGapsReturned report) :
    PlansGaps (windowGaps interval candles) (min request.maxRanges.toNat maxGapsReturned)
      (planForRanges request symbol interval report
        (mergeRepairGaps (sourceIntervalOf interval) request.maxRanges.toNat [] report.gaps)) := by
  have hCount : report.gapCount = (windowGaps interval candles).length := by
    rw [hReport.gapCount, closedGaps_eq hInterval hClosed, length_map]
  have hSpans : ∀ gaps : List (DateTime × DateTime),
      (gaps.map (plannedRange interval)).map spanOf = gaps := by
    intro gaps
    rw [List.map_map]
    exact map_id gaps
  rw [ranges_eq hInterval hClosed hReport, planForRanges, hCount]
  simp only [map_eq_nil_iff, length_map]
  generalize windowGaps interval candles = found
  generalize min request.maxRanges.toNat maxGapsReturned = limit
  split
  · rename_i hNone
    have hEmpty : found.take limit = [] := by
      rcases hNone with hNoGap | hNoRange
      · rw [eq_nil_of_length_eq_zero (Int.natCast_eq_zero.mp hNoGap), take_nil]
      · exact hNoRange
    refine ⟨hSpans _, iff_of_true rfl hEmpty, iff_of_false ?_ fun hSome => hSome.1 hEmpty⟩
    rintro ⟨finding, hFinding, hCode⟩
    rw [mem_singleton.mp hFinding] at hCode
    revert hCode
    decide
  · rename_i hSome
    have hRanges := (not_or.mp hSome).2
    have hShort : (((found.take limit).length : Int) < found.length) ↔ limit < found.length := by
      rw [length_take]
      omega
    refine ⟨?_, iff_of_false (by simp [planWith]) hRanges, ?_⟩
    · simp only [planWith]
      split
      · rw [List.map_map]
        exact hSpans (found.take limit)
      · exact hSpans (found.take limit)
    · simp only [MarketDataRepairPlan.carries, planWith, plannedFindings, decide_eq_true_iff, hShort]
      constructor
      · rintro ⟨finding, hFinding, _⟩
        split at hFinding
        · rename_i hTruncated
          exact ⟨hRanges, hTruncated⟩
        · cases hFinding
      · rintro ⟨-, hTruncated⟩
        rw [if_pos hTruncated]
        exact ⟨_, mem_singleton_self _, rfl⟩

end Plans

section Cover
variable {request : MarketDataRepairPlanRequest} {interval : CandleInterval}
  {candles : List Candle} {limit : Nat} {plan : MarketDataRepairPlan}

/-- The candles open at whole intervals of the window. -/
def OnWindowGrid (request : MarketDataRepairPlanRequest) (interval : CandleInterval)
    (candles : List Candle) : Prop :=
  Gaps.OnGrid request.startTime request.endTime interval.duration (candles.map (·.openTime))

/-- A candle opens the window, and one leaves less than an interval of it. -/
def ReachesBothEnds (request : MarketDataRepairPlanRequest) (interval : CandleInterval)
    (candles : List Candle) : Prop :=
  request.startTime ∈ candles.map (·.openTime) ∧
    ∃ openTime ∈ candles.map (·.openTime), request.endTime < openTime + 2 * interval.duration

section
variable (hGrid : OnWindowGrid request interval candles)
include hGrid

theorem onGrid_sortedOpens :
    Gaps.OnGrid request.startTime request.endTime interval.duration (sortedOpens candles) where
  aligned := fun entry hEntry =>
    hGrid.aligned entry ((perm_sortedOpens candles).mem_iff.mp hEntry)
  after := fun entry hEntry => hGrid.after entry ((perm_sortedOpens candles).mem_iff.mp hEntry)
  before := fun entry hEntry => hGrid.before entry ((perm_sortedOpens candles).mem_iff.mp hEntry)

theorem missing_of_mem_windowGaps {gap : DateTime × DateTime}
    (hGap : gap ∈ windowGaps interval candles) :
    gap.1 ∈ expectedSlots request interval ∧ gap.1 ∉ candles.map (·.openTime) := by
  obtain ⟨hSlot, hMissing⟩ := Gaps.isSlot_of_mem_gaps (duration_pos interval)
    (onGrid_sortedOpens hGrid) (pairwise_sortedOpens candles) hGap
  exact ⟨mem_expectedSlots.mpr hSlot, fun hMem =>
    hMissing ((perm_sortedOpens candles).mem_iff.mpr hMem)⟩

/-- The gaps hold every missing slot when the candles reach both ends. -/
theorem windowGaps_cover_iff (hCandles : candles ≠ [])
    (hWindow : request.startTime + interval.duration ≤ request.endTime) :
    (∀ slot ∈ expectedSlots request interval, slot ∉ candles.map (·.openTime) →
        ∃ gap ∈ windowGaps interval candles, gap.1 ≤ slot ∧ slot < gap.2) ↔
      ReachesBothEnds request interval candles := by
  have hOpens : sortedOpens candles ≠ [] := by
    intro hNone
    have hLength := (perm_sortedOpens candles).length_eq
    rw [hNone, length_map] at hLength
    exact hCandles (eq_nil_of_length_eq_zero hLength.symm)
  have hCover := Gaps.gaps_cover_iff (duration_pos interval) (onGrid_sortedOpens hGrid)
    (pairwise_sortedOpens candles) hOpens hWindow
  simp only [(perm_sortedOpens candles).mem_iff] at hCover
  simp only [mem_expectedSlots]
  exact hCover

end

theorem PlansGaps.mem_ranges (hPlan : PlansGaps (windowGaps interval candles) limit plan)
    (slot : DateTime) : (∃ range ∈ plan.repairRanges, range.holds slot) ↔
      ∃ gap ∈ (windowGaps interval candles).take limit, gap.1 ≤ slot ∧ slot < gap.2 := by
  rw [← hPlan.ranges]
  constructor
  · rintro ⟨range, hRange, hHolds⟩
    exact ⟨spanOf range, mem_map_of_mem hRange, hHolds⟩
  · rintro ⟨gap, hGap, hHolds⟩
    obtain ⟨range, hRange, rfl⟩ := mem_map.mp hGap
    exact ⟨range, hRange, hHolds⟩

section
variable (hPlan : PlansGaps (windowGaps interval candles) limit plan)
  (hGrid : OnWindowGrid request interval candles) (hLimit : (limit : Int) ≤ request.maxRanges)
include hPlan hGrid hLimit

/-- The ranges are always in order and disjoint, and a truncation always leaves
a slot out. -/
theorem PlansGaps.coversMissing
    (hComplete : plan.status = .noRepairNeeded → ∀ slot ∈ expectedSlots request interval,
      slot ∈ candles.map (·.openTime))
    (hCovered : plan.status ≠ .noRepairNeeded → ¬plan.carries "repair_ranges_truncated" →
      ∀ slot ∈ expectedSlots request interval, slot ∉ candles.map (·.openTime) →
        ∃ range ∈ plan.repairRanges, range.holds slot) :
    CoversMissing request interval candles plan := by
  have hSorted := pairwise_sortedOpens candles
  have hOrder : (windowGaps interval candles).Pairwise fun first second =>
      first.2 ≤ second.1 := by
    refine (Gaps.pairwise_gaps hSorted).imp ?_
    intro first second hApart
    exact le_trans (Int.le_add_of_nonneg_right (duration_pos interval).le) hApart
  refine ⟨hComplete, hCovered, ?_, ?_, ?_, ?_⟩
  · intro range hRange
    have hGap := mem_map_of_mem (f := spanOf) hRange
    rw [hPlan.ranges] at hGap
    exact (Gaps.mem_gaps hSorted (mem_of_mem_take hGap)).1
  · have hSpans := hOrder.sublist (take_sublist limit _)
    rw [← hPlan.ranges] at hSpans
    exact pairwise_map.mp hSpans
  · have hLength := congrArg length hPlan.ranges
    rw [length_map, length_take] at hLength
    omega
  · intro hTruncated
    obtain ⟨-, hMore⟩ := hPlan.truncated.mp hTruncated
    have hGap := getElem_mem hMore
    obtain ⟨hSlot, hMissing⟩ := missing_of_mem_windowGaps hGrid hGap
    refine ⟨_, hSlot, hMissing, ?_⟩
    intro range hRange hHolds
    obtain ⟨earlier, hEarlier, _, hEnd⟩ := (hPlan.mem_ranges _).mp ⟨range, hRange, hHolds⟩
    obtain ⟨i, hIndex, rfl⟩ := mem_take_iff_getElem.mp hEarlier
    have hBefore := pairwise_iff_getElem.mp hOrder i limit (by omega) hMore (by omega)
    exact absurd hEnd (not_lt.mpr hBefore)

theorem PlansGaps.coversMissing_iff (hCandles : candles ≠ [])
    (hWindow : request.startTime + interval.duration ≤ request.endTime) :
    CoversMissing request interval candles plan ↔ (windowGaps interval candles = [] ∨ 0 < limit) ∧
        (ReachesBothEnds request interval candles ∨ limit < (windowGaps interval candles).length) := by
  rw [← windowGaps_cover_iff hGrid hCandles hWindow]
  by_cases hNone : (windowGaps interval candles).take limit = []
  · -- No range is planned, and the plan says that nothing is missing.
    have hStatus := hPlan.status.mpr hNone
    constructor
    · intro hCovers
      have hPresent := hCovers.complete hStatus
      have hNoGap : windowGaps interval candles = [] := eq_nil_iff_forall_not_mem.mpr
        fun gap hGap => by
          obtain ⟨hSlot, hMissing⟩ := missing_of_mem_windowGaps hGrid hGap
          exact hMissing (hPresent gap.1 hSlot)
      exact ⟨Or.inl hNoGap, Or.inl fun slot hSlot hMissing => absurd (hPresent slot hSlot) hMissing⟩
    · rintro ⟨hRoom, hReaches⟩
      have hNoGap : windowGaps interval candles = [] := by
        rcases hRoom with hNoGap | hRoom
        · exact hNoGap
        · exact (take_eq_nil_iff.mp hNone).resolve_left (by omega)
      refine hPlan.coversMissing hGrid hLimit ?_ fun hOther => absurd hStatus hOther
      intro _ slot hSlot
      by_contra hMissing
      rw [hNoGap] at hReaches
      rcases hReaches with hCover | hMore
      · obtain ⟨gap, hGap, _⟩ := hCover slot hSlot hMissing
        cases hGap
      · cases hMore
  · have hStatus : plan.status ≠ .noRepairNeeded := fun hSame => hNone (hPlan.status.mp hSame)
    have hRoom : 0 < limit := by
      by_contra hZero
      exact hNone (by rw [Nat.eq_zero_of_not_pos hZero, take_zero])
    by_cases hMore : limit < (windowGaps interval candles).length
    · refine iff_of_true ?_ ⟨Or.inr hRoom, Or.inr hMore⟩
      exact hPlan.coversMissing hGrid hLimit (fun hSame => absurd hSame hStatus)
        fun _ hComplete => absurd (hPlan.truncated.mpr ⟨hNone, hMore⟩) hComplete
    · have hAll : (windowGaps interval candles).take limit = windowGaps interval candles :=
        take_of_length_le (not_lt.mp hMore)
      have hMem := hPlan.mem_ranges
      rw [hAll] at hMem
      constructor
      · intro hCovers
        refine ⟨Or.inr hRoom, Or.inl fun slot hSlot hMissing => (hMem slot).mp ?_⟩
        exact hCovers.covered hStatus (fun hTruncated => hMore (hPlan.truncated.mp hTruncated).2)
          slot hSlot hMissing
      · rintro ⟨-, hReaches⟩
        have hCover := hReaches.resolve_right hMore
        exact hPlan.coversMissing hGrid hLimit (fun hSame => absurd hSame hStatus)
          fun _ _ slot hSlot hMissing => (hMem slot).mpr (hCover slot hSlot hMissing)

end

end Cover

/-- What the report and the plan get to see: an empty window, a window shorter
than an interval, or holes between candles, of which one at least is returned,
and of which some are left out unless the candles reach both ends. -/
def SeesEveryHole (request : MarketDataRepairPlanRequest) (interval : CandleInterval)
    (candles : List Candle) (maxGapsReturned : Nat) : Prop :=
  candles = [] ∨ request.endTime < request.startTime + interval.duration ∨
    ((Gaps.holes interval.duration (candles.map (·.openTime)) = 0 ∨ 0 < maxGapsReturned) ∧
      (ReachesBothEnds request interval candles ∨ min request.maxRanges.toNat maxGapsReturned <
        Gaps.holes interval.duration (candles.map (·.openTime))))

section Requests
variable {request : MarketDataRepairPlanRequest} {interval : CandleInterval}

theorem validate_eq_ok (hValid : request.validate = .ok ()) :
    trim request.symbol ≠ "" ∧ request.startTime < request.endTime ∧ 0 < request.maxRanges ∧
      request.validateWithoutIntervalSupport = .ok () := by
  obtain ⟨_, hRequest, _⟩ := bind_eq_ok.mp hValid
  have hChecks := hRequest
  unfold MarketDataRepairPlanRequest.validateWithoutIntervalSupport at hChecks
  split at hChecks
  · cases hChecks
  · rename_i hSymbol
    split at hChecks
    · cases hChecks
    · rename_i hWindow
      split at hChecks
      · cases hChecks
      · rename_i hRanges
        exact ⟨hSymbol, not_le.mp hWindow, not_le.mp hRanges, hRequest⟩

theorem normalizedSymbol_ok (hSymbol : trim request.symbol ≠ "") :
    ∃ symbol, request.normalizedSymbol = .ok symbol :=
  exists_symbol_of_trim hSymbol

theorem validate_qualityRequest (hSymbol : trim request.symbol ≠ "")
    (hWindow : request.startTime < request.endTime)
    (hInterval : request.parsedInterval = .ok interval) :
    request.qualityRequest.validate = .ok () := by
  have hParsed : request.qualityRequest.parsedInterval = .ok interval := hInterval
  have hOrder : ¬request.qualityRequest.endTime ≤ request.qualityRequest.startTime :=
    not_le.mpr hWindow
  unfold MarketDataQualityRequest.validate
  rw [if_neg (show trim request.qualityRequest.symbol ≠ "" from hSymbol), hParsed, ok_bind,
    if_neg hOrder]
  rfl

theorem coversMissing_fullWindowPlan (symbol : Symbol) (report : MarketDataQualityReport)
    (candles : List Candle) (hWindow : request.startTime < request.endTime)
    (hRanges : 0 < request.maxRanges) :
    CoversMissing request interval candles (fullWindowPlan request symbol interval report) where
  complete := fun hStatus => by cases hStatus
  covered := by
    intro _ _ slot hSlot _
    obtain ⟨_, hAfter, hBefore⟩ := mem_expectedSlots.mp hSlot
    refine ⟨_, mem_singleton_self _, hAfter, ?_⟩
    exact lt_of_lt_of_le (Int.lt_add_of_pos_right slot (duration_pos interval)) hBefore
  nonempty := by
    intro range hRange
    rw [mem_singleton.mp hRange]
    exact hWindow
  increasing := pairwise_singleton _ _
  bounded := hRanges
  truncated := by
    rintro ⟨finding, hFinding, hCode⟩
    rw [mem_singleton.mp hFinding] at hCode
    exact absurd hCode (by decide)

theorem windowGaps_eq_nil {candles : List Candle} (hGrid : OnWindowGrid request interval candles)
    (hShort : request.endTime < request.startTime + interval.duration) :
    expectedSlots request interval = [] ∧ windowGaps interval candles = [] := by
  have hSlots : expectedSlots request interval = [] := by
    refine eq_nil_iff_forall_not_mem.mpr fun slot hSlot => ?_
    obtain ⟨_, hAfter, hBefore⟩ := mem_expectedSlots.mp hSlot
    exact absurd ((Int.add_le_add_right hAfter _).trans hBefore) (not_le.mpr hShort)
  refine ⟨hSlots, eq_nil_iff_forall_not_mem.mpr fun gap hGap => ?_⟩
  have hSlot := (missing_of_mem_windowGaps hGrid hGap).1
  rw [hSlots] at hSlot
  cases hSlot

end Requests

/-- The plan of a valid request for a window of candles covers what is missing
when the holes are those the report sees. -/
theorem repair_plan_covers_iff (display : Decimal → String) (now : DateTime)
    (request : MarketDataRepairPlanRequest) (interval : CandleInterval) (candles : List Candle)
    (maxGapsReturned : Nat) (hValid : request.validate = .ok ())
    (hInterval : request.parsedInterval = .ok interval)
    (hClosed : ∀ candle ∈ candles, candle.isClosed = true)
    (hGrid : OnWindowGrid request interval candles) :
    ∃ plan, buildMarketDataRepairPlan display now request candles maxGapsReturned = .ok plan ∧
      (CoversMissing request interval candles plan ↔
        SeesEveryHole request interval candles maxGapsReturned) := by
  obtain ⟨hSymbol, hWindow, hRanges, hRequest⟩ := validate_eq_ok hValid
  obtain ⟨symbol, hNormal⟩ := normalizedSymbol_ok hSymbol
  have hQuality := validate_qualityRequest hSymbol hWindow hInterval
  have hSeconds : 0 < request.qualityRequest.intervalSeconds := by
    rw [intervalSeconds_qualityRequest hInterval]
    exact numSeconds_pos interval
  obtain ⟨report, hReport, reports⟩ := summarizeCandleContinuity_ok display now hQuality hNormal
    hInterval hSeconds candles maxGapsReturned
  have hPlan : buildMarketDataRepairPlan display now request candles maxGapsReturned =
      if report.status = .insufficientData then
        .ok (fullWindowPlan request symbol interval report)
      else .ok (planForRanges request symbol interval report (mergeRepairGaps
        (sourceIntervalOf interval) request.maxRanges.toNat [] report.gaps)) := by
    unfold buildMarketDataRepairPlan planMarketDataRepair
    rw [hReport, ok_bind, hRequest, hNormal, hInterval]
    rfl
  rw [hPlan]
  by_cases hCandles : candles = []
  · rw [if_pos (reports.insufficientData.mpr hCandles)]
    exact ⟨_, rfl, iff_of_true (coversMissing_fullWindowPlan symbol report candles hWindow hRanges)
      (Or.inl hCandles)⟩
  · rw [if_neg fun hStatus => hCandles (reports.insufficientData.mp hStatus)]
    refine ⟨_, rfl, ?_⟩
    have plans := plansGaps_planForRanges symbol hInterval hClosed reports
    have hLimit : ((min request.maxRanges.toNat maxGapsReturned : Nat) : Int) ≤
        request.maxRanges := by omega
    have hHoles : (windowGaps interval candles).length =
        Gaps.holes interval.duration (candles.map (·.openTime)) := by
      rw [windowGaps, Gaps.length_gaps (duration_pos interval) (pairwise_sortedOpens candles),
        Gaps.holes_eq_of_perm (perm_sortedOpens candles)]
    by_cases hShort : request.endTime < request.startTime + interval.duration
    · obtain ⟨hSlots, hNoGap⟩ := windowGaps_eq_nil hGrid hShort
      refine iff_of_true (plans.coversMissing hGrid hLimit ?_ ?_) (Or.inr (Or.inl hShort))
      · intro _ slot hSlot
        rw [hSlots] at hSlot
        cases hSlot
      · intro _ _ slot hSlot
        rw [hSlots] at hSlot
        cases hSlot
    · rw [plans.coversMissing_iff hGrid hLimit hCandles (not_lt.mp hShort), hHoles, SeesEveryHole,
        or_iff_right hCandles, or_iff_right hShort, ← length_eq_zero_iff, hHoles]
      have hRoom : 0 < min request.maxRanges.toNat maxGapsReturned ↔ 0 < maxGapsReturned := by omega
      rw [hRoom]

def sampleRepair : MarketDataRepairPlanRequest where
  exchange := .binance
  symbol := "BTCUSDT"
  interval := "1m"
  startTime := 0
  endTime := minutes 3
  repairMode := .planOnly
  maxRanges := 100
  reaggregateDerivedIntervals := true
  correlationId := none

theorem onWindowGrid_sample {candles : List Candle}
    (hGrid : ∀ openTime ∈ candles.map (·.openTime),
      minutes 1 ∣ openTime ∧ 0 ≤ openTime ∧ openTime < minutes 3) :
    OnWindowGrid sampleRepair .oneMinute candles where
  aligned := fun openTime hOpen => by
    rw [show sampleRepair.startTime = 0 from rfl, sub_zero]
    exact (hGrid openTime hOpen).1
  after := fun openTime hOpen => (hGrid openTime hOpen).2.1
  before := fun openTime hOpen => (hGrid openTime hOpen).2.2

/-- The middle minute is missing and planned. -/
theorem repair_plan_covers_sample : ∃ plan, buildMarketDataRepairPlan (fun _ => "") 0 sampleRepair
        [sampleMinute 0, sampleMinute (minutes 2)] 100 = .ok plan ∧
      CoversMissing sampleRepair .oneMinute [sampleMinute 0, sampleMinute (minutes 2)] plan := by
  have hGrid : OnWindowGrid sampleRepair .oneMinute [sampleMinute 0, sampleMinute (minutes 2)] :=
    onWindowGrid_sample (by decide +kernel)
  obtain ⟨plan, hPlan, hCovers⟩ := repair_plan_covers_iff (fun _ => "") 0 sampleRepair .oneMinute
    [sampleMinute 0, sampleMinute (minutes 2)] 100 (by decide +kernel) (by decide +kernel)
    (by decide +kernel) hGrid
  refine ⟨plan, hPlan, hCovers.mpr (Or.inr (Or.inr ⟨Or.inr (by decide), Or.inl ⟨?_, ?_⟩⟩))⟩
  · decide +kernel
  · decide +kernel

/-- The first minute of the window is missing, and no repair is planned. -/
theorem first_minute_not_planned :
    sampleRepair.validate = .ok () ∧ sampleRepair.parsedInterval = .ok .oneMinute ∧
    OnWindowGrid sampleRepair .oneMinute [sampleMinute (minutes 1), sampleMinute (minutes 2)] ∧
    ∃ plan, buildMarketDataRepairPlan (fun _ => "") 0 sampleRepair
        [sampleMinute (minutes 1), sampleMinute (minutes 2)] 100 = .ok plan ∧
      ¬CoversMissing sampleRepair .oneMinute [sampleMinute (minutes 1), sampleMinute (minutes 2)]
        plan := by
  refine ⟨by decide +kernel, by decide +kernel, onWindowGrid_sample (by decide +kernel), ?_⟩
  refine ⟨_, by with_unfolding_all rfl, fun hCovers => ?_⟩
  have hFirst := hCovers.complete (by with_unfolding_all rfl) 0 (by decide +kernel)
  exact absurd hFirst (by decide +kernel)

end AegisQuant.Market
