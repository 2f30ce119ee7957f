import AegisQuant.Library.GapPoints
import AegisQuant.Library.Reordering
import AegisQuant.Market.Aggregation
import AegisQuant.Market.Continuity

/-! The counts of the quality report against the slots of its window. The gaps
and the duplicates are counted exactly. The missing candles are counted from
the number of closed candles, and a duplicate can stand for a slot that is
missing at an end of the window. -/
namespace AegisQuant.Market
open Fallible SortByKey List Gaps

/-- The open times of the closed candles, in order. -/
def closedOpens (candles : List Candle) : List DateTime :=
  ((sort (·.openTime) candles).filter (·.isClosed)).map (·.openTime)

section Spec
variable (request : MarketDataQualityRequest) (candles : List Candle)

def slotLength : Int := DateTime.seconds request.intervalSeconds

def OnQualityGrid : Prop :=
  Gaps.OnGrid request.startTime request.endTime (slotLength request) (candles.map (·.openTime))

/-- The slots of the window without a closed candle. -/
def emptySlots : List DateTime :=
  missing request.startTime request.endTime (slotLength request) (closedOpens candles)

/-- Those of them with a closed candle before and after them. -/
def innerEmptySlots : List DateTime :=
  Gaps.inner request.startTime request.endTime (slotLength request) (closedOpens candles)

/-- The closed candles that repeat an open time. -/
def duplicateCount : Int :=
  (closedOpens candles).length - (closedOpens candles).dedup.length

/-- The counts of a report are those of the slots: the missing candles, the
gaps, of which the first `maxGapsReturned` are returned, and the duplicates,
which are reported as a finding. Another order of the candles gives the same
report. -/
structure CountsSlots (display : Decimal → String) (now : DateTime) (maxGapsReturned : Nat)
    (report : MarketDataQualityReport) : Prop where
  missing : report.missingCandleCount = (emptySlots request candles).length
  gaps : ∃ gaps : List MarketDataGap, report.gaps = gaps.take maxGapsReturned ∧ report.gapCount = gaps.length ∧
    (gaps.map (·.missingCandleCount)).sum = (innerEmptySlots request candles).length ∧
    (∀ gap ∈ gaps, gap.startTime < gap.endTime) ∧
    gaps.Pairwise fun first second => first.endTime < second.startTime
  duplicates : ∀ message, (∃ finding ∈ report.findings,
      finding.code = "duplicate_open_times_detected" ∧ finding.message = message) ↔
    0 < duplicateCount candles ∧ message = toString (duplicateCount candles) ++
      " duplicate closed candle open times were detected."
  reordered : ∀ other : List Candle, other.Perm candles →
    summarizeCandleContinuity display now request other maxGapsReturned = .ok report

end Spec

section Scan
variable {intervalSeconds : Int}

/-- What the scan has added up over the open times so far. -/
structure Tallied (scan : ContinuityScan) (found : List MarketDataGap) (repeated : Nat) : Prop where
  total : scan.totalMissingFromGaps = (found.map (·.missingCandleCount)).sum
  duplicates : scan.duplicateCount = repeated

variable {found : List MarketDataGap}

theorem Tallied.observe {scan : ContinuityScan} {repeated : Nat}
    (tallied : Tallied scan found repeated) (hSeconds : 0 < intervalSeconds) (maxGapsReturned : Nat)
    (previous next : Candle) :
    Tallied (scan.observe intervalSeconds maxGapsReturned (previous, next))
      (found ++ (gaps (DateTime.seconds intervalSeconds)
        [previous.openTime, next.openTime]).map fun gap => gapBetween intervalSeconds gap.1 gap.2)
      (repeated + repeats [previous.openTime, next.openTime]) := by
  have hStep := seconds_pos hSeconds
  obtain ⟨hTotal, hDuplicates⟩ := tallied
  unfold ContinuityScan.observe
  by_cases hSame : next.openTime = previous.openTime
  · have hClose : ¬previous.openTime + DateTime.seconds intervalSeconds < next.openTime := by
      rw [hSame]
      exact not_lt.mpr (Int.le_add_of_nonneg_right hStep.le)
    rw [if_pos hSame, gaps, if_neg hClose, gaps, append_nil, map_nil,
      append_nil, repeats, if_pos hSame, repeats]
    exact ⟨hTotal, by simp [hDuplicates]⟩
  · rw [if_neg hSame, repeats, if_neg hSame, repeats]
    split
    · rename_i hApart
      rw [gaps, if_pos hApart, gaps]
      exact ⟨by simp [ContinuityScan.addGap, hTotal], by simpa [ContinuityScan.addGap] using hDuplicates⟩
    · rename_i hClose
      rw [gaps, if_neg hClose, gaps]
      exact ⟨by simpa using hTotal, by simpa using hDuplicates⟩

theorem Tallied.foldl (hSeconds : 0 < intervalSeconds) (maxGapsReturned : Nat)
    (closed : List Candle) {scan : ContinuityScan} {repeated : Nat}
    (tallied : Tallied scan found repeated) :
    Tallied ((closed.zip closed.tail).foldl
        (ContinuityScan.observe intervalSeconds maxGapsReturned) scan)
      (found ++ (gaps (DateTime.seconds intervalSeconds) (closed.map (·.openTime))).map
        fun gap => gapBetween intervalSeconds gap.1 gap.2)
      (repeated + repeats (closed.map (·.openTime))) := by
  induction closed generalizing scan found repeated with
  | nil => simpa [gaps, repeats] using tallied
  | cons previous rest ih =>
    cases rest with
    | nil => simpa [gaps, repeats] using tallied
    | cons next rest =>
      have hRest := ih (tallied.observe hSeconds maxGapsReturned previous next)
      simpa [gaps, repeats, append_assoc, Nat.add_assoc] using hRest

theorem scanContinuity_congr (intervalSeconds : Int) (maxGapsReturned : Nat)
    {first second : List Candle} (hOpens : first.map (·.openTime) = second.map (·.openTime)) :
    scanContinuity intervalSeconds maxGapsReturned first =
      scanContinuity intervalSeconds maxGapsReturned second := by
  have hScan (closed : List Candle) : scanContinuity intervalSeconds maxGapsReturned closed =
      ((closed.map (·.openTime)).zip (closed.map (·.openTime)).tail).foldl
        (fun scan pair => if pair.2 = pair.1 then
            { scan with duplicateCount := scan.duplicateCount + 1 }
          else if pair.1 + DateTime.seconds intervalSeconds < pair.2 then
            scan.addGap maxGapsReturned (gapBetween intervalSeconds
              (pair.1 + DateTime.seconds intervalSeconds) pair.2)
          else scan) .start := by
    rw [← map_tail, zip_map, foldl_map]
    rfl
  rw [hScan, hScan, hOpens]

end Scan

section Reordered
variable {candles other : List Candle}

theorem map_openTime_sort_of_perm (hPerm : other.Perm candles) :
    (sort (·.openTime) other).map (·.openTime) = (sort (·.openTime) candles).map (·.openTime) := by
  have hSame : ((sort (·.openTime) other).map (·.openTime)).Perm
      ((sort (·.openTime) candles).map (·.openTime)) :=
    (((perm_sort _ other).trans hPerm).trans (perm_sort _ candles).symm).map _
  exact hSame.eq_of_pairwise (fun _ _ _ _ hBelow hAbove => le_antisymm hBelow hAbove)
    (pairwise_map.mpr (pairwise_sort _ other))
    (pairwise_map.mpr (pairwise_sort _ candles))

theorem pairwise_closedOpens (candles : List Candle) : (closedOpens candles).Pairwise (· ≤ ·) :=
  pairwise_map.mpr ((pairwise_sort _ candles).filter _)

theorem perm_closedOpens (candles : List Candle) :
    (closedOpens candles).Perm ((candles.filter (·.isClosed)).map (·.openTime)) :=
  ((perm_sort _ candles).filter _).map _

theorem closedOpens_of_perm (hPerm : other.Perm candles) :
    closedOpens other = closedOpens candles := by
  have hSame : (closedOpens other).Perm (closedOpens candles) :=
    ((perm_closedOpens other).trans ((hPerm.filter _).map _)).trans (perm_closedOpens candles).symm
  exact hSame.eq_of_pairwise (fun _ _ _ _ hBelow hAbove => le_antisymm hBelow hAbove)
    (pairwise_closedOpens other) (pairwise_closedOpens candles)

theorem summarizeCandleContinuity_of_perm (display : Decimal → String) (now : DateTime)
    (request : MarketDataQualityRequest) (hPerm : other.Perm candles) (maxGapsReturned : Nat) :
    summarizeCandleContinuity display now request other maxGapsReturned =
      summarizeCandleContinuity display now request candles maxGapsReturned := by
  have hOpens := map_openTime_sort_of_perm hPerm
  have hClosed := closedOpens_of_perm hPerm
  have hLength : (sort (·.openTime) other).length = (sort (·.openTime) candles).length := by
    simpa using congrArg length hOpens
  have hClosedLength : ((sort (·.openTime) other).filter (·.isClosed)).length =
      ((sort (·.openTime) candles).filter (·.isClosed)).length := by
    simpa [closedOpens] using congrArg length hClosed
  have hHead : (sort (·.openTime) other).head?.map (·.openTime) =
      (sort (·.openTime) candles).head?.map (·.openTime) := by
    simpa using congrArg head? hOpens
  have hLast : (sort (·.openTime) other).getLast?.map (·.openTime) =
      (sort (·.openTime) candles).getLast?.map (·.openTime) := by
    simpa using congrArg getLast? hOpens
  have hScan := scanContinuity_congr request.intervalSeconds maxGapsReturned hClosed
  simp only [summarizeCandleContinuity, hLength, hClosedLength, hHead, hLast, hScan]

end Reordered

/-- Every slot of the window is as long as its interval and no closed candle is
a duplicate, or the first slot and the last one have a closed candle. -/
def MissingCounted (request : MarketDataQualityRequest) (candles : List Candle) : Prop :=
  slotLength request ∣ request.endTime - request.startTime ∧ (closedOpens candles).Nodup ∨
    request.startTime ∈ closedOpens candles ∧
      ∃ last ∈ closedOpens candles, request.endTime ≤ last + slotLength request

section Report
variable {request : MarketDataQualityRequest} {candles : List Candle}

theorem parts_of_validate (hValid : request.validate = .ok ()) :
    (∃ symbol, request.normalizedSymbol = .ok symbol) ∧
      (∃ interval, request.parsedInterval = .ok interval) ∧
      request.startTime < request.endTime ∧ 0 < request.intervalSeconds := by
  unfold MarketDataQualityRequest.validate at hValid
  split at hValid
  · cases hValid
  · rename_i hSymbol
    obtain ⟨interval, hInterval, hChecks⟩ := bind_eq_ok.mp hValid
    split at hChecks
    · cases hChecks
    · rename_i hWindow
      refine ⟨exists_symbol_of_trim hSymbol, ⟨interval, hInterval⟩, not_le.mp hWindow, ?_⟩
      unfold MarketDataQualityRequest.intervalSeconds
      split at hChecks
      · rename_i seconds hSeconds
        split at hChecks
        · cases hChecks
        · rename_i hPositive
          rw [hSeconds]
          exact not_le.mp hPositive
      · rename_i hNone
        rw [hNone, hInterval]
        exact numSeconds_pos interval

theorem onGrid_closedOpens (hGrid : OnQualityGrid request candles) :
    Gaps.OnGrid request.startTime request.endTime (slotLength request) (closedOpens candles) := by
  have hSubset : ∀ openTime ∈ closedOpens candles, openTime ∈ candles.map (·.openTime) := by
    intro openTime hOpen
    obtain ⟨candle, hCandle, rfl⟩ := mem_map.mp ((perm_closedOpens candles).mem_iff.mp hOpen)
    exact mem_map_of_mem (mem_of_mem_filter hCandle)
  exact ⟨fun openTime hOpen => hGrid.aligned openTime (hSubset openTime hOpen),
    fun openTime hOpen => hGrid.after openTime (hSubset openTime hOpen),
    fun openTime hOpen => hGrid.before openTime (hSubset openTime hOpen)⟩

section
variable (hSeconds : 0 < request.intervalSeconds)
include hSeconds

theorem missingCandleCount_gapBetween (hGrid : OnQualityGrid request candles)
    {gap : DateTime × DateTime} (hGap : gap ∈ gaps (slotLength request) (closedOpens candles))
    :
    (gapBetween request.intervalSeconds gap.1 gap.2).missingCandleCount =
      (gap.2 - gap.1) / slotLength request := by
  have hStep : 0 < slotLength request := seconds_pos hSeconds
  have hSorted := pairwise_closedOpens candles
  have hClosed := onGrid_closedOpens hGrid
  obtain ⟨hSpan, hEnd, _⟩ := mem_gaps hSorted hGap
  obtain ⟨hStart, _⟩ := isSlot_of_mem_gaps hStep hClosed hSorted hGap
  have hRoom := add_step_le hStart.aligned (hClosed.aligned gap.2 hEnd) hSpan
  have hLength : 0 ≤ secondsBetween gap.1 gap.2 := by
    rw [secondsBetween, Int.tdiv_eq_ediv_of_nonneg (Int.sub_nonneg_of_le hSpan.le)]
    exact Int.ediv_nonneg (Int.sub_nonneg_of_le hSpan.le) (by decide)
  have hOne : 1 ≤ (gap.2 - gap.1) / slotLength request := by
    rw [Int.le_ediv_iff_mul_le hStep, one_mul]
    exact Int.le_sub_left_of_add_le hRoom
  change max (max (secondsBetween gap.1 gap.2) 0 / request.intervalSeconds) 1 = _
  rw [max_eq_left hLength, secondsBetween_ediv hSeconds hSpan.le]
  exact max_eq_left hOne

theorem sum_closedGaps (hGrid : OnQualityGrid request candles) :
    ((closedGaps request candles).map (·.missingCandleCount)).sum =
      (innerEmptySlots request candles).length := by
  have hStep : 0 < slotLength request := seconds_pos hSeconds
  rw [innerEmptySlots, ← Gaps.sum_gaps hStep (onGrid_closedOpens hGrid)
    (pairwise_closedOpens candles)]
  change (map _ (map _ (gaps (slotLength request) (closedOpens candles)))).sum = _
  rw [List.map_map]
  exact congrArg sum (map_congr_left fun gap hGap =>
    missingCandleCount_gapBetween hSeconds hGrid hGap)

theorem pairwise_closedGaps :
    (closedGaps request candles).Pairwise fun first second => first.endTime < second.startTime := by
  have hStep : 0 < slotLength request := seconds_pos hSeconds
  refine pairwise_map.mpr ((pairwise_gaps (pairwise_closedOpens candles)).imp ?_)
  intro first second hApart
  exact lt_of_lt_of_le (Int.lt_add_of_pos_right _ hStep) hApart

end

theorem duplicateCount_eq (candles : List Candle) :
    duplicateCount candles = repeats (closedOpens candles) := by
  have hRepeats := repeats_eq (pairwise_closedOpens candles)
  rw [duplicateCount]
  omega

theorem max_sub_eq_iff {expected points missing inner closed distinct : Int}
    (hExpected : expected ≤ points) (hMissing : missing + distinct = points)
    (hInner : inner ≤ missing) (hFewer : distinct ≤ closed) :
    max (expected - closed) inner = missing ↔
      expected = points ∧ distinct = closed ∨ inner = missing := by
  omega

/-- The expected candles less the closed ones, or the inner empty slots if
these are more, are the empty slots in the counted windows only. -/
theorem max_eq_emptySlots_iff (hSeconds : 0 < request.intervalSeconds)
    (hWindow : request.startTime < request.endTime) (hGrid : OnQualityGrid request candles) :
    max (countExpectedCandlesForWindow request.intervalSeconds request.startTime request.endTime -
        (closedOpens candles).length) (innerEmptySlots request candles).length =
      (emptySlots request candles).length ↔ MissingCounted request candles := by
  have hStep : 0 < slotLength request := seconds_pos hSeconds
  have hClosed := onGrid_closedOpens hGrid
  have hMissing : ((emptySlots request candles).length : Int) + (closedOpens candles).dedup.length =
        (points request.startTime request.endTime (slotLength request)).length := by
    exact_mod_cast length_missing hStep hClosed
  have hInner := length_inner_eq_iff hStep hWindow hClosed
  have hFewer : ((closedOpens candles).dedup.length : Int) ≤ (closedOpens candles).length := by
    exact_mod_cast (dedup_sublist _).length_le
  have hDistinct : ((closedOpens candles).dedup.length : Int) = (closedOpens candles).length ↔
      (closedOpens candles).Nodup := by
    rw [← dedup_eq_self, Int.natCast_inj]
    exact ⟨fun hSame => (dedup_sublist _).eq_of_length hSame, congrArg length⟩
  have hWithin : ((innerEmptySlots request candles).length : Int) ≤
      (emptySlots request candles).length := by
    exact_mod_cast length_filter_le _ _
  have hCounted := max_sub_eq_iff (ediv_le_length_points hStep hWindow.le) hMissing hWithin
    hFewer
  rw [countExpectedCandlesForWindow_of_pos hSeconds hWindow]
  exact hCounted.trans (or_congr (and_congr (ediv_eq_length_points_iff hStep hWindow.le)
    hDistinct) (Int.natCast_inj.trans hInner))

section
variable (display : Decimal → String) (now : DateTime)

theorem exists_duplicateFinding_iff (scan : ContinuityScan) (actual opened expected : Int)
    (coveragePct gapPct : Decimal) (good : Prop) [Decidable good] (message : String) :
    (∃ finding ∈ continuityFindings display now request scan actual opened expected coveragePct
        gapPct ++ if good then [⟨"INFO", "market_data_quality_good",
          "Closed candles are continuous for the requested window."⟩] else [],
      finding.code = "duplicate_open_times_detected" ∧ finding.message = message) ↔
    0 < scan.duplicateCount ∧ message = toString scan.duplicateCount ++
      " duplicate closed candle open times were detected." := by
  simp only [continuityFindings, mem_append, mem_ite_nil_right, mem_singleton]
  constructor
  · rintro ⟨finding, (((((⟨-, rfl⟩ | ⟨-, rfl⟩) | ⟨hSome, rfl⟩) | ⟨-, rfl⟩) | hCoverage) | ⟨-, rfl⟩),
      hCode, rfl⟩
    · simp at hCode
    · simp at hCode
    · exact ⟨hSome, rfl⟩
    · simp at hCode
    · split at hCoverage
      · rw [mem_singleton.mp hCoverage] at hCode
        simp at hCode
      · split at hCoverage
        · rw [mem_singleton.mp hCoverage] at hCode
          simp at hCode
        · cases hCoverage
    · simp at hCode
  · rintro ⟨hSome, rfl⟩
    exact ⟨_, Or.inl (Or.inl (Or.inl (Or.inr ⟨hSome, rfl⟩))), rfl, rfl⟩

theorem summarizeCandleContinuity_counts (hSeconds : 0 < request.intervalSeconds)
    (hGrid : OnQualityGrid request candles) {maxGapsReturned : Nat}
    {report : MarketDataQualityReport}
    (hReport : summarizeCandleContinuity display now request candles maxGapsReturned = .ok report) :
    report.missingCandleCount = max
        (countExpectedCandlesForWindow request.intervalSeconds request.startTime request.endTime -
          (closedOpens candles).length) (innerEmptySlots request candles).length ∧
      ∀ message, (∃ finding ∈ report.findings,
          finding.code = "duplicate_open_times_detected" ∧ finding.message = message) ↔
        0 < duplicateCount candles ∧ message = toString (duplicateCount candles) ++
          " duplicate closed candle open times were detected." := by
  have hStart : Tallied .start [] 0 := ⟨rfl, rfl⟩
  obtain ⟨hTotal, hDuplicates⟩ := hStart.foldl hSeconds maxGapsReturned
    ((sort (·.openTime) candles).filter (·.isClosed))
  have hInner := sum_closedGaps hSeconds hGrid
  have hRepeats := duplicateCount_eq candles
  unfold summarizeCandleContinuity at hReport
  obtain ⟨_, -, hReport⟩ := bind_eq_ok.mp hReport
  obtain ⟨_, -, hReport⟩ := bind_eq_ok.mp hReport
  obtain ⟨_, -, hReport⟩ := bind_eq_ok.mp hReport
  rw [← pure_eq_ok.mp hReport]
  constructor
  · rw [← hInner, closedOpens, length_map]
    exact congrArg (max _) hTotal
  · intro message
    have hCount : (scanContinuity request.intervalSeconds maxGapsReturned
        ((sort (·.openTime) candles).filter (·.isClosed))).duplicateCount =
          duplicateCount candles := by
      rw [hRepeats, ← zero_add (repeats (closedOpens candles))]
      exact hDuplicates
    rw [← hCount]
    exact exists_duplicateFinding_iff display now _ _ _ _ _ _ _ message

/-- The report counts the slots exactly in the counted windows. -/
theorem continuity_counts_slots_iff (hValid : request.validate = .ok ())
    (hGrid : OnQualityGrid request candles) (maxGapsReturned : Nat) :
    ∃ report, summarizeCandleContinuity display now request candles maxGapsReturned = .ok report ∧
      (CountsSlots request candles display now maxGapsReturned report ↔
        MissingCounted request candles) := by
  obtain ⟨⟨symbol, hSymbol⟩, ⟨interval, hInterval⟩, hWindow, hSeconds⟩ := parts_of_validate hValid
  obtain ⟨report, hReport, hGaps⟩ := summarizeCandleContinuity_ok display now hValid hSymbol
    hInterval hSeconds candles maxGapsReturned
  obtain ⟨hMissing, hDuplicates⟩ :=
    summarizeCandleContinuity_counts display now hSeconds hGrid hReport
  have hCounted := max_eq_emptySlots_iff hSeconds hWindow hGrid
  refine ⟨report, hReport, fun hCounts => ?_, fun hCondition => ⟨?_, ?_, hDuplicates, ?_⟩⟩
  · rw [← hCounted, ← hMissing]
    exact hCounts.missing
  · rw [hMissing]
    exact hCounted.mpr hCondition
  · refine ⟨closedGaps request candles, hGaps.gaps, hGaps.gapCount, sum_closedGaps hSeconds hGrid,
      ?_, pairwise_closedGaps hSeconds⟩
    intro gap hGap
    obtain ⟨span, hSpan, rfl⟩ := mem_map.mp hGap
    exact (mem_gaps (pairwise_closedOpens candles) hSpan).1
  · intro other hPerm
    rw [summarizeCandleContinuity_of_perm display now request hPerm, hReport]

end

end Report

def sampleQuality : MarketDataQualityRequest where
  exchange := .binance
  symbol := "BTCUSDT"
  interval := "1m"
  startTime := 0
  endTime := minutes 5
  expectedIntervalSeconds := none
  maxAllowedGapCount := none
  maxAllowedGapPct := none

theorem onQualityGrid_sample {candles : List Candle}
    (hGrid : ∀ openTime ∈ candles.map (·.openTime),
      minutes 1 ∣ openTime ∧ 0 ≤ openTime ∧ openTime < minutes 5) :
    OnQualityGrid sampleQuality candles where
  aligned := fun openTime hOpen => by
    rw [show sampleQuality.startTime = 0 from rfl, sub_zero]
    exact (hGrid openTime hOpen).1
  after := fun openTime hOpen => (hGrid openTime hOpen).2.1
  before := fun openTime hOpen => (hGrid openTime hOpen).2.2

/-- Two of the five minutes are missing, one of them in a gap. -/
theorem continuity_counts_slots_sample :
    ∃ report, summarizeCandleContinuity (fun _ => "") 0 sampleQuality
        [sampleMinute (minutes 3), sampleMinute 0, sampleMinute (minutes 1)] 100 = .ok report ∧
      CountsSlots sampleQuality [sampleMinute (minutes 3), sampleMinute 0, sampleMinute (minutes 1)]
        (fun _ => "") 0 100 report := by
  have hGrid : OnQualityGrid sampleQuality
      [sampleMinute (minutes 3), sampleMinute 0, sampleMinute (minutes 1)] :=
    onQualityGrid_sample (by decide +kernel)
  have hValid : sampleQuality.validate = .ok () := by decide +kernel
  obtain ⟨report, hReport, hCounts⟩ :=
    continuity_counts_slots_iff (fun _ => "") 0 hValid hGrid 100
  exact ⟨report, hReport, hCounts.mpr (Or.inl (by decide +kernel))⟩

/-- The first minute has two candles, and one of the three missing minutes is
not counted. -/
theorem missing_minute_not_counted : sampleQuality.validate = .ok () ∧
    OnQualityGrid sampleQuality [sampleMinute 0, sampleMinute 0, sampleMinute (minutes 1)] ∧
    ∃ report, summarizeCandleContinuity (fun _ => "") 0 sampleQuality
        [sampleMinute 0, sampleMinute 0, sampleMinute (minutes 1)] 100 = .ok report ∧
      ¬CountsSlots sampleQuality [sampleMinute 0, sampleMinute 0, sampleMinute (minutes 1)]
        (fun _ => "") 0 100 report := by
  refine ⟨by decide +kernel, onQualityGrid_sample (by decide +kernel), ?_⟩
  refine ⟨_, by with_unfolding_all rfl, fun hCounts => ?_⟩
  have hMissing := hCounts.missing
  exact absurd hMissing (by decide +kernel)

end AegisQuant.Market
