import AegisQuant.Market.CandleBuilder
import AegisQuant.Library.Fallible
import AegisQuant.Library.Gaps
import AegisQuant.Library.SortByKey

/-! The quality report of a candle window. The closed candles are read in the
order of their open times, and neighbours that are more than an interval apart
leave a gap. -/
namespace AegisQuant

def CandleInterval.numSeconds (interval : CandleInterval) : Int := interval.duration / 1000000000

end AegisQuant

namespace AegisQuant.Market
open SortByKey List

inductive MarketDataSource where
  | binance
  deriving DecidableEq

structure MarketDataQualityRequest where
  exchange : MarketDataSource
  symbol : String
  interval : String
  startTime : DateTime
  endTime : DateTime
  expectedIntervalSeconds : Option Int
  maxAllowedGapCount : Option Int
  maxAllowedGapPct : Option Decimal

def MarketDataQualityRequest.parsedInterval (request : MarketDataQualityRequest) :
    Except CoreError CandleInterval :=
  CandleInterval.fromStr request.interval

def MarketDataQualityRequest.normalizedSymbol (request : MarketDataQualityRequest) :
    Except CoreError Symbol :=
  Symbol.new request.symbol

def MarketDataQualityRequest.validate (request : MarketDataQualityRequest) :
    Except CoreError Unit :=
  if trim request.symbol = "" then .error .emptyCandleBackfillSymbol
  else do
    let _ ← request.parsedInterval
    if request.endTime ≤ request.startTime then .error .invalidCandleBackfillTimeRange
    else
      match request.expectedIntervalSeconds with
      | some seconds => if seconds ≤ 0 then .error .invalidCandleBackfillTimeRange else .ok ()
      | none => .ok ()

def MarketDataQualityRequest.intervalSeconds (request : MarketDataQualityRequest) : Int :=
  request.expectedIntervalSeconds.getD
    ((request.parsedInterval.toOption.map CandleInterval.numSeconds).getD 0)

inductive MarketDataQualityStatus where
  | good
  | degraded
  | bad
  | insufficientData
  | unknown
  deriving DecidableEq

structure MarketDataGap where
  startTime : DateTime
  endTime : DateTime
  missingCandleCount : Int
  gapSeconds : Int
  deriving DecidableEq

structure MarketDataQualityFinding where
  severity : String
  code : String
  message : String
  deriving DecidableEq

structure MarketDataQualityRecommendation where
  code : String
  message : String
  deriving DecidableEq

structure MarketDataQualityReport where
  exchange : MarketDataSource
  symbol : String
  interval : String
  windowStart : DateTime
  windowEnd : DateTime
  expectedCandleCount : Int
  actualCandleCount : Int
  closedCandleCount : Int
  openCandleCount : Int
  missingCandleCount : Int
  coveragePct : Decimal
  gapCount : Int
  largestGapSeconds : Int
  gaps : List MarketDataGap
  firstCandleTime : Option DateTime
  lastCandleTime : Option DateTime
  status : MarketDataQualityStatus
  findings : List MarketDataQualityFinding
  recommendations : List MarketDataQualityRecommendation

def secondsBetween (startTime endTime : DateTime) : Int := (endTime - startTime).tdiv 1000000000

def countExpectedCandlesForWindow (intervalSeconds : Int) (startTime endTime : DateTime) : Int :=
  if intervalSeconds ≤ 0 ∨ endTime ≤ startTime then 0
  else max (secondsBetween startTime endTime / intervalSeconds) 0

/-- The counters of the scan over neighbouring candles. -/
structure ContinuityScan where
  duplicateCount : Int
  totalMissingFromGaps : Int
  gapCount : Int
  largestGapSeconds : Int
  gaps : List MarketDataGap

def ContinuityScan.start : ContinuityScan := ⟨0, 0, 0, 0, []⟩

def gapBetween (intervalSeconds : Int) (expectedNext nextOpenTime : DateTime) : MarketDataGap :=
  let gapSeconds := max (secondsBetween expectedNext nextOpenTime) 0
  ⟨expectedNext, nextOpenTime, max (gapSeconds / intervalSeconds) 1, gapSeconds⟩

def ContinuityScan.addGap (maxGapsReturned : Nat) (scan : ContinuityScan) (gap : MarketDataGap) :
    ContinuityScan :=
  { scan with
    totalMissingFromGaps := scan.totalMissingFromGaps + gap.missingCandleCount
    gapCount := scan.gapCount + 1
    largestGapSeconds := max scan.largestGapSeconds gap.gapSeconds
    gaps := if scan.gaps.length < maxGapsReturned then scan.gaps ++ [gap] else scan.gaps }

open DateTime

def ContinuityScan.observe (intervalSeconds : Int) (maxGapsReturned : Nat) (scan : ContinuityScan)
    (pair : Candle × Candle) : ContinuityScan :=
  let expectedNext := pair.1.openTime + seconds intervalSeconds
  if pair.2.openTime = pair.1.openTime then { scan with duplicateCount := scan.duplicateCount + 1 }
  else if expectedNext < pair.2.openTime then
    scan.addGap maxGapsReturned (gapBetween intervalSeconds expectedNext pair.2.openTime)
  else scan

def scanContinuity (intervalSeconds : Int) (maxGapsReturned : Nat) (closed : List Candle) :
    ContinuityScan :=
  (closed.zip closed.tail).foldl (ContinuityScan.observe intervalSeconds maxGapsReturned) .start

def percentage (part whole : Int) : Decimal := if 0 < whole then part * 100 / whole else 0

section Report
variable (display : Decimal → String) (now : DateTime)

def continuityFindings (request : MarketDataQualityRequest) (scan : ContinuityScan)
    (actual opened expected : Int) (coveragePct gapPct : Decimal) : List MarketDataQualityFinding :=
  (if actual = 0 then [⟨"HIGH", "no_candles",
    "No candles exist for the requested market data window."⟩] else []) ++
  (if 0 < scan.gapCount then [⟨if 5 < gapPct then "HIGH" else "MEDIUM", "candle_gaps_detected",
    toString scan.gapCount ++
      " expected candle slots are missing from the closed-candle sequence."⟩] else []) ++
  (if 0 < scan.duplicateCount then [⟨"MEDIUM", "duplicate_open_times_detected",
    toString scan.duplicateCount ++
      " duplicate closed candle open times were detected."⟩] else []) ++
  (if 0 < opened ∧ request.endTime < now then [⟨"MEDIUM", "open_candles_in_historical_window",
    toString opened ++ " open candles were found inside a completed historical window."⟩] else []) ++
  (if 0 < expected ∧ coveragePct < 95 then [⟨"HIGH", "coverage_below_95_pct",
    "Closed-candle coverage is " ++ display coveragePct ++ "% for the requested window."⟩]
  else if 0 < expected ∧ coveragePct < 99 then [⟨"MEDIUM", "coverage_below_99_pct",
    "Closed-candle coverage is " ++ display coveragePct ++ "% for the requested window."⟩]
  else [])

def continuityRecommendations (scan : ContinuityScan) (actual : Int) :
    List MarketDataQualityRecommendation :=
  (if actual = 0 then [⟨"backfill_market_data",
    "Backfill the requested symbol and interval before using this window for research."⟩]
  else []) ++
  (if 0 < scan.gapCount then [⟨"repair_candle_gaps",
    "Backfill or exclude gap windows before trusting experiments, walk-forward validation, " ++
      "attribution, qualification, or dossiers."⟩] else [])

def continuityStatus (request : MarketDataQualityRequest) (scan : ContinuityScan)
    (actual opened expected : Int) (coveragePct gapPct : Decimal) : MarketDataQualityStatus :=
  if actual = 0 then .insufficientData
  else if expected = 0 then .unknown
  else if coveragePct < 95 ∨ 5 < gapPct then .bad
  else if coveragePct < 99 ∨ max (request.maxAllowedGapCount.getD 0) 0 < scan.gapCount ∨
      request.maxAllowedGapPct.getD 0 < gapPct ∨ 0 < scan.duplicateCount ∨ 0 < opened then .degraded
  else .good

def summarizeCandleContinuity (request : MarketDataQualityRequest) (candles : List Candle)
    (maxGapsReturned : Nat) : Except CoreError MarketDataQualityReport := do
  request.validate
  let symbol ← request.normalizedSymbol
  let interval ← request.parsedInterval
  let expected := countExpectedCandlesForWindow request.intervalSeconds request.startTime
    request.endTime
  let sorted := sort (·.openTime) candles
  let closed := sorted.filter (·.isClosed)
  let actual : Int := sorted.length
  let opened : Int := actual - closed.length
  let coveragePct := roundDp 4 (percentage (min closed.length expected) expected)
  let scan := scanContinuity request.intervalSeconds maxGapsReturned closed
  let gapPct := percentage scan.totalMissingFromGaps expected
  let status := continuityStatus request scan actual opened expected coveragePct gapPct
  pure {
    exchange := request.exchange
    symbol := symbol.text
    interval := interval.asStr
    windowStart := request.startTime
    windowEnd := request.endTime
    expectedCandleCount := expected
    actualCandleCount := actual
    closedCandleCount := closed.length
    openCandleCount := opened
    missingCandleCount := max (expected - closed.length) scan.totalMissingFromGaps
    coveragePct := coveragePct
    gapCount := scan.gapCount
    largestGapSeconds := scan.largestGapSeconds
    gaps := scan.gaps
    firstCandleTime := sorted.head?.map (·.openTime)
    lastCandleTime := sorted.getLast?.map (·.openTime)
    status := status
    findings := continuityFindings display now request scan actual opened expected coveragePct gapPct ++
      if status = .good then [⟨"INFO", "market_data_quality_good",
        "Closed candles are continuous for the requested window."⟩] else []
    recommendations := continuityRecommendations scan actual }

end Report

variable (interval : CandleInterval)

theorem numSeconds_mul : seconds interval.numSeconds = interval.duration := by
  cases interval <;> rfl

theorem numSeconds_pos : 0 < interval.numSeconds := by
  cases interval <;> decide

theorem exists_symbol_of_trim {text : String} (hText : trim text ≠ "") :
    ∃ symbol, Symbol.new text = .ok symbol := by
  have hNormal : normalizeSymbol text ≠ "" := fun hEmpty =>
    hText (normalizeSymbol_eq_empty.mp hEmpty)
  unfold Symbol.new
  rw [dif_neg hNormal]
  exact ⟨_, rfl⟩

section Scan
variable {intervalSeconds : Int}
variable {maxGapsReturned : Nat} {scan : ContinuityScan} {found : List MarketDataGap}

variable {startTime endTime : DateTime}

theorem secondsBetween_ediv (hSeconds : 0 < intervalSeconds) (hOrder : startTime ≤ endTime)
    : secondsBetween startTime endTime / intervalSeconds =
      (endTime - startTime) / seconds intervalSeconds := by
  rw [secondsBetween, Int.tdiv_eq_ediv_of_nonneg (Int.sub_nonneg_of_le hOrder),
    Int.ediv_ediv_of_nonneg (by decide), seconds, mul_comm intervalSeconds]

theorem countExpectedCandlesForWindow_of_pos (hSeconds : 0 < intervalSeconds)
    (hWindow : startTime < endTime) :
    countExpectedCandlesForWindow intervalSeconds startTime endTime =
      (endTime - startTime) / seconds intervalSeconds := by
  have hLength : 0 ≤ endTime - startTime := Int.sub_nonneg_of_le hWindow.le
  rw [countExpectedCandlesForWindow, if_neg (not_or.mpr ⟨not_le.mpr hSeconds, not_le.mpr hWindow⟩),
    secondsBetween_ediv hSeconds hWindow.le]
  exact max_eq_left (Int.ediv_nonneg hLength (Int.mul_nonneg hSeconds.le (by decide)))

theorem seconds_pos (hSeconds : 0 < intervalSeconds) : 0 < seconds intervalSeconds := by
  simp only [seconds]
  omega

/-- The gaps found so far are counted, and the first of them are returned. -/
structure Recorded (maxGapsReturned : Nat) (scan : ContinuityScan) (found : List MarketDataGap) :
    Prop where
  gaps : scan.gaps = found.take maxGapsReturned
  gapCount : scan.gapCount = found.length

theorem Recorded.addGap (recorded : Recorded maxGapsReturned scan found) (gap : MarketDataGap) :
    Recorded maxGapsReturned (scan.addGap maxGapsReturned gap) (found ++ [gap]) := by
  refine ⟨?_, ?_⟩
  · simp only [ContinuityScan.addGap, recorded.gaps, length_take]
    split
    · rename_i hRoom
      rw [take_of_length_le (by omega), take_of_length_le]
      rw [length_append, length_singleton]
      omega
    · rename_i hFull
      rw [take_append_of_le_length (by omega)]
  · simp only [ContinuityScan.addGap, recorded.gapCount, length_append, length_singleton]
    omega

theorem Recorded.observe (recorded : Recorded maxGapsReturned scan found)
    (hSeconds : 0 < intervalSeconds) (previous next : Candle) :
    Recorded maxGapsReturned (scan.observe intervalSeconds maxGapsReturned (previous, next))
      (found ++ (Gaps.gaps (seconds intervalSeconds)
        [previous.openTime, next.openTime]).map fun gap => gapBetween intervalSeconds gap.1 gap.2) := by
  have hStep := seconds_pos hSeconds
  unfold ContinuityScan.observe
  by_cases hApart : previous.openTime + seconds intervalSeconds < next.openTime
  · have hLater : next.openTime ≠ previous.openTime :=
      ((Int.lt_add_of_pos_right previous.openTime hStep).trans hApart).ne'
    rw [if_neg hLater, if_pos hApart, Gaps.gaps, if_pos hApart]
    exact recorded.addGap _
  · rw [Gaps.gaps, if_neg hApart, Gaps.gaps, append_nil, map_nil, append_nil]
    split
    · exact ⟨recorded.gaps, recorded.gapCount⟩
    · rw [if_neg hApart]
      exact recorded

/-- The scan finds the gaps of the open times. -/
theorem Recorded.foldl (hSeconds : 0 < intervalSeconds) (closed : List Candle)
    (recorded : Recorded maxGapsReturned scan found) :
    Recorded maxGapsReturned ((closed.zip closed.tail).foldl
        (ContinuityScan.observe intervalSeconds maxGapsReturned) scan)
      (found ++ (Gaps.gaps (seconds intervalSeconds) (closed.map (·.openTime))).map
        fun gap => gapBetween intervalSeconds gap.1 gap.2) := by
  induction closed generalizing scan found with
  | nil => simpa [Gaps.gaps] using recorded
  | cons previous rest ih =>
    cases rest with
    | nil => simpa [Gaps.gaps] using recorded
    | cons next rest =>
      have hRest := ih (recorded.observe hSeconds previous next)
      simpa [Gaps.gaps, append_assoc] using hRest

end Scan

def closedGaps (request : MarketDataQualityRequest) (candles : List Candle) : List MarketDataGap :=
  (Gaps.gaps (seconds request.intervalSeconds)
    (((sort (·.openTime) candles).filter (·.isClosed)).map (·.openTime))).map
      fun gap => gapBetween request.intervalSeconds gap.1 gap.2

structure ReportsGaps (request : MarketDataQualityRequest) (candles : List Candle)
    (maxGapsReturned : Nat) (report : MarketDataQualityReport) : Prop where
  gaps : report.gaps = (closedGaps request candles).take maxGapsReturned
  gapCount : report.gapCount = (closedGaps request candles).length
  insufficientData : report.status = .insufficientData ↔ candles = []

theorem summarizeCandleContinuity_ok (display : Decimal → String) (now : DateTime)
    {request : MarketDataQualityRequest} {symbol : Symbol} {interval : CandleInterval}
    (hValid : request.validate = .ok ()) (hSymbol : request.normalizedSymbol = .ok symbol)
    (hInterval : request.parsedInterval = .ok interval) (hSeconds : 0 < request.intervalSeconds)
    (candles : List Candle) (maxGapsReturned : Nat) :
    ∃ report, summarizeCandleContinuity display now request candles maxGapsReturned = .ok report ∧
      ReportsGaps request candles maxGapsReturned report := by
  have hEmpty : Recorded maxGapsReturned .start [] := ⟨take_nil.symm, rfl⟩
  have hScan := hEmpty.foldl hSeconds
    ((sort (·.openTime) candles).filter (·.isClosed))
  have hLength : ((sort (·.openTime) candles).length : Int) = 0 ↔ candles = [] := by
    rw [(perm_sort _ candles).length_eq, Int.natCast_eq_zero, length_eq_zero_iff]
  unfold summarizeCandleContinuity
  rw [hValid, hSymbol, hInterval]
  refine ⟨_, rfl, hScan.gaps, hScan.gapCount, ?_⟩
  rw [← hLength]
  simp only [continuityStatus]
  constructor
  · intro hStatus
    by_contra hSome
    rw [if_neg hSome] at hStatus
    split at hStatus
    · cases hStatus
    · split at hStatus
      · cases hStatus
      · split at hStatus
        · cases hStatus
        · cases hStatus
  · intro hNone
    rw [if_pos hNone]

end AegisQuant.Market
