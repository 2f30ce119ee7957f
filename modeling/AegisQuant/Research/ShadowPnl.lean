import AegisQuant.Experiment.WalkForwardVerdicts
import AegisQuant.Market.Continuity

/-! `calculate_research_shadow_pnl_attribution`: the linked shadow runs of a
candidate, each bought at the open of the first closed candle after its signal
and sold at the close of a later one, and the totals over the runs. -/
namespace AegisQuant.Research
open SortByKey
open Experiment (medianDecimal)

inductive ResearchShadowPnlStatus where
  | attributed
  | insufficientForwardData
  | gapDetected
  | extremePnl
  deriving DecidableEq, Repr

structure ResearchShadowPnlRunInput where
  shadowRunId : Uuid
  strategyId : String
  symbol : String
  timeframe : String
  shadowCreatedAt : DateTime
  signalTime : Option DateTime
  deriving DecidableEq

def defaultShadowPnlHoldingWindows : List Nat := [1, 3, 5, 10]

def defaultShadowPnlExtremeThresholdPct : Decimal := 5

structure ResearchShadowPnlAttributionRequest where
  holdingWindows : List Nat
  feeBps : Decimal
  slippageBps : Decimal
  extremePnlThresholdPct : Decimal
  startTime : Option DateTime
  endTime : Option DateTime

def ResearchShadowPnlAttributionRequest.normalizedHoldingWindows
    (request : ResearchShadowPnlAttributionRequest) : List Nat :=
  let windows := request.holdingWindows.filter (0 < ·)
  let windows := if windows.isEmpty then defaultShadowPnlHoldingWindows else windows
  (sort id windows).destutter (· ≠ ·)

structure ResearchShadowPnlTradeHoldingWindowResult where
  holdingWindow : Nat
  status : ResearchShadowPnlStatus
  attributionStatus : ResearchShadowPnlStatus
  exitCandleOpenTime : Option DateTime
  exitCandleCloseTime : Option DateTime
  exitPrice : Option Decimal
  grossPnlPct : Option Decimal
  feeBps : Decimal
  slippageBps : Decimal
  netPnlPct : Option Decimal
  feeDragPct : Decimal
  candleGapSeconds : Option Int
  warning : Option String
  deriving DecidableEq

structure ResearchShadowPnlAttributionTrade where
  candidateId : Uuid
  shadowRunId : Uuid
  strategyId : String
  symbol : String
  timeframe : String
  shadowCreatedAt : DateTime
  signalTime : Option DateTime
  status : ResearchShadowPnlStatus
  attributionStatus : ResearchShadowPnlStatus
  entryCandleOpenTime : Option DateTime
  entryCandleCloseTime : Option DateTime
  entryPrice : Option Decimal
  holdingWindows : List ResearchShadowPnlTradeHoldingWindowResult
  deriving DecidableEq

structure ResearchShadowPnlHoldingWindowResult where
  holdingWindow : Nat
  tradeCount : Int
  winRate : Decimal
  avgNetPnlPct : Decimal
  medianNetPnlPct : Decimal
  bestNetPnlPct : Decimal
  worstNetPnlPct : Decimal
  totalNetPnlPct : Decimal
  feeDragPct : Decimal
  recommendation : ResearchShadowPnlRecommendation
  deriving DecidableEq

structure ResearchShadowPnlSummary where
  totalAttributedRuns : Int
  extremePnlCount : Int
  gapDetectedCount : Int
  insufficientForwardDataCount : Int
  negativeAllWindows : Bool
  warnings : List String
  perHoldingWindow : List ResearchShadowPnlHoldingWindowResult
  deriving DecidableEq

structure ResearchShadowPnlAttributionReport where
  candidateId : Uuid
  strategyId : String
  symbol : String
  timeframe : String
  holdingWindows : List Nat
  feeBps : Decimal
  slippageBps : Decimal
  extremePnlThresholdPct : Decimal
  startTime : Option DateTime
  endTime : Option DateTime
  summary : ResearchShadowPnlSummary
  trades : List ResearchShadowPnlAttributionTrade
  latestShadowPnlStatus : ResearchShadowPnlRecommendation
  bestHoldingWindow : Option Nat
  bestAvgNetPnlPct : Option Decimal
  computedAt : DateTime
  deriving DecidableEq

def ResearchShadowPnlAttributionRequest.feeDragPct (request : ResearchShadowPnlAttributionRequest) :
    Decimal := (request.feeBps + request.slippageBps) / 100

def ResearchShadowPnlAttributionRequest.threshold (request : ResearchShadowPnlAttributionRequest) :
    Decimal :=
  if 0 < request.extremePnlThresholdPct then request.extremePnlThresholdPct
  else defaultShadowPnlExtremeThresholdPct

def ResearchShadowPnlRunInput.attributionTime (run : ResearchShadowPnlRunInput) : DateTime :=
  run.signalTime.getD run.shadowCreatedAt

/-- A timeframe that cannot be read stands for one minute. -/
def ResearchCandidate.interval (candidate : ResearchCandidate) : CandleInterval :=
  match CandleInterval.fromStr candidate.timeframe with
  | .ok interval => interval
  | .error _ => .oneMinute

def unusuallyLarge : String :=
  "Attribution PnL is unusually large; inspect candle continuity and timestamps."

section Trades
variable (request : ResearchShadowPnlAttributionRequest)

/-- A holding window without a candle to sell at. -/
def insufficientWindow (holdingWindow : Nat) : ResearchShadowPnlTradeHoldingWindowResult where
  holdingWindow := holdingWindow
  status := .insufficientForwardData
  attributionStatus := .insufficientForwardData
  exitCandleOpenTime := none
  exitCandleCloseTime := none
  exitPrice := none
  grossPnlPct := none
  feeBps := request.feeBps
  slippageBps := request.slippageBps
  netPnlPct := none
  feeDragPct := request.feeDragPct
  candleGapSeconds := none
  warning := none

/-- The longest time between the opens of neighbours. -/
def maxGapSeconds (interval : CandleInterval) (candles : List Candle) : Int :=
  (((candles.zip candles.tail).map fun pair =>
    (pair.2.openTime - pair.1.openTime).tdiv 1000000000).max?).getD interval.numSeconds

def windowResult (interval : CandleInterval) (candles : List Candle) (entryIndex : Nat)
    (entry : Candle) (holdingWindow : Nat) : ResearchShadowPnlTradeHoldingWindowResult :=
  match candles[entryIndex + holdingWindow]? with
  | none => insufficientWindow request holdingWindow
  | some exit =>
    let gap := maxGapSeconds interval ((candles.drop entryIndex).take (holdingWindow + 1))
    let grossPnlPct : Decimal :=
      if 0 < entry.open then (exit.close - entry.open) / entry.open * 100 else 0
    let netPnlPct := grossPnlPct - request.feeDragPct
    let hasGap := gap > interval.numSeconds + 1
    let isExtreme := |netPnlPct| > request.threshold
    let status : ResearchShadowPnlStatus :=
      if hasGap then .gapDetected else if isExtreme then .extremePnl else .attributed
    { holdingWindow := holdingWindow
      status := status
      attributionStatus := status
      exitCandleOpenTime := some exit.openTime
      exitCandleCloseTime := some exit.closeTime
      exitPrice := some exit.close
      grossPnlPct := some grossPnlPct
      feeBps := request.feeBps
      slippageBps := request.slippageBps
      netPnlPct := some netPnlPct
      feeDragPct := request.feeDragPct
      candleGapSeconds := some gap
      warning := if isExtreme then some unusuallyLarge else none }

def tradeStatus (windowResults : List ResearchShadowPnlTradeHoldingWindowResult) :
    ResearchShadowPnlStatus :=
  if windowResults.any (·.status = .gapDetected) then .gapDetected
  else if windowResults.any (·.status = .extremePnl) then .extremePnl
  else if windowResults.any (·.netPnlPct.isSome) then .attributed
  else .insufficientForwardData

def attributeRun (candidate : ResearchCandidate) (candles : List Candle)
    (run : ResearchShadowPnlRunInput) : ResearchShadowPnlAttributionTrade :=
  let entryIndex := candles.findIdx? fun candle =>
    candle.isClosed && decide (run.attributionTime < candle.openTime)
  let entry := entryIndex.bind (candles[·]?)
  let windowResults := request.normalizedHoldingWindows.map fun holdingWindow =>
    match entryIndex, entry with
    | some entryIndex, some entry =>
      windowResult request candidate.interval candles entryIndex entry holdingWindow
    | _, _ => insufficientWindow request holdingWindow
  let status := match entry with
    | some _ => tradeStatus windowResults
    | none => .insufficientForwardData
  { candidateId := candidate.id
    shadowRunId := run.shadowRunId
    strategyId := run.strategyId
    symbol := run.symbol
    timeframe := run.timeframe
    shadowCreatedAt := run.shadowCreatedAt
    signalTime := run.signalTime
    status := status
    attributionStatus := status
    entryCandleOpenTime := entry.map (·.openTime)
    entryCandleCloseTime := entry.map (·.closeTime)
    entryPrice := entry.map (·.open)
    holdingWindows := windowResults }

end Trades

section Summary
variable (request : ResearchShadowPnlAttributionRequest)
  (trades : List ResearchShadowPnlAttributionTrade)

def windowResults : List ResearchShadowPnlTradeHoldingWindowResult :=
  trades.flatMap (·.holdingWindows)

/-- What the trades of a holding window made, in rising order. -/
def windowValues (holdingWindow : Nat) : List Decimal :=
  sort id <| (((windowResults trades).filter (·.holdingWindow = holdingWindow)).filter
      (·.status ≠ .gapDetected)).filterMap (·.netPnlPct)

def summarizeWindow (holdingWindow : Nat) : ResearchShadowPnlHoldingWindowResult :=
  let values := windowValues trades holdingWindow
  let tradeCount : Int := values.length
  let totalNetPnlPct := values.sum
  let winCount : Int := (values.filter (0 < ·)).length
  let avgNetPnlPct := if 0 < tradeCount then totalNetPnlPct / tradeCount else 0
  let winRate := calculatePercentageRate winCount tradeCount
  { holdingWindow := holdingWindow
    tradeCount := tradeCount
    winRate := winRate
    avgNetPnlPct := avgNetPnlPct
    medianNetPnlPct := medianDecimal values
    bestNetPnlPct := values.getLast?.getD 0
    worstNetPnlPct := values.head?.getD 0
    totalNetPnlPct := totalNetPnlPct
    feeDragPct := request.feeDragPct * tradeCount
    recommendation :=
      if tradeCount < 3 then .insufficientData
      else if avgNetPnlPct < 0 ∧ totalNetPnlPct < 0 then .negative
      else if 0 < avgNetPnlPct ∧ 50 ≤ winRate then .promising
      else .weak }

def summarize : ResearchShadowPnlSummary :=
  let perHoldingWindow := request.normalizedHoldingWindows.map (summarizeWindow request trades)
  let extremePnlCount := (((windowResults trades).filterMap (·.netPnlPct)).filter fun netPnlPct =>
    |netPnlPct| > request.threshold).length
  let gapDetectedCount := ((windowResults trades).filter (·.status = .gapDetected)).length
  { totalAttributedRuns := (trades.filter fun trade => trade.holdingWindows.any fun window =>
      window.netPnlPct.isSome && window.status ≠ .gapDetected).length
    extremePnlCount := extremePnlCount
    gapDetectedCount := gapDetectedCount
    insufficientForwardDataCount :=
      ((windowResults trades).filter (·.status = .insufficientForwardData)).length
    negativeAllWindows := !perHoldingWindow.isEmpty &&
      perHoldingWindow.all (fun window =>
        window.recommendation = .negative ∨ window.recommendation = .insufficientData) &&
      perHoldingWindow.any (·.recommendation = .negative)
    warnings :=
      (if 0 < extremePnlCount then [unusuallyLarge] else []) ++
      (if 0 < gapDetectedCount then ["Attribution crossed one or more candle data gaps."] else [])
    perHoldingWindow := perHoldingWindow }

/-- `max_by`: of several greatest windows the last one. -/
def bestWindow (windows : List ResearchShadowPnlHoldingWindowResult) :
    Option ResearchShadowPnlHoldingWindowResult :=
  (windows.filter (0 < ·.tradeCount)).foldl (fun best window => match best with
    | none => some window
    | some best => if best.avgNetPnlPct ≤ window.avgNetPnlPct then some window else some best) none

end Summary

def calculateResearchShadowPnlAttribution (candidate : ResearchCandidate)
    (request : ResearchShadowPnlAttributionRequest) (runs : List ResearchShadowPnlRunInput)
    (candles : List Candle) (computedAt : DateTime) : ResearchShadowPnlAttributionReport :=
  let sortedRuns := sort (·.shadowCreatedAt) runs
  let sortedCandles := sort (·.openTime) candles
  let trades := sortedRuns.map (attributeRun request candidate sortedCandles)
  let summary := summarize request trades
  let best := bestWindow summary.perHoldingWindow
  { candidateId := candidate.id
    strategyId := candidate.strategyId
    symbol := candidate.symbol
    timeframe := candidate.timeframe
    holdingWindows := request.normalizedHoldingWindows
    feeBps := request.feeBps
    slippageBps := request.slippageBps
    extremePnlThresholdPct := request.threshold
    startTime := request.startTime
    endTime := request.endTime
    summary := summary
    trades := trades
    latestShadowPnlStatus :=
      if summary.perHoldingWindow.any (·.recommendation = .promising) then .promising
      else if summary.negativeAllWindows then .negative
      else if summary.totalAttributedRuns = 0 then .insufficientData
      else .weak
    bestHoldingWindow := best.map (·.holdingWindow)
    bestAvgNetPnlPct := best.map (·.avgNetPnlPct)
    computedAt := computedAt }

end AegisQuant.Research
