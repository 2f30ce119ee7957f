import AegisQuant.Research.CrossAsset
import AegisQuant.Research.ShadowPerformance

/-! The shadow observation of the relative strength package. It looks at the
latest aligned candles only and says what the package would select at the last
of them. -/
namespace AegisQuant.Research

def defaultCrossAssetRobustnessSymbols : List String := ["BTCUSDT", "ETHUSDT", "SOLUSDT", "BNBUSDT"]

def relativeStrengthContinuationV1DefaultRequest (startTime endTime : DateTime) :
    CrossAssetResearchRequest where
  symbols := defaultCrossAssetRobustnessSymbols
  timeframe := "4h"
  startTime := startTime
  endTime := endTime
  rankingLookbackHours := 12
  rankMetric := .volAdjustedReturn
  minTopReturnPct := 0
  minRankSpreadPct := 3
  holdingHours := 12
  feeBps := 10
  slippageBps := 5
  oneActivePosition := true
  sizingMode := .volatilityNormalized
  minWeight := 25 / 100
  maxWeight := 1
  marketFilter := .basket24hReturnGt (-2)
  volFilter := .assetNotExtremeVsBasket (15 / 10)
  overextensionFilter := .none
  exitRule := .fixedHold

inductive CrossAssetShadowObservationDecision where
  | wouldSelect
  | noSignal
  | skippedNoNewCandle
  | skippedStaleCandles
  | blockedNotPromotedOrNotAccepted
  | error
  deriving DecidableEq

inductive CrossAssetShadowObservationStatus where
  | previewOnly
  | observationRecorded
  | skipped
  | blocked
  | error
  deriving DecidableEq

structure CrossAssetShadowObservationRankingRow where
  symbol : String
  rank : Int
  score : Decimal
  returnPct : Decimal
  return24hPct : Option Decimal
  realizedVol24hPct : Option Decimal
  deriving DecidableEq

structure CrossAssetShadowObservationPreviewResult where
  candidateId : Uuid
  packageId : String
  candidateStatus : ResearchCandidateStatus
  serverObservationOnlyMode : Bool
  noOrderSubmission : Bool
  executionAuthority : String
  latestAvailableAlignedCandleTime : Option DateTime
  latestEvaluatedCandleTime : Option DateTime
  wouldCreateObservation : Bool
  decision : CrossAssetShadowObservationDecision
  status : CrossAssetShadowObservationStatus
  selectedSymbol : Option String
  rankingSnapshot : List CrossAssetShadowObservationRankingRow
  rankSpreadPct : Option Decimal
  marketFilterPassed : Bool
  volFilterPassed : Bool
  reason : String
  warnings : List String
  noMutation : Bool
  generatedAt : DateTime

section Alignment

/-- The candles that are looked at: no window of times restricts them. -/
def closedCandles (interval : CandleInterval) (candles : Option (List Candle)) : List Candle :=
  SortByKey.sort (·.openTime)
    ((candles.getD []).filter fun candle => candle.interval = interval && candle.isClosed)

structure ShadowAlignment extends Alignment where
  warnings : List String

def alignClosed (interval : CandleInterval) (candlesBySymbol : String → Option (List Candle))
    (alignment : ShadowAlignment) (symbol : String) : ShadowAlignment :=
  let candles := closedCandles interval (candlesBySymbol symbol)
  let times := openTimes candles
  { alignedTimes := some (match alignment.alignedTimes with
      | some existing => existing.filter fun time => time ∈ times
      | none => times)
    normalized := Function.update alignment.normalized symbol candles
    warnings := if candles.isEmpty then alignment.warnings ++ ["missing_closed_candles_" ++ symbol]
      else alignment.warnings }

end Alignment

/-- The greatest lookback, or none if one cannot be converted. -/
def shadowRequiredLookback (request : CrossAssetResearchRequest) (interval : CandleInterval) : Nat :=
  match crossAssetHoursToCandles request.rankingLookbackHours interval,
      crossAssetHoursToCandles 6 interval, crossAssetHoursToCandles 24 interval,
      crossAssetHoursToCandles 72 interval with
  | .ok ranking, .ok six, .ok twentyFour, .ok seventyTwo =>
    max (max (max ranking six) twentyFour) seventyTwo
  | _, _, _, _ => 0

def shadowLookbacks (request : CrossAssetResearchRequest) (interval : CandleInterval) :
    CrossAssetFeatureLookbacks where
  ranking := (crossAssetHoursToCandles request.rankingLookbackHours interval).toOption.getD 1
  sixHours := (crossAssetHoursToCandles 6 interval).toOption.getD 1
  twentyFourHours := (crossAssetHoursToCandles 24 interval).toOption.getD 1
  seventyTwoHours := (crossAssetHoursToCandles 72 interval).toOption.getD 1

section Signal

structure ShadowSignal where
  ranking : List CrossAssetScore
  rankSpreadPct : Option Decimal
  marketFilterPassed : Bool
  volFilterPassed : Bool
  passed : Bool

variable (floats : FloatArithmetic) (request : CrossAssetResearchRequest) (symbols : List String)
  (features : CrossAssetFeatures) (index : Nat)

def shadowVolThreshold : Option Decimal :=
  match request.volFilter with
  | .basketVolBelowPercentile percentile => basketVolPercentile floats symbols features percentile
  | _ => none

def shadowSignal : ShadowSignal :=
  let marketFilterPassed := crossAssetMarketFilterPasses request symbols features index &&
    basketVolFilterPasses request symbols features index
      (shadowVolThreshold floats request symbols features)
  let ranking := crossAssetRanking request symbols features index
  let rankSpreadPct := do
    let top ← ranking[0]?
    let second ← ranking[1]?
    pure (top.returnPct - second.returnPct)
  let volFilterPassed := ranking[0]?.any fun top =>
    crossAssetVolFilterPasses request symbols features index top.symbol &&
      crossAssetOverextensionFilterPasses request features index top.symbol
  { ranking := ranking
    rankSpreadPct := rankSpreadPct
    marketFilterPassed := marketFilterPassed
    volFilterPassed := volFilterPassed
    passed := marketFilterPassed && volFilterPassed && ranking.length = symbols.length &&
      ranking[0]?.any (fun top => request.minTopReturnPct < top.returnPct) &&
      rankSpreadPct.any fun spread => request.minRankSpreadPct ≤ spread }

def shadowRankingRow (position : Nat) (row : CrossAssetScore) :
    CrossAssetShadowObservationRankingRow :=
  let feature := (features row.symbol)[index]?
  { symbol := row.symbol
    rank := min (position + 1) 2147483647
    score := row.score
    returnPct := row.returnPct
    return24hPct := (feature.bind (·.return24h)).map percent
    realizedVol24hPct := (feature.bind (·.vol24h)).map percent }

def shadowReason (signal : ShadowSignal) : String :=
  if signal.passed then "Hypothetical portfolio selection only; no order path is invoked."
  else if !signal.marketFilterPassed then
    "Market filter did not pass for the latest aligned candle."
  else if !signal.volFilterPassed then
    "Volatility or overextension filter did not pass for the top-ranked symbol."
  else "Ranking thresholds did not produce a portfolio selection."

end Signal

section Preview
variable (floats : FloatArithmetic) (candidateId : Uuid) (packageId : String)
  (candidateStatus : ResearchCandidateStatus)
  (candlesBySymbol : String → Option (List Candle)) (latestEvaluatedCandleTime : Option DateTime)
  (serverObservationOnlyMode : Bool) (generatedAt : DateTime)

/-- The answer without a signal. -/
def emptyPreview (latestAvailable : Option DateTime)
    (decision : CrossAssetShadowObservationDecision) (status : CrossAssetShadowObservationStatus)
    (reason : String) (warnings : List String) : CrossAssetShadowObservationPreviewResult where
  candidateId := candidateId
  packageId := packageId
  candidateStatus := candidateStatus
  serverObservationOnlyMode := serverObservationOnlyMode
  noOrderSubmission := true
  executionAuthority := "NONE"
  latestAvailableAlignedCandleTime := latestAvailable
  latestEvaluatedCandleTime := latestEvaluatedCandleTime
  wouldCreateObservation := false
  decision := decision
  status := status
  selectedSymbol := none
  rankingSnapshot := []
  rankSpreadPct := none
  marketFilterPassed := false
  volFilterPassed := false
  reason := reason
  warnings := warnings
  noMutation := true
  generatedAt := generatedAt

def signalPreview
    (answer : CrossAssetShadowObservationDecision → CrossAssetShadowObservationStatus → String →
      List String → CrossAssetShadowObservationPreviewResult)
    (features : CrossAssetFeatures) (index : Nat) (signal : ShadowSignal) (warnings : List String) :
    CrossAssetShadowObservationPreviewResult :=
  { answer (if signal.passed then .wouldSelect else .noSignal) .previewOnly (shadowReason signal)
      warnings with
    selectedSymbol := if signal.passed then signal.ranking[0]?.map (·.symbol) else none
    rankingSnapshot := signal.ranking.mapIdx (shadowRankingRow features index)
    rankSpreadPct := signal.rankSpreadPct
    marketFilterPassed := signal.marketFilterPassed
    volFilterPassed := signal.volFilterPassed }

/-- Two neighbouring times are not one interval apart, in whole seconds. -/
def hasGap (interval : CandleInterval) (times : List DateTime) : Bool :=
  (times.zip times.tail).any fun pair =>
    (pair.2 - pair.1).tdiv 1000000000 ≠ interval.duration / 1000000000

def evaluateCrossAssetShadowObservationPreview : CrossAssetShadowObservationPreviewResult :=
  let request := relativeStrengthContinuationV1DefaultRequest generatedAt generatedAt
  let symbols := request.lookupSymbols
  let answer := emptyPreview candidateId packageId candidateStatus latestEvaluatedCandleTime
    serverObservationOnlyMode generatedAt
  match CandleInterval.fromStr request.timeframe with
  | .error _ =>
    -- The parser has this error only.
    answer none .error .error
      ("unsupported candle interval: " ++ toAsciiLowercase (trim request.timeframe))
      ["invalid_cross_asset_shadow_observation_config"]
  | .ok interval =>
    let alignment := symbols.foldl (alignClosed interval candlesBySymbol)
      ⟨⟨none, fun _ => []⟩, []⟩
    let alignedTimes := alignment.alignedTimes.getD []
    match alignedTimes.getLast? with
    | none =>
      answer none .skippedStaleCandles .skipped
        "No aligned closed 4h candle exists across the cross-asset basket." alignment.warnings
    | some latest =>
      let needed := shadowRequiredLookback request interval + 1
      let upToLatest := alignedTimes.filter fun time => time ≤ latest
      let times := upToLatest.drop (upToLatest.length - needed)
      if latestEvaluatedCandleTime.any fun time => latest ≤ time then
        answer (some latest) .skippedNoNewCandle .skipped
          "Latest aligned candle has already been evaluated for this candidate."
          alignment.warnings
      else if upToLatest.length < needed then
        answer (some latest) .skippedStaleCandles .skipped
          "Not enough aligned 4h candles for ranking, 24h basket return, and volatility features."
          (alignment.warnings ++ ["insufficient_cross_asset_lookback"])
      else if hasGap interval times then
        answer (some latest) .skippedStaleCandles .skipped
          "Latest aligned 4h candle window contains a gap."
          (alignment.warnings ++ ["latest_aligned_window_contains_gap"])
      else
        let rows := takeRows times symbols alignment.normalized fun _ => []
        let features := computeCrossAssetFeatures floats rows (shadowLookbacks request interval)
        let index := times.length - 1
        signalPreview (answer (some latest)) features index
          (shadowSignal floats request symbols features index) alignment.warnings

end Preview

end AegisQuant.Research
