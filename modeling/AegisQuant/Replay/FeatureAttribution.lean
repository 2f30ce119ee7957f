import AegisQuant.Library.Groups
import AegisQuant.Replay.SignalFeatures
import AegisQuant.Replay.SignalScan
import Mathlib.Data.String.Basic

/-! Signal feature attribution. Every signal that the scan executes is followed
over one holding window, and what it yields is put down to each of the features
it had. The entry is always on the next candle. -/
namespace AegisQuant.Replay

structure StrategySignalFeatureAttributionRequest where
  strategyId : String
  symbol : String
  timeframe : String
  startTime : DateTime
  endTime : DateTime
  holdingWindow : Nat
  feeBps : Decimal
  slippageBps : Decimal
  minSamplesPerBucket : Nat

namespace StrategySignalFeatureAttributionRequest
variable (request : StrategySignalFeatureAttributionRequest)

def validate : Except CoreError Unit :=
  validateAttribution request.strategyId request.symbol request.timeframe request.startTime
    request.endTime request.feeBps request.slippageBps

def normalizedHoldingWindow : Nat := max request.holdingWindow 1

def normalizedMinSamplesPerBucket : Nat := max request.minSamplesPerBucket 1

def feeDragPct : Decimal := (request.feeBps + request.slippageBps) / 100

end StrategySignalFeatureAttributionRequest

inductive StrategySignalFeatureAttributionStatus where
  | promisingFeaturesFound
  | noPromisingFeatures
  | insufficientData
  | dataQualityDegraded
  deriving DecidableEq, Repr

inductive StrategySignalFeatureRecommendation where
  | promising
  | weak
  | avoid
  | insufficientSamples
  deriving DecidableEq, Repr

structure StrategySignalFeatureSample where
  strategyId : String
  symbol : String
  timeframe : String
  signalTime : DateTime
  entryCandleOpenTime : DateTime
  exitCandleOpenTime : DateTime
  forwardNetPnlPct : Decimal
  regimeLabel : Option String
  hourOfDayUtc : Nat
  dayOfWeek : String
  metrics : List StrategySignalFeatureMetric

structure StrategySignalFeatureBucket where
  featureName : String
  bucketLabel : String
  sampleCount : Int
  winRate : Decimal
  avgNetPnlPct : Decimal
  medianNetPnlPct : Decimal
  bestNetPnlPct : Decimal
  worstNetPnlPct : Decimal
  totalNetPnlPct : Decimal
  recommendation : StrategySignalFeatureRecommendation

structure StrategySignalFeatureAttributionResult where
  strategyId : String
  symbol : String
  timeframe : String
  startTime : DateTime
  endTime : DateTime
  holdingWindow : Nat
  totalRawSignals : Int
  executableSignals : Int
  attributedSignals : Int
  insufficientForwardDataCount : Int
  suppressionBreakdown : List ReplaySuppressionCount
  featureBuckets : List StrategySignalFeatureBucket
  bestBuckets : List StrategySignalFeatureBucket
  worstBuckets : List StrategySignalFeatureBucket
  recommendations : List String
  samples : List StrategySignalFeatureSample
  status : StrategySignalFeatureAttributionStatus
  computedAt : DateTime

structure FeatureAttributionState where
  scan : ScanState
  samples : List StrategySignalFeatureSample
  dataQualityDegraded : Bool

def FeatureAttributionState.initial : FeatureAttributionState where
  scan := .initial
  samples := []
  dataQualityDegraded := false

/-- The sample of a signal at `candle` that is entered and exited. -/
def attributedSample (request : StrategySignalFeatureAttributionRequest) (candle entry exit : Candle)
    (metrics : List StrategySignalFeatureMetric) : StrategySignalFeatureSample where
  strategyId := request.strategyId
  symbol := request.symbol
  timeframe := request.timeframe
  signalTime := candle.closeTime
  entryCandleOpenTime := entry.openTime
  exitCandleOpenTime := exit.openTime
  forwardNetPnlPct := grossPnlPct entry exit - request.feeDragPct
  regimeLabel := none
  hourOfDayUtc := candle.closeTime.hour
  dayOfWeek := candle.closeTime.weekday.debug
  metrics := metrics

/-- What follows the entry of an executed signal. A signal without an exit
candle is counted once more. -/
def attributeExecuted (scan : SignalScan) (request : StrategySignalFeatureAttributionRequest)
    (interval : CandleInterval) (index : Nat) (candle : Candle) (entryIndex : Nat) (entry : Candle)
    (state : FeatureAttributionState) : FeatureAttributionState :=
  let exitIndex := entryIndex + request.normalizedHoldingWindow
  match scan.candles[exitIndex]? with
  | none => { state with scan := state.scan.suppress .insufficientForwardData }
  | some exit =>
    if gapDetected interval scan.candles entryIndex exitIndex then
      { state with dataQualityDegraded := true }
    else
      let metrics := extractSignalFeatureMetrics scan.strategyId scan.strategyConfig scan.candles
        index candle
      if metrics = [] then state
      else { state with
        samples := state.samples ++ [attributedSample request candle entry exit metrics] }

def attributeFeaturesAt (rules : StrategyRules) (scan : SignalScan)
    (request : StrategySignalFeatureAttributionRequest) (interval : CandleInterval)
    (state : FeatureAttributionState) (index : Fin scan.candles.length) :
    Except Fault FeatureAttributionState := do
  let candle := scan.candles.get index
  let (next, executed) ← scanAt rules scan index candle state.scan
  let scanned := { state with scan := next }
  match executed with
  | none => return scanned
  | some (entryIndex, entry) =>
    return attributeExecuted scan request interval index candle entryIndex entry scanned

def featureRecommendation (minSamplesPerBucket : Nat) (sampleCount : Int)
    (avgNetPnlPct winRate totalNetPnlPct : Decimal) : StrategySignalFeatureRecommendation :=
  if sampleCount < minSamplesPerBucket then .insufficientSamples
  else if avgNetPnlPct > 0 && winRate ≥ 50 then .promising
  else if avgNetPnlPct < 0 && totalNetPnlPct < 0 then .avoid
  else .weak

/-- The samples that share a feature and its label, summed up. -/
def signalFeatureBucket (minSamplesPerBucket : Nat) (featureName bucketLabel : String)
    (netPnlPcts : List Decimal) : StrategySignalFeatureBucket :=
  let values := SortByKey.sort id netPnlPcts
  let sampleCount : Int := values.length
  let totalNetPnlPct := values.sum
  let winCount := (values.filter (· > 0)).length
  let avgNetPnlPct := if sampleCount > 0 then totalNetPnlPct / sampleCount else 0
  let winRate : Decimal := if sampleCount > 0 then winCount / sampleCount * 100 else 0
  { featureName := featureName
    bucketLabel := bucketLabel
    sampleCount := sampleCount
    winRate := winRate
    avgNetPnlPct := avgNetPnlPct
    medianNetPnlPct := replayMedianDecimal values
    bestNetPnlPct := values.getLast?.getD 0
    worstNetPnlPct := values.head?.getD 0
    totalNetPnlPct := totalNetPnlPct
    recommendation := featureRecommendation minSamplesPerBucket sampleCount avgNetPnlPct winRate
      totalNetPnlPct }

def buildSignalFeatureBuckets (samples : List StrategySignalFeatureSample)
    (minSamplesPerBucket : Nat) : List StrategySignalFeatureBucket :=
  let measured := samples.flatMap fun sample =>
    sample.metrics.map fun metric =>
      (toLex (metric.featureName, metric.bucketLabel), sample.forwardNetPnlPct)
  (Groups.group (·.1) measured).map fun (key, members) =>
    signalFeatureBucket minSamplesPerBucket (ofLex key).1 (ofLex key).2 (members.map (·.2))

/-- The five best or worst of the preferred buckets, or of all with enough
samples. -/
def rankedSignalFeatureBuckets (buckets : List StrategySignalFeatureBucket) (descending : Bool)
    (preferred : StrategySignalFeatureRecommendation) : List StrategySignalFeatureBucket :=
  let favoured := buckets.filter (·.recommendation = preferred)
  let ranked := if favoured = [] then
      buckets.filter (·.recommendation ≠ .insufficientSamples)
    else favoured
  (SortByKey.sort (fun bucket => toLex (
      if descending then -bucket.avgNetPnlPct else bucket.avgNetPnlPct,
      toLex (-bucket.sampleCount, toLex (bucket.featureName, bucket.bucketLabel)))) ranked).take 5

/-- `display` prints a decimal. -/
def signalFeatureRecommendations (display : Decimal → String)
    (status : StrategySignalFeatureAttributionStatus)
    (bestBuckets worstBuckets : List StrategySignalFeatureBucket) : List String :=
  let evidence (bucket : StrategySignalFeatureBucket) : String :=
    "bucket avg net PnL " ++ display (roundDp 4 bucket.avgNetPnlPct) ++ "% across " ++
      toString bucket.sampleCount ++ " samples."
  match status with
  | .promisingFeaturesFound => (bestBuckets.take 3).map fun bucket =>
    "Prefer " ++ bucket.featureName ++ "=" ++ bucket.bucketLabel ++
      " only for further research; " ++ evidence bucket
  | .noPromisingFeatures =>
    "No feature bucket met positive average net PnL and win-rate thresholds." ::
      worstBuckets.head?.toList.map fun bucket =>
        "Avoid or investigate " ++ bucket.featureName ++ "=" ++ bucket.bucketLabel ++ " first; " ++
          evidence bucket
  | .insufficientData =>
    ["Insufficient executable signals with forward candles for feature attribution."]
  | .dataQualityDegraded =>
    ["Data quality degraded in at least one attributed forward window; repair/backfill before trusting feature buckets."]

def featureAttributionStatus (state : FeatureAttributionState)
    (bestBuckets : List StrategySignalFeatureBucket) : StrategySignalFeatureAttributionStatus :=
  if state.dataQualityDegraded then .dataQualityDegraded
  else if state.samples.length = 0 then .insufficientData
  else if bestBuckets.any (·.recommendation = .promising) then .promisingFeaturesFound
  else .noPromisingFeatures

def featureScan (signalId : Nat → Uuid) (correlationId : Uuid) (strategyId : StrategyId)
    (strategyConfig : StrategyConfig) (symbol : Symbol) (candles : List Candle) : SignalScan where
  strategyId := strategyId
  symbol := symbol
  strategyConfig := strategyConfig
  candles := SortByKey.sort (·.openTime) candles
  correlationId := correlationId
  signalId := signalId
  entryIndex := fun index => some (index + 1)

/-- The result of an attribution that has ended in `state`. -/
def featureAttributionResult (display : Decimal → String)
    (request : StrategySignalFeatureAttributionRequest) (computedAt : DateTime)
    (state : FeatureAttributionState) : StrategySignalFeatureAttributionResult :=
  let featureBuckets := SortByKey.sort (fun bucket => toLex (bucket.featureName, bucket.bucketLabel))
    (buildSignalFeatureBuckets state.samples request.normalizedMinSamplesPerBucket)
  let bestBuckets := rankedSignalFeatureBuckets featureBuckets true .promising
  let worstBuckets := rankedSignalFeatureBuckets featureBuckets false .avoid
  let status := featureAttributionStatus state bestBuckets
  { strategyId := request.strategyId
    symbol := request.symbol
    timeframe := request.timeframe
    startTime := request.startTime
    endTime := request.endTime
    holdingWindow := request.normalizedHoldingWindow
    totalRawSignals := state.scan.rawSignalCount
    executableSignals := state.scan.executableSignalCount
    attributedSignals := state.samples.length
    insufficientForwardDataCount := state.scan.suppressionCounts .insufficientForwardData
    suppressionBreakdown := suppressionBreakdown state.scan.suppressionCounts
    featureBuckets := featureBuckets
    bestBuckets := bestBuckets
    worstBuckets := worstBuckets
    recommendations := signalFeatureRecommendations display status bestBuckets worstBuckets
    samples := state.samples
    status := status
    computedAt := computedAt }

/-- `signalId` and `correlationId` are drawn anew by each call. -/
def calculateSignalFeatureAttribution (rules : StrategyRules) (display : Decimal → String)
    (signalId : Nat → Uuid) (correlationId : Uuid)
    (request : StrategySignalFeatureAttributionRequest) (strategyConfig : StrategyConfig)
    (symbol : Symbol) (candles : List Candle) (computedAt : DateTime) :
    Except Fault StrategySignalFeatureAttributionResult := do
  request.validate.mapError Fault.core
  let strategyId ← (StrategyId.fromStr request.strategyId).mapError Fault.core
  let interval ← (CandleInterval.fromStr request.timeframe).mapError Fault.core
  let scan := featureScan signalId correlationId strategyId strategyConfig symbol candles
  let state ← (List.finRange scan.candles.length).foldlM
    (attributeFeaturesAt rules scan request interval) .initial
  return featureAttributionResult display request computedAt state

end AegisQuant.Replay
