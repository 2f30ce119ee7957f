import AegisQuant.Market.Repair
import Mathlib.Data.String.Basic

/-! Cross-asset relative strength research. The candles of several symbols are
aligned on common times, features are computed for every candle, and a loop
over the times buys the strongest symbol and sells it by the exit rule. -/
namespace AegisQuant.Research
open Fallible SortByKey List

inductive CrossAssetRankMetric where
  | rawReturn
  | volAdjustedReturn
  deriving DecidableEq

inductive CrossAssetSizingMode where
  | equalNotional
  | volatilityNormalized
  deriving DecidableEq

inductive CrossAssetMarketFilter where
  | none
  | basket72hReturnGt (thresholdPct : Decimal)
  | basket24hReturnGt (thresholdPct : Decimal)
  | atLeastNSymbolsPositive24h (minSymbols : Nat)
  deriving DecidableEq

inductive CrossAssetVolFilter where
  | none
  | assetNotExtremeVsBasket (maxRatio : Decimal)
  | basketVolBelowPercentile (percentile : Decimal)
  deriving DecidableEq

inductive CrossAssetOverextensionFilter where
  | none
  | maxReturn24hPct (maxPct : Decimal)
  | minDistanceFrom72hHighPct (minPct : Decimal)
  deriving DecidableEq

inductive CrossAssetExitRule where
  | fixedHold
  | stopPct (stopPct : Decimal)
  | takeProfitPct (takeProfitPct : Decimal)
  deriving DecidableEq

structure CrossAssetResearchRequest where
  symbols : List String
  timeframe : String
  startTime : DateTime
  endTime : DateTime
  rankingLookbackHours : Nat
  rankMetric : CrossAssetRankMetric
  minTopReturnPct : Decimal
  minRankSpreadPct : Decimal
  holdingHours : Nat
  feeBps : Decimal
  slippageBps : Decimal
  oneActivePosition : Bool
  sizingMode : CrossAssetSizingMode
  minWeight : Decimal
  maxWeight : Decimal
  marketFilter : CrossAssetMarketFilter
  volFilter : CrossAssetVolFilter
  overextensionFilter : CrossAssetOverextensionFilter
  exitRule : CrossAssetExitRule

def invalidRequest {α : Type} (message : String) : Except Fault α :=
  .error (.core (.invalidCrossAssetResearchRequest message))

def CrossAssetResearchRequest.parsedTimeframe (request : CrossAssetResearchRequest) :
    Except Fault CandleInterval :=
  (CandleInterval.fromStr request.timeframe).mapError Fault.core

def CrossAssetResearchRequest.validate (request : CrossAssetResearchRequest) :
    Except Fault Unit := do
  let require (valid : Bool) (message : String) : Except Fault Unit :=
    require valid (.core (.invalidCrossAssetResearchRequest message))
  require (2 ≤ request.symbols.length) "at least two symbols are required"
  require (request.symbols.all fun symbol => trim symbol ≠ "") "symbols cannot contain empty values"
  let _ ← request.parsedTimeframe
  require (request.timeframe = "1h" || request.timeframe = "4h")
    "only 1h and 4h timeframes are supported for cross-asset research MVP"
  require (request.startTime < request.endTime) "end_time must be after start_time"
  require (request.rankingLookbackHours ≠ 0 && request.holdingHours ≠ 0)
    "ranking_lookback_hours and holding_hours must be greater than zero"
  require (0 < request.minWeight && 0 < request.maxWeight)
    "min_weight and max_weight must be greater than zero"
  require (request.minWeight ≤ request.maxWeight) "min_weight cannot exceed max_weight"
  require (0 ≤ request.feeBps && 0 ≤ request.slippageBps)
    "fee_bps and slippage_bps cannot be negative"

def CrossAssetResearchRequest.lookupSymbols (request : CrossAssetResearchRequest) : List String :=
  request.symbols.map normalizeSymbol

/-- The floating-point steps: the square root of a variance, the position of a
percentile in a list with the given last index, and differences of positions. -/
structure FloatArithmetic where
  sqrt : Decimal → Option Decimal
  rank : Nat → Decimal → Decimal
  difference : Decimal → Decimal → Option Decimal

def percent (value : Decimal) : Decimal := value * 100

def clamp (low high value : Decimal) : Decimal :=
  if value < low then low else if high < value then high else value

def percentileDecimal (floats : FloatArithmetic) (values : List Decimal)
    (percentileValue : Decimal) : Option Decimal :=
  if values.isEmpty then none
  else
    let sorted := sort id values
    let rank := floats.rank (values.length - 1) (clamp 0 100 percentileValue)
    let lower := rank.floor.toNat
    let upper := rank.ceil.toNat
    if lower = upper then sorted[lower]?
    else do
      let lowerWeight ← floats.difference upper rank
      let upperWeight ← floats.difference rank lower
      let lowerValue ← sorted[lower]?
      let upperValue ← sorted[upper]?
      pure (lowerValue * lowerWeight + upperValue * upperWeight)

def crossAssetHoursToCandles (hours : Nat) (interval : CandleInterval) : Except Fault Nat :=
  let intervalHours := (interval.duration / 1000000000).tdiv 3600
  if intervalHours ≤ 0 then
    invalidRequest "cross-asset research requires an hourly-or-slower timeframe"
  else .ok (max ((hours + intervalHours - 1).tdiv intervalHours) 1).toNat

structure CrossAssetFeatureLookbacks where
  ranking : Nat
  sixHours : Nat
  twentyFourHours : Nat
  seventyTwoHours : Nat

structure CrossAssetFeatureRow where
  return6h : Option Decimal
  return24h : Option Decimal
  return72h : Option Decimal
  lookbackReturn : Option Decimal
  vol24h : Option Decimal
  vol72h : Option Decimal
  lookbackVol : Option Decimal
  distance72hHighPct : Option Decimal

def returnOver (candles : List Candle) (index lookback : Nat) : Option Decimal :=
  if index < lookback then none
  else do
    let previous ← candles[index - lookback]?
    let current ← candles[index]?
    if 0 < previous.close then some (current.close / previous.close - 1) else none

def hourlyReturns (candles : List Candle) : List (Option Decimal) :=
  (range candles.length).map fun index => returnOver candles index 1

def realizedVol (floats : FloatArithmetic) (returns : List (Option Decimal))
    (index lookback : Nat) : Option Decimal :=
  if index < lookback then none
  else do
    let values ← ((returns.drop (index + 1 - lookback)).take lookback).mapM id
    let mean := values.sum / lookback
    let variance := (values.map fun value => (value - mean) * (value - mean)).sum / lookback
    floats.sqrt variance

def distanceFromHighPct (candles : List Candle) (index lookback : Nat) : Option Decimal :=
  if lookback ≤ index + 1 then do
    let maxHigh := (((candles.drop (index + 1 - lookback)).take lookback).map (·.high)).max?.getD 0
    let current ← candles[index]?
    if 0 < maxHigh then some (percent ((maxHigh - current.close) / maxHigh)) else none
  else none

def featureRow (floats : FloatArithmetic) (lookbacks : CrossAssetFeatureLookbacks)
    (rows : List Candle) (index : Nat) : CrossAssetFeatureRow where
  return6h := returnOver rows index lookbacks.sixHours
  return24h := returnOver rows index lookbacks.twentyFourHours
  return72h := returnOver rows index lookbacks.seventyTwoHours
  lookbackReturn := returnOver rows index lookbacks.ranking
  vol24h := realizedVol floats (hourlyReturns rows) index lookbacks.twentyFourHours
  vol72h := realizedVol floats (hourlyReturns rows) index lookbacks.seventyTwoHours
  lookbackVol := realizedVol floats (hourlyReturns rows) index lookbacks.ranking
  distance72hHighPct := distanceFromHighPct rows index lookbacks.seventyTwoHours

abbrev CrossAssetFeatures := String → List CrossAssetFeatureRow

def computeCrossAssetFeatures (floats : FloatArithmetic) (candles : String → List Candle)
    (lookbacks : CrossAssetFeatureLookbacks) : CrossAssetFeatures :=
  fun symbol => (range (candles symbol).length).map (featureRow floats lookbacks (candles symbol))

structure CrossAssetScore where
  symbol : String
  score : Decimal
  returnPct : Decimal
  deriving DecidableEq

section Decisions
variable (request : CrossAssetResearchRequest) (symbols : List String)
  (features : CrossAssetFeatures) (index : Nat)

/-- A symbol without the figures of its score is left out. -/
def crossAssetScore (symbol : String) : Option CrossAssetScore := do
  let feature ← (features symbol)[index]?
  let returnValue ← feature.lookbackReturn
  let score ← match request.rankMetric with
    | .rawReturn => some returnValue
    | .volAdjustedReturn => do
        let vol ← feature.lookbackVol
        if vol ≤ 0 then none else some (returnValue / vol)
  pure ⟨symbol, score, percent returnValue⟩

/-- The greatest score first, equal ones by symbol. -/
def crossAssetRanking : List CrossAssetScore :=
  sort (fun score : CrossAssetScore => toLex (-score.score, score.symbol))
    (symbols.filterMap (crossAssetScore request features index))

def basketMean (values : List Decimal) : Decimal := values.sum / values.length

def basketReturnPct (lookback : Nat) : Option Decimal := do
  let returns ← symbols.mapM fun symbol => do
    let feature ← (features symbol)[index]?
    match lookback with
    | 24 => feature.return24h
    | 72 => feature.return72h
    | _ => feature.lookbackReturn
  pure (percent (basketMean returns))

def basketVolDecimal : Option Decimal := do
  let vols ← symbols.mapM fun symbol => (features symbol)[index]?.bind (·.vol72h)
  pure (basketMean vols)

def basketVolPct : Option Decimal := (basketVolDecimal symbols features index).map percent

def crossAssetMarketFilterPasses : Bool :=
  match request.marketFilter with
  | .none => true
  | .basket72hReturnGt thresholdPct =>
    (basketReturnPct symbols features index 72).any fun value => thresholdPct < value
  | .basket24hReturnGt thresholdPct =>
    (basketReturnPct symbols features index 24).any fun value => thresholdPct < value
  | .atLeastNSymbolsPositive24h minSymbols =>
    minSymbols ≤ symbols.countP fun symbol =>
      ((features symbol)[index]?.bind (·.return24h)).any fun value => 0 < value

def basketVolFilterPasses (threshold : Option Decimal) : Bool :=
  match request.volFilter with
  | .basketVolBelowPercentile _ =>
    threshold.any fun limit =>
      (basketVolDecimal symbols features index).any fun value => value ≤ limit
  | _ => true

def crossAssetVolFilterPasses (selectedSymbol : String) : Bool :=
  match request.volFilter with
  | .none | .basketVolBelowPercentile _ => true
  | .assetNotExtremeVsBasket maxRatio =>
    ((features selectedSymbol)[index]?.bind (·.vol24h)).any fun assetVol =>
      let vols := symbols.filterMap fun symbol => (features symbol)[index]?.bind (·.vol24h)
      if vols.length ≠ symbols.length then false
      else
        let basket := basketMean vols
        0 < basket && assetVol ≤ basket * maxRatio

def crossAssetOverextensionFilterPasses (selectedSymbol : String) : Bool :=
  (features selectedSymbol)[index]?.any fun feature =>
    match request.overextensionFilter with
    | .none => true
    | .maxReturn24hPct maxPct => (feature.return24h.map percent).any fun value => value ≤ maxPct
    | .minDistanceFrom72hHighPct minPct => feature.distance72hHighPct.any fun value => minPct ≤ value

def crossAssetWeight (symbol : String) (medianVol24h : Decimal) : Decimal :=
  match request.sizingMode with
  | .equalNotional => request.maxWeight
  | .volatilityNormalized =>
    match (features symbol)[index]?.bind (·.vol24h) with
    | none => request.minWeight
    | some vol =>
      if vol ≤ 0 ∨ medianVol24h ≤ 0 then request.minWeight
      else clamp request.minWeight request.maxWeight (medianVol24h / vol)

/-- The best and the second best symbol, if every condition for an entry is
met. -/
def selectAt (basketVolThreshold : Option Decimal) : Option (CrossAssetScore × CrossAssetScore) :=
  if !crossAssetMarketFilterPasses request symbols features index then none
  else if !basketVolFilterPasses request symbols features index basketVolThreshold then none
  else
    let ranking := crossAssetRanking request symbols features index
    if ranking.length < symbols.length then none
    else
      match ranking with
      | top :: second :: _ =>
        if top.returnPct ≤ request.minTopReturnPct then none
        else if top.returnPct - second.returnPct < request.minRankSpreadPct then none
        else if !crossAssetVolFilterPasses request symbols features index top.symbol then none
        else if !crossAssetOverextensionFilterPasses request features index top.symbol then none
        else some (top, second)
      | _ => none

end Decisions

structure CrossAssetExit where
  index : Nat
  reason : String
  deriving DecidableEq

/-- Leaves on the candle after the first one whose profit is a hit, or at the
deadline. -/
def exitOnHit (rows : List Candle) (entryIndex deadline : Nat) (entry : Decimal)
    (hit : Decimal → Bool) (reason : String) : Except Fault CrossAssetExit :=
  if entryIndex < deadline ∧ entry = 0 then .error .divisionByZero
  else
    let pnlPct (index : Nat) :=
      percent ((rows[index]?.map (·.close)).getD 0 / entry - 1)
    match (range' entryIndex (deadline - entryIndex)).find? fun index => hit (pnlPct index) with
    | some index => .ok ⟨min (index + 1) (rows.length - 1), reason⟩
    | none => .ok ⟨deadline, "fixed_hold"⟩

def crossAssetExitIndex (request : CrossAssetResearchRequest) (holdingCandles : Nat)
    (rows : List Candle) (entryIndex : Nat) : Except Fault (Option CrossAssetExit) :=
  let deadline := min (entryIndex + holdingCandles) (rows.length - 1)
  match rows[entryIndex]? with
  | none => .ok none
  | some entryCandle =>
    match request.exitRule with
    | .fixedHold => .ok (some ⟨deadline, "fixed_hold"⟩)
    | .stopPct stopPct =>
      (exitOnHit rows entryIndex deadline entryCandle.open (fun pnlPct => pnlPct ≤ -stopPct)
        "stop_pct").map some
    | .takeProfitPct takeProfitPct =>
      (exitOnHit rows entryIndex deadline entryCandle.open
        (fun pnlPct => takeProfitPct ≤ pnlPct) "take_profit_pct").map some

def windowCandles (request : CrossAssetResearchRequest) (interval : CandleInterval)
    (candles : List Candle) : List Candle :=
  (sort (·.openTime) candles).filter fun candle =>
    candle.interval = interval && candle.isClosed && request.startTime ≤ candle.openTime &&
      candle.closeTime ≤ request.endTime

def openTimes (candles : List Candle) : List DateTime :=
  (Groups.group (·.openTime) candles).map (·.1)

/-- An ordered map by open time keeps the last candle of a time. -/
def candleAt (candles : List Candle) (time : DateTime) : Option Candle :=
  (candles.filter fun candle => candle.openTime = time).getLast?

structure Alignment where
  alignedTimes : Option (List DateTime)
  normalized : String → List Candle

def alignSymbol (request : CrossAssetResearchRequest) (interval : CandleInterval)
    (candlesBySymbol : String → Option (List Candle)) (alignment : Alignment) (symbol : String) :
    Except Fault Alignment :=
  match candlesBySymbol symbol with
  | none => invalidRequest ("missing candles for " ++ symbol)
  | some candles =>
    let candles := windowCandles request interval candles
    let times := openTimes candles
    .ok {
      alignedTimes := some (match alignment.alignedTimes with
        | some existing => existing.filter fun time => time ∈ times
        | none => times)
      normalized := Function.update alignment.normalized symbol candles }

/-- The candles of each symbol at the aligned times. They are removed where
they come from, so a symbol that is given twice ends up with none. -/
def takeRows (times : List DateTime) :
    List String → (String → List Candle) → (String → List Candle) → String → List Candle
  | [], _, rows => rows
  | symbol :: rest, normalized, rows =>
    takeRows times rest (Function.update normalized symbol [])
      (Function.update rows symbol (times.filterMap (candleAt (normalized symbol))))

/-- What the loop over the aligned times reads. -/
structure CrossAssetData where
  times : List DateTime
  holding : Nat
  requiredLookback : Nat
  rows : String → List Candle
  features : CrossAssetFeatures

def checkCoverage (expected interval : Int) (requiredLookback holding : Nat)
    (times : List DateTime) : Except Fault Unit := do
  require (times.length = expected)
    (.core (.invalidCrossAssetResearchRequest ("insufficient aligned candle coverage: expected " ++
      toString expected ++ ", actual " ++ toString times.length)))
  require ((times.zip times.tail).all fun pair => (pair.2 - pair.1).tdiv 1000000000 = interval)
    (.core (.invalidCrossAssetResearchRequest "aligned candles contain a gap"))
  require (requiredLookback + holding + 1 < times.length)
    (.core (.invalidCrossAssetResearchRequest
      "not enough candles for requested lookback and holding period"))

/-- What follows from the request alone. -/
structure ResearchPlan where
  interval : CandleInterval
  lookbacks : CrossAssetFeatureLookbacks
  holding : Nat
  requiredLookback : Nat

def researchPlan (request : CrossAssetResearchRequest) : Except Fault ResearchPlan := do
  request.validate
  let interval ← request.parsedTimeframe
  let ranking ← crossAssetHoursToCandles request.rankingLookbackHours interval
  let holding ← crossAssetHoursToCandles request.holdingHours interval
  let sixHours ← crossAssetHoursToCandles 6 interval
  let twentyFourHours ← crossAssetHoursToCandles 24 interval
  let seventyTwoHours ← crossAssetHoursToCandles 72 interval
  pure {
    interval := interval
    lookbacks := ⟨ranking, sixHours, twentyFourHours, seventyTwoHours⟩
    holding := holding
    requiredLookback := max (max (max ranking seventyTwoHours) twentyFourHours) sixHours }

def alignedData (floats : FloatArithmetic) (plan : ResearchPlan) (symbols : List String)
    (alignment : Alignment) : CrossAssetData :=
  let times := alignment.alignedTimes.getD []
  let rows := takeRows times symbols alignment.normalized fun _ => []
  { times := times
    holding := plan.holding
    requiredLookback := plan.requiredLookback
    rows := rows
    features := computeCrossAssetFeatures floats rows plan.lookbacks }

/-- Everything before the loop. -/
def prepareCrossAssetData (floats : FloatArithmetic) (request : CrossAssetResearchRequest)
    (candlesBySymbol : String → Option (List Candle)) : Except Fault CrossAssetData := do
  let plan ← researchPlan request
  let alignment ← request.lookupSymbols.foldlM
    (alignSymbol request plan.interval candlesBySymbol) ⟨none, fun _ => []⟩
  let times := alignment.alignedTimes.getD []
  let expected ←
    (plan.interval.candlesBetween request.startTime request.endTime).mapError Fault.core
  checkCoverage expected (plan.interval.duration / 1000000000) plan.requiredLookback plan.holding times
  pure (alignedData floats plan request.lookupSymbols alignment)

/-- Over all candles of the run. -/
def basketVolPercentile (floats : FloatArithmetic) (symbols : List String)
    (features : CrossAssetFeatures) (percentileValue : Decimal) : Option Decimal :=
  let length := (symbols.min?.map fun symbol => (features symbol).length).getD 0
  percentileDecimal floats ((range length).filterMap (basketVolDecimal symbols features))
    percentileValue

def basketVolThreshold (floats : FloatArithmetic) (request : CrossAssetResearchRequest)
    (features : CrossAssetFeatures) : Option Decimal :=
  match request.volFilter with
  | .basketVolBelowPercentile percentile =>
    basketVolPercentile floats request.lookupSymbols features percentile
  | _ => none

/-- Over all candles of the run. -/
def medianAssetVol24h (floats : FloatArithmetic) (symbols : List String)
    (features : CrossAssetFeatures) : Option Decimal :=
  percentileDecimal floats (symbols.flatMap fun symbol => (features symbol).filterMap (·.vol24h)) 50

structure CrossAssetPortfolioRankingSnapshot where
  signalTime : DateTime
  selectedSymbol : String
  topScore : Decimal
  secondScore : Decimal
  rankSpreadPct : Decimal
  topReturnPct : Decimal
  return6hPct : Option Decimal
  return24hPct : Option Decimal
  return72hPct : Option Decimal
  realizedVol24hPct : Option Decimal
  realizedVol72hPct : Option Decimal
  distanceFrom72hHighPct : Option Decimal
  basketReturn24hPct : Option Decimal
  basketReturn72hPct : Option Decimal
  basketVol72hPct : Option Decimal
  deriving DecidableEq

/-- A trade without the identifiers drawn for it and for its run. -/
structure CrossAssetPortfolioTrade where
  tradeIndex : Nat
  symbol : String
  signalTime : DateTime
  entryTime : DateTime
  exitTime : DateTime
  entryPrice : Decimal
  exitPrice : Decimal
  weight : Decimal
  grossPnlPct : Decimal
  netPnlPct : Decimal
  feeSlippageDragPct : Decimal
  exitReason : String
  rankingSnapshot : CrossAssetPortfolioRankingSnapshot
  deriving DecidableEq

def CrossAssetResearchRequest.drag (request : CrossAssetResearchRequest) : Decimal :=
  (request.feeBps + request.slippageBps) * 2 / 100

/-- The trade from the candle after `index` to the exit; there is none without
a positive entry price. All indices are in range when the exit is. -/
def buildTrade (request : CrossAssetResearchRequest) (data : CrossAssetData) (medianVol24h : Decimal)
    (index tradeIndex : Nat) (top second : CrossAssetScore) (exit : CrossAssetExit) :
    Option CrossAssetPortfolioTrade := do
  let symbols := request.lookupSymbols
  let entryCandle ← (data.rows top.symbol)[index + 1]?
  let exitCandle ← (data.rows top.symbol)[exit.index]?
  let feature ← (data.features top.symbol)[index]?
  let signalTime ← data.times[index]?
  let entryTime ← data.times[index + 1]?
  let exitTime ← data.times[exit.index]?
  if entryCandle.open ≤ 0 then none
  else
    let weight := crossAssetWeight request data.features index top.symbol medianVol24h
    let grossPct := percent (exitCandle.open / entryCandle.open - 1)
    some {
      tradeIndex := tradeIndex
      symbol := top.symbol
      signalTime := signalTime
      entryTime := entryTime
      exitTime := exitTime
      entryPrice := entryCandle.open
      exitPrice := exitCandle.open
      weight := weight
      grossPnlPct := grossPct * weight
      netPnlPct := (grossPct - request.drag) * weight
      feeSlippageDragPct := request.drag * weight
      exitReason := exit.reason
      rankingSnapshot := {
        signalTime := signalTime
        selectedSymbol := top.symbol
        topScore := top.score
        secondScore := second.score
        rankSpreadPct := top.returnPct - second.returnPct
        topReturnPct := top.returnPct
        return6hPct := feature.return6h.map percent
        return24hPct := feature.return24h.map percent
        return72hPct := feature.return72h.map percent
        realizedVol24hPct := feature.vol24h.map percent
        realizedVol72hPct := feature.vol72h.map percent
        distanceFrom72hHighPct := feature.distance72hHighPct
        basketReturn24hPct := basketReturnPct symbols data.features index 24
        basketReturn72hPct := basketReturnPct symbols data.features index 72
        basketVol72hPct := basketVolPct symbols data.features index } }

structure ResearchState where
  trades : List CrossAssetPortfolioTrade
  nextAvailableIndex : Nat

/-- What is computed once, before the loop. -/
structure RunLevels where
  basketVolThreshold : Option Decimal
  medianVol24h : Decimal

def runLevels (floats : FloatArithmetic) (request : CrossAssetResearchRequest)
    (data : CrossAssetData) : RunLevels where
  basketVolThreshold := basketVolThreshold floats request data.features
  medianVol24h := (medianAssetVol24h floats request.lookupSymbols data.features).getD 0

def tradeUntil (request : CrossAssetResearchRequest) (data : CrossAssetData) (levels : RunLevels)
    (index tradeIndex : Nat) (top second : CrossAssetScore) (exit : CrossAssetExit) :
    Option (CrossAssetPortfolioTrade × CrossAssetExit) :=
  if exit.index ≤ index + 1 ∨ data.times.length ≤ exit.index then none
  else
    (buildTrade request data levels.medianVol24h index tradeIndex top second exit).map
      fun trade => (trade, exit)

/-- The trade that is decided on at the candle of `index`, and its exit. -/
def tradeAt (request : CrossAssetResearchRequest) (data : CrossAssetData) (levels : RunLevels)
    (index tradeIndex : Nat) : Except Fault (Option (CrossAssetPortfolioTrade × CrossAssetExit)) :=
  match selectAt request request.lookupSymbols data.features index levels.basketVolThreshold with
  | none => .ok none
  | some (top, second) => do
      let leaving ← crossAssetExitIndex request data.holding (data.rows top.symbol) (index + 1)
      pure (leaving.bind (tradeUntil request data levels index tradeIndex top second))

def ResearchState.record (request : CrossAssetResearchRequest) (state : ResearchState) :
    Option (CrossAssetPortfolioTrade × CrossAssetExit) → ResearchState
  | none => state
  | some (trade, exit) => {
      trades := state.trades ++ [trade]
      nextAvailableIndex :=
        if request.oneActivePosition then exit.index + 1 else state.nextAvailableIndex }

def researchStep (request : CrossAssetResearchRequest) (data : CrossAssetData) (levels : RunLevels)
    (state : ResearchState) (index : Nat) : Except Fault ResearchState :=
  if request.oneActivePosition && index < state.nextAvailableIndex then .ok state
  else (tradeAt request data levels index state.trades.length).map (state.record request)

def runCrossAssetRelativeStrengthResearch (floats : FloatArithmetic)
    (request : CrossAssetResearchRequest) (candlesBySymbol : String → Option (List Candle)) :
    Except Fault (List CrossAssetPortfolioTrade) := do
  let data ← prepareCrossAssetData floats request candlesBySymbol
  let final ← (range' data.requiredLookback
      (data.times.length - (data.holding + 1) - data.requiredLookback)).foldlM
    (researchStep request data (runLevels floats request data)) ⟨[], 0⟩
  pure final.trades

end AegisQuant.Research
