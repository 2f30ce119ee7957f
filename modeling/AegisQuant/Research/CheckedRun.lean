import AegisQuant.Research.CrossAssetWindows

/-! The cross-asset run with its partial operations. Every index, and every
division by what is not a constant, is checked here in the place where it is
made; a fault is what the panic of the program would be. -/
namespace AegisQuant.Research.Checked
open List

def indexOutOfRange : Fault := .message "index out of range"

/-- `items[index]`, or an element that is expected to be there. -/
def item {α : Type} (items : List α) (index : Nat) : Except Fault α :=
  Fallible.ofOption items[index]? indexOutOfRange

/-- `items[start..stop]`. -/
def slice {α : Type} (items : List α) (start stop : Nat) : Except Fault (List α) :=
  if start ≤ stop ∧ stop ≤ items.length then .ok ((items.drop start).take (stop - start))
  else .error indexOutOfRange

def integerDiv (left right : Int) : Except Fault Int :=
  if right = 0 then .error .divisionByZero else .ok (left.tdiv right)

def basketMean (values : List Decimal) : Except Fault Decimal := checkedDiv values.sum values.length

def percentileDecimal (floats : FloatArithmetic) (values : List Decimal)
    (percentileValue : Decimal) : Except Fault (Option Decimal) :=
  if values.isEmpty then .ok none
  else
    let sorted := SortByKey.sort id values
    let rank := floats.rank (values.length - 1) (clamp 0 100 percentileValue)
    let lower := rank.floor.toNat
    let upper := rank.ceil.toNat
    if lower = upper then .ok sorted[lower]?
    else
      match floats.difference upper rank, floats.difference rank lower with
      | some lowerWeight, some upperWeight => do
          let lowerValue ← item sorted lower
          let upperValue ← item sorted upper
          pure (some (lowerValue * lowerWeight + upperValue * upperWeight))
      | _, _ => .ok none

def medianDecimalVec (floats : FloatArithmetic) (values : List Decimal) : Except Fault Decimal :=
  (percentileDecimal floats values 50).map fun median => median.getD 0

def crossAssetHoursToCandles (hours : Nat) (interval : CandleInterval) : Except Fault Nat := do
  let intervalHours := (interval.duration / 1000000000).tdiv 3600
  if intervalHours ≤ 0 then
    invalidRequest "cross-asset research requires an hourly-or-slower timeframe"
  else
    let candles ← integerDiv (hours + intervalHours - 1) intervalHours
    pure (max candles 1).toNat

def candlesBetween (interval : CandleInterval) (startTime endTime : DateTime) : Except Fault Int :=
  if endTime ≤ startTime then .error (.core .invalidCandleBackfillTimeRange)
  else do
    let candles ← integerDiv ((endTime - startTime).tdiv 1000000) (interval.duration / 1000000)
    if -2 ^ 31 ≤ candles ∧ candles < 2 ^ 31 then pure candles
    else .error (.core .invalidCandleBackfillEstimate)

section Features
variable (floats : FloatArithmetic) (candles : List Candle) (index lookback : Nat)

def returnOver : Except Fault (Option Decimal) :=
  if index < lookback then .ok none
  else do
    let previous ← item candles (index - lookback)
    if 0 < previous.close then do
      let current ← item candles index
      let ratio ← checkedDiv current.close previous.close
      pure (some (ratio - 1))
    else pure none

/-- Each return is written where the candle it is computed for is read. -/
def hourlyReturns : Except Fault (List (Option Decimal)) :=
  (range candles.length).mapM fun index => returnOver candles index 1

def realizedVol (returns : List (Option Decimal)) : Except Fault (Option Decimal) :=
  if index < lookback then .ok none
  else do
    let part ← slice returns (index + 1 - lookback) (index + 1)
    match part.mapM id with
    | none => pure none
    | some values => do
        let mean ← checkedDiv values.sum lookback
        let variance ← checkedDiv
          (values.map fun value => (value - mean) * (value - mean)).sum lookback
        pure (floats.sqrt variance)

def distanceFromHighPct : Except Fault (Option Decimal) :=
  if lookback ≤ index + 1 then do
    let part ← slice candles (index + 1 - lookback) (index + 1)
    let maxHigh := (part.map (·.high)).max?.getD 0
    if 0 < maxHigh then do
      let current ← item candles index
      let ratio ← checkedDiv (maxHigh - current.close) maxHigh
      pure (some (percent ratio))
    else pure none
  else pure none

def featureRow (lookbacks : CrossAssetFeatureLookbacks) (returns : List (Option Decimal)) :
    Except Fault CrossAssetFeatureRow := do
  let distance72hHighPct ← distanceFromHighPct candles index lookbacks.seventyTwoHours
  let return6h ← returnOver candles index lookbacks.sixHours
  let return24h ← returnOver candles index lookbacks.twentyFourHours
  let return72h ← returnOver candles index lookbacks.seventyTwoHours
  let lookbackReturn ← returnOver candles index lookbacks.ranking
  let vol24h ← realizedVol floats index lookbacks.twentyFourHours returns
  let vol72h ← realizedVol floats index lookbacks.seventyTwoHours returns
  let lookbackVol ← realizedVol floats index lookbacks.ranking returns
  pure {
    return6h := return6h
    return24h := return24h
    return72h := return72h
    lookbackReturn := lookbackReturn
    vol24h := vol24h
    vol72h := vol72h
    lookbackVol := lookbackVol
    distance72hHighPct := distance72hHighPct }

def featureRows (lookbacks : CrossAssetFeatureLookbacks) :
    Except Fault (List CrossAssetFeatureRow) := do
  let returns ← hourlyReturns candles
  (range candles.length).mapM fun index => featureRow floats candles index lookbacks returns

end Features

def computeCrossAssetFeatures (floats : FloatArithmetic) (symbols : List String)
    (candles : String → List Candle) (lookbacks : CrossAssetFeatureLookbacks) :
    Except Fault CrossAssetFeatures :=
  symbols.foldlM (fun features symbol => do
    let rows ← featureRows floats (candles symbol) lookbacks
    pure (Function.update features symbol rows)) fun _ => []

section Decisions
variable (request : CrossAssetResearchRequest) (symbols : List String)
  (features : CrossAssetFeatures) (index : Nat)

def crossAssetScore (symbol : String) : Except Fault (Option CrossAssetScore) :=
  match (features symbol)[index]? with
  | none => .ok none
  | some feature =>
    match feature.lookbackReturn, request.rankMetric, feature.lookbackVol with
    | none, _, _ => .ok none
    | some returnValue, .rawReturn, _ => .ok (some ⟨symbol, returnValue, percent returnValue⟩)
    | some _, .volAdjustedReturn, none => .ok none
    | some returnValue, .volAdjustedReturn, some vol =>
      if vol ≤ 0 then .ok none
      else do
        let score ← checkedDiv returnValue vol
        pure (some ⟨symbol, score, percent returnValue⟩)

def crossAssetRanking : Except Fault (List CrossAssetScore) := do
  let scores ← symbols.mapM (crossAssetScore request features index)
  pure (SortByKey.sort (fun score : CrossAssetScore => toLex (-score.score, score.symbol))
    (scores.filterMap id))

def basketReturns (lookback : Nat) : Option (List Decimal) :=
  symbols.mapM fun symbol => do
    let feature ← (features symbol)[index]?
    match lookback with
    | 24 => feature.return24h
    | 72 => feature.return72h
    | _ => feature.lookbackReturn

def basketReturnPct (lookback : Nat) : Except Fault (Option Decimal) :=
  match basketReturns symbols features index lookback with
  | none => .ok none
  | some returns => (basketMean returns).map fun mean => some (percent mean)

def basketVolDecimal : Except Fault (Option Decimal) :=
  match symbols.mapM fun symbol => (features symbol)[index]?.bind (·.vol72h) with
  | none => .ok none
  | some vols => (basketMean vols).map some

def basketVolPct : Except Fault (Option Decimal) :=
  (basketVolDecimal symbols features index).map fun vol => vol.map percent

def crossAssetMarketFilterPasses : Except Fault Bool :=
  match request.marketFilter with
  | .none => .ok true
  | .basket72hReturnGt thresholdPct =>
    (basketReturnPct symbols features index 72).map fun mean =>
      mean.any fun value => thresholdPct < value
  | .basket24hReturnGt thresholdPct =>
    (basketReturnPct symbols features index 24).map fun mean =>
      mean.any fun value => thresholdPct < value
  | .atLeastNSymbolsPositive24h _ =>
    .ok (Research.crossAssetMarketFilterPasses request symbols features index)

def basketVolFilterPasses (threshold : Option Decimal) : Except Fault Bool :=
  match request.volFilter with
  | .basketVolBelowPercentile _ =>
    (basketVolDecimal symbols features index).map fun vol =>
      threshold.any fun limit => vol.any fun value => value ≤ limit
  | _ => .ok true

def crossAssetVolFilterPasses (selectedSymbol : String) : Except Fault Bool :=
  match request.volFilter with
  | .none | .basketVolBelowPercentile _ => .ok true
  | .assetNotExtremeVsBasket maxRatio =>
    match (features selectedSymbol)[index]?.bind (·.vol24h) with
    | none => .ok false
    | some assetVol =>
      let vols := symbols.filterMap fun symbol => (features symbol)[index]?.bind (·.vol24h)
      if vols.length ≠ symbols.length then .ok false
      else (basketMean vols).map fun basket => 0 < basket && assetVol ≤ basket * maxRatio

def crossAssetWeight (symbol : String) (medianVol24h : Decimal) : Except Fault Decimal :=
  match request.sizingMode with
  | .equalNotional => .ok request.maxWeight
  | .volatilityNormalized =>
    match (features symbol)[index]?.bind (·.vol24h) with
    | none => .ok request.minWeight
    | some vol =>
      if vol ≤ 0 ∨ medianVol24h ≤ 0 then .ok request.minWeight
      else (checkedDiv medianVol24h vol).map (clamp request.minWeight request.maxWeight)

def selectAt (basketVolThreshold : Option Decimal) :
    Except Fault (Option (CrossAssetScore × CrossAssetScore)) := do
  let marketPasses ← crossAssetMarketFilterPasses request symbols features index
  if !marketPasses then pure none
  else do
    let basketPasses ← basketVolFilterPasses request symbols features index basketVolThreshold
    if !basketPasses then pure none
    else do
      let ranking ← crossAssetRanking request symbols features index
      if ranking.length < symbols.length then pure none
      else do
        let top ← item ranking 0
        let second ← item ranking 1
        if top.returnPct ≤ request.minTopReturnPct then pure none
        else if top.returnPct - second.returnPct < request.minRankSpreadPct then pure none
        else do
          let volPasses ← crossAssetVolFilterPasses request symbols features index top.symbol
          if !volPasses then pure none
          else if !crossAssetOverextensionFilterPasses request features index top.symbol then pure none
          else pure (some (top, second))

end Decisions

def firstHit (rows : List Candle) (entry : Decimal) (hit : Decimal → Bool) :
    List Nat → Except Fault (Option Nat)
  | [] => .ok none
  | index :: rest => do
      let candle ← item rows index
      let ratio ← checkedDiv candle.close entry
      if hit (percent (ratio - 1)) then pure (some index) else firstHit rows entry hit rest

def exitOnHit (rows : List Candle) (entryIndex deadline : Nat) (entry : Decimal)
    (hit : Decimal → Bool) (reason : String) : Except Fault CrossAssetExit := do
  let found ← firstHit rows entry hit (range' entryIndex (deadline - entryIndex))
  match found with
  | some index => pure ⟨min (index + 1) (rows.length - 1), reason⟩
  | none => pure ⟨deadline, "fixed_hold"⟩

def crossAssetExitIndex (request : CrossAssetResearchRequest) (holdingCandles : Nat)
    (rows : List Candle) (entryIndex : Nat) : Except Fault (Option CrossAssetExit) :=
  let deadline := min (entryIndex + holdingCandles) (rows.length - 1)
  match rows[entryIndex]? with
  | none => .ok none
  | some entryCandle =>
    match request.exitRule with
    | .fixedHold => .ok (some ⟨deadline, "fixed_hold"⟩)
    | .stopPct stopPct =>
      (exitOnHit rows entryIndex deadline entryCandle.open (fun pnlPct => pnlPct ≤ -stopPct)
        "stop_pct").map some
    | .takeProfitPct takeProfitPct =>
      (exitOnHit rows entryIndex deadline entryCandle.open
        (fun pnlPct => takeProfitPct ≤ pnlPct) "take_profit_pct").map some

section Preparation
variable (floats : FloatArithmetic) (request : CrossAssetResearchRequest)

def researchPlan : Except Fault ResearchPlan := do
  request.validate
  let interval ← request.parsedTimeframe
  let ranking ← crossAssetHoursToCandles request.rankingLookbackHours interval
  let holding ← crossAssetHoursToCandles request.holdingHours interval
  let sixHours ← crossAssetHoursToCandles 6 interval
  let twentyFourHours ← crossAssetHoursToCandles 24 interval
  let seventyTwoHours ← crossAssetHoursToCandles 72 interval
  pure {
    interval := interval
    lookbacks := ⟨ranking, sixHours, twentyFourHours, seventyTwoHours⟩
    holding := holding
    requiredLookback := max (max (max ranking seventyTwoHours) twentyFourHours) sixHours }

def prepareCrossAssetData (candlesBySymbol : String → Option (List Candle)) :
    Except Fault CrossAssetData := do
  let plan ← researchPlan request
  let alignment ← request.lookupSymbols.foldlM
    (alignSymbol request plan.interval candlesBySymbol) ⟨none, fun _ => []⟩
  let times := alignment.alignedTimes.getD []
  let expected ← candlesBetween plan.interval request.startTime request.endTime
  checkCoverage expected (plan.interval.duration / 1000000000) plan.requiredLookback plan.holding times
  let rows := takeRows times request.lookupSymbols alignment.normalized fun _ => []
  let features ← computeCrossAssetFeatures floats request.lookupSymbols rows plan.lookbacks
  pure {
    times := times
    holding := plan.holding
    requiredLookback := plan.requiredLookback
    rows := rows
    features := features }

def basketVolPercentile (symbols : List String) (features : CrossAssetFeatures)
    (percentileValue : Decimal) : Except Fault (Option Decimal) := do
  let length := (symbols.min?.map fun symbol => (features symbol).length).getD 0
  let vols ← (range length).mapM (basketVolDecimal symbols features)
  percentileDecimal floats (vols.filterMap id) percentileValue

def basketVolThreshold (features : CrossAssetFeatures) : Except Fault (Option Decimal) :=
  match request.volFilter with
  | .basketVolBelowPercentile percentile =>
    basketVolPercentile floats request.lookupSymbols features percentile
  | _ => .ok none

def medianAssetVol24h (symbols : List String) (features : CrossAssetFeatures) :
    Except Fault (Option Decimal) :=
  percentileDecimal floats (symbols.flatMap fun symbol => (features symbol).filterMap (·.vol24h)) 50

def runLevels (data : CrossAssetData) : Except Fault RunLevels := do
  let basketVolThreshold ← basketVolThreshold floats request data.features
  let medianVol24h ← medianAssetVol24h floats request.lookupSymbols data.features
  pure ⟨basketVolThreshold, medianVol24h.getD 0⟩

end Preparation

section Loop
variable (request : CrossAssetResearchRequest) (data : CrossAssetData)

def buildTrade (medianVol24h : Decimal) (index tradeIndex : Nat) (top second : CrossAssetScore)
    (exit : CrossAssetExit) : Except Fault (Option CrossAssetPortfolioTrade) := do
  let symbols := request.lookupSymbols
  let entryCandle ← item (data.rows top.symbol) (index + 1)
  let exitCandle ← item (data.rows top.symbol) exit.index
  if entryCandle.open ≤ 0 then pure none
  else do
    let weight ← crossAssetWeight request data.features index top.symbol medianVol24h
    let ratio ← checkedDiv exitCandle.open entryCandle.open
    let grossPct := percent (ratio - 1)
    let feature ← item (data.features top.symbol) index
    let signalTime ← item data.times index
    let basketReturn24hPct ← basketReturnPct symbols data.features index 24
    let basketReturn72hPct ← basketReturnPct symbols data.features index 72
    let basketVol72hPct ← basketVolPct symbols data.features index
    let entryTime ← item data.times (index + 1)
    let exitTime ← item data.times exit.index
    pure (some {
      tradeIndex := tradeIndex
      symbol := top.symbol
      signalTime := signalTime
      entryTime := entryTime
      exitTime := exitTime
      entryPrice := entryCandle.open
      exitPrice := exitCandle.open
      weight := weight
      grossPnlPct := grossPct * weight
      netPnlPct := (grossPct - request.drag) * weight
      feeSlippageDragPct := request.drag * weight
      exitReason := exit.reason
      rankingSnapshot := {
        signalTime := signalTime
        selectedSymbol := top.symbol
        topScore := top.score
        secondScore := second.score
        rankSpreadPct := top.returnPct - second.returnPct
        topReturnPct := top.returnPct
        return6hPct := feature.return6h.map percent
        return24hPct := feature.return24h.map percent
        return72hPct := feature.return72h.map percent
        realizedVol24hPct := feature.vol24h.map percent
        realizedVol72hPct := feature.vol72h.map percent
        distanceFrom72hHighPct := feature.distance72hHighPct
        basketReturn24hPct := basketReturn24hPct
        basketReturn72hPct := basketReturn72hPct
        basketVol72hPct := basketVol72hPct } })

variable (levels : RunLevels)

def tradeUntil (index tradeIndex : Nat) (top second : CrossAssetScore) (exit : CrossAssetExit) :
    Except Fault (Option (CrossAssetPortfolioTrade × CrossAssetExit)) :=
  if exit.index ≤ index + 1 ∨ data.times.length ≤ exit.index then .ok none
  else
    (buildTrade request data levels.medianVol24h index tradeIndex top second exit).map fun trade =>
      trade.map fun trade => (trade, exit)

def tradeAt (index tradeIndex : Nat) :
    Except Fault (Option (CrossAssetPortfolioTrade × CrossAssetExit)) := do
  let selected ←
    selectAt request request.lookupSymbols data.features index levels.basketVolThreshold
  match selected with
  | none => pure none
  | some (top, second) => do
      let leaving ← crossAssetExitIndex request data.holding (data.rows top.symbol) (index + 1)
      match leaving with
      | none => pure none
      | some exit => tradeUntil request data levels index tradeIndex top second exit

def researchStep (state : ResearchState) (index : Nat) : Except Fault ResearchState :=
  if request.oneActivePosition && index < state.nextAvailableIndex then .ok state
  else (tradeAt request data levels index state.trades.length).map (state.record request)

end Loop

def runCrossAssetRelativeStrengthResearch (floats : FloatArithmetic)
    (request : CrossAssetResearchRequest) (candlesBySymbol : String → Option (List Candle)) :
    Except Fault (List CrossAssetPortfolioTrade) := do
  let data ← prepareCrossAssetData floats request candlesBySymbol
  let levels ← runLevels floats request data
  let final ← (range' data.requiredLookback
      (data.times.length - (data.holding + 1) - data.requiredLookback)).foldlM
    (researchStep request data levels) ⟨[], 0⟩
  pure final.trades

section Result
variable (floats : FloatArithmetic) (trades : List CrossAssetPortfolioTrade)

def equityNext (scan : EquityScan) (pnlPct : Decimal) : Except Fault EquityScan := do
  let equity := scan.equity * (1 + pnlPct / 100)
  let peak := max scan.peak equity
  if 0 < peak then do
    let ratio ← checkedDiv equity peak
    pure ⟨equity, peak, min scan.maxDrawdownPct (percent (ratio - 1))⟩
  else pure ⟨equity, peak, scan.maxDrawdownPct⟩

def crossAssetMetricSummary : Except Fault CrossAssetMetricSummary :=
  if trades.isEmpty then .ok ⟨0, 0, 0, 0, 0, 0, 0, 0⟩
  else do
    let pnlValues := trades.map (·.netPnlPct)
    let netPnlPct := pnlValues.sum
    let avgTradePnlPct ← checkedDiv netPnlPct trades.length
    let medianTradePnlPct ← medianDecimalVec floats pnlValues
    let wins := pnlValues.countP fun value => 0 < value
    let winRate ← checkedDiv (wins * 100) trades.length
    let scan ← pnlValues.foldlM equityNext ⟨1, 1, 0⟩
    pure {
      netPnlPct := netPnlPct
      compoundedPnlPct := percent (scan.equity - 1)
      avgTradePnlPct := avgTradePnlPct
      medianTradePnlPct := medianTradePnlPct
      winRate := winRate
      maxDrawdownPct := scan.maxDrawdownPct
      worstTradePct := pnlValues.min?.getD 0
      bestTradePct := pnlValues.max?.getD 0 }

def maxSymbolConcentrationPct (distribution : List (String × Int)) (totalTrades : Nat) :
    Except Fault Decimal :=
  if totalTrades = 0 then .ok 0
  else checkedDiv (((distribution.map (·.2)).max?.getD 0 : Int) * 100) totalTrades

def crossAssetWindow (index : Int) (windowStart windowEnd : DateTime)
    (windowTrades : List CrossAssetPortfolioTrade) : Except Fault CrossAssetPortfolioWindow := do
  let summary ← crossAssetMetricSummary floats windowTrades
  pure {
    windowIndex := index
    windowStart := windowStart
    windowEnd := windowEnd
    tradeCount := windowTrades.length
    netPnlPct := summary.netPnlPct
    compoundedPnlPct := summary.compoundedPnlPct
    avgTradePnlPct := summary.avgTradePnlPct
    medianTradePnlPct := summary.medianTradePnlPct
    winRate := summary.winRate
    maxDrawdownPct := summary.maxDrawdownPct
    worstTradePct := summary.worstTradePct
    bestTradePct := summary.bestTradePct
    symbolDistribution := symbolDistribution windowTrades }

def crossAssetWindowsFrom (endTime : DateTime) (index : Int) (cursor : DateTime) :
    Except Fault (List CrossAssetPortfolioWindow) :=
  if cursor < endTime then do
    let windowEnd := min (cursor + windowSpan) endTime
    let window ← crossAssetWindow floats index cursor windowEnd (windowTrades cursor windowEnd trades)
    let rest ← crossAssetWindowsFrom endTime (index + 1) windowEnd
    pure (window :: rest)
  else .ok []
termination_by (endTime - cursor).toNat
decreasing_by exact toNat_sub_window_lt ‹_›

def hasWeak2025Plus : Except Fault Bool := do
  let early ← crossAssetMetricSummary floats (trades.filter fun trade => trade.entryTime < year2025)
  let late ← crossAssetMetricSummary floats (trades.filter fun trade => year2025 ≤ trade.entryTime)
  pure (20 < early.compoundedPnlPct && late.compoundedPnlPct < 5)

def completeCrossAssetRun (runId : Uuid) (request : CrossAssetResearchRequest) :
    Except Fault CrossAssetResearchRun := do
  let windows ← crossAssetWindowsFrom floats trades request.endTime 0 request.startTime
  let summary ← crossAssetMetricSummary floats trades
  let windowPnls := windows.map (·.compoundedPnlPct)
  let distribution := symbolDistribution trades
  let concentration ← maxSymbolConcentrationPct distribution trades.length
  let worstWindowPnlPct := windowPnls.min?.getD 0
  let medianWindowPnlPct ← medianDecimalVec floats windowPnls
  let weak ← hasWeak2025Plus floats trades
  let portfolioStatus :=
    classifyCrossAssetPortfolio trades.length summary concentration worstWindowPnlPct
  pure {
    result := {
      runId := runId
      request := request
      portfolioStatus := portfolioStatus
      recommendation := portfolioStatus.recommendation
      totalTrades := trades.length
      netPnlPct := summary.netPnlPct
      compoundedPnlPct := summary.compoundedPnlPct
      avgTradePnlPct := summary.avgTradePnlPct
      medianTradePnlPct := summary.medianTradePnlPct
      winRate := summary.winRate
      maxDrawdownPct := summary.maxDrawdownPct
      worstTradePct := summary.worstTradePct
      bestTradePct := summary.bestTradePct
      feeSlippageDragPct := (trades.map (·.feeSlippageDragPct)).sum
      symbolDistribution := distribution
      maxSymbolConcentrationPct := concentration
      windowCount := windows.length
      profitableWindows := windows.countP fun window => 0 < window.compoundedPnlPct
      worstWindowPnlPct := worstWindowPnlPct
      medianWindowPnlPct := medianWindowPnlPct
      warnings :=
        (if 60 < concentration then ["max_symbol_concentration_gt_60_pct"] else []) ++
        (if worstWindowPnlPct < -15 then ["worst_window_below_minus_15_pct"] else []) ++
        (if weak then ["2025_plus_weak_relative_to_2023_2024"] else []) }
    trades := trades
    windows := windows }

end Result

def crossAssetResearchRun (floats : FloatArithmetic) (runId : Uuid)
    (request : CrossAssetResearchRequest) (candlesBySymbol : String → Option (List Candle)) :
    Except Fault CrossAssetResearchRun := do
  let trades ← runCrossAssetRelativeStrengthResearch floats request candlesBySymbol
  completeCrossAssetRun floats trades runId request

end AegisQuant.Research.Checked
