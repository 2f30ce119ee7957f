import AegisQuant.Market.CandleQueries
import AegisQuant.Market.Continuity
import AegisQuant.Strategy.RecentCandles
import AegisQuant.Strategy.SourceCandle
import AegisQuant.Testnet.Shadow

/-! The candles of a shadow run. They are the most recent closed ones of the
candle table, and a run that finds too few, too old or broken ones does not
evaluate its strategy. -/
namespace AegisQuant.Testnet
open Fallible Market Strategy SortByKey List

def shadowCandleMaxAgeMs (config : StrategyConfig) (timeframe : CandleInterval) : Int :=
  max config.maxSignalAgeMs (timeframe.duration / 1000000)

section Readiness
variable (display : Decimal → String)

def shadowQualityRequest (symbol : Symbol) (timeframe : CandleInterval) (first latest : Candle) :
    MarketDataQualityRequest where
  exchange := .binance
  symbol := symbol.text
  interval := timeframe.asStr
  startTime := first.openTime
  endTime := latest.openTime + timeframe.duration
  expectedIntervalSeconds := some timeframe.numSeconds
  maxAllowedGapCount := some 0
  maxAllowedGapPct := some 0

def shadowCandleBlockReason (symbol : Symbol) (timeframe : CandleInterval) (config : StrategyConfig)
    (evaluatedAt : DateTime) (candles : List Candle) :
    Except Fault (Option TestnetShadowRejectionReason) :=
  if candles.length < requiredCandleCount config then .ok (some .insufficientHistory)
  else match candles.head?, candles.getLast? with
    | some first, some latest =>
      if shadowCandleMaxAgeMs config timeframe < (evaluatedAt - latest.closeTime).tdiv 1000000 then
        .ok (some .candleDataStale)
      else do
        let quality ← (summarizeCandleContinuity display evaluatedAt
          (shadowQualityRequest symbol timeframe first latest) candles 5).mapError Fault.core
        if quality.status = .bad ∨ quality.status = .degraded ∨
            quality.status = .insufficientData then return some .dataStale
        else return none
    | _, _ => .ok (some .insufficientHistory)

def loadShadowCandleReadiness (candles : CandleTable) (symbol : Symbol) (timeframe : CandleInterval)
    (config : StrategyConfig) (evaluatedAt : DateTime) : Except Fault ShadowCandleReadiness := do
  let recent := getRecentClosedCandles candles symbol timeframe (requiredCandleCount config)
  let blockReason ← shadowCandleBlockReason display symbol timeframe config evaluatedAt recent
  return ⟨recent, blockReason⟩

/-- A run that loads its candles from the table and evaluates its strategy on
them. -/
def runShadowOn (service : Service) (desk : Desk) (candles : CandleTable) (call : ShadowCall) :
    Desk × Except RequestError TestnetShadowRunRecord :=
  match shadowSetup service call with
  | .error err => (desk, .error err)
  | .ok setup =>
    match loadShadowCandleReadiness display candles setup.symbol setup.timeframe call.config
        call.now with
    | .error fault => (desk, .error (.failed "failed_to_run_testnet_shadow" fault))
    | .ok readiness => runTestnetShadowOnce service desk
        { call with rules := strategyRules, readiness := readiness }

end Readiness

section Recent
variable {candles : CandleTable} {symbol : Symbol} {interval : CandleInterval} {limit : Nat}

theorem normalizeClosedCandles_getRecentClosedCandles :
    normalizeClosedCandles (getRecentClosedCandles candles symbol interval limit) =
      getRecentClosedCandles candles symbol interval limit := by
  have hSublist : (getRecentClosedCandles candles symbol interval limit).Sublist
      (closedCandles candles symbol interval) := drop_sublist ..
  have hSorted := (strict_closedCandles candles symbol interval).sublist hSublist
  have hClosed : (getRecentClosedCandles candles symbol interval limit).filter (·.isClosed) =
      getRecentClosedCandles candles symbol interval limit := by
    rw [filter_eq_self]
    exact fun candle hCandle => (mem_closedCandles.mp (hSublist.subset hCandle)).2.2.2
  calc normalizeClosedCandles (getRecentClosedCandles candles symbol interval limit)
      = sort (·.openTime) (getRecentClosedCandles candles symbol interval limit) :=
        congrArg _ hClosed
    _ = _ := sort_of_pairwise (hSorted.imp le_of_lt)

theorem candles_of_loadShadowCandleReadiness {display : Decimal → String} {config : StrategyConfig}
    {evaluatedAt : DateTime} {readiness : ShadowCandleReadiness}
    (hReady : loadShadowCandleReadiness display candles symbol interval config evaluatedAt =
      .ok readiness) : normalizeClosedCandles readiness.candles = readiness.candles := by
  obtain ⟨blockReason, -, hReady⟩ := bind_eq_ok.mp hReady
  rw [pure_eq_ok] at hReady
  rw [← hReady]
  exact normalizeClosedCandles_getRecentClosedCandles

end Recent

end AegisQuant.Testnet
