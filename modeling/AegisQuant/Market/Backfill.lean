import AegisQuant.Market.StoredCandles
import AegisQuant.Market.Aggregation
import AegisQuant.Library.Fallible

/-! Candles from outside the live builder. Exchange kline rows and aggregated
minutes are written in batches, which count the rows they insert, update and
leave as they are. -/
namespace AegisQuant.Market
open Transition List Option CandleHistory

def timestampMillisOpt (millis : Int) : Option DateTime :=
  if -8334601228800000 ≤ millis ∧ millis ≤ 8210266876799999 then some (DateTime.milliseconds millis)
  else none

structure BinanceKlineRow where
  openTime : Int
  «open» : String
  high : String
  low : String
  close : String
  volume : String
  closeTime : Int
  quoteVolume : String
  tradeCount : Int

def i32TryFrom (value : Int) (error : String) : Except String Int :=
  if -2147483648 ≤ value ∧ value ≤ 2147483647 then .ok value else .error error

def binanceKlineRowToClosedCandle (parseDecimal : String → Except String Decimal)
    (row : BinanceKlineRow) (symbol : Symbol) (interval : CandleInterval) (now : DateTime) :
    Except String (Option Candle) :=
  match timestampMillisOpt row.openTime with
  | none => .error "invalid Binance kline open_time"
  | some openTime =>
    match timestampMillisOpt row.closeTime with
    | none => .error "invalid Binance kline close_time"
    | some closeTime =>
      let expectedCloseTime := openTime + interval.duration - DateTime.milliseconds 1
      if closeTime ≠ expectedCloseTime ∨ closeTime ≥ now then .ok none
      else do
        let openPrice ← parseDecimal row.open
        let high ← parseDecimal row.high
        let low ← parseDecimal row.low
        let close ← parseDecimal row.close
        let volume ← parseDecimal row.volume
        let quoteVolume ← parseDecimal row.quoteVolume
        let tradeCount ← i32TryFrom row.tradeCount "trade_count exceeds i32"
        pure (some {
          symbol := symbol
          interval := interval
          openTime := openTime
          closeTime := closeTime
          «open» := openPrice
          high := high
          low := low
          close := close
          volume := volume
          quoteVolume := some quoteVolume
          tradeCount := tradeCount
          isClosed := true })

structure CandleUpsertBatchResult where
  insertedCandles : Nat
  updatedCandles : Nat
  skippedCandles : Nat
  deriving DecidableEq

/-- The last candle of each open time, in the order of the open times. -/
def dedupeCandlesForUpsert (candles : List Candle) : List Candle :=
  (Groups.group (·.openTime) candles).filterMap fun bucket => bucket.2.getLast?

def candleMatchesRecord (candle record : Candle) : Bool :=
  candle.symbol = record.symbol
    && candle.interval = record.interval
    && candle.openTime = record.openTime
    && candle.closeTime = record.closeTime
    && candle.open = record.open
    && candle.high = record.high
    && candle.low = record.low
    && candle.close = record.close
    && candle.volume = record.volume
    && candle.quoteVolume = record.quoteVolume
    && candle.tradeCount = record.tradeCount
    && candle.isClosed = record.isClosed

/-- The rows are read once, before the first is written. -/
def upsertExisting (existing : DateTime → Option Candle)
    (state : CandleTable × CandleUpsertBatchResult) (candle : Candle) :
    CandleTable × CandleUpsertBatchResult :=
  let (table, outcome) := state
  match existing candle.openTime with
  | none =>
    (upsertCandle table candle, { outcome with insertedCandles := outcome.insertedCandles + 1 })
  | some record =>
    if candleMatchesRecord candle record then
      (table, { outcome with skippedCandles := outcome.skippedCandles + 1 })
    else
      (upsertCandle table candle, { outcome with updatedCandles := outcome.updatedCandles + 1 })

/-- The symbol and the interval of the first candle select the rows. -/
def upsertCandlesBatch (table : CandleTable) (candles : List Candle) :
    CandleTable × CandleUpsertBatchResult :=
  match dedupeCandlesForUpsert candles with
  | [] => (table, ⟨0, 0, 0⟩)
  | first :: rest =>
    let existing openTime := table.find? (first.symbol, first.interval, openTime)
    (first :: rest).foldl (upsertExisting existing) (table, ⟨0, 0, 0⟩)

section Producers

/-- What the live builder has emitted as closed in some run. -/
def LiveBuilt (candle : Candle) : Prop :=
  ∃ symbol trades, candle ∈ (run feedTrade (.start symbol candle.interval) trades).emitted

/-- A closed candle from a kline row or from closed minutes. -/
inductive Backfilled (parseDecimal : String → Except String Decimal) : Candle → Prop where
  | kline (row : BinanceKlineRow) (symbol : Symbol) (interval : CandleInterval) (now : DateTime)
      (candle : Candle)
      (hDecoded : binanceKlineRowToClosedCandle parseDecimal row symbol interval now =
        .ok (some candle)) : Backfilled parseDecimal candle
  | aggregated (minutes : List Candle) (target : CandleInterval) (candle : Candle)
      (hCandle : candle ∈ (aggregateClosed1mCandles minutes target).candles) :
      Backfilled parseDecimal candle

def EndsAtNext (candle : Candle) : Prop := candle.closeTime = candle.openTime + candle.interval.duration

def EndsBeforeNext (candle : Candle) : Prop :=
  candle.closeTime = candle.openTime + candle.interval.duration - DateTime.milliseconds 1

variable {candle : Candle}

theorem not_endsAtNext_of_endsBeforeNext {live : Candle} (hBefore : EndsBeforeNext candle)
    (hAt : EndsAtNext live) (hInterval : candle.interval = live.interval)
    (hOpen : candle.openTime = live.openTime) :
    live.closeTime = candle.closeTime + DateTime.milliseconds 1 := by
  rw [hBefore, hAt, hInterval, hOpen]
  exact (Int.sub_add_cancel _ _).symm

/-- The candles of a history are of the builder's interval. -/
structure EndsAtNextThroughout (interval : CandleInterval) (history : CandleHistory) : Prop where
  builder : history.builder.interval = interval
  candles : ∀ candle ∈ history.candles, candle.interval = interval ∧ EndsAtNext candle

variable {interval : CandleInterval}

theorem EndsAtNextThroughout.feedTrade {history : CandleHistory}
    (hEnds : EndsAtNextThroughout interval history) (trade : MarketTrade) :
    EndsAtNextThroughout interval (feedTrade history trade) := by
  obtain ⟨hInterval, hCandles⟩ := hEnds
  simp only [CandleHistory.candles, mem_append, mem_toList] at hCandles
  unfold Market.feedTrade
  rcases applyTrade_cases history.builder trade with ⟨-, error, hRefused⟩ |
    ⟨-, ⟨-, hFirst⟩ | ⟨active, hActive, ⟨-, hUpdated⟩ | ⟨-, hRolled⟩⟩⟩
  · rw [hRefused]
    exact ⟨hInterval, by simpa only [CandleHistory.candles, mem_append, mem_toList]⟩
  · rw [hFirst]
    refine ⟨hInterval, ?_⟩
    simp only [CandleHistory.candles, mem_append, toList_none, toList_some,
      not_mem_nil, or_false, mem_singleton]
    rintro candle (hEmitted | rfl)
    · exact hCandles candle (.inl hEmitted)
    · exact ⟨hInterval, rfl⟩
  · rw [hUpdated]
    refine ⟨hInterval, ?_⟩
    simp only [CandleHistory.candles, mem_append, toList_none, toList_some,
      not_mem_nil, or_false, mem_singleton]
    rintro candle (hEmitted | rfl)
    · exact hCandles candle (.inl hEmitted)
    · exact hCandles active (.inr hActive)
  · rw [hRolled]
    refine ⟨hInterval, ?_⟩
    simp only [CandleHistory.candles, mem_append, toList_some, mem_singleton]
    rintro candle ((hEmitted | rfl) | rfl)
    · exact hCandles candle (.inl hEmitted)
    · exact hCandles active (.inr hActive)
    · exact ⟨hInterval, rfl⟩

theorem LiveBuilt.endsAtNext (hLive : LiveBuilt candle) : EndsAtNext candle := by
  obtain ⟨symbol, trades, hEmitted⟩ := hLive
  have hStart : EndsAtNextThroughout candle.interval (.start symbol candle.interval) :=
    ⟨rfl, by simp [start, candles, CandleBuilder.new]⟩
  have hRun := run_invariant (fun _ trade hEnds => hEnds.feedTrade trade) trades hStart
  exact (hRun.candles candle (mem_append_left _ hEmitted)).2

variable {parseDecimal : String → Except String Decimal}

theorem endsBeforeNext_of_kline {row : BinanceKlineRow} {symbol : Symbol} {now : DateTime}
    (hDecoded : binanceKlineRowToClosedCandle parseDecimal row symbol interval now =
      .ok (some candle)) : EndsBeforeNext candle := by
  unfold binanceKlineRowToClosedCandle at hDecoded
  split at hDecoded
  · cases hDecoded
  · rename_i openTime hOpenTime
    split at hDecoded
    · cases hDecoded
    · rename_i closeTime hCloseTime
      dsimp only at hDecoded
      split at hDecoded
      · cases hDecoded
      · rename_i hExpected
        rw [not_or, not_not] at hExpected
        simp only [Fallible.bind_eq_ok] at hDecoded
        obtain ⟨_, -, _, -, _, -, _, -, _, -, _, -, _, -, hCandle⟩ := hDecoded
        cases hCandle
        exact hExpected.1

theorem Backfilled.endsBeforeNext (hBackfilled : Backfilled parseDecimal candle) :
    EndsBeforeNext candle := by
  cases hBackfilled with
  | kline row symbol interval now _ hDecoded => exact endsBeforeNext_of_kline hDecoded
  | aggregated minutes target _ hCandle =>
    have hAggregate := aggregateOf_of_mem hCandle
    rw [EndsBeforeNext, hAggregate.closeTime, hAggregate.interval]

end Producers

section Batches
variable {existing : DateTime → Option Candle} {candles : List Candle}

theorem closeTime_of_matches {candle record : Candle}
    (hMatches : candleMatchesRecord candle record = true) : candle.closeTime = record.closeTime := by
  simp only [candleMatchesRecord, Bool.and_eq_true, decide_eq_true_eq] at hMatches
  exact hMatches.1.1.1.1.1.1.1.1.2

theorem foldl_upsertExisting
    (hDiffers : ∀ candle ∈ candles, ∀ record, existing candle.openTime = some record →
      candleMatchesRecord candle record = false)
    (table : CandleTable) (outcome : CandleUpsertBatchResult) :
    (candles.foldl (upsertExisting existing) (table, outcome)).2 =
      ⟨outcome.insertedCandles + candles.countP fun candle => (existing candle.openTime).isNone,
        outcome.updatedCandles + candles.countP fun candle => (existing candle.openTime).isSome,
        outcome.skippedCandles⟩ := by
  induction candles generalizing table outcome with
  | nil => rfl
  | cons candle rest ih =>
    obtain ⟨hCandle, hRest⟩ := forall_mem_cons.mp hDiffers
    rw [foldl_cons, countP_cons, countP_cons]
    cases hRecord : existing candle.openTime with
    | none =>
      simp only [upsertExisting, hRecord, ih hRest, isNone_none, isSome_none,
        if_true, Bool.false_eq_true, if_false, CandleUpsertBatchResult.mk.injEq]
      exact ⟨by omega, rfl, trivial⟩
    | some record =>
      simp only [upsertExisting, hRecord, hCandle record hRecord, ih hRest, isNone_some,
        isSome_some, if_true, Bool.false_eq_true, if_false,
        CandleUpsertBatchResult.mk.injEq]
      exact ⟨rfl, by omega, trivial⟩

theorem mem_of_mem_dedupe {candle : Candle} (hCandle : candle ∈ dedupeCandlesForUpsert candles) :
    candle ∈ candles :=
  Groups.mem_of_mem_lasts hCandle

theorem upsertCandlesBatch_of_differs {symbol : Symbol} {interval : CandleInterval}
    {table : CandleTable}
    (hKeys : ∀ candle ∈ candles, candle.symbol = symbol ∧ candle.interval = interval)
    (hDiffers : ∀ candle ∈ candles, ∀ row, table.find? (candleKey candle) = some row →
      candleMatchesRecord candle row = false) :
    (upsertCandlesBatch table candles).2 =
      ⟨(dedupeCandlesForUpsert candles).countP fun candle => (table.find? (candleKey candle)).isNone,
        (dedupeCandlesForUpsert candles).countP fun candle => (table.find? (candleKey candle)).isSome,
        0⟩ := by
  have hSelected : ∀ candle ∈ dedupeCandlesForUpsert candles,
      candleKey candle = (symbol, interval, candle.openTime) := by
    intro candle hCandle
    obtain ⟨hSymbol, hInterval⟩ := hKeys candle (mem_of_mem_dedupe hCandle)
    rw [candleKey, hSymbol, hInterval]
  unfold upsertCandlesBatch
  split
  · rename_i hEmpty
    rw [hEmpty]
    rfl
  · rename_i first rest hDeduped
    rw [← hDeduped]
    obtain ⟨hSymbol, hInterval⟩ := hKeys first (mem_of_mem_dedupe (hDeduped ▸ mem_cons_self ..))
    rw [hSymbol, hInterval, foldl_upsertExisting]
    · simp only [Nat.zero_add]
      congr 1
      · exact countP_congr fun candle hCandle => by rw [hSelected candle hCandle]
      · exact countP_congr fun candle hCandle => by rw [hSelected candle hCandle]
    · intro candle hCandle row hRow
      rw [← hSelected candle hCandle] at hRow
      exact hDiffers candle (mem_of_mem_dedupe hCandle) row hRow

end Batches

/-- A live candle ends where the next one starts, a backfilled one a
millisecond earlier: over a row of the same bucket the batch always counts an
update. -/
theorem backfill_never_agrees (parseDecimal : String → Except String Decimal) :
    (∀ live candle, LiveBuilt live → Backfilled parseDecimal candle →
      candle.interval = live.interval →
        ¬(candle.openTime = live.openTime ∧ candle.closeTime = live.closeTime)) ∧
    ∀ (symbol : Symbol) (interval : CandleInterval) (table : CandleTable) (candles : List Candle),
      (∀ candle ∈ candles, Backfilled parseDecimal candle ∧ candle.symbol = symbol ∧
        candle.interval = interval) →
      (∀ candle ∈ candles, ∀ row, table.find? (candleKey candle) = some row → LiveBuilt row) →
      (upsertCandlesBatch table candles).2 = ⟨(dedupeCandlesForUpsert candles).countP fun candle =>
            (table.find? (candleKey candle)).isNone,
          (dedupeCandlesForUpsert candles).countP fun candle =>
            (table.find? (candleKey candle)).isSome, 0⟩ := by
  have hNever : ∀ live candle, LiveBuilt live → Backfilled parseDecimal candle →
      candle.interval = live.interval →
        ¬(candle.openTime = live.openTime ∧ candle.closeTime = live.closeTime) := by
    intro live candle hLive hBackfilled hInterval ⟨hOpen, hClose⟩
    have hLater := not_endsAtNext_of_endsBeforeNext hBackfilled.endsBeforeNext hLive.endsAtNext
      hInterval hOpen
    rw [← hClose] at hLater
    exact absurd hLater (Int.lt_add_of_pos_right _ (by decide)).ne
  refine ⟨hNever, ?_⟩
  intro symbol interval table candles hCandles hRows
  refine upsertCandlesBatch_of_differs (fun candle hCandle => (hCandles candle hCandle).2) ?_
  intro candle hCandle row hRow
  have hKey := Table.key_of_find? hRow
  simp only [candleKey, Prod.mk.injEq] at hKey
  obtain ⟨-, hInterval, hOpen⟩ := hKey
  by_contra hMatches
  rw [Bool.not_eq_false] at hMatches
  exact hNever row candle (hRows candle hCandle row hRow) (hCandles candle hCandle).1
    hInterval.symm ⟨hOpen.symm, closeTime_of_matches hMatches⟩

def sampleLive : Candle where
  symbol := .btcusdt
  interval := .oneMinute
  openTime := 0
  closeTime := DateTime.seconds 60
  «open» := 100
  high := 100
  low := 100
  close := 100
  volume := 2
  quoteVolume := some 200
  tradeCount := 1
  isClosed := true

def sampleBackfilled : Candle := { sampleLive with closeTime := DateTime.milliseconds 59999 }

def sampleRow : BinanceKlineRow where
  openTime := 0
  «open» := "100"
  high := "100"
  low := "100"
  close := "100"
  volume := "2"
  closeTime := 59999
  quoteVolume := "200"
  tradeCount := 1

def sampleParseDecimal : String → Except String Decimal
  | "100" => .ok 100
  | "2" => .ok 2
  | "200" => .ok 200
  | _ => .error "Invalid decimal: unknown character"

theorem liveBuilt_sample : LiveBuilt sampleLive :=
  ⟨.btcusdt, [⟨100, 2, DateTime.seconds 1⟩, ⟨100, 1, DateTime.seconds 61⟩], by decide +kernel⟩

theorem backfilled_sample : Backfilled sampleParseDecimal sampleBackfilled :=
  .kline sampleRow .btcusdt .oneMinute (DateTime.seconds 120) _ (by decide +kernel)

theorem backfill_never_agrees_sample : ¬(sampleBackfilled.openTime = sampleLive.openTime ∧
        sampleBackfilled.closeTime = sampleLive.closeTime) ∧
      (upsertCandlesBatch (upsertCandle .empty sampleLive) [sampleBackfilled]).2 = ⟨0, 1, 0⟩ := by
  obtain ⟨hPair, hBatch⟩ := backfill_never_agrees sampleParseDecimal
  refine ⟨hPair sampleLive sampleBackfilled liveBuilt_sample backfilled_sample rfl, ?_⟩
  rw [hBatch .btcusdt .oneMinute (upsertCandle .empty sampleLive) [sampleBackfilled]]
  · decide +kernel
  · intro candle hCandle
    rw [mem_singleton.mp hCandle]
    exact ⟨backfilled_sample, rfl, rfl⟩
  · intro candle hCandle row hRow
    rw [mem_singleton.mp hCandle] at hRow
    have hStored : (upsertCandle .empty sampleLive).find? (candleKey sampleBackfilled) =
        some sampleLive := find?_upsertCandle_self _ sampleLive
    cases hStored.symm.trans hRow
    exact liveBuilt_sample

/-- Equal in everything but the close time, and counted as an update. -/
theorem equal_candle_counted_as_update :
    ¬∀ live candle, LiveBuilt live → Backfilled sampleParseDecimal candle →
      { candle with closeTime := live.closeTime } = live → candle.closeTime = live.closeTime ∧
          (upsertCandlesBatch (upsertCandle .empty live) [candle]).2 = ⟨0, 0, 1⟩ := by
  intro hAgree
  have hSame := hAgree sampleLive sampleBackfilled liveBuilt_sample backfilled_sample rfl
  exact absurd hSame.2 (by decide +kernel)

end AegisQuant.Market
