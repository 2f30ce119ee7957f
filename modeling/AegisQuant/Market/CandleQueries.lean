import AegisQuant.Library.SortByKey
import AegisQuant.Market.StoredCandles

/-! The closed candles of a symbol and interval, as the queries read them from
the candle table. -/
namespace AegisQuant.Market
open SortByKey List

/-- In the order of their open times, of which no two are the same. -/
def closedCandles (table : CandleTable) (symbol : Symbol) (interval : CandleInterval) : List Candle :=
  sort (·.openTime) (table.rows.filter fun candle =>
    candle.symbol = symbol ∧ candle.interval = interval ∧ candle.isClosed)

/-- The last `limit` of them. -/
def getRecentClosedCandles (table : CandleTable) (symbol : Symbol) (interval : CandleInterval)
    (limit : Nat) : List Candle :=
  (closedCandles table symbol interval).rtake limit

def getLatestClosedCandleTime (table : CandleTable) (symbol : Symbol) (interval : CandleInterval) :
    Option DateTime :=
  (closedCandles table symbol interval).getLast?.map (·.closeTime)

def getClosed1mCandlesRange (table : CandleTable) (symbol : Symbol)
    (startTime endTime : DateTime) : List Candle :=
  (closedCandles table symbol .oneMinute).filter fun candle =>
    startTime ≤ candle.openTime ∧ candle.closeTime ≤ endTime

section Closed
variable {table : CandleTable} {symbol : Symbol} {interval : CandleInterval} {candle : Candle}

theorem mem_closedCandles : candle ∈ closedCandles table symbol interval ↔
    candle ∈ table.rows ∧ candle.symbol = symbol ∧ candle.interval = interval ∧
      candle.isClosed = true := by
  rw [closedCandles, (perm_sort _ _).mem_iff, mem_filter, decide_eq_true_iff]

theorem mem_closedCandles_iff_find? : candle ∈ closedCandles table symbol interval ↔
    table.find? (symbol, interval, candle.openTime) = some candle ∧ candle.isClosed = true := by
  rw [mem_closedCandles, Table.find?_eq_some, candleKey]
  constructor
  · rintro ⟨hRow, rfl, rfl, hClosed⟩
    exact ⟨⟨hRow, rfl⟩, hClosed⟩
  · rintro ⟨⟨hRow, hKey⟩, hClosed⟩
    simp only [Prod.mk.injEq, and_true] at hKey
    exact ⟨hRow, hKey.1, hKey.2, hClosed⟩

section
variable (table : CandleTable) (symbol : Symbol) (interval : CandleInterval)

theorem nodup_openTimes :
    ((table.rows.filter fun candle => candle.symbol = symbol ∧ candle.interval = interval ∧
      candle.isClosed).map (·.openTime)).Nodup := by
  rw [List.Nodup, pairwise_map, pairwise_filter]
  refine (pairwise_map.mp table.unique).imp fun {first second} hKeys => ?_
  intro hFirst hSecond hSame
  simp only [decide_eq_true_eq] at hFirst hSecond
  refine hKeys ?_
  rw [candleKey, candleKey, hFirst.1, hFirst.2.1, hSecond.1, hSecond.2.1, hSame]

theorem strict_closedCandles : (closedCandles table symbol interval).Pairwise fun first second =>
      first.openTime < second.openTime :=
  strict_sort (nodup_openTimes table symbol interval)

end

theorem getLatestClosedCandleTime_eq_some {latest : DateTime}
    (hLatest : getLatestClosedCandleTime table symbol interval = some latest) :
    ∃ last ∈ closedCandles table symbol interval, last.closeTime = latest ∧
      ∀ candle ∈ closedCandles table symbol interval, candle.openTime ≤ last.openTime := by
  obtain ⟨last, hLast, hClose⟩ := Option.map_eq_some_iff.mp hLatest
  refine ⟨last, mem_of_mem_getLast? hLast, hClose, fun candle hCandle => ?_⟩
  obtain ⟨earlier, hSplit⟩ := getLast?_eq_some_iff.mp hLast
  have hStrict := strict_closedCandles table symbol interval
  rw [hSplit] at hStrict hCandle
  rcases mem_append.mp hCandle with hEarlier | hSame
  · exact ((pairwise_append.mp hStrict).2.2 candle hEarlier last
      (mem_singleton_self _)).le
  · rw [mem_singleton.mp hSame]

theorem getLatestClosedCandleTime_eq_none : getLatestClosedCandleTime table symbol interval = none ↔
      closedCandles table symbol interval = [] := by
  rw [getLatestClosedCandleTime, Option.map_eq_none_iff, getLast?_eq_none_iff]

end Closed

end AegisQuant.Market
