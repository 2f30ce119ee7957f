import AegisQuant.Market.Backfill
import AegisQuant.Store.Columns

/-! The `candles` table with all of its columns, and the batch upsert over it.
A row holds what its columns keep of a candle: eight decimals and whole
microseconds. The comparison with the rows that are there covers the columns
the upsert writes, so that a batch upsert stores and keeps exactly the candles
that its columns hold as they are. -/
namespace AegisQuant.Store
open Market Fallible Groups List Option

inductive MarketDataSource where
  | binance
  deriving DecidableEq, Repr

def MarketDataSource.asStr : MarketDataSource → String
  | .binance => "binance"

structure IdentifiedCandle extends Candle where
  id : Uuid
  exchange : MarketDataSource
  createdAt : DateTime
  updatedAt : DateTime

/-- A row of `candles`. -/
structure CandleRecord where
  id : Uuid
  exchange : String
  symbol : String
  interval : String
  openTime : DateTime
  closeTime : DateTime
  «open» : Decimal
  high : Decimal
  low : Decimal
  close : Decimal
  volume : Decimal
  quoteVolume : Option Decimal
  tradeCount : Int
  isClosed : Bool
  createdAt : DateTime
  updatedAt : DateTime

abbrev CandleKey := String × String × String × DateTime

/-- The columns of `uq_candles_exchange_symbol_interval_open_time`. -/
def CandleRecord.key (record : CandleRecord) : CandleKey :=
  (record.exchange, record.symbol, record.interval, record.openTime)

def IdentifiedCandle.key (candle : IdentifiedCandle) : CandleKey :=
  (candle.exchange.asStr, candle.symbol.text, candle.interval.asStr, candle.openTime)

def IdentifiedCandle.decimals (candle : IdentifiedCandle) : List Decimal :=
  [candle.open, candle.high, candle.low, candle.close, candle.volume] ++ candle.quoteVolume.toList

def CandleRecord.decimals (record : CandleRecord) : List Decimal :=
  [record.open, record.high, record.low, record.close, record.volume] ++ record.quoteVolume.toList

/-- What a row can hold. -/
def CandleRecord.Held (record : CandleRecord) : Prop :=
  timestamptz record.openTime = record.openTime ∧ timestamptz record.closeTime = record.closeTime ∧
    ∀ value ∈ record.decimals, numeric value = value

/-- The columns hold the candle as it is. -/
def HeldExactly (candle : IdentifiedCandle) : Prop :=
  timestamptz candle.openTime = candle.openTime ∧ timestamptz candle.closeTime = candle.closeTime ∧
    ∀ value ∈ candle.decimals, numeric value = value

instance (candle : IdentifiedCandle) : Decidable (HeldExactly candle) :=
  inferInstanceAs (Decidable (_ ∧ _ ∧ _))

/-- Both unique constraints of the table, and rows its columns can hold. -/
structure CandleStore where
  table : Table CandleRecord.key
  ids : (table.rows.map (·.id)).Nodup
  held : ∀ row ∈ table.rows, row.Held

inductive CandleStoreError where
  | numericOverflow
  | duplicateId
  deriving DecidableEq, Repr

def candleRow (candle : IdentifiedCandle) : CandleRecord where
  id := candle.id
  exchange := candle.exchange.asStr
  symbol := candle.symbol.text
  interval := candle.interval.asStr
  openTime := timestamptz candle.openTime
  closeTime := timestamptz candle.closeTime
  «open» := numeric candle.open
  high := numeric candle.high
  low := numeric candle.low
  close := numeric candle.close
  volume := numeric candle.volume
  quoteVolume := candle.quoteVolume.map numeric
  tradeCount := candle.tradeCount
  isClosed := candle.isClosed
  createdAt := timestamptz candle.createdAt
  updatedAt := timestamptz candle.updatedAt

/-- `DO UPDATE SET`: the row keeps its id, its key and its creation time. -/
def overwritten (row current : CandleRecord) : CandleRecord :=
  { row with
    id := current.id
    exchange := current.exchange
    symbol := current.symbol
    interval := current.interval
    openTime := current.openTime
    createdAt := current.createdAt }

theorem overwritten_key (row current : CandleRecord) : (overwritten row current).key = current.key :=
  rfl

theorem candleRow_held (candle : IdentifiedCandle) : (candleRow candle).Held := by
  refine ⟨timestamptz_timestamptz _, timestamptz_timestamptz _, ?_⟩
  intro value hValue
  simp only [CandleRecord.decimals, candleRow, mem_append, mem_cons, not_mem_nil,
    or_false, mem_toList, map_eq_some_iff] at hValue
  rcases hValue with (rfl | rfl | rfl | rfl | rfl) | ⟨other, -, rfl⟩ <;> exact numeric_numeric _

theorem overwritten_held {row current : CandleRecord} (hRow : row.Held) (hCurrent : current.Held) :
    (overwritten row current).Held :=
  ⟨hCurrent.1, hRow.2⟩

/-- The unique key is looked at first: on a row that is there the other
constraint does not matter. -/
def upsertCandle (store : CandleStore) (candle : IdentifiedCandle) :
    Except CandleStoreError CandleStore :=
  if candle.decimals.any numericOverflows then .error .numericOverflow
  else
    let row := candleRow candle
    if hFresh : store.table.find? row.key = none then
      if hId : row.id ∉ store.table.rows.map (·.id) then
        .ok {
          table := store.table.insert row hFresh
          ids := by
            show ((store.table.rows ++ [row]).map (·.id)).Nodup
            rw [map_append, map_singleton, nodup_append_comm]
            exact nodup_cons.mpr ⟨hId, store.ids⟩
          held := forall_mem_append.mpr
            ⟨store.held, forall_mem_singleton.mpr (candleRow_held candle)⟩ }
      else .error .duplicateId
    else
      .ok {
        table := store.table.modify row.key (overwritten row) (overwritten_key row)
        ids := by
          have hIds : (store.table.modify row.key (overwritten row)
              (overwritten_key row)).rows.map (·.id) = store.table.rows.map (·.id) := by
            rw [Table.modify, List.map_map]
            refine map_congr_left fun current _ => ?_
            simp only [Function.comp_apply]
            split <;> rfl
          rw [hIds]
          exact store.ids
        held := Table.forall_mem_modify _ store.held fun current hCurrent =>
          overwritten_held (candleRow_held candle) (store.held current hCurrent) }

/-- The last candle of each open time, in the order of the open times. -/
def dedupeCandlesForUpsert (candles : List IdentifiedCandle) : List IdentifiedCandle :=
  lasts (·.openTime) candles

def candleMatchesRecord (candle : IdentifiedCandle) (record : CandleRecord) : Bool :=
  candle.exchange.asStr = record.exchange
    && candle.symbol.text = record.symbol
    && candle.interval.asStr = record.interval
    && candle.openTime = record.openTime
    && candle.closeTime = record.closeTime
    && candle.open = record.open
    && candle.high = record.high
    && candle.low = record.low
    && candle.close = record.close
    && candle.volume = record.volume
    && candle.quoteVolume = record.quoteVolume
    && candle.tradeCount = record.tradeCount
    && candle.isClosed = record.isClosed

/-- The rows selected before the first one is written, by their open time.
The open times asked for are sent to the database and lose what its columns
do not keep. -/
def existingRows (store : CandleStore) (first : IdentifiedCandle) (openTimes : List DateTime)
    (openTime : DateTime) : Option CandleRecord :=
  if openTime ∈ openTimes.map timestamptz then
    store.table.find? (first.exchange.asStr, first.symbol.text, first.interval.asStr, openTime)
  else none

/-- The turn of one candle: it is written unless the row selected for its open
time agrees with it. -/
def upsertExisting (existing : DateTime → Option CandleRecord) (store : CandleStore)
    (outcome : CandleUpsertBatchResult) (candle : IdentifiedCandle) :
    Except CandleStoreError (CandleStore × CandleUpsertBatchResult) :=
  match existing candle.openTime with
  | none => (upsertCandle store candle).map fun next =>
    (next, { outcome with insertedCandles := outcome.insertedCandles + 1 })
  | some record =>
    if candleMatchesRecord candle record then
      .ok (store, { outcome with skippedCandles := outcome.skippedCandles + 1 })
    else (upsertCandle store candle).map fun next =>
      (next, { outcome with updatedCandles := outcome.updatedCandles + 1 })

/-- The loop over the batch. What it wrote before it failed stays written. -/
def upsertAll (existing : DateTime → Option CandleRecord) :
    CandleStore → CandleUpsertBatchResult → List IdentifiedCandle →
      CandleStore × Except CandleStoreError CandleUpsertBatchResult
  | store, outcome, [] => (store, .ok outcome)
  | store, outcome, candle :: rest =>
    match upsertExisting existing store outcome candle with
    | .error err => (store, .error err)
    | .ok (next, counted) => upsertAll existing next counted rest

def upsertCandlesBatch (store : CandleStore) (candles : List IdentifiedCandle) :
    CandleStore × Except CandleStoreError CandleUpsertBatchResult :=
  match dedupeCandlesForUpsert candles with
  | [] => (store, .ok ⟨0, 0, 0⟩)
  | first :: rest =>
    let deduped := first :: rest
    upsertAll (existingRows store first (deduped.map (·.openTime))) store ⟨0, 0, 0⟩ deduped

def countedCandles (outcome : CandleUpsertBatchResult) : Nat :=
  outcome.insertedCandles + outcome.updatedCandles + outcome.skippedCandles

/-- All candles are of one exchange, symbol and interval. -/
def OneSeries (candles : List IdentifiedCandle) : Prop :=
  ∀ first ∈ candles, ∀ second ∈ candles, first.exchange = second.exchange ∧
    first.symbol = second.symbol ∧ first.interval = second.interval

/-- What a batch upsert promises: the last candle of each open time is stored,
no other row is touched, every open time is counted, and a repetition changes
nothing and skips everything. -/
structure LossFree (before : CandleStore) (candles : List IdentifiedCandle) (after : CandleStore)
    (outcome : CandleUpsertBatchResult) : Prop where
  stored : ∀ candle, (candles.filter fun other => other.openTime = candle.openTime).getLast? =
    some candle → ∃ record, after.table.find? candle.key = some record ∧
      candleMatchesRecord candle record = true
  kept : ∀ key, (∀ candle ∈ candles, candle.key ≠ key) →
    after.table.find? key = before.table.find? key
  counted : outcome.insertedCandles + outcome.updatedCandles + outcome.skippedCandles =
    (candles.map (·.openTime)).dedup.length
  repeated : upsertCandlesBatch after candles =
    (after, .ok ⟨0, 0, (candles.map (·.openTime)).dedup.length⟩)

section Rows
variable {candle : IdentifiedCandle} {record : CandleRecord} {store next : CandleStore}

theorem candleMatchesRecord_iff : candleMatchesRecord candle record = true ↔
    candle.key = record.key ∧ candle.closeTime = record.closeTime ∧ candle.open = record.open ∧
      candle.high = record.high ∧ candle.low = record.low ∧ candle.close = record.close ∧
      candle.volume = record.volume ∧ candle.quoteVolume = record.quoteVolume ∧
      candle.tradeCount = record.tradeCount ∧ candle.isClosed = record.isClosed := by
  simp only [candleMatchesRecord, Bool.and_eq_true, decide_eq_true_eq, and_assoc,
    IdentifiedCandle.key, CandleRecord.key, Prod.mk.injEq]

theorem heldExactly_of_matches (hHeld : record.Held)
    (hMatches : candleMatchesRecord candle record = true) : HeldExactly candle := by
  rw [candleMatchesRecord_iff] at hMatches
  obtain ⟨hKey, hClose, hOpen, hHigh, hLow, hLast, hVolume, hQuote, -, -⟩ := hMatches
  have hTime : candle.openTime = record.openTime := congrArg (fun key => key.2.2.2) hKey
  have hDecimals : candle.decimals = record.decimals := by
    rw [IdentifiedCandle.decimals, CandleRecord.decimals, hOpen, hHigh, hLow, hLast, hVolume, hQuote]
  rw [HeldExactly, hTime, hClose, hDecimals]
  exact hHeld

section
variable (hExact : HeldExactly candle)
include hExact

theorem candleRow_key : (candleRow candle).key = candle.key := by
  simp only [CandleRecord.key, candleRow, IdentifiedCandle.key, hExact.1]

theorem matches_candleRow : candleMatchesRecord candle (candleRow candle) = true := by
  have hDecimal : ∀ value ∈ candle.decimals, numeric value = value := hExact.2.2
  have hQuote : candle.quoteVolume.map numeric = candle.quoteVolume := by
    cases hVolume : candle.quoteVolume with
    | none => rfl
    | some value =>
      exact congrArg some (hDecimal value (by simp [IdentifiedCandle.decimals, hVolume]))
  have hValue (value : Decimal)
      (hMember : value ∈ [candle.open, candle.high, candle.low, candle.close, candle.volume]) :
      value = numeric value :=
    (hDecimal value (mem_append_left _ hMember)).symm
  rw [candleMatchesRecord_iff, candleRow_key hExact]
  exact ⟨rfl, hExact.2.1.symm, hValue _ (by simp), hValue _ (by simp), hValue _ (by simp),
    hValue _ (by simp), hValue _ (by simp), hQuote.symm, rfl, rfl⟩

theorem matches_overwritten (hKey : record.key = (candleRow candle).key) :
    candleMatchesRecord candle (overwritten (candleRow candle) record) = true := by
  have hRow := candleMatchesRecord_iff.mp (matches_candleRow hExact)
  rw [candleMatchesRecord_iff, overwritten_key, hKey]
  exact hRow

theorem upsertCandle_stores (hOk : upsertCandle store candle = .ok next) :
    (∃ written, next.table.find? candle.key = some written ∧
      candleMatchesRecord candle written = true) ∧
    ∀ key, candle.key ≠ key → next.table.find? key = store.table.find? key := by
  have hKey := candleRow_key hExact
  unfold upsertCandle at hOk
  rw [error_else_eq_ok] at hOk
  obtain ⟨-, hOk⟩ := hOk
  dsimp only at hOk
  split at hOk
  · rename_i hFresh
    split at hOk
    · rw [← Except.ok.inj hOk, ← hKey]
      have hInserted : store.table.insert? (candleRow candle) =
          some (store.table.insert (candleRow candle) hFresh) := dif_pos hFresh
      exact ⟨⟨candleRow candle, Table.find?_insert?_self hInserted, matches_candleRow hExact⟩,
        fun key hOther => Table.find?_insert?_of_ne hInserted (Ne.symm hOther)⟩
    · cases hOk
  · rename_i hPresent
    rw [← Except.ok.inj hOk, ← hKey]
    obtain ⟨current, hCurrent⟩ := ne_none_iff_exists'.mp hPresent
    refine ⟨⟨overwritten (candleRow candle) current, ?_, ?_⟩, ?_⟩
    · rw [Table.find?_modify_self, hCurrent]
      rfl
    · exact matches_overwritten hExact (Table.key_of_find? hCurrent)
    · intro key hOther
      rw [Table.find?_modify_of_ne (Ne.symm hOther)]

end

end Rows

section Batches
variable {candles todo : List IdentifiedCandle} {store after : CandleStore}
  {existing : DateTime → Option CandleRecord} {outcome result : CandleUpsertBatchResult}

variable {candle : IdentifiedCandle}

/-- One turn of the loop: the candle is stored, by a write or because it is
there already, and counted once. -/
theorem upsertExisting_stores {next : CandleStore} {counted : CandleUpsertBatchResult}
    (hExact : HeldExactly candle)
    (hExisting : existing candle.openTime = store.table.find? candle.key)
    (hOk : upsertExisting existing store outcome candle = .ok (next, counted)) :
    countedCandles counted = countedCandles outcome + 1 ∧
      (∃ record, next.table.find? candle.key = some record ∧
        candleMatchesRecord candle record = true) ∧
      ∀ key, candle.key ≠ key → next.table.find? key = store.table.find? key := by
  unfold upsertExisting at hOk
  cases hRecord : existing candle.openTime with
  | none =>
    rw [hRecord] at hOk
    obtain ⟨written, hUpsert, hNext⟩ := map_eq_ok.mp hOk
    obtain ⟨rfl, rfl⟩ := Prod.mk.inj hNext
    refine ⟨?_, upsertCandle_stores hExact hUpsert⟩
    simp only [countedCandles]
    omega
  | some record =>
    rw [hRecord] at hOk
    dsimp only at hOk
    split at hOk
    · rename_i hMatches
      obtain ⟨rfl, rfl⟩ := Prod.mk.inj (Except.ok.inj hOk)
      refine ⟨?_, ⟨record, hExisting ▸ hRecord, hMatches⟩, fun _ _ => rfl⟩
      simp only [countedCandles]
      omega
    · obtain ⟨written, hUpsert, hNext⟩ := map_eq_ok.mp hOk
      obtain ⟨rfl, rfl⟩ := Prod.mk.inj hNext
      refine ⟨?_, upsertCandle_stores hExact hUpsert⟩
      simp only [countedCandles]
      omega

theorem upsertAll_cons {rest : List IdentifiedCandle}
    (hOk : upsertAll existing store outcome (candle :: rest) = (after, .ok result)) :
    ∃ next counted, upsertExisting existing store outcome candle = .ok (next, counted) ∧
      upsertAll existing next counted rest = (after, .ok result) := by
  rw [upsertAll] at hOk
  cases hTurn : upsertExisting existing store outcome candle with
  | error err =>
    rw [hTurn] at hOk
    cases (Prod.mk.inj hOk).2
  | ok reached =>
    rw [hTurn] at hOk
    exact ⟨reached.1, reached.2, rfl, hOk⟩

theorem upsertAll_stores (hDistinct : (todo.map (·.key)).Nodup)
    (hExact : ∀ candle ∈ todo, HeldExactly candle)
    (hExisting : ∀ candle ∈ todo, existing candle.openTime = store.table.find? candle.key)
    (hOk : upsertAll existing store outcome todo = (after, .ok result)) :
    (∀ candle ∈ todo, ∃ record, after.table.find? candle.key = some record ∧
      candleMatchesRecord candle record = true) ∧
    (∀ key, (∀ candle ∈ todo, candle.key ≠ key) → after.table.find? key = store.table.find? key) ∧
    countedCandles result = countedCandles outcome + todo.length := by
  induction todo generalizing store outcome with
  | nil =>
    rw [upsertAll, Prod.mk.injEq, Except.ok.injEq] at hOk
    obtain ⟨rfl, rfl⟩ := hOk
    exact ⟨by simp, fun _ _ => rfl, rfl⟩
  | cons candle rest ih =>
    rw [map_cons, nodup_cons] at hDistinct
    obtain ⟨hHead, hRest⟩ := forall_mem_cons.mp hExact
    obtain ⟨hFound, hLater⟩ := forall_mem_cons.mp hExisting
    obtain ⟨next, counted, hTurn, hLoop⟩ := upsertAll_cons hOk
    obtain ⟨hTotal, hStored, hKept⟩ := upsertExisting_stores hHead hFound hTurn
    have hOther : ∀ other ∈ rest, candle.key ≠ other.key := fun other hMember hSame =>
      hDistinct.1 (hSame ▸ mem_map_of_mem hMember)
    obtain ⟨hAll, hLeft, hCount⟩ := ih hDistinct.2 hRest
      (fun other hMember => (hLater other hMember).trans (hKept _ (hOther other hMember)).symm) hLoop
    refine ⟨forall_mem_cons.mpr ⟨?_, hAll⟩, ?_, ?_⟩
    · rwa [hLeft _ fun other hMember => (hOther other hMember).symm]
    · intro key hAbsent
      obtain ⟨hCandle, hOthers⟩ := forall_mem_cons.mp hAbsent
      rw [hLeft key hOthers, hKept key hCandle]
    · rw [hCount, hTotal, length_cons]
      omega

theorem upsertAll_skips (hThere : ∀ candle ∈ todo, ∃ record,
      existing candle.openTime = some record ∧ candleMatchesRecord candle record = true)
    (store : CandleStore) (outcome : CandleUpsertBatchResult) :
    upsertAll existing store outcome todo =
      (store, .ok { outcome with skippedCandles := outcome.skippedCandles + todo.length }) := by
  induction todo generalizing outcome with
  | nil => rfl
  | cons candle rest ih =>
    obtain ⟨⟨record, hRecord, hMatches⟩, hRest⟩ := forall_mem_cons.mp hThere
    have hTurn : upsertExisting existing store outcome candle =
        .ok (store, { outcome with skippedCandles := outcome.skippedCandles + 1 }) := by
      rw [upsertExisting, hRecord]
      exact if_pos hMatches
    rw [upsertAll, hTurn]
    dsimp only
    rw [ih hRest, length_cons, Nat.add_assoc, Nat.add_comm 1]

theorem existingRows_eq (store : CandleStore) (hSeries : OneSeries candles)
    {first candle : IdentifiedCandle} (hFirst : first ∈ candles)
    (hCandle : candle ∈ dedupeCandlesForUpsert candles) (hExact : HeldExactly candle) :
    existingRows store first ((dedupeCandlesForUpsert candles).map (·.openTime)) candle.openTime =
      store.table.find? candle.key := by
  obtain ⟨hExchange, hSymbol, hInterval⟩ :=
    hSeries first hFirst candle (mem_of_mem_lasts hCandle)
  have hAsked : candle.openTime ∈
      ((dedupeCandlesForUpsert candles).map (·.openTime)).map timestamptz :=
    mem_map.mpr ⟨candle.openTime, mem_map_of_mem hCandle, hExact.1⟩
  rw [existingRows, if_pos hAsked, hExchange, hSymbol, hInterval]
  rfl

theorem nodup_keys_dedupe (candles : List IdentifiedCandle) :
    ((dedupeCandlesForUpsert candles).map (·.key)).Nodup := by
  refine List.Nodup.of_map (fun key : CandleKey => key.2.2.2) ?_
  rw [List.map_map]
  exact nodup_map_lasts (·.openTime) candles

theorem upsertCandlesBatch_eq (store : CandleStore) (hSeries : OneSeries candles)
    (hExact : ∀ candle ∈ dedupeCandlesForUpsert candles, HeldExactly candle) :
    ∃ existing : DateTime → Option CandleRecord, upsertCandlesBatch store candles =
        upsertAll existing store ⟨0, 0, 0⟩ (dedupeCandlesForUpsert candles) ∧
      ∀ candle ∈ dedupeCandlesForUpsert candles,
        existing candle.openTime = store.table.find? candle.key := by
  unfold upsertCandlesBatch
  cases hDeduped : dedupeCandlesForUpsert candles with
  | nil => exact ⟨fun _ => none, rfl, by simp⟩
  | cons first rest =>
    refine ⟨_, rfl, ?_⟩
    intro candle hCandle
    rw [← hDeduped] at hCandle ⊢
    have hFirst : first ∈ dedupeCandlesForUpsert candles := hDeduped ▸ mem_cons_self ..
    exact existingRows_eq store hSeries (mem_of_mem_lasts hFirst) hCandle
      (hExact candle hCandle)

section
variable (hSeries : OneSeries candles)
  (hOk : upsertCandlesBatch store candles = (after, .ok outcome))
include hSeries hOk

theorem lossFree_of_exact (hExact : ∀ candle ∈ dedupeCandlesForUpsert candles, HeldExactly candle) :
    LossFree store candles after outcome := by
  obtain ⟨existing, hBatch, hExisting⟩ := upsertCandlesBatch_eq store hSeries hExact
  obtain ⟨hStored, hKept, hCount⟩ := upsertAll_stores (nodup_keys_dedupe candles) hExact hExisting
    (hBatch.symm.trans hOk)
  have hLength : (dedupeCandlesForUpsert candles).length = (candles.map (·.openTime)).dedup.length :=
    length_lasts (fun candle : IdentifiedCandle => candle.openTime) candles
  refine ⟨?_, ?_, ?_, ?_⟩
  · intro candle hLast
    exact hStored candle (mem_lasts.mpr hLast)
  · intro key hOther
    exact hKept key fun candle hCandle => hOther candle (mem_of_mem_lasts hCandle)
  · rw [← hLength]
    simpa only [countedCandles, Nat.zero_add] using hCount
  · obtain ⟨existing', hAgain, hThere⟩ := upsertCandlesBatch_eq after hSeries hExact
    rw [hAgain, upsertAll_skips ?_ after ⟨0, 0, 0⟩, hLength, Nat.zero_add]
    intro candle hCandle
    obtain ⟨record, hRecord, hMatches⟩ := hStored candle hCandle
    exact ⟨record, (hThere candle hCandle).trans hRecord, hMatches⟩

/-- A batch of one series that is accepted is stored without a loss, and is
skipped when it is repeated, precisely if the columns hold the last candle of
each open time as it is. -/
theorem upsertCandlesBatch_lossFree_iff : LossFree store candles after outcome ↔
      ∀ candle ∈ dedupeCandlesForUpsert candles, HeldExactly candle := by
  constructor
  · intro hLossFree candle hCandle
    obtain ⟨record, hRecord, hMatches⟩ := hLossFree.stored candle (mem_lasts.mp hCandle)
    exact heldExactly_of_matches (after.held record (Table.mem_of_find? hRecord)) hMatches
  · exact lossFree_of_exact hSeries hOk

end

end Batches

def CandleStore.empty : CandleStore where
  table := .empty
  ids := nodup_nil
  held := by simp

def sampleCandle (close : Decimal) : IdentifiedCandle where
  symbol := .btcusdt
  interval := .oneMinute
  openTime := 0
  closeTime := DateTime.milliseconds 59999
  «open» := 1
  high := 1
  low := 0
  close := close
  volume := 1
  quoteVolume := none
  tradeCount := 1
  isClosed := true
  id := ⟨1⟩
  exchange := .binance
  createdAt := 0
  updatedAt := 0

theorem sampleCandle_series (close : Decimal) : OneSeries [sampleCandle close] := by
  simp [OneSeries]

theorem upsertCandlesBatch_lossFree_sample :
    ∃ after, upsertCandlesBatch .empty [sampleCandle (1 / 2)] = (after, .ok ⟨1, 0, 0⟩) ∧
      LossFree .empty [sampleCandle (1 / 2)] after ⟨1, 0, 0⟩ := by
  have hOutcome : (upsertCandlesBatch .empty [sampleCandle (1 / 2)]).2 = .ok ⟨1, 0, 0⟩ := by
    decide +kernel
  have hExact : ∀ candle ∈ dedupeCandlesForUpsert [sampleCandle (1 / 2)], HeldExactly candle := by
    decide +kernel
  have hOk : upsertCandlesBatch .empty [sampleCandle (1 / 2)] =
      ((upsertCandlesBatch .empty [sampleCandle (1 / 2)]).1, .ok ⟨1, 0, 0⟩) :=
    Prod.ext rfl hOutcome
  exact ⟨_, hOk, (upsertCandlesBatch_lossFree_iff (sampleCandle_series _) hOk).mpr hExact⟩

/-- A close of one billionth is stored as zero, and written again when it is
repeated. -/
theorem ninth_decimal_not_stored : ¬ ∀ store candles after outcome, OneSeries candles →
      upsertCandlesBatch store candles = (after, .ok outcome) →
        LossFree store candles after outcome := by
  intro hLossFree
  have hOutcome : (upsertCandlesBatch .empty [sampleCandle (1 / 10 ^ 9)]).2 = .ok ⟨1, 0, 0⟩ := by
    decide +kernel
  have hRepeated := (hLossFree .empty [sampleCandle (1 / 10 ^ 9)] _ ⟨1, 0, 0⟩ (sampleCandle_series _)
    (Prod.ext rfl hOutcome)).repeated
  have hAgain : (upsertCandlesBatch (upsertCandlesBatch .empty [sampleCandle (1 / 10 ^ 9)]).1
      [sampleCandle (1 / 10 ^ 9)]).2 = .ok ⟨0, 1, 0⟩ := by
    decide +kernel
  rw [hRepeated] at hAgain
  cases hAgain

end AegisQuant.Store
