import AegisQuant.Market.CandleBuilder
import AegisQuant.Library.Table

/-! The candle rows that live ingestion stores. Every accepted trade writes
the active candle, and the candle it closes, over the row of its bucket. The
builders live in memory, and a restart loses them while the rows stay. -/
namespace AegisQuant.Market
open Transition List Option

/-- The columns of the unique constraint; one exchange feeds the table. -/
def candleKey (candle : Candle) : Symbol × CandleInterval × DateTime :=
  (candle.symbol, candle.interval, candle.openTime)

abbrev CandleTable := Table candleKey

/-- Every column but those of the key is overwritten. -/
def upsertCandle (table : CandleTable) (candle : Candle) : CandleTable :=
  table.upsert candle
    (fun current => { candle with
      symbol := current.symbol
      interval := current.interval
      openTime := current.openTime })
    (fun _ => rfl)

theorem find?_upsertCandle_self (table : CandleTable) (candle : Candle) :
    (upsertCandle table candle).find? (candleKey candle) = some candle := by
  apply Table.find?_upsert_self
  intro current hKey
  simp only [candleKey, Prod.mk.injEq] at hKey
  obtain ⟨hSymbol, hInterval, hOpen⟩ := hKey
  rw [hSymbol, hInterval, hOpen]

theorem find?_upsertCandle_of_ne {table : CandleTable} {candle : Candle}
    {key : Symbol × CandleInterval × DateTime} (hOther : key ≠ candleKey candle) :
    (upsertCandle table candle).find? key = table.find? key :=
  Table.find?_upsert_of_ne hOther

/-- A builder of one-minute candles for each configured symbol. -/
structure MarketIngestService where
  builders : Symbol → Option CandleBuilder

def MarketIngestService.new (symbols : List Symbol) : MarketIngestService where
  builders symbol := if symbol ∈ symbols then some (.new symbol .oneMinute) else none

def MarketIngestService.setBuilder (service : MarketIngestService) (symbol : Symbol)
    (builder : CandleBuilder) : MarketIngestService where
  builders other := if other = symbol then some builder else service.builders other

/-- The running service, the stored rows, and the trades accepted so far. -/
structure IngestState where
  service : MarketIngestService
  candles : CandleTable
  accepted : List (Symbol × MarketTrade)

def IngestState.start (symbols : List Symbol) : IngestState where
  service := .new symbols
  candles := .empty
  accepted := []

inductive IngestEvent where
  | restart (symbols : List Symbol)
  | trade (symbol : Symbol) (trade : MarketTrade)

/-- `process_market_trade` writes the active candle and then the closed one. -/
def storeUpdate (table : CandleTable) (update : CandleUpdate) : CandleTable :=
  update.closed.elim (upsertCandle table update.active) (upsertCandle (upsertCandle table update.active))

/-- A trade of a symbol without a builder, or one the builder refuses, stores
nothing. -/
def IngestState.handleTrade (state : IngestState) (symbol : Symbol) (trade : MarketTrade) :
    IngestState :=
  match state.service.builders symbol with
  | none => state
  | some builder =>
    match builder.applyTrade trade with
    | (builder, .error _) => { state with service := state.service.setBuilder symbol builder }
    | (builder, .ok update) => {
        service := state.service.setBuilder symbol builder
        candles := storeUpdate state.candles update
        accepted := state.accepted ++ [(symbol, trade)] }

def handleIngestEvent (state : IngestState) : IngestEvent → IngestState
  | .restart symbols => { state with service := .new symbols }
  | .trade symbol trade => state.handleTrade symbol trade

/-- The accepted trades of a symbol in the minute that starts at `openTime`. -/
def acceptedIn (accepted : List (Symbol × MarketTrade)) (symbol : Symbol) (openTime : DateTime) :
    List MarketTrade :=
  bucketTrades .oneMinute ((accepted.filter fun entry => entry.1 = symbol).map (·.2)) openTime

/-- The row of a bucket has the totals of its trades; a bucket without trades
has no row. -/
def HoldsTotals (trades : List MarketTrade) : Option Candle → Prop
  | none => trades = []
  | some row => trades ≠ [] ∧ row.volume = (trades.map (·.quantity)).sum ∧
      row.tradeCount = trades.length

/-- Nothing is lost: every row has the totals over all accepted trades of its
bucket. -/
def StoresTotals (state : IngestState) : Prop :=
  ∀ symbol openTime, HoldsTotals (acceptedIn state.accepted symbol openTime)
    (state.candles.find? (symbol, .oneMinute, openTime))

/-- A row that is closed before the event is closed after it. -/
def KeepsClosed (state : IngestState) (event : IngestEvent) : Prop :=
  ∀ key row, state.candles.find? key = some row → row.isClosed = true →
    ∃ next, (handleIngestEvent state event).candles.find? key = some next ∧ next.isClosed = true

def StartsCandle (builder : CandleBuilder) (trade : MarketTrade) : Prop :=
  ∀ active, builder.active = some active →
    floorTime trade.tradeTime builder.interval ≠ active.openTime

/-- An accepted trade that starts a candle is in a minute without a row. -/
def OpensFreshBucket (state : IngestState) : IngestEvent → Prop
  | .restart _ => True
  | .trade symbol trade => ∀ builder, state.service.builders symbol = some builder →
      Accepts builder trade → StartsCandle builder trade →
        state.candles.find? (symbol, .oneMinute, floorTime trade.tradeTime .oneMinute) = none

section Steps
variable {state : IngestState} {symbol : Symbol} {trade : MarketTrade}

theorem acceptedIn_append (accepted : List (Symbol × MarketTrade)) (symbol other : Symbol)
    (trade : MarketTrade) (openTime : DateTime) :
    acceptedIn (accepted ++ [(symbol, trade)]) other openTime =
      acceptedIn accepted other openTime ++
        if symbol = other ∧ floorTime trade.tradeTime .oneMinute = openTime then [trade] else [] := by
  unfold acceptedIn
  rw [filter_append, map_append]
  by_cases hSymbol : symbol = other
  · simp only [hSymbol, filter_cons, decide_true, if_true, filter_nil, map_cons,
      map_nil, true_and, bucketTrades_append]
  · simp [hSymbol]

open MarketIngestService

theorem setBuilder_self {service : MarketIngestService} {builder : CandleBuilder}
    (hBuilder : service.builders symbol = some builder) : service.setBuilder symbol builder = service := by
  unfold setBuilder
  congr
  funext other
  split
  · rename_i hSame
    rw [hSame, hBuilder]
  · rfl

theorem find?_storeUpdate (table : CandleTable) (update : CandleUpdate)
    (key : Symbol × CandleInterval × DateTime) :
    (storeUpdate table update).find? key =
      if update.closed.map candleKey = some key then update.closed
      else if key = candleKey update.active then some update.active
      else table.find? key := by
  have hActive : (upsertCandle table update.active).find? key =
      if key = candleKey update.active then some update.active else table.find? key := by
    split
    · rename_i hSame
      rw [hSame, find?_upsertCandle_self]
    · rename_i hOther
      exact find?_upsertCandle_of_ne hOther
  unfold storeUpdate
  cases hClosed : update.closed with
  | none => simpa using hActive
  | some closed =>
    simp only [Option.elim, Option.map_some, Option.some.injEq]
    by_cases hSame : candleKey closed = key
    · rw [if_pos hSame, ← hSame, find?_upsertCandle_self]
    · rw [if_neg hSame, find?_upsertCandle_of_ne (Ne.symm hSame), hActive]

/-- A trade is refused, updates the active candle of its symbol, or starts a
candle and closes the active one, if there is one. -/
theorem handleTrade_cases (state : IngestState) (symbol : Symbol) (trade : MarketTrade) :
    state.handleTrade symbol trade = state ∧
      (∀ builder, state.service.builders symbol = some builder → ¬Accepts builder trade) ∨
    ∃ builder, state.service.builders symbol = some builder ∧ Accepts builder trade ∧
      ((∃ active, builder.active = some active ∧
          floorTime trade.tradeTime builder.interval = active.openTime ∧
          let updated := updateCandle active trade (trade.price * trade.quantity)
          state.handleTrade symbol trade = {
            service := state.service.setBuilder symbol { builder with active := some updated }
            candles := storeUpdate state.candles ⟨updated, none⟩
            accepted := state.accepted ++ [(symbol, trade)] }) ∨
        StartsCandle builder trade ∧
          let openTime := floorTime trade.tradeTime builder.interval
          let opened := newCandle builder.symbol builder.interval openTime
            (openTime + builder.interval.duration) trade (trade.price * trade.quantity)
          state.handleTrade symbol trade = {
            service := state.service.setBuilder symbol { builder with active := some opened }
            candles := storeUpdate state.candles
              ⟨opened, builder.active.map fun active => { active with isClosed := true }⟩
            accepted := state.accepted ++ [(symbol, trade)] }) := by
  unfold IngestState.handleTrade
  cases hBuilder : state.service.builders symbol with
  | none => exact .inl ⟨rfl, by simp⟩
  | some builder =>
    rcases applyTrade_cases builder trade with ⟨hRefused, error, hResult⟩ |
      ⟨hAccepts, ⟨hIdle, hResult⟩ | ⟨active, hActive, ⟨hBucket, hResult⟩ | ⟨hBucket, hResult⟩⟩⟩
    · refine .inl ⟨?_, ?_⟩
      · simp only [hResult, setBuilder_self hBuilder]
      · intro other hOther
        cases hOther
        exact hRefused
    · refine .inr ⟨builder, rfl, hAccepts, .inr ⟨?_, ?_⟩⟩
      · intro active hActive
        rw [hIdle] at hActive
        cases hActive
      · simp only [hResult, hIdle, map_none]
    · refine .inr ⟨builder, rfl, hAccepts, .inl ⟨active, hActive, hBucket, ?_⟩⟩
      simp only [hResult]
    · refine .inr ⟨builder, rfl, hAccepts, .inr ⟨?_, ?_⟩⟩
      · intro other hOther
        rw [hActive] at hOther
        cases hOther
        exact hBucket
      · simp only [hResult, hActive, map_some]

/-- The rows hold the totals, and the active candle of a builder is the row
of its bucket. -/
structure IngestSound (state : IngestState) : Prop where
  totals : StoresTotals state
  builders : ∀ symbol builder, state.service.builders symbol = some builder →
    builder.symbol = symbol ∧ builder.interval = .oneMinute
  active : ∀ symbol builder active, state.service.builders symbol = some builder →
    builder.active = some active → active.symbol = symbol ∧ active.interval = .oneMinute ∧
      active.isClosed = false ∧ state.candles.find? (candleKey active) = some active

theorem eq_new_of_builders {symbols : List Symbol} {builder : CandleBuilder}
    (hBuilder : (new symbols).builders symbol = some builder) :
    builder = .new symbol .oneMinute := by
  simp only [new, ite_none_right_eq_some, some.injEq] at hBuilder
  exact hBuilder.2.symm

theorem ingestSound_new {candles : CandleTable} {accepted : List (Symbol × MarketTrade)}
    (symbols : List Symbol) (hTotals : StoresTotals ⟨.new symbols, candles, accepted⟩) :
    IngestSound ⟨.new symbols, candles, accepted⟩ where
  totals := hTotals
  builders other builder hBuilder := by
    rw [eq_new_of_builders hBuilder]
    exact ⟨rfl, rfl⟩
  active other builder active hBuilder hActive := by
    rw [eq_new_of_builders hBuilder] at hActive
    cases hActive

theorem IngestSound.start (symbols : List Symbol) : IngestSound (.start symbols) :=
  ingestSound_new symbols fun _ _ => rfl

section Stores
variable {builder : CandleBuilder} {next : Candle} {closed : Option Candle}
  (hClosed : ∀ candle, closed = some candle → ∃ active, builder.active = some active ∧
    candle = { active with isClosed := true } ∧ candleKey active ≠ candleKey next)
include hClosed

/-- What an accepted trade stores: the next active candle of its bucket, with
the totals of the bucket, and the candle that was active before, closed. -/
theorem IngestSound.store (sound : IngestSound state)
    (hBuilder : state.service.builders symbol = some builder)
    (hKey : candleKey next = (symbol, .oneMinute, floorTime trade.tradeTime .oneMinute))
    (hOpen : next.isClosed = false)
    (hTotals : HoldsTotals (acceptedIn state.accepted symbol
      (floorTime trade.tradeTime .oneMinute) ++ [trade]) (some next)) :
    IngestSound {
      service := state.service.setBuilder symbol { builder with active := some next }
      candles := storeUpdate state.candles ⟨next, closed⟩
      accepted := state.accepted ++ [(symbol, trade)] } where
  totals := by
    intro other openTime
    simp only [find?_storeUpdate]
    split
    · rename_i hSame
      obtain ⟨candle, hCandle, hCandleKey⟩ := map_eq_some_iff.mp hSame
      obtain ⟨active, hActive, rfl, hOther⟩ := hClosed candle hCandle
      obtain ⟨-, -, -, hRow⟩ := sound.active symbol builder active hBuilder hActive
      have hActiveKey : candleKey active = (other, .oneMinute, openTime) := hCandleKey
      have hOld := sound.totals other openTime
      rw [← hActiveKey, hRow] at hOld
      rw [acceptedIn_append, if_neg, append_nil, hCandle]
      · exact hOld
      · rintro ⟨rfl, rfl⟩
        exact hOther (hActiveKey.trans hKey.symm)
    · split
      · rename_i hSame
        rw [hKey, Prod.mk.injEq, Prod.mk.injEq] at hSame
        obtain ⟨rfl, -, rfl⟩ := hSame
        rw [acceptedIn_append, if_pos ⟨rfl, rfl⟩]
        exact hTotals
      · rename_i hOther
        rw [acceptedIn_append, if_neg, append_nil]
        · exact sound.totals other openTime
        · rintro ⟨rfl, rfl⟩
          exact hOther hKey.symm
  builders := by
    intro other found hFound
    simp only [setBuilder] at hFound
    split at hFound
    · rename_i hSame
      cases hFound
      rw [hSame]
      exact sound.builders symbol builder hBuilder
    · exact sound.builders other found hFound
  active := by
    intro other found active hFound hActive
    simp only [setBuilder] at hFound
    simp only [find?_storeUpdate]
    split at hFound
    · rename_i hSame
      cases hFound
      cases hActive
      simp only [candleKey, Prod.mk.injEq] at hKey
      refine ⟨hKey.1.trans hSame.symm, hKey.2.1, hOpen, ?_⟩
      rw [if_neg, if_pos rfl]
      intro hBoth
      obtain ⟨candle, hCandle, hCandleKey⟩ := map_eq_some_iff.mp hBoth
      obtain ⟨old, -, rfl, hOther⟩ := hClosed candle hCandle
      exact hOther hCandleKey
    · rename_i hOther
      obtain ⟨hSymbol, hInterval, hActiveOpen, hRow⟩ := sound.active other found active hFound hActive
      refine ⟨hSymbol, hInterval, hActiveOpen, ?_⟩
      rw [if_neg, if_neg, hRow]
      · intro hBoth
        rw [hKey] at hBoth
        exact hOther (hSymbol.symm.trans (congrArg Prod.fst hBoth))
      · intro hBoth
        obtain ⟨candle, hCandle, hCandleKey⟩ := map_eq_some_iff.mp hBoth
        obtain ⟨old, hOld, rfl, -⟩ := hClosed candle hCandle
        obtain ⟨hOldSymbol, -⟩ := sound.active symbol builder old hBuilder hOld
        have hSame : old.symbol = active.symbol := congrArg Prod.fst hCandleKey
        exact hOther (hSymbol.symm.trans (hSame.symm.trans hOldSymbol))

theorem closed_kept_by_store
    (hBefore : ∀ row, state.candles.find? (candleKey next) = some row → row.isClosed = false)
    {key : Symbol × CandleInterval × DateTime} {row : Candle}
    (hRow : state.candles.find? key = some row) (hRowClosed : row.isClosed = true) :
    ∃ found, (storeUpdate state.candles ⟨next, closed⟩).find? key = some found ∧
      found.isClosed = true := by
  simp only [find?_storeUpdate]
  split
  · rename_i hSame
    obtain ⟨candle, hCandle, -⟩ := map_eq_some_iff.mp hSame
    obtain ⟨active, -, hClosedCandle, -⟩ := hClosed candle hCandle
    exact ⟨candle, hCandle, by rw [hClosedCandle]⟩
  · split
    · rename_i hSame
      rw [hSame] at hRow
      rw [hBefore row hRow] at hRowClosed
      cases hRowClosed
    · exact ⟨row, hRow, hRowClosed⟩

end Stores

section
variable (sound : IngestSound state)
include sound

theorem IngestSound.update {builder : CandleBuilder} {active : Candle}
    (hBuilder : state.service.builders symbol = some builder) (hActive : builder.active = some active)
    (hBucket : floorTime trade.tradeTime builder.interval = active.openTime)
    (hHandled : state.handleTrade symbol trade = {
      service := state.service.setBuilder symbol
        { builder with active := some (updateCandle active trade (trade.price * trade.quantity)) }
      candles := storeUpdate state.candles
        ⟨updateCandle active trade (trade.price * trade.quantity), none⟩
      accepted := state.accepted ++ [(symbol, trade)] }) :
    IngestSound (state.handleTrade symbol trade) ∧ KeepsClosed state (.trade symbol trade) := by
  obtain ⟨-, hInterval⟩ := sound.builders symbol builder hBuilder
  obtain ⟨hSymbol, hActiveInterval, hOpen, hRow⟩ := sound.active symbol builder active hBuilder hActive
  rw [hInterval] at hBucket
  have hKey : candleKey active = (symbol, .oneMinute, floorTime trade.tradeTime .oneMinute) := by
    rw [candleKey, hSymbol, hActiveInterval, hBucket]
  have hTotals := sound.totals symbol (floorTime trade.tradeTime .oneMinute)
  rw [← hKey, hRow] at hTotals
  obtain ⟨-, hVolume, hCount⟩ := hTotals
  have hNoneClosed : ∀ candle, (none : Option Candle) = some candle → ∃ found,
      builder.active = some found ∧ candle = { found with isClosed := true } ∧
        candleKey found ≠ candleKey (updateCandle active trade (trade.price * trade.quantity)) := by
    intro candle hNone
    cases hNone
  constructor
  · rw [hHandled]
    refine sound.store hNoneClosed hBuilder hKey hOpen ⟨by simp, ?_, ?_⟩
    · simp [updateCandle, hVolume]
    · simp [updateCandle, hCount]
  · intro key row hFound hClosed
    simp only [handleIngestEvent, hHandled]
    refine closed_kept_by_store hNoneClosed ?_ hFound hClosed
    intro found hSame
    cases hRow.symm.trans hSame
    exact hOpen

theorem IngestSound.open {builder : CandleBuilder} {opened : Candle}
    (hBuilder : state.service.builders symbol = some builder) (hStarts : StartsCandle builder trade)
    (hFresh : state.candles.find? (symbol, .oneMinute, floorTime trade.tradeTime .oneMinute) = none)
    (hOpened : opened = newCandle builder.symbol builder.interval
      (floorTime trade.tradeTime builder.interval)
      (floorTime trade.tradeTime builder.interval + builder.interval.duration) trade
      (trade.price * trade.quantity))
    (hHandled : state.handleTrade symbol trade = {
      service := state.service.setBuilder symbol { builder with active := some opened }
      candles := storeUpdate state.candles
        ⟨opened, builder.active.map fun active => { active with isClosed := true }⟩
      accepted := state.accepted ++ [(symbol, trade)] }) :
    IngestSound (state.handleTrade symbol trade) ∧ KeepsClosed state (.trade symbol trade) := by
  obtain ⟨hSymbol, hInterval⟩ := sound.builders symbol builder hBuilder
  have hKey : candleKey opened = (symbol, .oneMinute, floorTime trade.tradeTime .oneMinute) := by
    rw [hOpened, hInterval, hSymbol]
    rfl
  have hClosed : ∀ candle, (builder.active.map fun active => { active with isClosed := true }) =
      some candle → ∃ active, builder.active = some active ∧
        candle = { active with isClosed := true } ∧ candleKey active ≠ candleKey opened := by
    intro candle hCandle
    obtain ⟨active, hActive, rfl⟩ := map_eq_some_iff.mp hCandle
    refine ⟨active, hActive, rfl, ?_⟩
    rw [hKey]
    intro hSame
    apply hStarts active hActive
    rw [hInterval]
    exact (congrArg (fun key => key.2.2) hSame).symm
  have hNone := sound.totals symbol (floorTime trade.tradeTime .oneMinute)
  rw [hFresh] at hNone
  constructor
  · rw [hHandled]
    refine sound.store hClosed hBuilder hKey (by rw [hOpened]; rfl) ?_
    rw [show acceptedIn _ _ _ = [] from hNone]
    refine ⟨by simp, ?_, ?_⟩
    · simp [hOpened, newCandle]
    · simp [hOpened, newCandle]
  · intro key row hFound hRowClosed
    simp only [handleIngestEvent, hHandled]
    refine closed_kept_by_store hClosed ?_ hFound hRowClosed
    intro found hSame
    rw [hKey, hFresh] at hSame
    cases hSame

theorem IngestSound.step {event : IngestEvent} (hFresh : OpensFreshBucket state event) :
    IngestSound (handleIngestEvent state event) ∧ KeepsClosed state event := by
  cases event with
  | restart symbols =>
    refine ⟨ingestSound_new symbols sound.totals, ?_⟩
    intro key row hRow hClosed
    exact ⟨row, hRow, hClosed⟩
  | trade symbol trade =>
    rcases handleTrade_cases state symbol trade with ⟨hSame, -⟩ |
      ⟨builder, hBuilder, hAccepts, ⟨active, hActive, hBucket, hHandled⟩ | ⟨hStarts, hHandled⟩⟩
    · refine ⟨?_, ?_⟩
      · simp only [handleIngestEvent, hSame]
        exact sound
      · intro key row hRow hClosed
        simp only [handleIngestEvent, hSame]
        exact ⟨row, hRow, hClosed⟩
    · exact sound.update hBuilder hActive hBucket hHandled
    · exact sound.open hBuilder hStarts (hFresh builder hBuilder hAccepts hStarts) rfl hHandled

theorem IngestSound.totals_lost {event : IngestEvent} (hStale : ¬OpensFreshBucket state event)
    : ¬StoresTotals (handleIngestEvent state event) := by
  cases event with
  | restart symbols => exact absurd trivial hStale
  | trade symbol trade =>
    simp only [OpensFreshBucket, not_forall] at hStale
    obtain ⟨builder, hBuilder, hAccepts, hStarts, hRow⟩ := hStale
    rcases handleTrade_cases state symbol trade with ⟨-, hRefused⟩ |
      ⟨other, hOther, -, ⟨active, hActive, hBucket, -⟩ | ⟨-, hHandled⟩⟩
    · exact absurd hAccepts (hRefused builder hBuilder)
    · cases hBuilder.symm.trans hOther
      exact absurd hBucket (hStarts active hActive)
    · cases hBuilder.symm.trans hOther
      obtain ⟨hSymbol, hInterval⟩ := sound.builders symbol builder hBuilder
      intro hTotals
      have hOld := sound.totals symbol (floorTime trade.tradeTime .oneMinute)
      have hNew := hTotals symbol (floorTime trade.tradeTime .oneMinute)
      have hOpened : (handleIngestEvent state (.trade symbol trade)).candles.find?
          (symbol, .oneMinute, floorTime trade.tradeTime .oneMinute) =
            some (newCandle builder.symbol builder.interval
              (floorTime trade.tradeTime builder.interval)
              (floorTime trade.tradeTime builder.interval + builder.interval.duration) trade
              (trade.price * trade.quantity)) := by
        simp only [handleIngestEvent, hHandled, find?_storeUpdate]
        rw [if_neg, if_pos]
        · rw [candleKey, newCandle, hSymbol, hInterval]
        · intro hSame
          obtain ⟨candle, hCandle, hKey⟩ := map_eq_some_iff.mp hSame
          obtain ⟨active, hActive, rfl⟩ := map_eq_some_iff.mp hCandle
          apply hStarts active hActive
          rw [hInterval]
          exact (congrArg (fun key => key.2.2) hKey).symm
      have hAccepted : acceptedIn (handleIngestEvent state (.trade symbol trade)).accepted symbol
          (floorTime trade.tradeTime .oneMinute) =
            acceptedIn state.accepted symbol (floorTime trade.tradeTime .oneMinute) ++ [trade] := by
        simp only [handleIngestEvent, hHandled, acceptedIn_append, and_self, if_true]
      rw [hOpened, hAccepted] at hNew
      obtain ⟨-, -, hCount⟩ := hNew
      obtain ⟨row, hFound⟩ := ne_none_iff_exists'.mp hRow
      rw [hFound] at hOld
      have hEarlier := length_pos_of_ne_nil hOld.1
      simp only [newCandle, length_append, length_singleton] at hCount
      omega

end

end Steps

/-- Without a trade that starts a candle in a bucket with a row, nothing is
lost and no closed row is opened again, and with one the totals of its bucket
are lost. Only a builder that has lost its active candle, or has been fed late
trades after that, gets there. -/
theorem stored_candles_complete_iff (symbols : List Symbol) (events : List IngestEvent) :
    (Throughout handleIngestEvent StoresTotals (.start symbols) events ∧
      Along handleIngestEvent KeepsClosed (.start symbols) events) ↔
    Along handleIngestEvent OpensFreshBucket (.start symbols) events := by
  have hStep : ∀ state event, IngestSound state → OpensFreshBucket state event →
      IngestSound (handleIngestEvent state event) :=
    fun state event sound hFresh => (sound.step hFresh).1
  constructor
  · rintro ⟨hTotals, -⟩
    refine (along_iff_of_invariant ?_ hStep events (IngestSound.start symbols)).mp
      ((throughout_iff_along ..).mp hTotals).2
    intro state event sound
    exact ⟨fun hHolds => not_not.mp fun hStale => sound.totals_lost hStale hHolds,
      fun hFresh => (sound.step hFresh).1.totals⟩
  · intro hFresh
    exact ⟨throughout_of_along hStep (fun _ sound => sound.totals) (IngestSound.start symbols) hFresh,
      along_of_invariant (fun _ _ sound hHolds => (sound.step hHolds).2) hStep
        (IngestSound.start symbols) hFresh⟩

/-- A trade at 1 s, a restart, and a trade at 30 s of the same minute. -/
theorem restart_loses_volume :
    ¬∀ symbols events, Throughout handleIngestEvent StoresTotals (.start symbols) events ∧
      Along handleIngestEvent KeepsClosed (.start symbols) events := by
  intro hComplete
  obtain ⟨-, -, -, hTotals⟩ := (hComplete [.btcusdt] [
    .trade .btcusdt ⟨100, 2, DateTime.seconds 1⟩, .restart [.btcusdt],
    .trade .btcusdt ⟨100, 1, DateTime.seconds 30⟩]).1
  obtain ⟨-, -, hCount⟩ := hTotals .btcusdt 0
  exact absurd hCount (by decide +kernel)

end AegisQuant.Market
