import AegisQuant.Market.Backfill
import AegisQuant.Market.CandleQueries

/-! The worker that keeps the candles of longer intervals up to date. A tick
looks at the closed minutes from an overlap before the end of the latest derived
candle on, and only where there is none yet, from a lookback before now. -/
namespace AegisQuant.Market
open List

def candleAggregationStartTime (lastDerivedCloseTime : Option DateTime) (now : DateTime)
    (bootstrapLookback overlap : Int) : DateTime :=
  (lastDerivedCloseTime.map fun time => time - overlap).getD (now - bootstrapLookback)

structure CandleAggregationRun where
  symbol : String
  sourceInterval : String
  targetInterval : String
  startedAt : DateTime
  status : String
  sourceCandles : Nat
  inserted : Nat
  updated : Nat
  skippedIncomplete : Nat
  latestSourceClosedTime : Option DateTime
  latestTargetClosedTime : Option DateTime
  error : Option String
  deriving DecidableEq

/-- What one pair of symbol and target interval is aggregated with. -/
structure CandleAggregation where
  symbol : Symbol
  target : CandleInterval
  bootstrapLookback : Int
  overlap : Int

structure AggregatorState where
  candles : CandleTable
  runs : List CandleAggregationRun

section Tick
variable (aggregation : CandleAggregation) (state : AggregatorState) (startedAt : DateTime)

def persistRun (sourceCandles inserted updated skippedIncomplete : Nat)
    (latestSourceClosedTime latestTargetClosedTime : Option DateTime) : CandleAggregationRun where
  symbol := aggregation.symbol.text
  sourceInterval := CandleInterval.oneMinute.asStr
  targetInterval := aggregation.target.asStr
  startedAt := startedAt
  status := "COMPLETED"
  sourceCandles := min sourceCandles (2 ^ 31 - 1)
  inserted := inserted
  updated := updated
  skippedIncomplete := skippedIncomplete
  latestSourceClosedTime := latestSourceClosedTime
  latestTargetClosedTime := latestTargetClosedTime
  error := none

def latestTarget (candles : CandleTable) : Option DateTime :=
  getLatestClosedCandleTime candles aggregation.symbol aggregation.target

def tickStart : DateTime :=
  candleAggregationStartTime (latestTarget aggregation state.candles) startedAt
    aggregation.bootstrapLookback aggregation.overlap

def aggregateOnce : AggregatorState :=
  let startTime := tickStart aggregation state startedAt
  match getLatestClosedCandleTime state.candles aggregation.symbol .oneMinute with
  | none => { state with
      runs := state.runs ++ [persistRun aggregation startedAt 0 0 0 0 none
        (latestTarget aggregation state.candles)] }
  | some endTime =>
    if endTime ≤ startTime then state
    else
      let sourceCandles := getClosed1mCandlesRange state.candles aggregation.symbol startTime endTime
      let aggregated := aggregateClosed1mCandles sourceCandles aggregation.target
      let upsert := upsertCandlesBatch state.candles aggregated.candles
      { candles := upsert.1
        runs := state.runs ++ [persistRun aggregation startedAt sourceCandles.length
          upsert.2.insertedCandles upsert.2.updatedCandles aggregated.skippedIncompleteBuckets
          (some endTime) (latestTarget aggregation upsert.1)] }

end Tick

/-- A tick, or a candle that another writer stores between two ticks. -/
inductive AggregatorStep where
  | tick (startedAt : DateTime)
  | write (candle : Candle)

def aggregatorStep (aggregation : CandleAggregation) (state : AggregatorState) :
    AggregatorStep → AggregatorState
  | .tick startedAt => aggregateOnce aggregation state startedAt
  | .write candle => { state with candles := upsertCandle state.candles candle }

section Batch
variable {table : CandleTable} {candles : List Candle}

theorem eq_of_candleMatchesRecord {candle record : Candle}
    (hMatches : candleMatchesRecord candle record = true) : candle = record := by
  cases candle
  cases record
  simp only [candleMatchesRecord, Bool.and_eq_true, decide_eq_true_eq, and_assoc] at hMatches
  simp only [Candle.mk.injEq]
  exact hMatches

/-- Rows under different keys are written in one go. -/
theorem find?_foldl_upsertExisting {existing : DateTime → Option Candle}
    {state : CandleTable × CandleUpsertBatchResult} (hDistinct : (candles.map candleKey).Nodup)
    (hExisting : ∀ candle ∈ candles, existing candle.openTime = state.1.find? (candleKey candle)) :
    (∀ candle ∈ candles, (candles.foldl (upsertExisting existing) state).1.find? (candleKey candle) =
      some candle) ∧
    ∀ key, (∀ candle ∈ candles, candleKey candle ≠ key) →
      (candles.foldl (upsertExisting existing) state).1.find? key = state.1.find? key := by
  induction candles generalizing state with
  | nil => exact ⟨fun _ hCandle => absurd hCandle not_mem_nil, fun _ _ => rfl⟩
  | cons candle rest ih =>
    obtain ⟨hNew, hRest⟩ := nodup_cons.mp hDistinct
    obtain ⟨hHead, hTail⟩ := forall_mem_cons.mp hExisting
    have hWritten : (upsertExisting existing state candle).1.find? (candleKey candle) =
        some candle := by
      unfold upsertExisting
      cases hRecord : existing candle.openTime with
      | none => exact find?_upsertCandle_self state.1 candle
      | some record =>
        simp only
        split
        · rename_i hMatches
          rw [eq_of_candleMatchesRecord hMatches, ← hRecord, hHead]
          exact congrArg _ (congrArg _ (eq_of_candleMatchesRecord hMatches).symm)
        · exact find?_upsertCandle_self state.1 candle
    have hKept (key : Symbol × CandleInterval × DateTime) (hKey : candleKey candle ≠ key) :
        (upsertExisting existing state candle).1.find? key = state.1.find? key := by
      unfold upsertExisting
      cases existing candle.openTime with
      | none => exact find?_upsertCandle_of_ne hKey.symm
      | some record =>
        simp only
        split
        · rfl
        · exact find?_upsertCandle_of_ne hKey.symm
    have hOther : ∀ other ∈ rest, candleKey candle ≠ candleKey other := by
      intro other hMember hSame
      exact hNew (hSame ▸ mem_map_of_mem hMember)
    obtain ⟨hStored, hLeft⟩ := @ih (upsertExisting existing state candle) hRest
      fun other hMember => (hTail other hMember).trans (hKept _ (hOther other hMember)).symm
    rw [foldl_cons]
    constructor
    · refine forall_mem_cons.mpr ⟨?_, hStored⟩
      rw [hLeft _ fun other hMember => (hOther other hMember).symm]
      exact hWritten
    · intro key hAbsent
      obtain ⟨hCandle, hOthers⟩ := forall_mem_cons.mp hAbsent
      rw [hLeft key hOthers, hKept key hCandle]

theorem dedupeCandlesForUpsert_of_strict
    (hStrict : candles.Pairwise fun first second => first.openTime < second.openTime) :
    dedupeCandlesForUpsert candles = candles :=
  Groups.lasts_of_strict hStrict

theorem find?_upsertCandlesBatch {symbol : Symbol} {interval : CandleInterval}
    (hKeys : ∀ candle ∈ candles, candle.symbol = symbol ∧ candle.interval = interval)
    (hStrict : candles.Pairwise fun first second => first.openTime < second.openTime) :
    (∀ candle ∈ candles, (upsertCandlesBatch table candles).1.find? (candleKey candle) = some candle) ∧
    ∀ key, (∀ candle ∈ candles, candleKey candle ≠ key) →
      (upsertCandlesBatch table candles).1.find? key = table.find? key := by
  unfold upsertCandlesBatch
  rw [dedupeCandlesForUpsert_of_strict hStrict]
  cases candles with
  | nil => exact ⟨fun _ hCandle => absurd hCandle not_mem_nil, fun _ _ => rfl⟩
  | cons first rest =>
    obtain ⟨hSymbol, hInterval⟩ := hKeys first (mem_cons_self ..)
    apply @find?_foldl_upsertExisting _ _ (table, ⟨0, 0, 0⟩)
    · refine pairwise_map.mpr (hStrict.imp fun {left right} hBefore hSame => ?_)
      exact absurd (congrArg (·.2.2) hSame) hBefore.ne
    · intro candle hCandle
      obtain ⟨hSameSymbol, hSameInterval⟩ := hKeys candle hCandle
      rw [candleKey, hSymbol, hInterval, hSameSymbol, hSameInterval]

end Batch

end AegisQuant.Market
