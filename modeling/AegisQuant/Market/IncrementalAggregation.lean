import AegisQuant.Market.CandleAggregator
import AegisQuant.Market.Timeframes

/-! Ticks against a computation from all closed minutes. What a tick leaves alone
was right before and has not changed since, as long as no minute is stored or
corrected in a bucket that starts before the window of the next tick. -/
namespace AegisQuant.Market
open Transition SortByKey List Option

section Lists
variable {target : CandleInterval} {first second candles : List Candle} {start : DateTime}

theorem aggregateAt_eq (target : CandleInterval) (candles : List Candle) (start : DateTime) :
    aggregateAt target candles start =
      if isComplete target start (sourceMinutes target candles start) then
        match sourceMinutes target candles start with
        | head :: rest => some (combine target start head rest)
        | [] => none
      else none := rfl

theorem aggregateAt_congr (hFirst : ((closedMinutes first).map (·.openTime)).Nodup)
    (hSecond : ((closedMinutes second).map (·.openTime)).Nodup)
    (hSame : ∀ minute, target.bucketStart minute.openTime = start →
      (minute ∈ closedMinutes first ↔ minute ∈ closedMinutes second)) :
    aggregateAt target first start = aggregateAt target second start := by
  have hMinutes : sourceMinutes target first start = sourceMinutes target second start := by
    refine eq_of_strict (strict_sourceMinutes hSecond) (strict_sourceMinutes hFirst) ?_
    intro minute
    rw [mem_sourceMinutes, mem_sourceMinutes]
    exact and_congr_left fun hStart => hSame minute hStart
  rw [aggregateAt_eq, aggregateAt_eq, hMinutes]

theorem mem_aggregated_iff (hDistinct : ((closedMinutes candles).map (·.openTime)).Nodup)
    {candle : Candle} : candle ∈ (aggregateClosed1mCandles candles target).candles ↔
      aggregateAt target candles candle.openTime = some candle := by
  rw [mem_aggregated]
  constructor
  · rintro ⟨start, -, hCandle⟩
    rw [(aggregateOf_aggregateAt hCandle).openTime]
    exact hCandle
  · intro hCandle
    refine ⟨candle.openTime, ?_, hCandle⟩
    by_contra hAbsent
    have hIncomplete : ¬CompleteBucket target candles candle.openTime :=
      fun hComplete => hAbsent hComplete.mem_bucketStarts
    rw [(aggregateAt_eq_none hDistinct).mpr hIncomplete] at hCandle
    cases hCandle

end Lists

section Definitions
variable (aggregation : CandleAggregation)

def sourceCandles (candles : CandleTable) : List Candle :=
  closedCandles candles aggregation.symbol .oneMinute

def derivedCandles (candles : CandleTable) : List Candle :=
  closedCandles candles aggregation.symbol aggregation.target

/-- A closed minute, which ends before the next one does. Live candles end where
the next minute starts, and backfilled ones a millisecond earlier. -/
structure SourceWrite (candle : Candle) : Prop where
  symbol : candle.symbol = aggregation.symbol
  interval : candle.interval = .oneMinute
  closed : candle.isClosed = true
  aligned : minutes 1 ∣ candle.openTime
  after : candle.openTime < candle.closeTime
  within : candle.closeTime ≤ candle.openTime + minutes 1

/-- A candle of another symbol, or of an interval that is neither read nor
written. -/
def Unrelated (candle : Candle) : Prop :=
  candle.symbol ≠ aggregation.symbol ∨
    candle.interval ≠ .oneMinute ∧ candle.interval ≠ aggregation.target

/-- The bucket of the candle starts in the window of the next tick. -/
def WithinOverlap (candles : CandleTable) (candle : Candle) : Prop :=
  ∀ latest, latestTarget aggregation candles = some latest →
    latest - aggregation.overlap ≤ aggregation.target.bucketStart candle.openTime

def Admissible (state : AggregatorState) : AggregatorStep → Prop
  | .tick _ => True
  | .write candle => Unrelated aggregation candle ∨
      SourceWrite aggregation candle ∧ WithinOverlap aggregation state.candles candle

instance decidableSourceWrite (candle : Candle) : Decidable (SourceWrite aggregation candle) :=
  decidable_of_iff (candle.symbol = aggregation.symbol ∧ candle.interval = .oneMinute ∧
    candle.isClosed = true ∧ minutes 1 ∣ candle.openTime ∧ candle.openTime < candle.closeTime ∧
      candle.closeTime ≤ candle.openTime + minutes 1)
    ⟨fun ⟨hSymbol, hInterval, hClosed, hAligned, hAfter, hWithin⟩ =>
      ⟨hSymbol, hInterval, hClosed, hAligned, hAfter, hWithin⟩,
    fun hWrite => ⟨hWrite.symbol, hWrite.interval, hWrite.closed, hWrite.aligned, hWrite.after,
      hWrite.within⟩⟩

instance decidableWithinOverlap (candles : CandleTable) (candle : Candle) :
    Decidable (WithinOverlap aggregation candles candle) :=
  inferInstanceAs (Decidable (∀ latest ∈ latestTarget aggregation candles,
    latest - aggregation.overlap ≤ aggregation.target.bucketStart candle.openTime))

instance decidableAdmissible (state : AggregatorState) :
    ∀ input, Decidable (Admissible aggregation state input)
  | .tick _ => inferInstanceAs (Decidable True)
  | .write candle => inferInstanceAs (Decidable ((candle.symbol ≠ aggregation.symbol ∨
      candle.interval ≠ .oneMinute ∧ candle.interval ≠ aggregation.target) ∨
      SourceWrite aggregation candle ∧ WithinOverlap aggregation state.candles candle))

/-- From any derived candle on, the derived candles are those of all closed
minutes of their buckets. -/
def AgreesWithBatch (candles : CandleTable) : Prop :=
  ∀ first ∈ derivedCandles aggregation candles,
    (derivedCandles aggregation candles).filter (first.openTime ≤ ·.openTime) =
      (aggregateClosed1mCandles ((sourceCandles aggregation candles).filter fun minute =>
        first.openTime ≤ aggregation.target.bucketStart minute.openTime) aggregation.target).candles

/-- What a bucket should be, going by all closed minutes. -/
def expectedAt (candles : CandleTable) (start : DateTime) : Option Candle :=
  aggregateAt aggregation.target (sourceCandles aggregation candles) start

def storedAt (candles : CandleTable) (start : DateTime) : Option Candle :=
  candles.find? (aggregation.symbol, aggregation.target, start)

/-- Buckets before the window of the next tick are as they should be. -/
structure Aggregating (candles : CandleTable) : Prop where
  minutes : ∀ openTime minute,
    candles.find? (aggregation.symbol, .oneMinute, openTime) = some minute →
      SourceWrite aggregation minute
  derived : ∀ start candle, storedAt aggregation candles start = some candle →
    candle.isClosed = true ∧ CompleteBucket aggregation.target (sourceCandles aggregation candles) start
  settled : ∀ first ∈ derivedCandles aggregation candles, ∀ latest,
    latestTarget aggregation candles = some latest → ∀ start, first.openTime ≤ start →
      start < latest - aggregation.overlap →
        storedAt aggregation candles start = expectedAt aggregation candles start

end Definitions

section Tables
variable {aggregation : CandleAggregation} {candles after : CandleTable} {start : DateTime}

section
variable (aggregation : CandleAggregation) (candles : CandleTable)

theorem closedMinutes_sourceCandles :
    closedMinutes (sourceCandles aggregation candles) = sourceCandles aggregation candles := by
  rw [closedMinutes, filter_eq_self]
  intro minute hMinute
  obtain ⟨-, -, hInterval, hClosed⟩ := mem_closedCandles.mp hMinute
  rw [isSourceMinute, hClosed, hInterval]
  rfl

theorem distinct_sourceCandles :
    ((closedMinutes (sourceCandles aggregation candles)).map (·.openTime)).Nodup := by
  rw [closedMinutes_sourceCandles]
  exact pairwise_map.mpr ((strict_closedCandles _ _ _).imp ne_of_lt)

theorem distinct_filter_sourceCandles (keep : Candle → Bool) :
    ((closedMinutes ((sourceCandles aggregation candles).filter keep)).map (·.openTime)).Nodup :=
  (distinct_sourceCandles aggregation candles).sublist
    ((filter_sublist.filter isSourceMinute).map _)

theorem distinct_getClosed1mCandlesRange (startTime endTime : DateTime) : ((closedMinutes
      (getClosed1mCandlesRange candles aggregation.symbol startTime endTime)).map
        (·.openTime)).Nodup :=
  distinct_filter_sourceCandles aggregation candles _

end

theorem closedCandles_congr {symbol : Symbol} {interval : CandleInterval}
    (hSame : ∀ openTime, after.find? (symbol, interval, openTime) =
      candles.find? (symbol, interval, openTime)) :
    closedCandles after symbol interval = closedCandles candles symbol interval := by
  refine eq_of_strict (strict_closedCandles _ _ _) (strict_closedCandles _ _ _) ?_
  intro candle
  rw [mem_closedCandles_iff_find?, mem_closedCandles_iff_find?, hSame]

theorem latestTarget_congr (hSame : ∀ openTime,
      after.find? (aggregation.symbol, aggregation.target, openTime) =
        candles.find? (aggregation.symbol, aggregation.target, openTime)) :
    latestTarget aggregation after = latestTarget aggregation candles := by
  rw [latestTarget, getLatestClosedCandleTime, closedCandles_congr hSame]
  rfl

theorem expectedAt_eq_none : expectedAt aggregation candles start = none ↔
    ¬CompleteBucket aggregation.target (sourceCandles aggregation candles) start :=
  aggregateAt_eq_none (distinct_sourceCandles aggregation candles)

section
variable (hState : Aggregating aggregation candles)
include hState

theorem mem_derivedCandles {candle : Candle} : candle ∈ derivedCandles aggregation candles ↔
      storedAt aggregation candles candle.openTime = some candle := by
  rw [derivedCandles, mem_closedCandles_iff_find?]
  exact and_iff_left_of_imp fun hStored => (hState.derived _ _ hStored).1

theorem storedAt_eq_none
    (hIncomplete : ¬CompleteBucket aggregation.target (sourceCandles aggregation candles) start) :
    storedAt aggregation candles start = none := by
  cases hStored : storedAt aggregation candles start with
  | none => rfl
  | some candle => exact absurd (hState.derived start candle hStored).2 hIncomplete

theorem agreesWithBatch_of_exact
    (hExact : ∀ first ∈ derivedCandles aggregation candles, ∀ start, first.openTime ≤ start →
      storedAt aggregation candles start = expectedAt aggregation candles start) :
    AgreesWithBatch aggregation candles := by
  intro first hFirst
  have hMinutes : ∀ minute, minute ∈ closedMinutes ((sourceCandles aggregation candles).filter
      fun minute => first.openTime ≤ aggregation.target.bucketStart minute.openTime) ↔
      minute ∈ closedMinutes (sourceCandles aggregation candles) ∧
        first.openTime ≤ aggregation.target.bucketStart minute.openTime := by
    intro minute
    simp only [closedMinutes, mem_filter, decide_eq_true_eq]
    exact and_right_comm
  have hDistinct := distinct_filter_sourceCandles aggregation candles fun minute =>
    first.openTime ≤ aggregation.target.bucketStart minute.openTime
  refine eq_of_strict increasing_aggregated
    ((strict_closedCandles _ _ _).sublist filter_sublist) fun candle => ?_
  rw [mem_aggregated_iff hDistinct, mem_filter, mem_derivedCandles hState, decide_eq_true_eq]
  by_cases hFrom : first.openTime ≤ candle.openTime
  · have hSame : _ = expectedAt aggregation candles candle.openTime :=
      aggregateAt_congr hDistinct (distinct_sourceCandles aggregation candles) fun minute hStart =>
        (hMinutes minute).trans (and_iff_left_of_imp fun _ => hStart ▸ hFrom)
    rw [hSame, hExact first hFirst candle.openTime hFrom]
    exact and_iff_left hFrom
  · refine iff_of_false (fun hBoth => hFrom hBoth.2) fun hCandle => ?_
    have hComplete : CompleteBucket aggregation.target ((sourceCandles aggregation candles).filter
        fun minute => first.openTime ≤ aggregation.target.bucketStart minute.openTime)
        candle.openTime := by
      by_contra hIncomplete
      rw [(aggregateAt_eq_none hDistinct).mpr hIncomplete] at hCandle
      cases hCandle
    obtain ⟨minute, hMinute, hStart⟩ := mem_bucketStarts.mp hComplete.mem_bucketStarts
    exact hFrom (hStart ▸ ((hMinutes minute).mp hMinute).2)

end

end Tables

section Ticks
variable {aggregation : CandleAggregation} {candles : CandleTable} {startTime endTime : DateTime}
  {start : DateTime}
variable {state : AggregatorState}

theorem sourceWrite_of_mem (hState : Aggregating aggregation candles) {minute : Candle}
    (hMinute : minute ∈ sourceCandles aggregation candles) : SourceWrite aggregation minute :=
  hState.minutes _ _ (mem_closedCandles_iff_find?.mp hMinute).1

theorem minute_le_of_lt {first second : Int} (hFirst : minutes 1 ∣ first) (hSecond : minutes 1 ∣ second)
    (hBefore : first < second) : first + minutes 1 ≤ second := by
  have hGap := Int.le_of_dvd (Int.sub_pos_of_lt hBefore) (Int.dvd_sub hSecond hFirst)
  omega

section
variable (hState : Aggregating aggregation candles)
  (hLatest : getLatestClosedCandleTime candles aggregation.symbol .oneMinute = some endTime)
include hState hLatest

theorem closeTime_le_of_latest {minute : Candle}
    (hMinute : minute ∈ sourceCandles aggregation candles) :
    minute.closeTime ≤ endTime := by
  obtain ⟨last, hLast, rfl, hOrder⟩ := getLatestClosedCandleTime_eq_some hLatest
  have hMinuteWrite := sourceWrite_of_mem hState hMinute
  have hLastWrite := sourceWrite_of_mem hState hLast
  rcases (hOrder minute hMinute).lt_or_eq with hBefore | hSame
  · have hNext := minute_le_of_lt hMinuteWrite.aligned hLastWrite.aligned hBefore
    exact (hMinuteWrite.within.trans hNext).trans hLastWrite.after.le
  · have hEq : minute = last := inj_on_of_nodup_map
      (pairwise_map.mpr ((strict_closedCandles candles aggregation.symbol .oneMinute).imp ne_of_lt))
      hMinute hLast hSame
    rw [hEq]

theorem aggregateAt_window (hStart : startTime ≤ start) : aggregateAt aggregation.target
      (getClosed1mCandlesRange candles aggregation.symbol startTime endTime) start =
      expectedAt aggregation candles start := by
  refine aggregateAt_congr (distinct_getClosed1mCandlesRange aggregation candles startTime endTime)
    (distinct_sourceCandles aggregation candles) fun minute hBucket => ?_
  rw [closedMinutes, closedMinutes, mem_filter, mem_filter, getClosed1mCandlesRange,
    mem_filter, decide_eq_true_eq]
  refine and_congr_left fun _ => and_iff_left_of_imp fun hMinute => ?_
  have hAfter := (bucketStart_bounds aggregation.target minute.openTime).2.1
  exact ⟨hStart.trans (hBucket ▸ hAfter), closeTime_le_of_latest hState hLatest hMinute⟩

end

theorem aggregateAt_before_window (hBefore : start < startTime) : aggregateAt aggregation.target
      (getClosed1mCandlesRange candles aggregation.symbol startTime endTime) start = none := by
  rw [aggregateAt_eq_none (distinct_getClosed1mCandlesRange aggregation candles startTime endTime)]
  intro hComplete
  obtain ⟨minute, hMinute, hOpen⟩ := hComplete.present 0 (sourceCandleCount_pos aggregation.target)
  rw [closedMinutes, mem_filter, getClosed1mCandlesRange, mem_filter,
    decide_eq_true_eq] at hMinute
  have hOpens : minute.openTime = start := hOpen.trans (Int.add_zero start)
  exact absurd (hOpens ▸ hMinute.1.2.1) (not_le.mpr hBefore)

theorem find?_after_batch (hState : Aggregating aggregation candles)
    (hTarget : aggregation.target ≠ .oneMinute)
    (hLatest : getLatestClosedCandleTime candles aggregation.symbol .oneMinute = some endTime) :
    let after := (upsertCandlesBatch candles (aggregateClosed1mCandles
      (getClosed1mCandlesRange candles aggregation.symbol startTime endTime)
      aggregation.target).candles).1
    (∀ openTime, after.find? (aggregation.symbol, .oneMinute, openTime) =
      candles.find? (aggregation.symbol, .oneMinute, openTime)) ∧
    ∀ start, storedAt aggregation after start =
      if startTime ≤ start then expectedAt aggregation candles start
      else storedAt aggregation candles start := by
  intro after
  have hDistinct := distinct_getClosed1mCandlesRange aggregation candles startTime endTime
  have hKeys : ∀ candle ∈ (aggregateClosed1mCandles (getClosed1mCandlesRange candles
      aggregation.symbol startTime endTime) aggregation.target).candles,
      candle.symbol = aggregation.symbol ∧ candle.interval = aggregation.target := by
    intro candle hCandle
    have hAggregate := aggregateOf_of_mem hCandle
    refine ⟨?_, hAggregate.interval⟩
    obtain ⟨minute, hHead, hSymbol⟩ := map_eq_some_iff.mp hAggregate.combines.symbol
    have hMinute := (mem_sourceMinutes.mp (mem_of_mem_head? hHead)).1
    rw [closedMinutes, mem_filter, getClosed1mCandlesRange, mem_filter] at hMinute
    exact hSymbol.symm.trans (sourceWrite_of_mem hState hMinute.1.1).symbol
  obtain ⟨hWritten, hKept⟩ := @find?_upsertCandlesBatch candles _ _ _ hKeys
    increasing_aggregated
  constructor
  · intro openTime
    refine hKept _ fun candle hCandle hSame => hTarget ?_
    exact (hKeys candle hCandle).2.symm.trans (congrArg (·.2.1) hSame)
  · intro start
    have hWindow : aggregateAt aggregation.target
        (getClosed1mCandlesRange candles aggregation.symbol startTime endTime) start =
        if startTime ≤ start then expectedAt aggregation candles start else none := by
      split
      · rename_i hStart
        exact aggregateAt_window hState hLatest hStart
      · rename_i hStart
        exact aggregateAt_before_window (not_le.mp hStart)
    cases hCandle : aggregateAt aggregation.target
        (getClosed1mCandlesRange candles aggregation.symbol startTime endTime) start with
    | some candle =>
      have hOpen := (aggregateOf_aggregateAt hCandle).openTime
      have hMember := (mem_aggregated_iff hDistinct).mpr (hOpen.symm ▸ hCandle)
      obtain ⟨hSymbol, hInterval⟩ := hKeys candle hMember
      have hStored := hWritten candle hMember
      rw [candleKey, hSymbol, hInterval, hOpen] at hStored
      rw [hWindow] at hCandle
      split at hCandle
      · rename_i hStart
        rw [if_pos hStart, hCandle]
        exact hStored
      · cases hCandle
    | none =>
      have hUnwritten : storedAt aggregation after start = storedAt aggregation candles start := by
        refine hKept _ fun candle hMember hSame => ?_
        have hOpen : candle.openTime = start := congrArg (·.2.2) hSame
        rw [mem_aggregated_iff hDistinct, hOpen, hCandle] at hMember
        cases hMember
      rw [hUnwritten]
      split
      · rename_i hStart
        rw [hWindow, if_pos hStart] at hCandle
        rw [hCandle]
        exact storedAt_eq_none hState (expectedAt_eq_none.mp hCandle)
      · rfl

section
variable (hState : Aggregating aggregation state.candles)
  (hTarget : aggregation.target ≠ .oneMinute) (startedAt : DateTime)
include hState hTarget

/-- A tick makes the buckets of its window what they should be, and does no more. -/
theorem storedAt_aggregateOnce :
    (∀ openTime, (aggregateOnce aggregation state startedAt).candles.find?
        (aggregation.symbol, .oneMinute, openTime) =
      state.candles.find? (aggregation.symbol, .oneMinute, openTime)) ∧
    ∀ start, storedAt aggregation (aggregateOnce aggregation state startedAt).candles start =
      if tickStart aggregation state startedAt ≤ start then
        expectedAt aggregation state.candles start
      else storedAt aggregation state.candles start := by
  have hIdle (hNone : ∀ minute ∈ sourceCandles aggregation state.candles,
      minute.openTime < tickStart aggregation state startedAt) (start : DateTime) :
      storedAt aggregation state.candles start =
        if tickStart aggregation state startedAt ≤ start then
          expectedAt aggregation state.candles start
        else storedAt aggregation state.candles start := by
    split
    · rename_i hStart
      have hIncomplete : ¬CompleteBucket aggregation.target
          (sourceCandles aggregation state.candles) start := by
        intro hComplete
        obtain ⟨minute, hMinute, hOpen⟩ :=
          hComplete.present 0 (sourceCandleCount_pos aggregation.target)
        rw [closedMinutes_sourceCandles] at hMinute
        have hOpens : minute.openTime = start := hOpen.trans (Int.add_zero start)
        exact absurd (hOpens ▸ hNone minute hMinute) (not_lt.mpr hStart)
      rw [expectedAt_eq_none.mpr hIncomplete, storedAt_eq_none hState hIncomplete]
    · rfl
  unfold aggregateOnce
  simp only
  split
  · rename_i hNone
    refine ⟨fun _ => rfl, hIdle fun minute hMinute => ?_⟩
    rw [sourceCandles, getLatestClosedCandleTime_eq_none.mp hNone] at hMinute
    exact absurd hMinute not_mem_nil
  · rename_i endTime hLatest
    split
    · rename_i hEmpty
      refine ⟨fun _ => rfl, hIdle fun minute hMinute => ?_⟩
      exact (sourceWrite_of_mem hState hMinute).after.trans_le
        ((closeTime_le_of_latest hState hLatest hMinute).trans hEmpty)
    · exact find?_after_batch hState hTarget hLatest

theorem sourceCandles_aggregateOnce :
    sourceCandles aggregation (aggregateOnce aggregation state startedAt).candles =
      sourceCandles aggregation state.candles :=
  closedCandles_congr (storedAt_aggregateOnce hState hTarget startedAt).1

/-- Where a tick does not look, the candles from the first one on were right before. -/
theorem exact_aggregateOnce {first : Candle}
    (hFirst : first ∈ derivedCandles aggregation (aggregateOnce aggregation state startedAt).candles)
    (hFrom : first.openTime ≤ start) :
    storedAt aggregation (aggregateOnce aggregation state startedAt).candles start =
      expectedAt aggregation state.candles start := by
  obtain ⟨-, hStored⟩ := storedAt_aggregateOnce hState hTarget startedAt
  rw [hStored start]
  split
  · rfl
  · rename_i hStart
    have hBefore := not_le.mp hStart
    have hFound := (mem_closedCandles_iff_find?.mp hFirst).1
    have hKept := hStored first.openTime
    rw [if_neg (not_le.mpr (hFrom.trans_lt hBefore))] at hKept
    have hOld := (mem_derivedCandles hState).mpr (hKept.symm.trans hFound)
    cases hLatest : latestTarget aggregation state.candles with
    | none =>
      rw [derivedCandles, getLatestClosedCandleTime_eq_none.mp hLatest] at hOld
      exact absurd hOld not_mem_nil
    | some latest =>
      rw [tickStart, hLatest] at hBefore
      exact hState.settled first hOld latest hLatest start hFrom hBefore

theorem aggregating_aggregateOnce :
    Aggregating aggregation (aggregateOnce aggregation state startedAt).candles where
  minutes openTime minute hFound :=
    hState.minutes openTime minute
      (((storedAt_aggregateOnce hState hTarget startedAt).1 openTime).symm.trans hFound)
  derived start candle hFound := by
    rw [sourceCandles_aggregateOnce hState hTarget startedAt]
    rw [(storedAt_aggregateOnce hState hTarget startedAt).2 start] at hFound
    split at hFound
    · refine ⟨(aggregateOf_aggregateAt hFound).closed, ?_⟩
      by_contra hIncomplete
      rw [expectedAt_eq_none.mpr hIncomplete] at hFound
      cases hFound
    · exact hState.derived start candle hFound
  settled first hFirst _ _ start hFrom _ := by
    rw [expectedAt, sourceCandles_aggregateOnce hState hTarget startedAt]
    exact exact_aggregateOnce hState hTarget startedAt hFirst hFrom

theorem agreesWithBatch_aggregateOnce :
    AgreesWithBatch aggregation (aggregateOnce aggregation state startedAt).candles := by
  refine agreesWithBatch_of_exact (aggregating_aggregateOnce hState hTarget startedAt) ?_
  intro first hFirst start hFrom
  rw [expectedAt, sourceCandles_aggregateOnce hState hTarget startedAt]
  exact exact_aggregateOnce hState hTarget startedAt hFirst hFrom

end

end Ticks

section Writes
variable {aggregation : CandleAggregation} {candles : CandleTable} {candle : Candle}
  {start : DateTime}

/-- Rows that the aggregation reads or writes are under other keys. -/
theorem Unrelated.ne_candleKey (hUnrelated : Unrelated aggregation candle) {interval : CandleInterval}
    (hInterval : interval = .oneMinute ∨ interval = aggregation.target) (openTime : DateTime) :
    (aggregation.symbol, interval, openTime) ≠ candleKey candle := by
  intro hSame
  simp only [candleKey, Prod.mk.injEq] at hSame
  rcases hUnrelated with hSymbol | ⟨hMinute, hTarget⟩
  · exact hSymbol hSame.1.symm
  · rcases hInterval with rfl | rfl
    · exact hMinute hSame.2.1.symm
    · exact hTarget hSame.2.1.symm

theorem aggregating_unrelated (hState : Aggregating aggregation candles)
    (hUnrelated : Unrelated aggregation candle) :
    Aggregating aggregation (upsertCandle candles candle) := by
  have hMinutes (openTime : DateTime) := @find?_upsertCandle_of_ne candles candle _
    (hUnrelated.ne_candleKey (.inl rfl) openTime)
  have hTargets (openTime : DateTime) := @find?_upsertCandle_of_ne candles candle _
    (hUnrelated.ne_candleKey (.inr rfl) openTime)
  have hSource : sourceCandles aggregation (upsertCandle candles candle) =
      sourceCandles aggregation candles := closedCandles_congr hMinutes
  have hDerived : derivedCandles aggregation (upsertCandle candles candle) =
      derivedCandles aggregation candles := closedCandles_congr hTargets
  have hLatest := latestTarget_congr hTargets
  constructor
  · intro openTime minute hFound
    exact hState.minutes openTime minute ((hMinutes openTime).symm.trans hFound)
  · intro start stored hFound
    rw [hSource]
    exact hState.derived start stored ((hTargets start).symm.trans hFound)
  · intro first hFirst latest hTime start hFrom hBefore
    rw [hDerived] at hFirst
    rw [hLatest] at hTime
    rw [expectedAt, hSource]
    exact (hTargets start).trans (hState.settled first hFirst latest hTime start hFrom hBefore)

/-- The minutes after a closed one is stored: it, and those of other open times. -/
theorem mem_sourceCandles_upsertCandle (hWrite : SourceWrite aggregation candle) {minute : Candle} :
    minute ∈ sourceCandles aggregation (upsertCandle candles candle) ↔ minute = candle ∨
        minute ∈ sourceCandles aggregation candles ∧ minute.openTime ≠ candle.openTime := by
  rw [sourceCandles, sourceCandles, mem_closedCandles_iff_find?, mem_closedCandles_iff_find?]
  have hKey : candleKey candle = (aggregation.symbol, .oneMinute, candle.openTime) := by
    rw [candleKey, hWrite.symbol, hWrite.interval]
  by_cases hOpen : minute.openTime = candle.openTime
  · rw [hOpen, ← hKey, find?_upsertCandle_self]
    constructor
    · rintro ⟨hSame, -⟩
      exact .inl (some.inj hSame).symm
    · rintro (rfl | ⟨-, hOther⟩)
      · exact ⟨rfl, hWrite.closed⟩
      · exact absurd rfl hOther
  · rw [find?_upsertCandle_of_ne (fun hSame => hOpen (by
      rw [hKey] at hSame
      exact congrArg (·.2.2) hSame))]
    constructor
    · exact fun hMinute => .inr ⟨hMinute, hOpen⟩
    · rintro (rfl | ⟨hMinute, -⟩)
      · exact absurd rfl hOpen
      · exact hMinute

theorem completeBucket_upsertCandle (hState : Aggregating aggregation candles)
    (hWrite : SourceWrite aggregation candle)
    (hComplete : CompleteBucket aggregation.target (sourceCandles aggregation candles) start) :
    CompleteBucket aggregation.target
      (sourceCandles aggregation (upsertCandle candles candle)) start where
  aligned := hComplete.aligned
  present i hIndex := by
    obtain ⟨minute, hMinute, hOpen⟩ := hComplete.present i hIndex
    rw [closedMinutes_sourceCandles] at hMinute ⊢
    by_cases hSame : minute.openTime = candle.openTime
    · exact ⟨candle, (mem_sourceCandles_upsertCandle hWrite).mpr (.inl rfl), hSame.symm.trans hOpen⟩
    · exact ⟨minute, (mem_sourceCandles_upsertCandle hWrite).mpr (.inr ⟨hMinute, hSame⟩), hOpen⟩
  onGrid minute hMinute _ _ := by
    rw [closedMinutes_sourceCandles] at hMinute
    rcases (mem_sourceCandles_upsertCandle hWrite).mp hMinute with rfl | ⟨hOld, -⟩
    · exact hWrite.aligned
    · exact (sourceWrite_of_mem hState hOld).aligned

/-- Storing a minute concerns no other bucket than its own. -/
theorem expectedAt_upsertCandle (hWrite : SourceWrite aggregation candle)
    (hOther : aggregation.target.bucketStart candle.openTime ≠ start) :
    expectedAt aggregation (upsertCandle candles candle) start =
      expectedAt aggregation candles start := by
  refine aggregateAt_congr (distinct_sourceCandles _ _) (distinct_sourceCandles _ _) ?_
  intro minute hBucket
  have hOpen : minute.openTime ≠ candle.openTime := fun hSame => hOther (hSame ▸ hBucket)
  rw [closedMinutes_sourceCandles, closedMinutes_sourceCandles, mem_sourceCandles_upsertCandle hWrite]
  constructor
  · rintro (rfl | ⟨hOld, -⟩)
    · exact absurd rfl hOpen
    · exact hOld
  · exact fun hOld => .inr ⟨hOld, hOpen⟩

theorem aggregating_sourceWrite (hState : Aggregating aggregation candles)
    (hTarget : aggregation.target ≠ .oneMinute) (hWrite : SourceWrite aggregation candle)
    (hWithin : WithinOverlap aggregation candles candle) :
    Aggregating aggregation (upsertCandle candles candle) := by
  have hTargets (openTime : DateTime) :
      (upsertCandle candles candle).find? (aggregation.symbol, aggregation.target, openTime) =
        candles.find? (aggregation.symbol, aggregation.target, openTime) := by
    refine find?_upsertCandle_of_ne fun hSame => hTarget ?_
    exact (congrArg (·.2.1) hSame).trans hWrite.interval
  have hDerived : derivedCandles aggregation (upsertCandle candles candle) =
      derivedCandles aggregation candles := closedCandles_congr hTargets
  have hLatest := latestTarget_congr hTargets
  constructor
  · intro openTime minute hFound
    by_cases hKey : (aggregation.symbol, .oneMinute, openTime) = candleKey candle
    · rw [hKey, find?_upsertCandle_self] at hFound
      exact some.inj hFound ▸ hWrite
    · rw [find?_upsertCandle_of_ne hKey] at hFound
      exact hState.minutes openTime minute hFound
  · intro start stored hFound
    obtain ⟨hClosed, hComplete⟩ := hState.derived start stored ((hTargets start).symm.trans hFound)
    exact ⟨hClosed, completeBucket_upsertCandle hState hWrite hComplete⟩
  · intro first hFirst latest hTime start hFrom hBefore
    rw [hDerived] at hFirst
    rw [hLatest] at hTime
    have hOther : aggregation.target.bucketStart candle.openTime ≠ start := by
      intro hSame
      exact absurd (hSame ▸ hWithin latest hTime) (not_le.mpr hBefore)
    rw [expectedAt_upsertCandle hWrite hOther]
    exact (hTargets start).trans (hState.settled first hFirst latest hTime start hFrom hBefore)

end Writes

section Runs
variable {aggregation : CandleAggregation}

theorem aggregating_empty (aggregation : CandleAggregation) : Aggregating aggregation .empty where
  minutes _ _ hFound := by cases hFound
  derived _ _ hFound := by cases hFound
  settled first hFirst := by cases (mem_closedCandles_iff_find?.mp hFirst).1

theorem aggregating_aggregatorStep (hTarget : aggregation.target ≠ .oneMinute)
    (state : AggregatorState) (input : AggregatorStep) (hState : Aggregating aggregation state.candles)
    (hInput : Admissible aggregation state input) :
    Aggregating aggregation (aggregatorStep aggregation state input).candles := by
  cases input with
  | tick startedAt => exact aggregating_aggregateOnce hState hTarget startedAt
  | write candle =>
    rcases hInput with hUnrelated | ⟨hWrite, hWithin⟩
    · exact aggregating_unrelated hState hUnrelated
    · exact aggregating_sourceWrite hState hTarget hWrite hWithin

/-- Five minutes are aggregated, the fourth is corrected with the next ones, and
the tick that follows sees the correction. -/
def sampleSteps : List AggregatorStep :=
  (sampleMinutes.map .write) ++ [.tick (minutes 6), .write { sampleMinute (minutes 3) with high := 102 }] ++
    (range 5).map (fun i : Nat => .write (sampleMinute (minutes (5 + i)))) ++ [.tick (minutes 11)]

def sampleAggregation : CandleAggregation := ⟨.btcusdt, .fiveMinutes, minutes 1440, minutes 30⟩

end Runs

end AegisQuant.Market
