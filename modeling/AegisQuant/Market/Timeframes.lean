import AegisQuant.Market.Aggregation

/-! Two target intervals over the same minutes. The buckets of the finer one
partition those of the coarser one, so a coarse candle combines the fine ones
in it. -/
namespace AegisQuant.Market
open List

section Nested
variable {fine coarse : CandleInterval}

/-- Every interval divides the longer ones. -/
theorem duration_dvd_duration (hFiner : fine.duration < coarse.duration) :
    fine.duration ∣ coarse.duration := by
  revert hFiner
  cases fine <;> cases coarse <;> decide

variable (interval : CandleInterval)

theorem bucketStart_bounds (timestamp : DateTime) :
    interval.duration ∣ interval.bucketStart timestamp ∧
      interval.bucketStart timestamp ≤ timestamp ∧
      timestamp < interval.bucketStart timestamp + interval.duration :=
  (bucketStart_eq_iff interval).mp rfl

theorem bucketStart_mono {first second : DateTime} (hOrder : first ≤ second)
    : interval.bucketStart first ≤ interval.bucketStart second := by
  have hPositive := duration_pos interval
  rw [bucketStart_eq, bucketStart_eq]
  exact Int.mul_le_mul_of_nonneg_right (Int.ediv_le_ediv hPositive hOrder) hPositive.le

theorem bucketStart_of_dvd {interval : CandleInterval} {timestamp : DateTime}
    (hAligned : interval.duration ∣ timestamp) : interval.bucketStart timestamp = timestamp :=
  (bucketStart_eq_iff interval).mpr
    ⟨hAligned, Int.le_refl _, Int.lt_add_of_pos_right _ (duration_pos interval)⟩

theorem bucketStart_bucketStart (hDivides : fine.duration ∣ coarse.duration) (timestamp : DateTime) :
    coarse.bucketStart (fine.bucketStart timestamp) = coarse.bucketStart timestamp := by
  obtain ⟨hAligned, hAfter, hBefore⟩ := bucketStart_bounds coarse timestamp
  obtain ⟨_, hFineAfter, _⟩ := bucketStart_bounds fine timestamp
  refine (bucketStart_eq_iff coarse).mpr ⟨hAligned, ?_, lt_of_le_of_lt hFineAfter hBefore⟩
  have hStart := bucketStart_mono fine hAfter
  rwa [bucketStart_of_dvd (hDivides.trans hAligned)] at hStart

end Nested

section Agreement
variable {fine coarse target : CandleInterval} {candles : List Candle} {start : DateTime}

theorem completeBucket_iff : CompleteBucket target candles start ↔ target.duration ∣ start ∧
    (∀ openTime, minutes 1 ∣ openTime → target.bucketStart openTime = start →
      ∃ minute ∈ closedMinutes candles, minute.openTime = openTime) ∧
    ∀ minute ∈ closedMinutes candles, target.bucketStart minute.openTime = start →
      minutes 1 ∣ minute.openTime := by
  have hMinutes := minutes_dvd_duration target
  constructor
  · intro hComplete
    refine ⟨hComplete.aligned, ?_, ?_⟩
    · intro openTime hGrid hStart
      obtain ⟨_, hAfter, hBefore⟩ := (bucketStart_eq_iff target).mp hStart
      obtain ⟨i, hIndex, rfl⟩ := exists_minute hGrid hComplete.aligned hAfter hBefore
      exact hComplete.present i hIndex
    · intro minute hMinute hStart
      obtain ⟨_, hAfter, hBefore⟩ := (bucketStart_eq_iff target).mp hStart
      exact hComplete.onGrid minute hMinute hAfter hBefore
  · rintro ⟨hAligned, hPresent, hGrid⟩
    refine ⟨hAligned, ?_, ?_⟩
    · intro i hIndex
      refine hPresent _ (Int.dvd_add (hMinutes.trans hAligned) ⟨i, (minutes_one_mul i).symm⟩) ?_
      exact bucketStart_add_minutes hAligned hIndex
    · intro minute hMinute hAfter hBefore
      exact hGrid minute hMinute ((bucketStart_eq_iff target).mpr ⟨hAligned, hAfter, hBefore⟩)

theorem completeBucket_iff_fine (hDivides : fine.duration ∣ coarse.duration) :
    CompleteBucket coarse candles start ↔ coarse.duration ∣ start ∧
      ∀ inner, fine.duration ∣ inner → coarse.bucketStart inner = start →
        CompleteBucket fine candles inner := by
  have hNested : ∀ {inner openTime}, fine.bucketStart openTime = inner →
      coarse.bucketStart inner = start → coarse.bucketStart openTime = start := by
    intro inner openTime hFine hCoarse
    rw [← hCoarse, ← hFine, bucketStart_bucketStart hDivides]
  constructor
  · intro hComplete
    obtain ⟨hAligned, hPresent, hGrid⟩ := completeBucket_iff.mp hComplete
    refine ⟨hAligned, fun inner hInner hCoarse => completeBucket_iff.mpr ⟨hInner, ?_, ?_⟩⟩
    · intro openTime hMinute hFine
      exact hPresent openTime hMinute (hNested hFine hCoarse)
    · intro minute hMinute hFine
      exact hGrid minute hMinute (hNested hFine hCoarse)
  · rintro ⟨hAligned, hFine⟩
    have hBucket : ∀ openTime, coarse.bucketStart openTime = start →
        CompleteBucket fine candles (fine.bucketStart openTime) := by
      intro openTime hCoarse
      refine hFine _ (bucketStart_bounds fine openTime).1 ?_
      rw [bucketStart_bucketStart hDivides, hCoarse]
    refine completeBucket_iff.mpr ⟨hAligned, ?_, ?_⟩
    · intro openTime hMinute hCoarse
      exact (completeBucket_iff.mp (hBucket openTime hCoarse)).2.1 openTime hMinute rfl
    · intro minute hMinute hCoarse
      exact (completeBucket_iff.mp (hBucket _ hCoarse)).2.2 minute hMinute rfl

def fineCandles (fine coarse : CandleInterval) (candles : List Candle) (start : DateTime) :
    List Candle :=
  (aggregateClosed1mCandles candles fine).candles.filter fun part =>
    coarse.bucketStart part.openTime = start

theorem flatMap_sourceMinutes (hDivides : fine.duration ∣ coarse.duration)
    (hDistinct : ((closedMinutes candles).map (·.openTime)).Nodup)
    (hComplete : CompleteBucket coarse candles start) :
    (fineCandles fine coarse candles start).flatMap
        (fun part => sourceMinutes fine candles part.openTime) =
      sourceMinutes coarse candles start := by
  apply SortByKey.eq_of_strict (strict_sourceMinutes hDistinct)
  · refine pairwise_flatMap.mpr ⟨fun part _ => strict_sourceMinutes hDistinct, ?_⟩
    refine (increasing_aggregated.sublist filter_sublist).imp ?_
    intro first second hBefore minute hMinute later hLater
    by_contra hOrder
    have hStarts := bucketStart_mono fine (not_lt.mp hOrder)
    rw [(mem_sourceMinutes.mp hMinute).2, (mem_sourceMinutes.mp hLater).2] at hStarts
    exact absurd hBefore (not_lt.mpr hStarts)
  · intro minute
    rw [mem_flatMap, mem_sourceMinutes]
    constructor
    · rintro ⟨part, hPart, hMinute⟩
      obtain ⟨hClosed, hStart⟩ := mem_sourceMinutes.mp hMinute
      have hCoarse := of_decide_eq_true (mem_filter.mp hPart).2
      rw [← hStart, bucketStart_bucketStart hDivides] at hCoarse
      exact ⟨hClosed, hCoarse⟩
    · rintro ⟨hClosed, hCoarse⟩
      have hNested := (bucketStart_bucketStart hDivides minute.openTime).trans hCoarse
      have hFine := ((completeBucket_iff_fine hDivides).mp hComplete).2 _
        (bucketStart_bounds fine minute.openTime).1 hNested
      obtain ⟨part, hPart, hOpen⟩ := (aggregated_iff_complete hDistinct).mpr hFine
      refine ⟨part, mem_filter.mpr ⟨hPart, decide_eq_true ?_⟩, ?_⟩
      · rw [hOpen, hNested]
      · exact mem_sourceMinutes.mpr ⟨hClosed, hOpen.symm⟩

end Agreement

/-- A coarse candle is there when all fine candles of its bucket are, and is
their combination. -/
theorem timeframes_agree (candles : List Candle) (fine coarse : CandleInterval)
    (hFiner : fine.duration < coarse.duration)
    (hDistinct : ((closedMinutes candles).map (·.openTime)).Nodup) (start : DateTime)
    (hBucket : coarse.duration ∣ start) :
    ((∃ candle ∈ (aggregateClosed1mCandles candles coarse).candles, candle.openTime = start) ↔
      ∀ inner, fine.duration ∣ inner → start ≤ inner → inner < start + coarse.duration →
        ∃ part ∈ (aggregateClosed1mCandles candles fine).candles, part.openTime = inner) ∧
    ∀ candle ∈ (aggregateClosed1mCandles candles coarse).candles, candle.openTime = start →
      ∃ first rest, fineCandles fine coarse candles start = first :: rest ∧
        candle = combine coarse start first rest := by
  have hDivides := duration_dvd_duration hFiner
  constructor
  · rw [aggregated_iff_complete hDistinct, completeBucket_iff_fine hDivides]
    constructor
    · rintro ⟨_, hFine⟩ inner hInner hAfter hBefore
      exact (aggregated_iff_complete hDistinct).mpr
        (hFine inner hInner ((bucketStart_eq_iff coarse).mpr ⟨hBucket, hAfter, hBefore⟩))
    · intro hParts
      refine ⟨hBucket, fun inner hInner hCoarse => ?_⟩
      obtain ⟨_, hAfter, hBefore⟩ := (bucketStart_eq_iff coarse).mp hCoarse
      exact (aggregated_iff_complete hDistinct).mp (hParts inner hInner hAfter hBefore)
  · intro candle hCandle hOpen
    have hComplete := (aggregated_iff_complete hDistinct).mp ⟨candle, hCandle, hOpen⟩
    have hMinutes := flatMap_sourceMinutes hDivides hDistinct hComplete
    have hAggregate := aggregateOf_of_mem hCandle
    rw [hOpen] at hAggregate
    cases hParts : fineCandles fine coarse candles start with
    | nil =>
      rw [hParts, flatMap_nil] at hMinutes
      exact absurd hMinutes.symm hAggregate.combines.ne_nil
    | cons first rest =>
      have hEach : ∀ part ∈ first :: rest,
          Combines (id part) (sourceMinutes fine candles part.openTime) := by
        intro part hPart
        rw [← hParts] at hPart
        exact (aggregateOf_of_mem (mem_filter.mp hPart).1).combines
      have hWhole := combines_combine coarse start first rest
      rw [← map_id (first :: rest)] at hWhole
      have hFlattened := hWhole.flatMap hEach
      rw [← hParts, hMinutes] at hFlattened
      refine ⟨first, rest, rfl, hAggregate.combines.unique hFlattened ?_ ?_ ?_ ?_⟩
      · exact hAggregate.interval
      · exact hAggregate.openTime
      · exact hAggregate.closeTime
      · exact hAggregate.closed

def sampleQuarter : List Candle := (range 15).map fun i : Nat => sampleMinute (minutes i)

theorem timeframes_agree_sample : ((closedMinutes sampleQuarter).map (·.openTime)).Nodup ∧
    ∃ candle ∈ (aggregateClosed1mCandles sampleQuarter .fifteenMinutes).candles,
      candle.openTime = 0 ∧ ∃ first rest,
        fineCandles .fiveMinutes .fifteenMinutes sampleQuarter 0 = first :: rest ∧
          candle = combine .fifteenMinutes 0 first rest := by
  have hDistinct : ((closedMinutes sampleQuarter).map (·.openTime)).Nodup := by decide +kernel
  obtain ⟨_, hCombined⟩ := timeframes_agree sampleQuarter .fiveMinutes .fifteenMinutes
    (by decide) hDistinct 0 (by decide)
  have hEmitted : ∃ candle ∈ (aggregateClosed1mCandles sampleQuarter .fifteenMinutes).candles,
      candle.openTime = 0 := by decide +kernel
  obtain ⟨candle, hCandle, hOpen⟩ := hEmitted
  exact ⟨hDistinct, candle, hCandle, hOpen, hCombined candle hCandle hOpen⟩

end AegisQuant.Market
