import AegisQuant.Strategy.Evaluate

/-! The windows of a strategy as ranges of the list it is evaluated on. At an
index the strategy is given the candles up to it, and whatever it measures in
its recent ones lies in a range that ends there. -/
namespace AegisQuant.Strategy
open List

section Slices
variable {start stop first last : Nat} {candles : List Candle}

theorem slice_slice (start stop first last : Nat) (candles : List Candle) :
    slice start stop (slice first last candles) =
      slice (first + start) (min last (first + stop)) candles := by
  simp only [slice, take_drop, drop_drop, take_take, Nat.min_comm]

theorem slice_eq_rtake {required stop : Nat} {candles : List Candle} (hStop : stop ≤ candles.length) :
    slice (stop - required) stop candles = (candles.take stop).rtake required := by
  rw [slice, rtake, length_take, Nat.min_eq_left hStop]

theorem length_slice (hStop : stop ≤ candles.length) :
    (slice start stop candles).length = stop - start := by
  rw [slice, length_drop, length_take, Nat.min_eq_left hStop]

theorem mem_of_mem_slice {candle : Candle} (hCandle : candle ∈ slice start stop candles) :
    candle ∈ candles :=
  mem_of_mem_take (mem_of_mem_drop hCandle)

theorem exists_highest_eq {latest : Candle} (hLatest : latest ∈ candles) (start stop : Nat) :
    ∃ candle ∈ candles, (highest (slice start stop candles)).getD latest.high = candle.high := by
  cases hMax : highest (slice start stop candles) with
  | none => exact ⟨latest, hLatest, rfl⟩
  | some value =>
    obtain ⟨candle, hCandle, rfl⟩ := mem_map.mp (max?_mem hMax)
    exact ⟨candle, mem_of_mem_slice hCandle, rfl⟩

theorem exists_lowest_eq {latest : Candle} (hLatest : latest ∈ candles) (start stop : Nat) :
    ∃ candle ∈ candles, (lowest (slice start stop candles)).getD latest.low = candle.low := by
  cases hMin : lowest (slice start stop candles) with
  | none => exact ⟨latest, hLatest, rfl⟩
  | some value =>
    obtain ⟨candle, hCandle, rfl⟩ := mem_map.mp (min?_mem hMin)
    exact ⟨candle, mem_of_mem_slice hCandle, rfl⟩

end Slices

section Reads
variable {candles : List Candle} {index steps count within : Nat}

section
variable (hIndex : index < candles.length)
include hIndex

theorem readBehind_take (hSteps : steps ≤ index) (other : Candle) :
    readBehind steps (candles.take (index + 1)) = .ok (candles.getD (index - steps) other) := by
  have hLength : (candles.take (index + 1)).length = index + 1 := by
    rw [length_take, Nat.min_eq_left hIndex]
  have hBehind : Window.behind? steps (candles.take (index + 1)) =
      some (candles.getD (index - steps) other) := by
    rw [Window.behind?, getElem?_reverse (by omega), hLength, getElem?_take_of_lt (by omega),
      show index + 1 - 1 - steps = index - steps by omega, getD_eq_getElem?_getD,
      getElem?_eq_getElem (by omega), Option.getD_some]
  exact Fallible.ofOption_eq_ok.mpr hBehind

theorem readLast_take (hCount : count ≤ index + 1) : readLast count (candles.take (index + 1)) =
      .ok (slice (index + 1 - count) (index + 1) candles) := by
  have hLength : (candles.take (index + 1)).length = index + 1 := by
    rw [length_take, Nat.min_eq_left hIndex]
  rw [readLast_of_le (by omega), slice_eq_rtake hIndex]

theorem readBeforeLast_take (hCount : count ≤ index) :
    readBeforeLast count (candles.take (index + 1)) = .ok (slice (index - count) index candles) := by
  have hLength : (candles.take (index + 1)).length = index + 1 := by
    rw [length_take, Nat.min_eq_left hIndex]
  have hDropped : (candles.take (index + 1)).dropLast = candles.take index := by
    rw [dropLast_eq_take, hLength, take_take, Nat.add_sub_cancel,
      Nat.min_eq_left (Nat.le_succ index)]
  rw [readBeforeLast_of_lt (by omega), hDropped, slice_eq_rtake hIndex.le]

/-- The same reads in a range that ends at the index. -/
theorem readBehind_recent (hWithin : within ≤ index + 1) (hSteps : steps < within) (other : Candle)
    :
    readBehind steps (slice (index + 1 - within) (index + 1) candles) =
      .ok (candles.getD (index - steps) other) := by
  rw [slice_eq_rtake hIndex, readBehind_rtake hSteps, readBehind_take hIndex (by omega)]

end

theorem readLatest_recent {latest : Candle} (hLatest : candles[index]? = some latest)
    (hWithin : within ≤ index + 1) (hNonempty : 0 < within) :
    readBehind 0 (slice (index + 1 - within) (index + 1) candles) = .ok latest := by
  rw [readBehind_recent (List.getElem?_eq_some_iff.mp hLatest).1 hWithin hNonempty latest, Nat.sub_zero,
    getD_eq_getElem?_getD, hLatest, Option.getD_some]

theorem readLast_recent (hIndex : index < candles.length) (hWithin : within ≤ index + 1)
    (hCount : count ≤ within) :
    readLast count (slice (index + 1 - within) (index + 1) candles) =
      .ok (slice (index + 1 - count) (index + 1) candles) := by
  rw [slice_eq_rtake hIndex, readLast_rtake hCount, readLast_take hIndex (by omega)]

theorem readBeforeLast_recent (hIndex : index < candles.length) (hWithin : within ≤ index + 1)
    (hCount : count < within) :
    readBeforeLast count (slice (index + 1 - within) (index + 1) candles) =
      .ok (slice (index - count) index candles) := by
  rw [slice_eq_rtake hIndex, readBeforeLast_rtake hCount, readBeforeLast_take hIndex (by omega)]

theorem slice_recent {start stop first last : Nat} (hWithin : within ≤ index + 1)
    (hStop : stop ≤ within) (hFirst : index + 1 - within + start = first)
    (hLast : index + 1 - within + stop = last) :
    slice start stop (slice (index + 1 - within) (index + 1) candles) = slice first last candles := by
  rw [slice_slice, hFirst, hLast, Nat.min_eq_right (by omega)]

theorem rtake_recent (hIndex : index < candles.length) (hCount : count ≤ within) :
    (slice (index + 1 - within) (index + 1) candles).rtake count =
      slice (index + 1 - count) (index + 1) candles := by
  rw [slice_eq_rtake hIndex, Window.rtake_rtake hCount, slice_eq_rtake hIndex]

end Reads

section Metrics
variable {config : StrategyConfig} {candles : List Candle} {index : Nat} {latest : Candle}

structure CompressionMeasured (config : StrategyConfig) (candles : List Candle) (index : Nat)
    (latest : Candle) (metrics : CompressionBreakoutMetrics) : Prop where
  recentAvgRangePct : metrics.recentAvgRangePct = averageDecimal
    ((slice (index - compressionLookback config) index candles).map candleRangePct)
  baselineAvgRangePct : metrics.baselineAvgRangePct = averageDecimal
    (((slice (index - compressionLookback config - breakoutLookback config)
      (index - compressionLookback config) candles).map candleRangePct).insertionSort (· ≤ ·))
  compressionThresholdRangePct : metrics.compressionThresholdRangePct = percentile
    (((slice (index - compressionLookback config - breakoutLookback config)
      (index - compressionLookback config) candles).map candleRangePct).insertionSort (· ≤ ·))
    (compressionPercentileThreshold config)
  compressionRatio : metrics.compressionRatio =
    pctRatio metrics.recentAvgRangePct metrics.baselineAvgRangePct
  compressionPassed : metrics.compressionPassed = decide (metrics.compressionThresholdRangePct > 0 ∧
    metrics.recentAvgRangePct ≤ metrics.compressionThresholdRangePct)
  breakoutLevel : metrics.breakoutLevel =
    (highest (slice (index - breakoutLookback config) index candles)).getD latest.high
  breakoutPct : metrics.breakoutPct =
    pctRatio (latest.close - metrics.breakoutLevel) metrics.breakoutLevel
  volumeRatio : metrics.volumeRatio = volumeRatio latest (averageDecimal
    ((slice (index - breakoutLookback config) index candles).map (·.volume)))
  rangeWidthPct : metrics.rangeWidthPct =
    (let rangeLow := (lowest (slice (index - breakoutLookback config) index candles)).getD latest.low
    pctRatio (metrics.breakoutLevel - rangeLow) rangeLow)
  rangeWidthWithinBounds : metrics.rangeWidthWithinBounds = decide
    (metrics.rangeWidthPct ≥ minRangeWidthPct config ∧ metrics.rangeWidthPct ≤ maxRangeWidthPct config)

theorem calculateCompressionBreakoutMetrics_recent (hLatest : candles[index]? = some latest)
    (hLookbacks : compressionLookback config + breakoutLookback config ≤ index)
    (hBreakout : 0 < breakoutLookback config) :
    ∃ metrics, calculateCompressionBreakoutMetrics config
        (slice (index + 1 - (compressionLookback config + breakoutLookback config + 1)) (index + 1)
          candles) = .ok metrics ∧
      CompressionMeasured config candles index latest metrics := by
  have hIndex := (List.getElem?_eq_some_iff.mp hLatest).1
  generalize hCompression : compressionLookback config = compression at *
  generalize hBreakoutLookback : breakoutLookback config = breakout at *
  have hLength : (slice (index + 1 - (compression + breakout + 1)) (index + 1) candles).length =
      compression + breakout + 1 := by
    rw [length_slice hIndex]
    omega
  have hRead : readBehind 0 (slice (index + 1 - (compression + breakout + 1)) (index + 1) candles) =
      .ok latest := readLatest_recent hLatest (by omega) (by omega)
  have hWithin : compression + breakout + 1 ≤ index + 1 := by omega
  have hRecent : slice (compression + breakout + 1 - 1 - compression) (compression + breakout + 1 - 1)
      (slice (index + 1 - (compression + breakout + 1)) (index + 1) candles) =
        slice (index - compression) index candles :=
    slice_recent hWithin (by omega) (by omega) (by omega)
  have hBaseline : slice (compression + breakout + 1 - 1 - compression - breakout)
      (compression + breakout + 1 - 1 - compression)
      (slice (index + 1 - (compression + breakout + 1)) (index + 1) candles) =
        slice (index - compression - breakout) (index - compression) candles :=
    slice_recent hWithin (by omega) (by omega) (by omega)
  have hWindow : slice (compression + breakout + 1 - 1 - breakout) (compression + breakout + 1 - 1)
      (slice (index + 1 - (compression + breakout + 1)) (index + 1) candles) =
        slice (index - breakout) index candles :=
    slice_recent hWithin (by omega) (by omega) (by omega)
  have hOrder : compression + breakout + 1 - 1 - compression >
      compression + breakout + 1 - 1 - compression - breakout := by omega
  simp only [calculateCompressionBreakoutMetrics, hCompression, hBreakoutLookback, hRead,
    Fallible.ok_bind, hLength, hRecent, hBaseline, hWindow, if_pos hOrder]
  refine ⟨_, rfl, ?_⟩
  constructor
  all_goals simp only [hCompression, hBreakoutLookback]

end Metrics

end AegisQuant.Strategy
