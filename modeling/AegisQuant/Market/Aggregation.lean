import AegisQuant.Market.CandleBuilder
import AegisQuant.Library.Groups

/-! Candles of longer intervals from closed one-minute candles. The minutes
are grouped by the bucket they start in, and a bucket that holds all of its
minutes, and nothing else, becomes one candle. -/
namespace AegisQuant

def CandleInterval.sourceCandleCount : CandleInterval → Nat
  | .oneMinute => 1
  | .fiveMinutes => 5
  | .fifteenMinutes => 15
  | .oneHour => 60
  | .fourHours => 240

/-- Whole seconds, cut down to a multiple of the interval with the Euclidean
remainder. -/
def CandleInterval.bucketStart (interval : CandleInterval) (timestamp : DateTime) : DateTime :=
  let stepSeconds := interval.duration / 1000000000
  let seconds := timestamp / 1000000000
  DateTime.seconds (seconds - seconds % stepSeconds)

def CandleInterval.bucketCloseTime (interval : CandleInterval) (bucketStart : DateTime) : DateTime :=
  bucketStart + interval.duration - DateTime.milliseconds 1

end AegisQuant

namespace AegisQuant.Market
open SortByKey Groups List Option

def minutes (count : Int) : Int := DateTime.seconds (60 * count)

structure CandleAggregationOutcome where
  candles : List Candle
  skippedIncompleteBuckets : Nat
  deriving DecidableEq

def CandleAggregationOutcome.add (outcome : CandleAggregationOutcome) :
    Option Candle → CandleAggregationOutcome
  | some candle => { outcome with candles := outcome.candles ++ [candle] }
  | none => { outcome with skippedIncompleteBuckets := outcome.skippedIncompleteBuckets + 1 }

/-- A candle over consecutive candles, of which there is a first one. -/
def combine (target : CandleInterval) (bucketStart : DateTime) (first : Candle)
    (rest : List Candle) : Candle where
  symbol := first.symbol
  interval := target
  openTime := bucketStart
  closeTime := target.bucketCloseTime bucketStart
  «open» := first.open
  high := (rest.map (·.high)).foldl max first.high
  low := (rest.map (·.low)).foldl min first.low
  close := (rest.getLast?.getD first).close
  volume := (first :: rest).foldl (fun sum candle => sum + candle.volume) 0
  quoteVolume := (first :: rest).foldlM
    (fun sum candle => candle.quoteVolume.map fun value => sum + value) 0
  tradeCount := ((first :: rest).map (·.tradeCount)).sum
  isClosed := true

/-- The bucket has as many candles as it should have, and the candle at each
index opens as many minutes after the start. -/
def isComplete (target : CandleInterval) (bucketStart : DateTime) (bucket : List Candle) : Bool :=
  bucket.length = target.sourceCandleCount &&
    bucket.zipIdx.all fun entry => entry.1.openTime = bucketStart + minutes entry.2

def aggregateBucket (target : CandleInterval) (bucketStart : DateTime) (bucket : List Candle) :
    Option Candle :=
  let sorted := sort (·.openTime) bucket
  if isComplete target bucketStart sorted then
    match sorted with
    | first :: rest => some (combine target bucketStart first rest)
    | [] => none
  else none

def isSourceMinute (candle : Candle) : Bool := candle.isClosed && candle.interval = .oneMinute

def aggregateClosed1mCandles (candles : List Candle) (target : CandleInterval) :
    CandleAggregationOutcome :=
  if candles.isEmpty then ⟨[], 0⟩
  else
    let buckets := group (fun candle => target.bucketStart candle.openTime)
      (candles.filter isSourceMinute)
    buckets.foldl (fun outcome bucket =>
      outcome.add (aggregateBucket target bucket.1 bucket.2)) ⟨[], 0⟩

def closedMinutes (candles : List Candle) : List Candle := candles.filter isSourceMinute

/-- The closed minutes of a bucket, in the order in which they open. -/
def sourceMinutes (target : CandleInterval) (candles : List Candle) (start : DateTime) :
    List Candle :=
  sort (·.openTime)
    ((closedMinutes candles).filter fun minute => target.bucketStart minute.openTime = start)

/-! The abstract account. A bucket is the half-open span of an interval from a
multiple of the interval, and a candle combines consecutive candles when it
has their first, last, greatest, least and total figures. -/

/-- What a candle over consecutive candles says about them. -/
structure Combines (candle : Candle) (parts : List Candle) : Prop where
  symbol : parts.head?.map (·.symbol) = some candle.symbol
  «open» : parts.head?.map (·.open) = some candle.open
  close : parts.getLast?.map (·.close) = some candle.close
  high : candle.high ∈ parts.map (·.high) ∧ ∀ part ∈ parts, part.high ≤ candle.high
  low : candle.low ∈ parts.map (·.low) ∧ ∀ part ∈ parts, candle.low ≤ part.low
  volume : candle.volume = (parts.map (·.volume)).sum
  quoteVolume : candle.quoteVolume = none ↔ ∃ part ∈ parts, part.quoteVolume = none
  quoteVolumeSum : ∀ value, candle.quoteVolume = some value →
    value = (parts.map fun part => part.quoteVolume.getD 0).sum
  tradeCount : candle.tradeCount = (parts.map (·.tradeCount)).sum

/-- The bucket starts at a multiple of the interval, there is a closed candle
for each of its minutes, and every closed candle in it opens at a full minute. -/
structure CompleteBucket (target : CandleInterval) (candles : List Candle) (start : DateTime) :
    Prop where
  aligned : target.duration ∣ start
  present : ∀ i < target.sourceCandleCount, ∃ minute ∈ closedMinutes candles,
    minute.openTime = start + minutes i
  onGrid : ∀ minute ∈ closedMinutes candles, start ≤ minute.openTime →
    minute.openTime < start + target.duration → minutes 1 ∣ minute.openTime

instance decidableCompleteBucket (target : CandleInterval) (candles : List Candle)
    (start : DateTime) : Decidable (CompleteBucket target candles start) :=
  decidable_of_iff (target.duration ∣ start ∧
    (∀ i < target.sourceCandleCount, ∃ minute ∈ closedMinutes candles,
      minute.openTime = start + minutes i) ∧
    ∀ minute ∈ closedMinutes candles, start ≤ minute.openTime →
      minute.openTime < start + target.duration → minutes 1 ∣ minute.openTime)
    ⟨fun h => ⟨h.1, h.2.1, h.2.2⟩, fun h => ⟨h.aligned, h.present, h.onGrid⟩⟩

/-- The closed candle of the target interval over the closed minutes of a
bucket. -/
structure AggregateOf (target : CandleInterval) (candles : List Candle) (start : DateTime)
    (candle : Candle) : Prop where
  interval : candle.interval = target
  openTime : candle.openTime = start
  closeTime : candle.closeTime = start + target.duration - DateTime.milliseconds 1
  closed : candle.isClosed = true
  combines : Combines candle (sourceMinutes target candles start)

section Combination
variable {candle other : Candle} {parts : List Candle}

theorem quoteVolume_foldlM (start : Decimal) (parts : List Candle) :
    (parts.foldlM (fun sum part => part.quoteVolume.map fun value => sum + value) start = none ↔
      ∃ part ∈ parts, part.quoteVolume = none) ∧
    ∀ total, parts.foldlM (fun sum part => part.quoteVolume.map fun value => sum + value) start =
      some total → total = start + (parts.map fun part => part.quoteVolume.getD 0).sum := by
  induction parts generalizing start with
  | nil =>
    refine ⟨by simp, ?_⟩
    intro total hTotal
    rw [← some.inj hTotal]
    simp
  | cons part rest ih =>
    rw [foldlM_cons]
    cases hVolume : part.quoteVolume with
    | none =>
      refine ⟨iff_of_true rfl ⟨part, mem_cons_self .., hVolume⟩, ?_⟩
      intro total hTotal
      cases hTotal
    | some value =>
      obtain ⟨hNone, hSum⟩ := ih (start + value)
      constructor
      · simpa [hVolume] using hNone
      · intro total hTotal
        rw [hSum total hTotal, map_cons, sum_cons, hVolume, getD_some, add_assoc]

theorem combines_combine (target : CandleInterval) (bucketStart : DateTime) (first : Candle)
    (rest : List Candle) : Combines (combine target bucketStart first rest) (first :: rest) where
  symbol := rfl
  «open» := rfl
  close := by
    rw [getLast?_cons]
    rfl
  high := by
    have hMax : ((first :: rest).map (·.high)).max? =
        some ((rest.map (·.high)).foldl max first.high) := max?_cons'
    simpa [combine] using max?_eq_some_iff.mp hMax
  low := by
    have hMin : ((first :: rest).map (·.low)).min? =
        some ((rest.map (·.low)).foldl min first.low) := min?_cons'
    simpa [combine] using min?_eq_some_iff.mp hMin
  volume := by
    rw [sum_eq_foldl, foldl_map]
    rfl
  quoteVolume := (quoteVolume_foldlM 0 (first :: rest)).1
  quoteVolumeSum := by
    intro value hValue
    rw [(quoteVolume_foldlM 0 (first :: rest)).2 value hValue, zero_add]
  tradeCount := rfl

theorem Combines.ne_nil (hCandle : Combines candle parts) : parts ≠ [] := by
  rintro rfl
  cases hCandle.symbol

/-- The parts leave one candle for each bucket. -/
theorem Combines.unique (hCandle : Combines candle parts) (hOther : Combines other parts)
    (hInterval : candle.interval = other.interval) (hOpenTime : candle.openTime = other.openTime)
    (hCloseTime : candle.closeTime = other.closeTime) (hClosed : candle.isClosed = other.isClosed) :
    candle = other := by
  have hSymbol := some.inj (hCandle.symbol.symm.trans hOther.symbol)
  have hOpen := some.inj (hCandle.open.symm.trans hOther.open)
  have hClose := some.inj (hCandle.close.symm.trans hOther.close)
  have hHigh : candle.high = other.high := by
    obtain ⟨highest, hHighest, hSame⟩ := mem_map.mp hCandle.high.1
    obtain ⟨otherHighest, hOtherHighest, hOtherSame⟩ := mem_map.mp hOther.high.1
    exact le_antisymm (hSame ▸ hOther.high.2 highest hHighest)
      (hOtherSame ▸ hCandle.high.2 otherHighest hOtherHighest)
  have hLow : candle.low = other.low := by
    obtain ⟨lowest, hLowest, hSame⟩ := mem_map.mp hCandle.low.1
    obtain ⟨otherLowest, hOtherLowest, hOtherSame⟩ := mem_map.mp hOther.low.1
    exact le_antisymm (hOtherSame ▸ hCandle.low.2 otherLowest hOtherLowest)
      (hSame ▸ hOther.low.2 lowest hLowest)
  have hQuote : candle.quoteVolume = other.quoteVolume := by
    cases hFirst : candle.quoteVolume with
    | none => exact (hOther.quoteVolume.mpr (hCandle.quoteVolume.mp hFirst)).symm
    | some value =>
      cases hSecond : other.quoteVolume with
      | none =>
        rw [hCandle.quoteVolume.mpr (hOther.quoteVolume.mp hSecond)] at hFirst
        cases hFirst
      | some otherValue =>
        rw [hCandle.quoteVolumeSum value hFirst, hOther.quoteVolumeSum otherValue hSecond]
  have hVolume := hCandle.volume.trans hOther.volume.symm
  have hCount := hCandle.tradeCount.trans hOther.tradeCount.symm
  cases candle
  cases other
  simp_all only

section Flattened
universe u v
variable {ι : Type u} {indices : List ι} {whole : ι → Candle} {part : ι → List Candle}

variable {Figure : Type v}

theorem head?_flatMap {figure : Candle → Figure}
    (hParts : ∀ i ∈ indices, (part i).head?.map figure = some (figure (whole i))) :
    (indices.flatMap part).head?.map figure = (indices.map whole).head?.map figure := by
  cases indices with
  | nil => rfl
  | cons i rest =>
    have hHead := hParts i (mem_cons_self ..)
    obtain ⟨first, hFirst, hFigure⟩ := map_eq_some_iff.mp hHead
    rw [flatMap_cons, head?_append, hFirst]
    simpa using hFigure

theorem getLast?_flatMap {figure : Candle → Figure}
    (hParts : ∀ i ∈ indices, (part i).getLast?.map figure = some (figure (whole i))) :
    (indices.flatMap part).getLast?.map figure = (indices.map whole).getLast?.map figure := by
  induction indices with
  | nil => rfl
  | cons i rest ih =>
    obtain ⟨hHead, hRest⟩ := forall_mem_cons.mp hParts
    rw [flatMap_cons, getLast?_append, map_cons, getLast?_cons]
    have hLater := ih hRest
    cases hLast : (rest.map whole).getLast? with
    | none =>
      rw [hLast, map_none, map_eq_none_iff] at hLater
      rw [hLater, none_or, hHead]
      rfl
    | some last =>
      rw [hLast] at hLater
      obtain ⟨final, hFinal, hFigure⟩ := map_eq_some_iff.mp hLater
      rw [hFinal, some_or, map_some, hFigure]
      rfl

theorem sum_flatMap [AddCommMonoid Figure] {figure total : Candle → Figure}
    (hParts : ∀ i ∈ indices, total (whole i) = ((part i).map figure).sum) :
    ((indices.map whole).map total).sum = ((indices.flatMap part).map figure).sum := by
  induction indices with
  | nil => rfl
  | cons i rest ih =>
    obtain ⟨hHead, hRest⟩ := forall_mem_cons.mp hParts
    rw [flatMap_cons, map_append, sum_append, ← ih hRest, ← hHead]
    rfl

theorem Combines.flatMap (hParts : ∀ i ∈ indices, Combines (whole i) (part i))
    (hWhole : Combines candle (indices.map whole)) : Combines candle (indices.flatMap part) where
  symbol := (head?_flatMap fun i hIndex => (hParts i hIndex).symbol).trans hWhole.symbol
  «open» := (head?_flatMap fun i hIndex => (hParts i hIndex).open).trans hWhole.open
  close := (getLast?_flatMap fun i hIndex => (hParts i hIndex).close).trans hWhole.close
  high := by
    obtain ⟨hMem, hGreatest⟩ := hWhole.high
    simp only [List.map_map, List.mem_map, Function.comp_apply] at hMem
    obtain ⟨i, hIndex, hSame⟩ := hMem
    constructor
    · obtain ⟨source, hSource, hHigh⟩ := mem_map.mp (hParts i hIndex).high.1
      exact mem_map.mpr ⟨source, mem_flatMap.mpr ⟨i, hIndex, hSource⟩, hHigh.trans hSame⟩
    · intro source hSource
      obtain ⟨j, hOther, hInPart⟩ := mem_flatMap.mp hSource
      exact ((hParts j hOther).high.2 source hInPart).trans
        (hGreatest (whole j) (mem_map_of_mem hOther))
  low := by
    obtain ⟨hMem, hLeast⟩ := hWhole.low
    simp only [List.map_map, List.mem_map, Function.comp_apply] at hMem
    obtain ⟨i, hIndex, hSame⟩ := hMem
    constructor
    · obtain ⟨source, hSource, hLow⟩ := mem_map.mp (hParts i hIndex).low.1
      exact mem_map.mpr ⟨source, mem_flatMap.mpr ⟨i, hIndex, hSource⟩, hLow.trans hSame⟩
    · intro source hSource
      obtain ⟨j, hOther, hInPart⟩ := mem_flatMap.mp hSource
      exact (hLeast (whole j) (mem_map_of_mem hOther)).trans
        ((hParts j hOther).low.2 source hInPart)
  volume := hWhole.volume.trans (sum_flatMap fun i hIndex => (hParts i hIndex).volume)
  quoteVolume := by
    rw [hWhole.quoteVolume]
    constructor
    · rintro ⟨_, hMem, hNone⟩
      obtain ⟨i, hIndex, rfl⟩ := mem_map.mp hMem
      obtain ⟨source, hSource, hMissing⟩ := (hParts i hIndex).quoteVolume.mp hNone
      exact ⟨source, mem_flatMap.mpr ⟨i, hIndex, hSource⟩, hMissing⟩
    · rintro ⟨source, hMem, hMissing⟩
      obtain ⟨i, hIndex, hSource⟩ := mem_flatMap.mp hMem
      exact ⟨whole i, mem_map_of_mem hIndex,
        (hParts i hIndex).quoteVolume.mpr ⟨source, hSource, hMissing⟩⟩
  quoteVolumeSum := by
    intro value hValue
    rw [hWhole.quoteVolumeSum value hValue]
    apply sum_flatMap
    intro i hIndex
    cases hPart : (whole i).quoteVolume with
    | some sum => exact (hParts i hIndex).quoteVolumeSum sum hPart
    | none =>
      have hNone := hWhole.quoteVolume.mpr ⟨whole i, mem_map_of_mem hIndex, hPart⟩
      rw [hNone] at hValue
      cases hValue
  tradeCount := hWhole.tradeCount.trans (sum_flatMap fun i hIndex => (hParts i hIndex).tradeCount)

end Flattened

end Combination

section Minutes
variable {first second : Int}

theorem minutes_lt_minutes : minutes first < minutes second ↔ first < second := by
  simp only [minutes, DateTime.seconds]
  omega

theorem minutes_nonneg : 0 ≤ minutes first ↔ 0 ≤ first := by
  simp only [minutes, DateTime.seconds]
  omega

theorem minutes_one_mul (count : Int) : minutes 1 * count = minutes count := by
  simp only [minutes, DateTime.seconds]
  omega

end Minutes

section Buckets
variable (interval : CandleInterval)

theorem duration_eq_minutes : interval.duration = minutes interval.sourceCandleCount := by
  cases interval <;> rfl

/-- Whatever the sign of the timestamp. -/
theorem bucketStart_eq (timestamp : DateTime) :
    interval.bucketStart timestamp = timestamp / interval.duration * interval.duration := seconds_sub_emod interval timestamp

theorem bucketStart_eq_iff {timestamp start : DateTime} : interval.bucketStart timestamp = start ↔
      interval.duration ∣ start ∧ start ≤ timestamp ∧ timestamp < start + interval.duration := by
  have hPositive := duration_pos interval
  rw [bucketStart_eq]
  constructor
  · rintro rfl
    refine ⟨Int.dvd_mul_left .., Int.ediv_mul_le _ hPositive.ne', ?_⟩
    have hNext := Int.lt_ediv_add_one_mul_self timestamp hPositive
    rwa [add_mul, one_mul] at hNext
  · rintro ⟨⟨count, rfl⟩, hStart, hEnd⟩
    have hCount : timestamp / interval.duration = count := by
      apply le_antisymm
      · rw [← Int.lt_add_one_iff, Int.ediv_lt_iff_lt_mul hPositive]
        rwa [add_mul, one_mul, mul_comm count]
      · rw [Int.le_ediv_iff_mul_le hPositive, mul_comm]
        exact hStart
    rw [hCount, mul_comm]

variable {candles : List Candle} {target : CandleInterval} {start : DateTime}

theorem mem_sourceMinutes {minute : Candle} : minute ∈ sourceMinutes target candles start ↔
    minute ∈ closedMinutes candles ∧ target.bucketStart minute.openTime = start := by
  rw [sourceMinutes, (perm_sort _ _).mem_iff, mem_filter, decide_eq_true_iff]

theorem strict_sourceMinutes (hDistinct : ((closedMinutes candles).map (·.openTime)).Nodup) :
    (sourceMinutes target candles start).Pairwise
      (fun first second => first.openTime < second.openTime) :=
  strict_sort (hDistinct.sublist ((filter_sublist).map _))

theorem isComplete_iff {bucket : List Candle} : isComplete target start bucket = true ↔
    bucket.map (·.openTime) =
      (List.range target.sourceCandleCount).map fun i : Nat => start + minutes i := by
  rw [isComplete, Bool.and_eq_true, decide_eq_true_iff, List.all_eq_true]
  constructor
  · rintro ⟨hLength, hTimes⟩
    apply ext_getElem
    · simpa using hLength
    · intro i hIndex hRange
      have hBucket : i < bucket.length := by simpa using hIndex
      have hEntry : (bucket[i], i) ∈ bucket.zipIdx :=
        mk_mem_zipIdx_iff_getElem?.mpr (getElem?_eq_getElem hBucket)
      simpa using hTimes _ hEntry
  · intro hTimes
    constructor
    · simpa using congrArg length hTimes
    · rintro ⟨minute, i⟩ hEntry
      have hMinute := mk_mem_zipIdx_iff_getElem?.mp hEntry
      have hTime := congrArg (·[i]?) hTimes
      rw [List.getElem?_map, hMinute, List.getElem?_map] at hTime
      obtain ⟨index, hIndex, hSame⟩ := Option.map_eq_some_iff.mp hTime.symm
      obtain ⟨_, rfl⟩ := List.getElem?_eq_some_iff.mp hIndex
      simpa using hSame.symm

variable (interval : CandleInterval)

theorem sourceCandleCount_pos : 0 < interval.sourceCandleCount := by
  cases interval <;> decide

theorem minutes_dvd_duration : minutes 1 ∣ interval.duration := by
  rw [duration_eq_minutes]
  exact ⟨interval.sourceCandleCount, (minutes_one_mul _).symm⟩

theorem exists_minute {openTime : DateTime} (hGrid : minutes 1 ∣ openTime)
    (hAligned : target.duration ∣ start) (hAfter : start ≤ openTime)
    (hBefore : openTime < start + target.duration) :
    ∃ i < target.sourceCandleCount, openTime = start + minutes (i : Nat) := by
  obtain ⟨count, hCount⟩ := Int.dvd_sub hGrid ((minutes_dvd_duration target).trans hAligned)
  rw [minutes_one_mul] at hCount
  have hNonneg : 0 ≤ count := by
    rw [← minutes_nonneg, ← hCount]
    exact Int.sub_nonneg_of_le hAfter
  have hCountLess : count < target.sourceCandleCount := by
    rw [← minutes_lt_minutes, ← duration_eq_minutes, ← hCount]
    exact Int.sub_left_lt_of_lt_add hBefore
  refine ⟨count.toNat, by omega, ?_⟩
  rw [Int.toNat_of_nonneg hNonneg, ← hCount, add_sub_cancel]

theorem bucketStart_add_minutes {i : Nat} (hAligned : target.duration ∣ start)
    (hIndex : i < target.sourceCandleCount) : target.bucketStart (start + minutes i) = start := by
  refine (bucketStart_eq_iff target).mpr ⟨hAligned, ?_, ?_⟩
  · exact Int.le_add_of_nonneg_right (minutes_nonneg.mpr (by omega))
  · rw [duration_eq_minutes]
    exact Int.add_lt_add_left (minutes_lt_minutes.mpr (by omega)) start

theorem isComplete_sourceMinutes (hDistinct : ((closedMinutes candles).map (·.openTime)).Nodup) :
    isComplete target start (sourceMinutes target candles start) = true ↔
      CompleteBucket target candles start := by
  rw [isComplete_iff]
  constructor
  · intro hTimes
    have hExpected : ∀ i < target.sourceCandleCount, ∃ minute ∈ closedMinutes candles,
        target.bucketStart minute.openTime = start ∧ minute.openTime = start + minutes i := by
      intro i hIndex
      have hMem : start + minutes i ∈ (sourceMinutes target candles start).map (·.openTime) := by
        rw [hTimes]
        exact mem_map_of_mem (mem_range.mpr hIndex)
      obtain ⟨minute, hMinute, hOpen⟩ := mem_map.mp hMem
      obtain ⟨hClosed, hStart⟩ := mem_sourceMinutes.mp hMinute
      exact ⟨minute, hClosed, hStart, hOpen⟩
    obtain ⟨_, _, hFirst, _⟩ := hExpected 0 (sourceCandleCount_pos target)
    have hAligned := ((bucketStart_eq_iff target).mp hFirst).1
    refine ⟨hAligned, ?_, ?_⟩
    · intro i hIndex
      obtain ⟨minute, hMinute, _, hOpen⟩ := hExpected i hIndex
      exact ⟨minute, hMinute, hOpen⟩
    · intro minute hMinute hAfter hBefore
      have hStart := (bucketStart_eq_iff target).mpr ⟨hAligned, hAfter, hBefore⟩
      have hMem := mem_map_of_mem (f := fun minute : Candle => minute.openTime)
        (mem_sourceMinutes.mpr ⟨hMinute, hStart⟩)
      rw [hTimes] at hMem
      obtain ⟨i, _, hOpen⟩ := mem_map.mp hMem
      rw [← hOpen]
      exact Int.dvd_add ((minutes_dvd_duration target).trans hAligned)
        ⟨i, (minutes_one_mul i).symm⟩
  · rintro ⟨hAligned, hPresent, hGrid⟩
    have hStrict : ((range target.sourceCandleCount).map fun i : Nat => start + minutes i).Pairwise
        (· < ·) := by
      refine pairwise_map.mpr (pairwise_lt_range.imp ?_)
      intro first second hLess
      exact Int.add_lt_add_left (minutes_lt_minutes.mpr (by omega)) start
    apply (pairwise_map.mpr (strict_sourceMinutes hDistinct)).eq_of_mem_iff hStrict
    intro openTime
    constructor
    · intro hMem
      obtain ⟨minute, hMinute, rfl⟩ := mem_map.mp hMem
      obtain ⟨hClosed, hStart⟩ := mem_sourceMinutes.mp hMinute
      obtain ⟨_, hAfter, hBefore⟩ := (bucketStart_eq_iff target).mp hStart
      obtain ⟨i, hIndex, hOpen⟩ := exists_minute (hGrid minute hClosed hAfter hBefore) hAligned
        hAfter hBefore
      exact mem_map.mpr ⟨i, mem_range.mpr hIndex, hOpen.symm⟩
    · intro hMem
      obtain ⟨i, hRange, rfl⟩ := mem_map.mp hMem
      have hIndex := mem_range.mp hRange
      obtain ⟨minute, hMinute, hOpen⟩ := hPresent i hIndex
      refine mem_map.mpr ⟨minute, mem_sourceMinutes.mpr ⟨hMinute, ?_⟩, hOpen⟩
      rw [hOpen]
      exact bucketStart_add_minutes hAligned hIndex

end Buckets

section Outcome
variable {candles : List Candle} {target : CandleInterval} {start : DateTime}

def bucketStarts (target : CandleInterval) (candles : List Candle) : List DateTime :=
  (group (fun minute => target.bucketStart minute.openTime) (closedMinutes candles)).map (·.1)

theorem mem_bucketStarts : start ∈ bucketStarts target candles ↔
    ∃ minute ∈ closedMinutes candles, target.bucketStart minute.openTime = start := by
  rw [bucketStarts, Groups.mem_keys_group, List.mem_map]

def aggregateAt (target : CandleInterval) (candles : List Candle) (start : DateTime) :
    Option Candle :=
  aggregateBucket target start
    ((closedMinutes candles).filter fun minute => target.bucketStart minute.openTime = start)

theorem foldl_add {Bucket : Type} (aggregate : Bucket → Option Candle) (buckets : List Bucket)
    (outcome : CandleAggregationOutcome) :
    buckets.foldl (fun outcome bucket => outcome.add (aggregate bucket)) outcome =
      ⟨outcome.candles ++ buckets.filterMap aggregate,
        outcome.skippedIncompleteBuckets + buckets.countP fun bucket => (aggregate bucket).isNone⟩ := by
  induction buckets generalizing outcome with
  | nil => simp
  | cons bucket rest ih =>
    rw [foldl_cons, ih]
    cases hBucket : aggregate bucket with
    | none =>
      simp only [CandleAggregationOutcome.add, filterMap_cons, countP_cons, hBucket,
        isNone_none, if_true]
      rw [Nat.add_right_comm, Nat.add_assoc]
    | some candle => simp [CandleAggregationOutcome.add, hBucket]

/-- The loop over the buckets. -/
theorem aggregateClosed1mCandles_eq (candles : List Candle) (target : CandleInterval) :
    aggregateClosed1mCandles candles target =
      ⟨(bucketStarts target candles).filterMap (aggregateAt target candles),
        (bucketStarts target candles).countP fun start => (aggregateAt target candles start).isNone⟩ := by
  unfold aggregateClosed1mCandles
  split
  · rename_i hEmpty
    rw [isEmpty_iff.mp hEmpty]
    rfl
  · have hGroups := group_eq (fun minute : Candle => target.bucketStart minute.openTime)
      (closedMinutes candles)
    have hLoop := foldl_add (aggregateAt target candles) (bucketStarts target candles) ⟨[], 0⟩
    rw [nil_append, Nat.zero_add] at hLoop
    rw [← closedMinutes, hGroups, foldl_map]
    exact hLoop

/-- What the bucket of a start gives. -/
theorem aggregateAt_eq_none (hDistinct : ((closedMinutes candles).map (·.openTime)).Nodup) :
    aggregateAt target candles start = none ↔ ¬ CompleteBucket target candles start := by
  rw [← isComplete_sourceMinutes hDistinct, aggregateAt, aggregateBucket, ← sourceMinutes]
  split
  · rename_i hComplete
    split
    · simp [hComplete]
    · rename_i hEmpty
      rw [hEmpty, isComplete] at hComplete
      have hCount := sourceCandleCount_pos target
      simp at hComplete
      omega
  · simp_all

variable {candle : Candle}

theorem aggregateOf_aggregateAt (hCandle : aggregateAt target candles start = some candle) :
    AggregateOf target candles start candle := by
  rw [aggregateAt, aggregateBucket, ← sourceMinutes] at hCandle
  split at hCandle
  · split at hCandle
    · rename_i first rest hSource
      cases hCandle
      refine ⟨rfl, rfl, rfl, rfl, ?_⟩
      rw [hSource]
      exact combines_combine target start first rest
    · cases hCandle
  · cases hCandle

theorem CompleteBucket.mem_bucketStarts (hComplete : CompleteBucket target candles start) :
    start ∈ bucketStarts target candles := by
  obtain ⟨minute, hMinute, hOpen⟩ := hComplete.present 0 (sourceCandleCount_pos target)
  have hFirst : minute.openTime = start := by rw [hOpen]; exact Int.add_zero start
  refine Market.mem_bucketStarts.mpr ⟨minute, hMinute, (bucketStart_eq_iff target).mpr ?_⟩
  exact ⟨hComplete.aligned, hFirst.ge, hFirst ▸ Int.lt_add_of_pos_right _ (duration_pos target)⟩

theorem mem_aggregated : candle ∈ (aggregateClosed1mCandles candles target).candles ↔
      ∃ start ∈ bucketStarts target candles, aggregateAt target candles start = some candle := by
  rw [aggregateClosed1mCandles_eq, mem_filterMap]

theorem increasing_aggregated :
    (aggregateClosed1mCandles candles target).candles.Pairwise fun first second =>
      first.openTime < second.openTime := by
  rw [aggregateClosed1mCandles_eq]
  apply pairwise_filterMap.mpr
  refine (increasing_group _ _).imp ?_
  intro first second hBefore candle hCandle later hLater
  rw [(aggregateOf_aggregateAt hCandle).openTime, (aggregateOf_aggregateAt hLater).openTime]
  exact hBefore

theorem aggregateOf_of_mem (hCandle : candle ∈ (aggregateClosed1mCandles candles target).candles) :
    AggregateOf target candles candle.openTime candle := by
  obtain ⟨start, _, hAt⟩ := mem_aggregated.mp hCandle
  have hAggregate := aggregateOf_aggregateAt hAt
  exact hAggregate.openTime.symm ▸ hAggregate

theorem aggregated_iff_complete (hDistinct : ((closedMinutes candles).map (·.openTime)).Nodup) :
    (∃ candle ∈ (aggregateClosed1mCandles candles target).candles, candle.openTime = start) ↔
      CompleteBucket target candles start := by
  simp only [mem_aggregated]
  constructor
  · rintro ⟨candle, ⟨found, _, hCandle⟩, rfl⟩
    rw [(aggregateOf_aggregateAt hCandle).openTime]
    by_contra hIncomplete
    rw [(aggregateAt_eq_none hDistinct).mpr hIncomplete] at hCandle
    cases hCandle
  · intro hComplete
    cases hCandle : aggregateAt target candles start with
    | none => exact absurd hComplete ((aggregateAt_eq_none hDistinct).mp hCandle)
    | some candle =>
      exact ⟨candle, ⟨start, hComplete.mem_bucketStarts, hCandle⟩,
        (aggregateOf_aggregateAt hCandle).openTime⟩

/-- The closed minutes decide the outcome, in whatever order they come. -/
theorem aggregate_congr {other : List Candle} (hPerm : (closedMinutes other).Perm (closedMinutes candles))
    (hDistinct : ((closedMinutes candles).map (·.openTime)).Nodup) :
    aggregateClosed1mCandles other target = aggregateClosed1mCandles candles target := by
  have hStarts : bucketStarts target other = bucketStarts target candles :=
    keys_group_congr fun start => (hPerm.map _).mem_iff
  have hBuckets : aggregateAt target other = aggregateAt target candles := by
    funext start
    have hSorted := sort_eq_of_perm
      (hPerm.filter fun minute => target.bucketStart minute.openTime = start)
      (hDistinct.sublist (filter_sublist.map (·.openTime)))
    rw [aggregateAt, aggregateBucket, hSorted, aggregateAt, aggregateBucket]
  rw [aggregateClosed1mCandles_eq, aggregateClosed1mCandles_eq, hStarts, hBuckets]

end Outcome

/-- One candle for each complete bucket, in the order of the buckets, and a
skip for each other bucket with a closed minute. The order of the input, open
candles and candles of other intervals do not matter. -/
theorem aggregation_exact (candles : List Candle) (target : CandleInterval)
    (hDistinct : ((closedMinutes candles).map (·.openTime)).Nodup) :
    ((aggregateClosed1mCandles candles target).candles.Pairwise fun first second =>
      first.openTime < second.openTime) ∧
    (∀ start, (∃ candle ∈ (aggregateClosed1mCandles candles target).candles,
      candle.openTime = start) ↔ CompleteBucket target candles start) ∧
    (∀ candle ∈ (aggregateClosed1mCandles candles target).candles,
      AggregateOf target candles candle.openTime candle) ∧
    (aggregateClosed1mCandles candles target).skippedIncompleteBuckets =
      (((closedMinutes candles).map fun minute => target.bucketStart minute.openTime).dedup.filter
        fun start => ¬ CompleteBucket target candles start).length ∧
    ∀ other added : List Candle, (∀ candle ∈ added, isSourceMinute candle = false) →
      other.Perm (candles ++ added) →
      aggregateClosed1mCandles other target = aggregateClosed1mCandles candles target := by
  refine ⟨increasing_aggregated, fun start => aggregated_iff_complete hDistinct,
    fun candle => aggregateOf_of_mem, ?_, ?_⟩
  · rw [aggregateClosed1mCandles_eq, countP_eq_length_filter]
    have hSkipped : (fun start => (aggregateAt target candles start).isNone) =
        fun start => decide (¬ CompleteBucket target candles start) := by
      funext start
      rw [Bool.eq_iff_iff, isNone_iff_eq_none, aggregateAt_eq_none hDistinct, decide_eq_true_iff]
    rw [hSkipped]
    apply List.Perm.length_eq
    apply List.Perm.filter
    have hIncreasing : (bucketStarts target candles).Pairwise (· < ·) :=
      increasing_group _ _
    apply (perm_ext_iff_of_nodup (hIncreasing.imp ne_of_lt) (nodup_dedup _)).mpr
    intro start
    rw [mem_bucketStarts, List.mem_dedup, List.mem_map]
  · intro other added hAdded hPerm
    refine aggregate_congr ?_ hDistinct
    have hNothing : closedMinutes added = [] := filter_eq_nil_iff.mpr fun candle hCandle => by
      rw [hAdded candle hCandle]
      exact Bool.false_ne_true
    have hMinutes := hPerm.filter isSourceMinute
    rwa [filter_append, ← closedMinutes, ← closedMinutes, ← closedMinutes, hNothing,
      append_nil] at hMinutes

/-- The closed candle of the minute from `openTime`. -/
def sampleMinute (openTime : DateTime) : Candle where
  symbol := .btcusdt
  interval := .oneMinute
  openTime := openTime
  closeTime := openTime + minutes 1
  «open» := 100
  high := 101
  low := 99
  close := 100
  volume := 1
  quoteVolume := some 100
  tradeCount := 1
  isClosed := true

def sampleMinutes : List Candle := (range 5).map fun i : Nat => sampleMinute (minutes i)

theorem aggregation_exact_sample : ((closedMinutes sampleMinutes).map (·.openTime)).Nodup ∧
    ∃ candle ∈ (aggregateClosed1mCandles sampleMinutes .fiveMinutes).candles, candle.openTime = 0 :=
  ⟨by decide +kernel, ((aggregation_exact sampleMinutes .fiveMinutes (by decide +kernel)).2.1 0).mpr
    (by decide +kernel)⟩

/-- A closed candle off the full minutes makes the count wrong, and the bucket
is dropped with all of its minutes present. -/
theorem minute_off_grid_drops_bucket :
    ((closedMinutes (sampleMinute (DateTime.seconds 30) :: sampleMinutes)).map (·.openTime)).Nodup ∧
    (∀ i < CandleInterval.fiveMinutes.sourceCandleCount,
      ∃ minute ∈ closedMinutes (sampleMinute (DateTime.seconds 30) :: sampleMinutes),
        minute.openTime = 0 + minutes i) ∧
    (aggregateClosed1mCandles (sampleMinute (DateTime.seconds 30) :: sampleMinutes)
      .fiveMinutes).candles = [] := by
  decide +kernel

end AegisQuant.Market
