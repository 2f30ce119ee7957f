import AegisQuant.Library.MaximalRuns
import AegisQuant.Research.ShadowPnlTotals

/-! The holes between the candles of the attribution. A result without a gap
only says that no candle is missing between its entry and its exit; the entry
itself may come long after the signal. -/
namespace AegisQuant.Research
open MaximalRuns Reordering SortByKey List Option DateTime

section Holes
variable {interval : CandleInterval} {candles : List Candle}
  {entryIndex holdingWindow : Nat} {entry : Candle}

theorem within_tolerance_iff {difference : Int} (hPositive : 0 < difference)
    (hGrid : interval.duration ∣ difference) :
    difference.tdiv 1000000000 ≤ interval.numSeconds + 1 ↔ difference = interval.duration := by
  obtain ⟨count, rfl⟩ := hGrid
  have hSeconds : 60 ≤ interval.numSeconds := by cases interval <;> decide
  have hDuration : interval.duration = interval.numSeconds * 1000000000 :=
    (Market.numSeconds_mul interval).symm
  have hCount : 0 < count := by
    have hStep : 0 < interval.duration := by omega
    exact (pos_iff_pos_of_mul_pos hPositive).mp hStep
  have hQuotient : (interval.duration * count).tdiv 1000000000 = interval.numSeconds * count := by
    rw [hDuration, mul_right_comm, Int.mul_tdiv_cancel _ (by decide)]
  rw [hQuotient]
  constructor
  · intro hWithin
    have hOne : count = 1 := by
      by_contra hMore
      have hTwo : interval.numSeconds * 2 ≤ interval.numSeconds * count :=
        Int.mul_le_mul_of_nonneg_left (by omega) (by omega)
      omega
    rw [hOne, mul_one]
  · intro hSame
    have hOne : count = 1 := by
      have hOnce : interval.duration * count = interval.duration * 1 := by rw [hSame, mul_one]
      exact Int.eq_of_mul_eq_mul_left (by omega) hOnce
    rw [hOne, mul_one]
    omega

theorem maxGapSeconds_le_iff {bound : Int} (hBound : interval.numSeconds ≤ bound) :
    maxGapSeconds interval candles ≤ bound ↔
      ∀ pair ∈ (candles.map (·.openTime)).zip (candles.map (·.openTime)).tail,
        (pair.2 - pair.1).tdiv 1000000000 ≤ bound := by
  have hPairs : (candles.zip candles.tail).map (fun pair =>
        (pair.2.openTime - pair.1.openTime).tdiv 1000000000) =
      ((candles.map (·.openTime)).zip (candles.map (·.openTime)).tail).map fun pair =>
        (pair.2 - pair.1).tdiv 1000000000 := by
    rw [← List.map_tail, List.zip_map, List.map_map]
    rfl
  rw [maxGapSeconds, hPairs, getD_max?_le_iff hBound]
  exact forall_mem_map

section Sorted
variable (hSorted : (candles.map (·.openTime)).Pairwise (· < ·))
  (hGrid : ∀ candle ∈ candles, interval.duration ∣ candle.openTime)
include hSorted hGrid

theorem maxGapSeconds_within_iff : maxGapSeconds interval candles ≤ interval.numSeconds + 1 ↔
      ∀ pair ∈ (candles.map (·.openTime)).zip (candles.map (·.openTime)).tail,
        pair.2 - pair.1 = interval.duration := by
  rw [maxGapSeconds_le_iff (by omega)]
  apply forall₂_congr
  intro pair hPair
  obtain ⟨hFirst, hSecond⟩ := of_mem_zip hPair
  obtain ⟨earlier, hEarlier, hFirst⟩ := mem_map.mp hFirst
  obtain ⟨later, hLater, hSecond⟩ := mem_map.mp (mem_of_mem_tail hSecond)
  apply within_tolerance_iff
  · exact Int.sub_pos_of_lt (lt_of_mem_zip_tail hSorted hPair)
  · rw [← hFirst, ← hSecond]
    exact Int.dvd_sub (hGrid later hLater) (hGrid earlier hEarlier)

/-- A window is followed to its exit without a gap exactly when its candles are
an interval apart. -/
theorem unbroken_iff_progression (hEntry : candles[entryIndex]? = some entry) :
    (entryIndex + holdingWindow < candles.length ∧
      maxGapSeconds interval ((candles.drop entryIndex).take (holdingWindow + 1)) ≤
        interval.numSeconds + 1) ↔
      ((candles.map (·.openTime)).drop entryIndex).take (holdingWindow + 1) =
        progression interval.duration (holdingWindow + 1) entry.openTime := by
  have hTimes : ((candles.drop entryIndex).take (holdingWindow + 1)).map (·.openTime) =
      ((candles.map (·.openTime)).drop entryIndex).take (holdingWindow + 1) := by
    rw [map_take, map_drop]
  have hPart : (((candles.drop entryIndex).take (holdingWindow + 1)).map (·.openTime)).Pairwise
      (· < ·) := by
    rw [hTimes]
    exact hSorted.sublist ((take_sublist _ _).trans (drop_sublist _ _))
  have hPartGrid : ∀ candle ∈ (candles.drop entryIndex).take (holdingWindow + 1),
      interval.duration ∣ candle.openTime := fun candle hCandle =>
    hGrid candle (mem_of_mem_drop (mem_of_mem_take hCandle))
  rw [maxGapSeconds_within_iff hPart hPartGrid, hTimes]
  constructor
  · rintro ⟨hLength, hApart⟩
    have hHead : (((candles.map (·.openTime)).drop entryIndex).take (holdingWindow + 1)).head? =
        some entry.openTime := by
      rw [head?_take, if_neg (Nat.succ_ne_zero holdingWindow), head?_drop, getElem?_map, hEntry]
      rfl
    have hSize : (((candles.map (·.openTime)).drop entryIndex).take (holdingWindow + 1)).length =
        holdingWindow + 1 := by
      rw [length_take, length_drop, length_map]
      omega
    have hWhole := eq_progression_of_zip hHead hApart
    rwa [hSize] at hWhole
  · intro hWhole
    constructor
    · have hSize := congrArg length hWhole
      rw [length_progression, length_take, length_drop, length_map] at hSize
      omega
    · rw [hWhole]
      exact fun pair hPair => sub_of_mem_zip_progression hPair

theorem unbroken_iff (hEntry : candles[entryIndex]? = some entry) :
    (entryIndex + holdingWindow < candles.length ∧
      maxGapSeconds interval ((candles.drop entryIndex).take (holdingWindow + 1)) ≤
        interval.numSeconds + 1) ↔
      ∀ slot ≤ holdingWindow,
        entry.openTime + (slot : Nat) * interval.duration ∈ candles.map (·.openTime) := by
  have hHead : ((candles.map (·.openTime)).drop entryIndex).head? = some entry.openTime := by
    rw [head?_drop, getElem?_map, hEntry]
    rfl
  have hLater : ∀ time ∈ (candles.map (·.openTime)).drop entryIndex,
      interval.duration ∣ time - entry.openTime := by
    intro time hTime
    obtain ⟨candle, hCandle, rfl⟩ := mem_map.mp (mem_of_mem_drop hTime)
    exact Int.dvd_sub (hGrid candle hCandle) (hGrid entry (mem_of_getElem? hEntry))
  have hBehind : ∀ time, entry.openTime ≤ time →
      (time ∈ (candles.map (·.openTime)).drop entryIndex ↔ time ∈ candles.map (·.openTime)) := by
    intro time hFrom
    refine ⟨mem_of_mem_drop, fun hTime => ?_⟩
    rw [← take_append_drop entryIndex (candles.map (·.openTime))] at hTime
    apply (mem_append.mp hTime).resolve_left
    intro hBefore
    have hEntryTime := mem_of_mem_head? hHead
    exact absurd (hSorted.rel_of_mem_take_of_mem_drop hBefore hEntryTime) (not_lt.mpr hFrom)
  rw [unbroken_iff_progression hSorted hGrid hEntry, take_eq_progression_iff (Market.duration_pos interval)
    (hSorted.sublist (drop_sublist _ _)) hHead hLater]
  apply forall₂_congr
  intro slot _
  apply hBehind
  have hForward := Int.mul_nonneg (Int.natCast_nonneg slot) (Market.duration_pos interval).le
  unfold DateTime at *
  omega

end Sorted

/-- The result counts as a profit from the signal to the exit. -/
def Attributes (window : ResearchShadowPnlTradeHoldingWindowResult) : Prop :=
  window.status = .attributed ∨ window.status = .extremePnl

variable (request : ResearchShadowPnlAttributionRequest)

theorem not_attributes_insufficientWindow (holdingWindow : Nat) :
    ¬Attributes (insufficientWindow request holdingWindow) := by
  rintro (hStatus | hStatus) <;> cases hStatus

theorem attributes_windowResult_iff :
    Attributes (windowResult request interval candles entryIndex entry holdingWindow) ↔
      entryIndex + holdingWindow < candles.length ∧
        maxGapSeconds interval ((candles.drop entryIndex).take (holdingWindow + 1)) ≤
          interval.numSeconds + 1 := by
  unfold windowResult
  split
  · rename_i hNone
    apply iff_of_false (not_attributes_insufficientWindow request holdingWindow)
    exact fun hExit => absurd (getElem?_eq_none_iff.mp hNone) (not_le.mpr hExit.1)
  · rename_i exit hExit
    rw [and_iff_right (List.getElem?_eq_some_iff.mp hExit).1]
    simp only [Attributes]
    by_cases hGap : maxGapSeconds interval ((candles.drop entryIndex).take (holdingWindow + 1)) >
        interval.numSeconds + 1
    · simp only [if_pos hGap]
      exact iff_of_false (by simp) (not_le.mpr hGap)
    · simp only [if_neg hGap]
      exact iff_of_true (ite_eq_or_eq _ _ _).symm (not_lt.mp hGap)

theorem exitCandleOpenTime_windowResult :
    (windowResult request interval candles entryIndex entry holdingWindow).exitCandleOpenTime =
      (candles.map (·.openTime))[entryIndex + holdingWindow]? := by
  rw [getElem?_map]
  unfold windowResult
  split
  · rename_i hNone
    rw [hNone]
    rfl
  · rename_i exit hExit
    rw [hExit]
    rfl

theorem exitCandleOpenTime_of_attributes {request : ResearchShadowPnlAttributionRequest}
    (hSorted : (candles.map (·.openTime)).Pairwise (· < ·))
    (hGrid : ∀ candle ∈ candles, interval.duration ∣ candle.openTime)
    (hEntry : candles[entryIndex]? = some entry)
    (hAttributes : Attributes (windowResult request interval candles entryIndex entry holdingWindow)) :
    (windowResult request interval candles entryIndex entry holdingWindow).exitCandleOpenTime =
      some (entry.openTime + holdingWindow * interval.duration) := by
  have hWhole := (unbroken_iff_progression hSorted hGrid hEntry).mp
    ((attributes_windowResult_iff request).mp hAttributes)
  have hLast : (progression interval.duration (holdingWindow + 1) entry.openTime)[holdingWindow]? =
      some (entry.openTime + holdingWindow * interval.duration) :=
    getElem?_progression (Nat.lt_succ_self holdingWindow)
  rw [exitCandleOpenTime_windowResult, ← hLast, ← hWhole,
    getElem?_take_of_lt (Nat.lt_succ_self holdingWindow), getElem?_drop]

end Holes

structure FirstAfter (times : List DateTime) (moment first : DateTime) : Prop where
  mem : first ∈ times
  after : moment < first
  least : ∀ time ∈ times, moment < time → first ≤ time

section Entry
variable {request : ResearchShadowPnlAttributionRequest} {candidate : ResearchCandidate}
  {candles : List Candle} {run : ResearchShadowPnlRunInput}

theorem FirstAfter.unique {times : List DateTime} {moment first other : DateTime}
    (hFirst : FirstAfter times moment first) (hOther : FirstAfter times moment other) :
    first = other :=
  le_antisymm (hFirst.least other hOther.mem hOther.after) (hOther.least first hFirst.mem hFirst.after)

/-- A run either has no candle after its signal, or is bought at the first one. -/
theorem attributeRun_cases (hClosed : ∀ candle ∈ candles, candle.isClosed = true)
    (hSorted : (candles.map (·.openTime)).Pairwise (· < ·)) :
    ((∀ time ∈ candles.map (·.openTime), time ≤ run.attributionTime) ∧
        (attributeRun request candidate candles run).holdingWindows =
          request.normalizedHoldingWindows.map (insufficientWindow request)) ∨
      ∃ entryIndex entry, candles[entryIndex]? = some entry ∧
        FirstAfter (candles.map (·.openTime)) run.attributionTime entry.openTime ∧
        (attributeRun request candidate candles run).entryCandleOpenTime = some entry.openTime ∧
        (attributeRun request candidate candles run).holdingWindows =
          request.normalizedHoldingWindows.map
            (windowResult request candidate.interval candles entryIndex entry) := by
  cases hIndex : candles.findIdx? fun candle =>
      candle.isClosed && decide (run.attributionTime < candle.openTime) with
  | none =>
    left
    constructor
    · intro time hTime
      obtain ⟨candle, hCandle, rfl⟩ := mem_map.mp hTime
      have hNot := findIdx?_eq_none_iff.mp hIndex candle hCandle
      rw [hClosed candle hCandle, Bool.true_and, decide_eq_false_iff_not] at hNot
      exact not_lt.mp hNot
    · simp only [attributeRun, hIndex, bind_none]
  | some entryIndex =>
    right
    obtain ⟨hLength, hFound, hBefore⟩ := findIdx?_eq_some_iff_getElem.mp hIndex
    have hEntry : candles[entryIndex]? = some candles[entryIndex] := getElem?_eq_getElem hLength
    have hMem := getElem_mem hLength
    rw [hClosed _ hMem, Bool.true_and, decide_eq_true_iff] at hFound
    refine ⟨entryIndex, candles[entryIndex], hEntry, ⟨mem_map_of_mem hMem, hFound, ?_⟩, ?_, ?_⟩
    · intro time hTime hAfter
      obtain ⟨index, hOther, rfl⟩ := getElem_of_mem hTime
      rw [length_map] at hOther
      rw [getElem_map] at hAfter ⊢
      rcases lt_trichotomy index entryIndex with hEarlier | rfl | hLater
      · have hNot := hBefore index hEarlier
        rw [hClosed _ (getElem_mem hOther), Bool.true_and, decide_eq_true_iff] at hNot
        exact absurd hAfter hNot
      · exact le_rfl
      · have hLt := pairwise_iff_getElem.mp hSorted entryIndex index
          (by rwa [length_map]) (by rwa [length_map]) hLater
        rw [getElem_map, getElem_map] at hLt
        exact hLt.le
    · simp only [attributeRun, hIndex, bind_some, hEntry, map_some]
    · simp only [attributeRun, hIndex, bind_some, hEntry]

end Entry

/-- No candle of the interval is missing from the attribution time to the exit. -/
structure SpansNoHole (interval : CandleInterval) (times : List DateTime)
    (attributionTime : DateTime) (holdingWindow : Nat) (entryOpen exitOpen : DateTime) : Prop where
  after : attributionTime < entryOpen
  next : entryOpen ≤ attributionTime + interval.duration
  exit : exitOpen = entryOpen + holdingWindow * interval.duration
  whole : ∀ time, interval.duration ∣ time → attributionTime < time → time ≤ exitOpen → time ∈ times

structure AttributionSound (candidate : ResearchCandidate)
    (request : ResearchShadowPnlAttributionRequest) (runs : List ResearchShadowPnlRunInput)
    (candles : List Candle) (computedAt : DateTime) : Prop where
  complete :
    let summary := (calculateResearchShadowPnlAttribution candidate request runs candles
      computedAt).summary
    (summary.perHoldingWindow.map (·.tradeCount)).sum + summary.gapDetectedCount +
      summary.insufficientForwardDataCount = runs.length * request.normalizedHoldingWindows.length
  unchanged : ∀ otherRuns otherCandles, otherRuns.Perm runs → otherCandles.Perm candles →
    (calculateResearchShadowPnlAttribution candidate request otherRuns otherCandles
        computedAt).summary =
      (calculateResearchShadowPnlAttribution candidate request runs candles computedAt).summary
  gapAware : ∀ trade ∈ (calculateResearchShadowPnlAttribution candidate request runs candles
      computedAt).trades, ∀ window ∈ trade.holdingWindows, Attributes window →
    ∃ entryOpen exitOpen, trade.entryCandleOpenTime = some entryOpen ∧
      window.exitCandleOpenTime = some exitOpen ∧
      SpansNoHole candidate.interval (candles.map (·.openTime))
        (trade.signalTime.getD trade.shadowCreatedAt) window.holdingWindow entryOpen exitOpen

/-- A run that is bought more than an interval after its signal meets a hole, or
the last candle, before the exit of the shortest holding window. -/
def LateEntryBreaksOff (request : ResearchShadowPnlAttributionRequest) (interval : CandleInterval)
    (times : List DateTime) (run : ResearchShadowPnlRunInput) : Prop :=
  ∀ entryOpen, FirstAfter times run.attributionTime entryOpen →
    entryOpen ≤ run.attributionTime + interval.duration ∨
      ∃ slot ≤ shortestWindow request, entryOpen + (slot : Nat) * interval.duration ∉ times

section Sound
variable {request : ResearchShadowPnlAttributionRequest} {candidate : ResearchCandidate}
  {candles : List Candle} {run : ResearchShadowPnlRunInput}
variable {interval : CandleInterval} {times : List DateTime}

theorem spansNoHole {moment entryOpen : DateTime} {holdingWindow : Nat}
    (hFirst : FirstAfter times moment entryOpen) (hGrid : ∀ time ∈ times, interval.duration ∣ time)
    (hNext : entryOpen ≤ moment + interval.duration)
    (hSlots : ∀ slot ≤ holdingWindow, entryOpen + (slot : Nat) * interval.duration ∈ times) :
    SpansNoHole interval times moment holdingWindow entryOpen
      (entryOpen + holdingWindow * interval.duration) := by
  constructor
  case after => exact hFirst.after
  case next => exact hNext
  case exit => rfl
  case whole =>
    intro time hAligned hAfter hUntil
    have hPositive := Market.duration_pos interval
    obtain ⟨count, hCount⟩ := Int.dvd_sub hAligned (hGrid entryOpen hFirst.mem)
    have hFrom : 0 ≤ count := by
      by_contra hBefore
      have hStep : interval.duration * count ≤ interval.duration * (-1) :=
        Int.mul_le_mul_of_nonneg_left (by omega) hPositive.le
      unfold DateTime at *
      omega
    obtain ⟨slot, rfl⟩ := Int.eq_ofNat_of_zero_le hFrom
    have hTime : time = entryOpen + slot * interval.duration := by
      rw [mul_comm]
      unfold DateTime at *
      omega
    have hWithin : (slot : Int) * interval.duration ≤ holdingWindow * interval.duration := by
      unfold DateTime at *
      omega
    rw [hTime]
    exact hSlots slot (Int.ofNat_le.mp (Int.le_of_mul_le_mul_right hWithin hPositive))

theorem SpansNoHole.of_mem {other : List DateTime} {moment entryOpen exitOpen : DateTime}
    {holdingWindow : Nat}
    (hSpan : SpansNoHole interval times moment holdingWindow entryOpen exitOpen)
    (hMem : ∀ time ∈ times, time ∈ other) :
    SpansNoHole interval other moment holdingWindow entryOpen exitOpen where
  after := hSpan.after
  next := hSpan.next
  exit := hSpan.exit
  whole time hAligned hAfter hUntil := hMem time (hSpan.whole time hAligned hAfter hUntil)

theorem lateEntryBreaksOff_congr {other : List DateTime}
    (hMem : ∀ time, time ∈ other ↔ time ∈ times) :
    LateEntryBreaksOff request interval other run ↔
      LateEntryBreaksOff request interval times run := by
  have hFirst : ∀ moment first, FirstAfter other moment first ↔ FirstAfter times moment first := by
    intro moment first
    constructor
    · exact fun hFirst => ⟨(hMem first).mp hFirst.mem, hFirst.after,
        fun time hTime => hFirst.least time ((hMem time).mpr hTime)⟩
    · exact fun hFirst => ⟨(hMem first).mpr hFirst.mem, hFirst.after,
        fun time hTime => hFirst.least time ((hMem time).mp hTime)⟩
  simp only [LateEntryBreaksOff, hFirst, hMem]

/-- Over sorted candles the results of a run span no hole exactly when a late
entry breaks off: a result without a gap only says that the slots from its
entry to its exit are filled. -/
theorem gapAware_attributeRun_iff (hClosed : ∀ candle ∈ candles, candle.isClosed = true)
    (hSorted : (candles.map (·.openTime)).Pairwise (· < ·))
    (hGrid : ∀ candle ∈ candles, candidate.interval.duration ∣ candle.openTime) :
    (∀ window ∈ (attributeRun request candidate candles run).holdingWindows, Attributes window →
      ∃ entryOpen exitOpen,
        (attributeRun request candidate candles run).entryCandleOpenTime = some entryOpen ∧
        window.exitCandleOpenTime = some exitOpen ∧
        SpansNoHole candidate.interval (candles.map (·.openTime)) run.attributionTime
          window.holdingWindow entryOpen exitOpen) ↔
      LateEntryBreaksOff request candidate.interval (candles.map (·.openTime)) run := by
  rcases @attributeRun_cases request candidate candles run hClosed hSorted with
    ⟨hNone, hWindows⟩ | ⟨entryIndex, entry, hEntry, hFirst, hOpen, hWindows⟩
  · rw [hWindows]
    apply iff_of_true
    · intro window hWindow hAttributes
      obtain ⟨holdingWindow, -, rfl⟩ := mem_map.mp hWindow
      exact absurd hAttributes (not_attributes_insufficientWindow request holdingWindow)
    · exact fun first hFirst => absurd hFirst.after (not_lt.mpr (hNone first hFirst.mem))
  · have hSlots : ∀ holdingWindow, Attributes (windowResult request candidate.interval candles
        entryIndex entry holdingWindow) ↔ ∀ slot ≤ holdingWindow,
          entry.openTime + (slot : Nat) * candidate.interval.duration ∈ candles.map (·.openTime) :=
      fun _ => (attributes_windowResult_iff request).trans (unbroken_iff hSorted hGrid hEntry)
    have hTimesGrid : ∀ time ∈ candles.map (·.openTime), candidate.interval.duration ∣ time :=
      forall_mem_map.mpr hGrid
    rw [hWindows, List.forall_mem_map]
    constructor
    · intro hSpans first hOther
      obtain rfl := hOther.unique hFirst
      by_contra hLate
      rw [not_or] at hLate
      obtain ⟨hFar, hFilled⟩ := hLate
      have hAttributes := (hSlots (shortestWindow request)).mpr fun slot hSlot => by
        by_contra hHole
        exact hFilled ⟨slot, hSlot, hHole⟩
      obtain ⟨entryOpen, exitOpen, hSame, -, hSpan⟩ :=
        hSpans (shortestWindow request) (shortestWindow_mem request) hAttributes
      rw [hOpen] at hSame
      obtain rfl := some.inj hSame
      exact hFar hSpan.next
    · intro hLate holdingWindow hWindow hAttributes
      have hFilled := (hSlots holdingWindow).mp hAttributes
      have hNext : entry.openTime ≤ run.attributionTime + candidate.interval.duration := by
        apply (hLate entry.openTime hFirst).resolve_right
        rintro ⟨slot, hSlot, hHole⟩
        exact hHole (hFilled slot (hSlot.trans (shortestWindow_le request hWindow)))
      refine ⟨entry.openTime, _, hOpen,
        exitCandleOpenTime_of_attributes hSorted hGrid hEntry hAttributes, ?_⟩
      rw [holdingWindow_windowResult]
      exact spansNoHole hFirst hTimesGrid hNext hFilled

/-- The attribution keeps its promises exactly when no run is bought more than
an interval after its signal and then followed by all the candles of the
shortest holding window. -/
theorem attribution_sound_iff (candidate : ResearchCandidate)
    (request : ResearchShadowPnlAttributionRequest) (runs : List ResearchShadowPnlRunInput)
    (candles : List Candle) (computedAt : DateTime)
    (hClosed : ∀ candle ∈ candles, candle.isClosed = true)
    (hDistinct : (candles.map (·.openTime)).Nodup)
    (hGrid : ∀ candle ∈ candles, candidate.interval.duration ∣ candle.openTime) :
    AttributionSound candidate request runs candles computedAt ↔ ∀ run ∈ runs,
        LateEntryBreaksOff request candidate.interval (candles.map (·.openTime)) run := by
  have hPerm := perm_sort (fun candle : Candle => candle.openTime) candles
  have hSorted : ((sort (·.openTime) candles).map (·.openTime)).Pairwise (· < ·) :=
    pairwise_map.mpr (strict_sort hDistinct)
  have hMem : ∀ time, time ∈ (sort (·.openTime) candles).map (·.openTime) ↔
      time ∈ candles.map (·.openTime) := fun _ => (hPerm.map _).mem_iff
  have hRun : ∀ run, _ ↔ LateEntryBreaksOff request candidate.interval
      ((sort (·.openTime) candles).map (·.openTime)) run := fun run =>
    gapAware_attributeRun_iff (fun candle hCandle => hClosed candle (hPerm.mem_iff.mp hCandle)) hSorted
      fun candle hCandle => hGrid candle (hPerm.mem_iff.mp hCandle)
  constructor
  · intro hSound run hMemRun
    rw [← lateEntryBreaksOff_congr hMem, ← hRun]
    intro window hWindow hAttributes
    have hTrade := mem_map_of_mem (f := attributeRun request candidate
      (sort (·.openTime) candles))
      ((perm_sort (·.shadowCreatedAt) runs).mem_iff.mpr hMemRun)
    obtain ⟨entryOpen, exitOpen, hEntry, hExit, hSpan⟩ :=
      hSound.gapAware _ hTrade window hWindow hAttributes
    exact ⟨entryOpen, exitOpen, hEntry, hExit, hSpan.of_mem fun time => (hMem time).mpr⟩
  · intro hLate
    constructor
    case complete =>
      have hCounts := @counts_summarize request ((sort (·.shadowCreatedAt) runs).map
        (attributeRun request candidate (sort (·.openTime) candles))) (by
          intro trade hTrade
          obtain ⟨run, -, rfl⟩ := mem_map.mp hTrade
          exact ⟨holdingWindows_attributeRun run, settled_attributeRun run⟩)
      rw [length_map, (perm_sort _ runs).length_eq] at hCounts
      exact hCounts
    case unchanged =>
      exact fun otherRuns otherCandles hRuns hCandles =>
        summary_perm hDistinct hRuns hCandles computedAt
    case gapAware =>
      intro trade hTrade
      obtain ⟨run, hSortedRun, rfl⟩ := mem_map.mp hTrade
      have hMemRun := (perm_sort _ runs).mem_iff.mp hSortedRun
      intro window hWindow hAttributes
      obtain ⟨entryOpen, exitOpen, hEntry, hExit, hSpan⟩ := (hRun run).mpr
        ((lateEntryBreaksOff_congr hMem).mpr (hLate run hMemRun)) window hWindow hAttributes
      exact ⟨entryOpen, exitOpen, hEntry, hExit, hSpan.of_mem fun time => (hMem time).mp⟩

end Sound

section Sample

def minuteCandle (minute : Int) : Candle where
  symbol := .btcusdt
  interval := .oneMinute
  openTime := seconds (60 * minute)
  closeTime := seconds (60 * minute + 59)
  «open» := 100
  high := 101
  low := 99
  close := 101
  volume := 1
  quoteVolume := none
  tradeCount := 1
  isClosed := true

def minuteCandidate : ResearchCandidate where
  id := ⟨0⟩
  strategyId := "range_breakout_v1"
  symbol := "BTCUSDT"
  timeframe := "1m"
  status := .promotedToShadowConfig

def nextCandleRequest : ResearchShadowPnlAttributionRequest where
  holdingWindows := [1]
  feeBps := 10
  slippageBps := 5
  extremePnlThresholdPct := 5
  startTime := none
  endTime := none

def halfMinuteRun : ResearchShadowPnlRunInput where
  shadowRunId := ⟨1⟩
  strategyId := "range_breakout_v1"
  symbol := "BTCUSDT"
  timeframe := "1m"
  shadowCreatedAt := seconds 30
  signalTime := none

theorem interval_minuteCandidate : minuteCandidate.interval = .oneMinute := by decide +kernel

theorem attribution_sound_minutes :
    AttributionSound minuteCandidate nextCandleRequest [halfMinuteRun]
      [minuteCandle 2, minuteCandle 1] (seconds 3600) := by
  apply (attribution_sound_iff minuteCandidate nextCandleRequest [halfMinuteRun]
    [minuteCandle 2, minuteCandle 1] (seconds 3600) ?_ ?_ ?_).mpr
  · intro run hRun entryOpen hFirst
    obtain rfl := mem_singleton.mp hRun
    left
    have hOne := hFirst.least (seconds 60) (by decide) (by decide)
    exact hOne.trans (by rw [interval_minuteCandidate]; decide)
  · decide
  · decide
  · rw [interval_minuteCandidate]
    decide

/-- The signal is bought nine minutes after it, and the run counts as attributed. -/
theorem late_entry_attributed :
    (∀ candle ∈ [minuteCandle 10, minuteCandle 11], candle.isClosed = true) ∧
      ([minuteCandle 10, minuteCandle 11].map (·.openTime)).Nodup ∧
      (∀ candle ∈ [minuteCandle 10, minuteCandle 11],
        minuteCandidate.interval.duration ∣ candle.openTime) ∧
      ¬AttributionSound minuteCandidate nextCandleRequest [halfMinuteRun]
        [minuteCandle 10, minuteCandle 11] (seconds 3600) := by
  have hTrade : ∃ trade ∈ (calculateResearchShadowPnlAttribution minuteCandidate nextCandleRequest
      [halfMinuteRun] [minuteCandle 10, minuteCandle 11] (seconds 3600)).trades,
      ∃ window ∈ trade.holdingWindows, window.status = .attributed ∧
        trade.entryCandleOpenTime = some (seconds 600) ∧
        trade.signalTime.getD trade.shadowCreatedAt = seconds 30 := by
    decide +kernel
  refine ⟨by decide, by decide, by rw [interval_minuteCandidate]; decide, fun hSound => ?_⟩
  obtain ⟨trade, hTrade, window, hWindow, hStatus, hEntry, hMoment⟩ := hTrade
  obtain ⟨entryOpen, exitOpen, hSame, -, hSpan⟩ :=
    hSound.gapAware trade hTrade window hWindow (.inl hStatus)
  rw [hEntry] at hSame
  obtain rfl := some.inj hSame
  have hNext := hSpan.next
  rw [hMoment, interval_minuteCandidate] at hNext
  exact absurd hNext (by decide)

end Sample

end AegisQuant.Research
