import Mathlib.Algebra.BigOperators.Ring.Finset
import AegisQuant.Library.MaximalRuns
import AegisQuant.Market.Timeframes

/-! The candles that a window should hold, slot by slot, and the gaps that
research reports. The scan keeps the first and the last slot of an open gap
and their number, and writes the gap down when a candle or the end comes. -/
namespace AegisQuant.Market
open MaximalRuns List Option

structure ResearchDataGap where
  startTime : DateTime
  endTime : DateTime
  missingCandles : Int
  deriving DecidableEq

theorem toNat_sub_duration_lt {interval : CandleInterval} {effectiveEnd cursor : DateTime}
    (hRoom : cursor + interval.duration ≤ effectiveEnd) :
    (effectiveEnd - (cursor + interval.duration)).toNat < (effectiveEnd - cursor).toNat := by
  have hStep := duration_pos interval
  unfold DateTime at *
  omega

/-- The loop that pushes the slots from a cursor on. -/
def openTimesFrom (interval : CandleInterval) (effectiveEnd cursor : DateTime) : List DateTime :=
  if cursor + interval.duration ≤ effectiveEnd then
    cursor :: openTimesFrom interval effectiveEnd (cursor + interval.duration)
  else []
termination_by (effectiveEnd - cursor).toNat
decreasing_by exact toNat_sub_duration_lt ‹_›

def firstOpenTime (interval : CandleInterval) (startTime : DateTime) : DateTime :=
  let cursor := interval.bucketStart startTime
  if cursor < startTime then cursor + interval.duration else cursor

def expectedCandleOpenTimes (interval : CandleInterval) (startTime endTime now : DateTime) :
    List DateTime :=
  if endTime ≤ startTime then []
  else
    let effectiveEnd := min endTime now
    if effectiveEnd ≤ startTime then []
    else openTimesFrom interval effectiveEnd (firstOpenTime interval startTime)

/-- The gap that is open, and the gaps that are written down. -/
structure GapScan where
  gapStart : Option DateTime
  gapCount : Int
  previousMissing : Option DateTime
  gaps : List ResearchDataGap

def GapScan.start : GapScan := ⟨none, 0, none, []⟩

/-- An open gap without a last slot is a panic. -/
def GapScan.flush (interval : CandleInterval) (scan : GapScan) : Option GapScan :=
  match scan.gapStart with
  | none => some scan
  | some start => scan.previousMissing.map fun lastMissing =>
    ⟨none, 0, none, scan.gaps ++ [⟨start, lastMissing + interval.duration, scan.gapCount⟩]⟩

def GapScan.next (interval : CandleInterval) (actual : List DateTime) (scan : GapScan)
    (openTime : DateTime) : Option GapScan :=
  if openTime ∈ actual then scan.flush interval
  else some { scan with
    gapStart := scan.gapStart.or (some openTime)
    gapCount := scan.gapCount + 1
    previousMissing := some openTime }

/-- There is no answer where an expectation of the scan fails. -/
def detectResearchDataGaps (interval : CandleInterval) (startTime endTime now : DateTime)
    (actualOpenTimes : List DateTime) : Option (List ResearchDataGap) :=
  let expected := expectedCandleOpenTimes interval startTime endTime now
  if expected.isEmpty then some []
  else do
    let scan ← expected.foldlM (GapScan.next interval actualOpenTimes) .start
    let scan ← scan.flush interval
    pure scan.gaps

inductive ResearchDataReadinessStatus where
  | ready
  | degraded
  | insufficient
  deriving DecidableEq

structure CandleCoverageSummary where
  interval : String
  expectedCandles : Int
  actualCandles : Int
  coveragePct : Decimal
  firstCandleAt : Option DateTime
  lastCandleAt : Option DateTime
  missingRanges : List ResearchDataGap
  status : ResearchDataReadinessStatus

def summarizeCandleCoverage (interval : CandleInterval) (startTime endTime now : DateTime)
    (requiredCoveragePct : Decimal) (actualOpenTimes : List DateTime) :
    Option CandleCoverageSummary := do
  let expected := expectedCandleOpenTimes interval startTime endTime now
  -- an ordered set
  let actual := (SortByKey.sort id actualOpenTimes.dedup).filter (· ∈ expected)
  let coveragePct : Decimal := if expected.length = 0 then 0
    else roundDp 2 (actual.length * 100 / expected.length)
  let status : ResearchDataReadinessStatus :=
    if expected.length = 0 ∨ actual.length = 0 then .insufficient
    else if requiredCoveragePct ≤ coveragePct then .ready
    else .degraded
  let missingRanges ← detectResearchDataGaps interval startTime endTime now actualOpenTimes
  pure {
    interval := interval.asStr
    expectedCandles := expected.length
    actualCandles := actual.length
    coveragePct := coveragePct
    firstCandleAt := actual.head?
    lastCandleAt := actual.getLast?
    missingRanges := missingRanges
    status := status }

section Expected
variable {interval : CandleInterval} {startTime endTime now effectiveEnd cursor time : DateTime}

theorem openTimesFrom_eq (interval : CandleInterval) (effectiveEnd cursor : DateTime) :
    openTimesFrom interval effectiveEnd cursor =
      progression interval.duration ((effectiveEnd - cursor) / interval.duration).toNat cursor := by
  have hStep := duration_pos interval
  induction cursor using openTimesFrom.induct interval effectiveEnd with
  | case1 cursor hRoom ih =>
    have hShift : effectiveEnd - cursor =
        effectiveEnd - (cursor + interval.duration) + 1 * interval.duration := by ring
    have hLeft : 0 ≤ (effectiveEnd - (cursor + interval.duration)) / interval.duration :=
      Int.ediv_nonneg (Int.sub_nonneg_of_le hRoom) hStep.le
    rw [openTimesFrom, if_pos hRoom, ih, hShift, Int.add_mul_ediv_right _ _ hStep.ne',
      Int.toNat_add hLeft (by decide)]
    rfl
  | case2 cursor hNoRoom =>
    have hShort : (effectiveEnd - cursor) / interval.duration < 1 :=
      Int.ediv_lt_of_lt_mul hStep (by linarith)
    have hNone : ((effectiveEnd - cursor) / interval.duration).toNat = 0 :=
      Int.toNat_of_nonpos (Int.lt_add_one_iff.mp hShort)
    rw [openTimesFrom, if_neg hNoRoom, hNone]
    rfl

theorem firstOpenTime_spec (interval : CandleInterval) (startTime : DateTime) :
    interval.duration ∣ firstOpenTime interval startTime ∧
      startTime ≤ firstOpenTime interval startTime ∧
      firstOpenTime interval startTime < startTime + interval.duration := by
  obtain ⟨hAligned, hBefore, hAfter⟩ := bucketStart_bounds interval startTime
  have hStep := duration_pos interval
  unfold firstOpenTime
  dsimp only
  split
  · exact ⟨Int.dvd_add hAligned dvd_rfl, hAfter.le, Int.add_lt_add_right ‹_› _⟩
  · have hSame : interval.bucketStart startTime = startTime := le_antisymm hBefore (not_lt.mp ‹_›)
    rw [hSame] at hAligned ⊢
    exact ⟨hAligned, le_rfl, Int.lt_add_of_pos_right _ hStep⟩

/-- The number of slots of a window. -/
def slotCount (interval : CandleInterval) (startTime effectiveEnd : DateTime) : Nat :=
  ((effectiveEnd - firstOpenTime interval startTime) / interval.duration).toNat

theorem expectedCandleOpenTimes_eq (interval : CandleInterval) (startTime endTime now : DateTime) :
    expectedCandleOpenTimes interval startTime endTime now =
      progression interval.duration (slotCount interval startTime (min endTime now))
        (firstOpenTime interval startTime) := by
  have hStep := duration_pos interval
  obtain ⟨-, hStart, -⟩ := firstOpenTime_spec interval startTime
  have hEmpty : min endTime now ≤ startTime →
      slotCount interval startTime (min endTime now) = 0 := by
    intro hEnd
    have hNone : (min endTime now - firstOpenTime interval startTime) / interval.duration < 1 :=
      Int.ediv_lt_of_lt_mul hStep (by linarith)
    exact Int.toNat_of_nonpos (Int.lt_add_one_iff.mp hNone)
  unfold expectedCandleOpenTimes
  split
  · rw [hEmpty (min_le_of_left_le ‹_›)]
    rfl
  · dsimp only
    split
    · rw [hEmpty ‹_›]
      rfl
    · exact openTimesFrom_eq interval _ _

theorem mem_expectedCandleOpenTimes :
    time ∈ expectedCandleOpenTimes interval startTime endTime now ↔
      interval.duration ∣ time ∧ startTime ≤ time ∧ time + interval.duration ≤ min endTime now := by
  have hStep := duration_pos interval
  obtain ⟨hAligned, hStart, hNear⟩ := firstOpenTime_spec interval startTime
  rw [expectedCandleOpenTimes_eq, mem_progression, slotCount]
  generalize firstOpenTime interval startTime = first at *
  generalize min endTime now = limit
  unfold DateTime at *
  constructor
  · rintro ⟨i, hIndex, rfl⟩
    have hRoom : (i + 1 : Int) * interval.duration ≤ limit - first :=
      (Int.le_ediv_iff_mul_le hStep).mp (by omega)
    have hBehind : 0 ≤ (i : Int) * interval.duration := Int.mul_nonneg (by omega) hStep.le
    rw [add_mul, one_mul] at hRoom
    exact ⟨Int.dvd_add hAligned (Int.dvd_mul_left _ _), by omega, by omega⟩
  · rintro ⟨hTime, hAfter, hRoom⟩
    obtain ⟨index, hIndex⟩ := Int.dvd_sub hTime hAligned
    have hNonneg : -1 < index := by
      apply lt_of_mul_lt_mul_left _ hStep.le
      rw [← hIndex]
      omega
    have hSlots : index + 1 ≤ (limit - first) / interval.duration := by
      rw [Int.le_ediv_iff_mul_le hStep, add_mul, one_mul, mul_comm index, ← hIndex]
      omega
    refine ⟨index.toNat, by omega, ?_⟩
    rw [Int.toNat_of_nonneg (by omega), mul_comm index, ← hIndex]
    omega

end Expected

section Scan
variable {interval : CandleInterval} {actual : List DateTime} {scan : GapScan}
  {current : List DateTime}

def isMissing (actual : List DateTime) (openTime : DateTime) : Bool := openTime ∉ actual

def gapOfRun (interval : CandleInterval) (run : List DateTime) : ResearchDataGap where
  startTime := run.head?.getD 0
  endTime := run.getLast?.getD 0 + interval.duration
  missingCandles := run.length

structure HoldsRun (scan : GapScan) (current : List DateTime) : Prop where
  gapStart : scan.gapStart = current.head?
  gapCount : scan.gapCount = current.length
  previousMissing : scan.previousMissing = current.getLast?

theorem HoldsRun.flush (hHolds : HoldsRun scan current) (interval : CandleInterval) :
    ∃ next, scan.flush interval = some next ∧ HoldsRun next [] ∧
      next.gaps = scan.gaps ++ (close current).map (gapOfRun interval) := by
  unfold GapScan.flush
  rw [hHolds.gapStart, hHolds.gapCount, hHolds.previousMissing]
  cases current with
  | nil => exact ⟨scan, rfl, hHolds, by simp [close]⟩
  | cons first rest =>
    obtain ⟨last, hLast⟩ := getLast?_isSome.mpr (cons_ne_nil first rest) |>
      isSome_iff_exists.mp
    rw [hLast]
    refine ⟨_, rfl, ⟨rfl, rfl, rfl⟩, ?_⟩
    simp [close, gapOfRun, hLast]

/-- The scan writes down the maximal runs of the missing slots. -/
theorem HoldsRun.foldlM (hHolds : HoldsRun scan current) (interval : CandleInterval)
    (actual slots : List DateTime) :
    ∃ next, slots.foldlM (GapScan.next interval actual) scan = some next ∧
      ∃ last, next.flush interval = some last ∧ last.gaps =
        scan.gaps ++ (runsFrom (isMissing actual) current slots).map (gapOfRun interval) := by
  induction slots generalizing scan current with
  | nil =>
    obtain ⟨last, hFlush, -, hGaps⟩ := hHolds.flush interval
    exact ⟨scan, rfl, last, hFlush, hGaps⟩
  | cons slot rest ih =>
    rw [foldlM_cons, GapScan.next, runsFrom]
    by_cases hPresent : slot ∈ actual
    · obtain ⟨flushed, hFlush, hNext, hGaps⟩ := hHolds.flush interval
      obtain ⟨next, hRest, last, hLast, hAll⟩ := ih hNext
      rw [if_pos hPresent, hFlush, isMissing, decide_eq_false (not_not.mpr hPresent),
        if_neg Bool.false_ne_true]
      refine ⟨next, hRest, last, hLast, ?_⟩
      rw [hAll, hGaps, map_append, append_assoc]
    · have hNext : HoldsRun { scan with
          gapStart := scan.gapStart.or (some slot)
          gapCount := scan.gapCount + 1
          previousMissing := some slot } (current ++ [slot]) := by
        constructor
        case gapStart =>
          rw [hHolds.gapStart, head?_append]
          rfl
        case gapCount =>
          rw [hHolds.gapCount, length_append]
          rfl
        case previousMissing =>
          rw [getLast?_append]
          rfl
      rw [if_neg hPresent, isMissing, decide_eq_true hPresent, if_pos rfl]
      exact ih hNext

theorem detectResearchDataGaps_eq (interval : CandleInterval) (startTime endTime now : DateTime)
    (actual : List DateTime) :
    detectResearchDataGaps interval startTime endTime now actual =
      some ((runs (isMissing actual) (expectedCandleOpenTimes interval startTime endTime now)).map
        (gapOfRun interval)) := by
  have hStart : HoldsRun .start [] := ⟨rfl, rfl, rfl⟩
  obtain ⟨next, hScan, last, hFlush, hGaps⟩ := hStart.foldlM interval actual
    (expectedCandleOpenTimes interval startTime endTime now)
  unfold detectResearchDataGaps
  dsimp only
  split
  · rename_i hEmpty
    rw [isEmpty_iff.mp hEmpty]
    rfl
  · rw [hScan, bind_eq_bind, bind_some, hFlush, bind_some, hGaps]
    rfl

end Scan

/-- The gaps cover the slots without a candle: each is as long as the slots it
counts, no neighbour of a gap is missing too, and they come in order. -/
structure MaximalGaps (interval : CandleInterval) (expected actual : List DateTime)
    (gaps : List ResearchDataGap) : Prop where
  span : ∀ gap ∈ gaps, 0 < gap.missingCandles ∧
    gap.endTime - gap.startTime = gap.missingCandles * interval.duration
  missing : ∀ gap ∈ gaps, ∀ i : Nat, i < gap.missingCandles →
    gap.startTime + i * interval.duration ∈ expected.filter (isMissing actual)
  maximal : ∀ gap ∈ gaps, gap.startTime - interval.duration ∉ expected.filter (isMissing actual) ∧
    gap.endTime ∉ expected.filter (isMissing actual)
  covered : ∀ time ∈ expected.filter (isMissing actual), ∃ gap ∈ gaps, ∃ i : Nat,
    i < gap.missingCandles ∧ time = gap.startTime + i * interval.duration
  apart : gaps.Pairwise fun earlier later => earlier.endTime < later.startTime
  counted : (gaps.map (·.missingCandles)).sum = (expected.filter (isMissing actual)).length

/-- The slots are the aligned times whose candle fits into the window, in
increasing order. -/
structure AlignedSlots (interval : CandleInterval) (startTime endTime now : DateTime)
    (expected : List DateTime) : Prop where
  mem : ∀ time, time ∈ expected ↔
    interval.duration ∣ time ∧ startTime ≤ time ∧ time + interval.duration ≤ min endTime now
  increasing : expected.Pairwise (· < ·)

section Exact
variable {interval : CandleInterval} {first : DateTime} {count : Nat} {actual : List DateTime}
  {run : List DateTime}

section
variable (hRun : run ∈ runs (isMissing actual) (progression interval.duration count first))
include hRun

theorem gapOfRun_spec :
    run = progression interval.duration run.length (gapOfRun interval run).startTime ∧ run ≠ [] ∧
      (gapOfRun interval run).endTime =
        (gapOfRun interval run).startTime + run.length * interval.duration ∧
      (∀ time ∈ progression interval.duration count first,
        time = (gapOfRun interval run).startTime - interval.duration ∨
          time = (gapOfRun interval run).endTime → isMissing actual time = false) := by
  have hStep := duration_pos interval
  obtain ⟨front, back, hSplit, hBlock⟩ := isRun_of_mem hRun
  obtain ⟨hShape, -, -⟩ := block_of_progression hSplit
  have hLength : run.length ≠ 0 := fun hNone => hBlock.nonempty (length_eq_zero_iff.mp hNone)
  have hStart : (gapOfRun interval run).startTime = first + front.length * interval.duration := by
    rw [gapOfRun, hShape, head?_progression (by simpa using hLength)]
    rfl
  have hEnd : (gapOfRun interval run).endTime =
      (gapOfRun interval run).startTime + run.length * interval.duration := by
    have hLast : (gapOfRun interval run).endTime = first + front.length * interval.duration +
        (run.length - 1) * interval.duration + interval.duration := by
      rw [gapOfRun]
      dsimp only
      rw [hShape, getLast?_progression (by simpa using hLength), length_progression]
      rfl
    rw [hLast, hStart]
    ring
  refine ⟨by rwa [hStart], hBlock.nonempty, hEnd, ?_⟩
  intro time hTime hSide
  refine outside_of_isRun hStep hSplit hBlock hTime ?_
  rw [hEnd, hStart] at hSide
  exact hSide

theorem head?_of_mem_runs : run.head? = some (gapOfRun interval run).startTime := by
  obtain ⟨-, hSome, -, -⟩ := gapOfRun_spec hRun
  obtain ⟨slot, rest, rfl⟩ := exists_cons_of_ne_nil hSome
  rfl

end

theorem mem_runs_of_progression {time : DateTime} :
    time ∈ (progression interval.duration count first).filter (isMissing actual) ↔
      ∃ run ∈ runs (isMissing actual) (progression interval.duration count first), time ∈ run := by
  rw [← flatten_runs, mem_flatten]

theorem maximalGaps_of_progression (interval : CandleInterval) (first : DateTime) (count : Nat)
    (actual : List DateTime) :
    MaximalGaps interval (progression interval.duration count first) actual
      ((runs (isMissing actual) (progression interval.duration count first)).map
        (gapOfRun interval)) := by
  have hStep := duration_pos interval
  constructor
  case span =>
    rw [List.forall_mem_map]
    intro run hRun
    obtain ⟨-, hSome, hEnd, -⟩ := gapOfRun_spec hRun
    exact ⟨Int.natCast_pos.mpr (length_pos_iff.mpr hSome), by rw [hEnd]; exact add_sub_cancel_left _ _⟩
  case missing =>
    rw [List.forall_mem_map]
    intro run hRun i hIndex
    obtain ⟨hShape, -, -, -⟩ := gapOfRun_spec hRun
    have hMem : (gapOfRun interval run).startTime + i * interval.duration ∈
        progression interval.duration run.length (gapOfRun interval run).startTime :=
      mem_progression.mpr ⟨i, Int.ofNat_lt.mp hIndex, rfl⟩
    rw [← hShape] at hMem
    exact mem_runs_of_progression.mpr ⟨run, hRun, hMem⟩
  case maximal =>
    rw [List.forall_mem_map]
    intro run hRun
    obtain ⟨-, -, -, hOutside⟩ := gapOfRun_spec hRun
    have hNot : ∀ time, time = (gapOfRun interval run).startTime - interval.duration ∨
        time = (gapOfRun interval run).endTime →
        time ∉ (progression interval.duration count first).filter (isMissing actual) := by
      intro time hSide hMissing
      obtain ⟨hSlot, hAbsent⟩ := mem_filter.mp hMissing
      rw [hOutside time hSlot hSide] at hAbsent
      cases hAbsent
    exact ⟨hNot _ (.inl rfl), hNot _ (.inr rfl)⟩
  case covered =>
    intro time hTime
    obtain ⟨run, hRun, hMem⟩ := mem_runs_of_progression.mp hTime
    obtain ⟨hShape, -, -, -⟩ := gapOfRun_spec hRun
    rw [hShape] at hMem
    obtain ⟨i, hIndex, rfl⟩ := mem_progression.mp hMem
    exact ⟨_, mem_map_of_mem hRun, i, Int.ofNat_lt.mpr hIndex, rfl⟩
  case apart =>
    rw [pairwise_map]
    refine (pairwise_runs _ _).imp_of_mem ?_
    intro earlier later hEarlier hLater hApart
    obtain ⟨-, -, hEnd, -⟩ := gapOfRun_spec hEarlier
    rw [hEnd]
    exact lt_of_apart hStep hApart (head?_of_mem_runs hEarlier) (head?_of_mem_runs hLater)
  case counted =>
    rw [← flatten_runs, List.length_flatten, List.map_map, Nat.cast_list_sum, List.map_map]
    rfl

end Exact

/-- The expected slots are exactly the aligned ones of the window, and the
reported gaps exactly the maximal runs of those without a candle. -/
theorem research_data_gaps_exact (interval : CandleInterval) (startTime endTime now : DateTime)
    (actual : List DateTime) :
    AlignedSlots interval startTime endTime now
        (expectedCandleOpenTimes interval startTime endTime now) ∧
      ∃ gaps, detectResearchDataGaps interval startTime endTime now actual = some gaps ∧
        MaximalGaps interval (expectedCandleOpenTimes interval startTime endTime now) actual gaps := by
  constructor
  · constructor
    case mem => exact fun time => mem_expectedCandleOpenTimes
    case increasing =>
      rw [expectedCandleOpenTimes_eq]
      exact pairwise_progression (duration_pos interval) _ _
  · refine ⟨_, detectResearchDataGaps_eq interval startTime endTime now actual, ?_⟩
    rw [expectedCandleOpenTimes_eq]
    exact maximalGaps_of_progression interval _ _ actual

/-- Two of five minutes are missing on both sides of a candle. -/
example : detectResearchDataGaps .oneMinute 0 (DateTime.seconds 300) (DateTime.seconds 300)
    [DateTime.seconds 120] = some [⟨0, DateTime.seconds 120, 2⟩,
      ⟨DateTime.seconds 180, DateTime.seconds 300, 2⟩] := by
  rw [detectResearchDataGaps_eq, expectedCandleOpenTimes_eq]
  decide +kernel

end AegisQuant.Market
