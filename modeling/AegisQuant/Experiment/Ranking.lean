import AegisQuant.Experiment.Candidates
import AegisQuant.Library.SortByKey
import AegisQuant.Replay.Simulation
import Mathlib.Data.List.Pairwise
import Mathlib.Data.String.Basic

/-! The order of the runs of an experiment, and that of the runs of several
timeframes. The two comparators are written separately. They agree on any one
timeframe, and neither leaves two runs tied. -/
namespace AegisQuant.Experiment
open List
open Replay (ReplaySuppressionCount)
open SortByKey

inductive StrategyExperimentStatus where
  | pending
  | running
  | completed
  | failed
  deriving DecidableEq

inductive StrategyExperimentMetric where
  | netPnlPct
  | maxDrawdownPct
  | tradeCount
  | winRate
  | feeSlippageDragPct
  | riskAdjustedScore
  deriving DecidableEq

structure StrategyExperimentRun where
  id : Uuid
  experimentId : Uuid
  rank : Int
  candidate : StrategyExperimentCandidate
  finalEquity : Decimal
  pnl : Decimal
  pnlPct : Decimal
  maxDrawdownPct : Decimal
  winRate : Decimal
  tradeCount : Int
  feePaid : Decimal
  slippageCost : Decimal
  feeSlippageDragPct : Decimal
  rawSignalCount : Int
  cooldownSuppressedCount : Int
  openPositionSuppressedCount : Int
  executedTradeCount : Int
  suppressionBreakdown : List ReplaySuppressionCount
  lastSignalTime : Option DateTime
  lastExecutedEntryTime : Option DateTime
  score : Decimal
  status : StrategyExperimentStatus
  warnings : List String
  createdAt : DateTime

def StrategyExperimentRun.unranked (run : StrategyExperimentRun) : StrategyExperimentRun :=
  { run with rank := 0 }

structure StrategyExperimentGlobalRankingEntry where
  timeframe : String
  experimentId : Uuid
  candleCount : Int
  requiredCandles : Int
  insufficientDataPenalty : Decimal
  overtradingPenalty : Decimal
  run : StrategyExperimentRun
  warnings : List String

structure StrategyExperimentGlobalRanking where
  rankingMetric : StrategyExperimentMetric
  bestRunId : Option Uuid
  rankedRuns : List StrategyExperimentGlobalRankingEntry

/-- An id is ordered by its bytes, the most significant first. -/
def compareIds (left right : Uuid) : Ordering := compare left.value.toNat right.value.toNat

def compareRuns (left right : StrategyExperimentRun) : Ordering :=
  (compare right.score left.score)
    |>.then (compare right.pnlPct left.pnlPct)
    |>.then (compare left.maxDrawdownPct right.maxDrawdownPct)
    |>.then (compare right.winRate left.winRate)
    |>.then (compare left.feeSlippageDragPct right.feeSlippageDragPct)
    |>.then (compare right.tradeCount left.tradeCount)
    |>.then (compareIds left.id right.id)

def numberRanks (runs : List StrategyExperimentRun) : List StrategyExperimentRun :=
  runs.mapIdx fun index run => { run with rank := index + 1 }

def rankStrategyExperimentRuns (runs : List StrategyExperimentRun) : List StrategyExperimentRun :=
  numberRanks (sortBy compareRuns runs)

def compareEntries (left right : StrategyExperimentGlobalRankingEntry) : Ordering :=
  (compare right.run.score left.run.score)
    |>.then (compare right.run.pnlPct left.run.pnlPct)
    |>.then (compare left.run.maxDrawdownPct right.run.maxDrawdownPct)
    |>.then (compare right.run.winRate left.run.winRate)
    |>.then (compare left.run.feeSlippageDragPct right.run.feeSlippageDragPct)
    |>.then (compare right.run.tradeCount left.run.tradeCount)
    |>.then (compare left.timeframe right.timeframe)
    |>.then (compareIds left.run.id right.run.id)

def buildGlobalRanking (entries : List StrategyExperimentGlobalRankingEntry) :
    StrategyExperimentGlobalRanking :=
  let entries := sortBy compareEntries entries
  { rankingMetric := .riskAdjustedScore
    bestRunId := entries.head?.map (·.run.id)
    rankedRuns := entries }

/-- What a run has achieved, better before worse: the lower drawdown and the
lower fee drag, the higher of the other figures. -/
abbrev Standing :=
  Decimalᵒᵈ ×ₗ Decimalᵒᵈ ×ₗ Decimal ×ₗ Decimalᵒᵈ ×ₗ Decimal ×ₗ Intᵒᵈ

def standing (run : StrategyExperimentRun) : Standing :=
  toLex (OrderDual.toDual run.score, toLex (OrderDual.toDual run.pnlPct, toLex (run.maxDrawdownPct,
    toLex (OrderDual.toDual run.winRate, toLex (run.feeSlippageDragPct,
      OrderDual.toDual run.tradeCount)))))

/-- The place of a run: its standing, and its id where standings are equal. -/
def place (run : StrategyExperimentRun) : Standing ×ₗ Nat :=
  toLex (standing run, run.id.value.toNat)

def globalPlace (entry : StrategyExperimentGlobalRankingEntry) : Standing ×ₗ String ×ₗ Nat :=
  toLex (standing entry.run, toLex (entry.timeframe, entry.run.id.value.toNat))

theorem compareRuns_eq : compareRuns = compareBy place := by
  funext left right
  simp only [compareRuns, compareBy, place, standing, compare_toLex, Ordering.then_assoc]
  rfl

theorem compareEntries_eq : compareEntries = compareBy globalPlace := by
  funext left right
  simp only [compareEntries, compareBy, globalPlace, standing, compare_toLex, Ordering.then_assoc]
  rfl

section
variable {left right : StrategyExperimentGlobalRankingEntry}
  (hTimeframe : left.timeframe = right.timeframe)
include hTimeframe

theorem compareEntries_sameTimeframe :
    compareEntries left right = compareRuns left.run right.run := by
  have hTied : compare left.timeframe right.timeframe = .eq := by
    rw [hTimeframe]
    exact (@compare_eq_iff_eq String _ _ _).mpr rfl
  rw [compareEntries, compareRuns, hTied, Ordering.then_eq]

theorem globalPlace_le_iff :
    globalPlace left ≤ globalPlace right ↔ place left.run ≤ place right.run := by
  rw [← isLE_compareBy, ← isLE_compareBy, ← compareEntries_eq, ← compareRuns_eq,
    compareEntries_sameTimeframe hTimeframe]

end

theorem id_inj {left right : Uuid} : left.value.toNat = right.value.toNat ↔ left = right := by
  cases left
  cases right
  simp only [BitVec.toNat_inj, Uuid.mk.injEq]

section Ranks
variable {runs ranked : List StrategyExperimentRun}

theorem nodup_places (hDistinct : (runs.map (·.id)).Nodup) : (runs.map place).Nodup :=
  nodup_map_of_decides
    (fun _ _ hSame => id_inj.mp (congrArg (fun key => (ofLex key).2) hSame)) hDistinct

variable (run : StrategyExperimentRun)

@[simp] theorem place_unranked : place run.unranked = place run := rfl

@[simp] theorem id_unranked : run.unranked.id = run.id := rfl

theorem map_place_unranked : (runs.map (·.unranked)).map place = runs.map place := by
  simp only [map_map, Function.comp_def, place_unranked]

theorem rankStrategyExperimentRuns_eq :
    rankStrategyExperimentRuns runs = numberRanks (sort place runs) := by
  rw [rankStrategyExperimentRuns, compareRuns_eq, sortBy_compareBy]

theorem sort_unranked : (sort place runs).map (·.unranked) = sort place (runs.map (·.unranked)) :=
  map_sort fun _ _ _ _ => Iff.rfl

theorem numberRanks_unranked : (numberRanks runs).map (·.unranked) = runs.map (·.unranked) := by
  apply ext_getElem
  · simp [numberRanks]
  · intro index hLeft hRight
    simp [numberRanks, StrategyExperimentRun.unranked]

theorem numberRanks_map_unranked : numberRanks (runs.map (·.unranked)) = numberRanks runs := by
  apply ext_getElem
  · simp [numberRanks]
  · intro index hLeft hRight
    simp [numberRanks, StrategyExperimentRun.unranked]

theorem ranks_numberRanks : (numberRanks runs).map (·.rank) =
    (range (numberRanks runs).length).map fun index : Nat => (index : Int) + 1 := by
  apply ext_getElem
  · simp
  · intro index hLeft hRight
    simp [numberRanks]

theorem numberRanks_of_ranks (hRanks : ranked.map (·.rank) =
    (range ranked.length).map fun index : Nat => (index : Int) + 1) :
    numberRanks ranked = ranked := by
  apply ext_getElem
  · simp [numberRanks]
  · intro index hLeft hRight
    have hRank : ranked[index].rank = index + 1 := by
      have hAt := congrArg (fun ranks => ranks[index]?) hRanks
      simpa [hRight] using hAt
    simp [numberRanks, ← hRank]

/-- A ranking of runs: the runs in the order of their places, whatever ranks they
had before, with the ranks from one on. -/
structure IsRanking (runs ranked : List StrategyExperimentRun) : Prop where
  permutes : (ranked.map (·.unranked)).Perm (runs.map (·.unranked))
  ordered : ranked.Pairwise fun left right => place left < place right
  ranks : ranked.map (·.rank) = (range ranked.length).map fun index : Nat => (index : Int) + 1

theorem map_place_numberRanks : (numberRanks runs).map place = runs.map place := by
  rw [← map_place_unranked, numberRanks_unranked, map_place_unranked]

theorem isRanking_rank (hDistinct : (runs.map (·.id)).Nodup) :
    IsRanking runs (rankStrategyExperimentRuns runs) := by
  rw [rankStrategyExperimentRuns_eq]
  constructor
  case permutes =>
    rw [numberRanks_unranked]
    exact (perm_sort place runs).map _
  case ordered =>
    have hSorted := strict_sort (nodup_places hDistinct)
    rw [← pairwise_map] at hSorted ⊢
    rwa [map_place_numberRanks]
  case ranks => exact ranks_numberRanks

theorem eq_rank_of_isRanking (hDistinct : (runs.map (·.id)).Nodup) (hRanking : IsRanking runs ranked) :
    ranked = rankStrategyExperimentRuns runs := by
  have hPlaces : ((runs.map (·.unranked)).map place).Nodup := by
    rw [map_place_unranked]
    exact nodup_places hDistinct
  have hSorted : (ranked.map (·.unranked)).Pairwise fun left right => place left ≤ place right :=
    pairwise_map.mpr (hRanking.ordered.imp le_of_lt)
  have hOrder : ranked.map (·.unranked) = (sort place runs).map (·.unranked) := by
    calc ranked.map (·.unranked)
        = sort place (ranked.map (·.unranked)) := (sort_of_pairwise hSorted).symm
      _ = sort place (runs.map (·.unranked)) := sort_eq_of_perm hRanking.permutes hPlaces
      _ = (sort place runs).map (·.unranked) := sort_unranked.symm
  calc ranked
      = numberRanks ranked := (numberRanks_of_ranks hRanking.ranks).symm
    _ = numberRanks ((sort place runs).map (·.unranked)) := by
        rw [← hOrder, numberRanks_map_unranked]
    _ = rankStrategyExperimentRuns runs := by
        rw [numberRanks_map_unranked, rankStrategyExperimentRuns_eq]

/-- The order and the ranks that runs come with do not matter. -/
theorem rank_eq_of_perm {shuffled : List StrategyExperimentRun}
    (hPerm : (shuffled.map (·.unranked)).Perm (runs.map (·.unranked)))
    (hDistinct : (runs.map (·.id)).Nodup) :
    rankStrategyExperimentRuns shuffled = rankStrategyExperimentRuns runs := by
  have hIds : (shuffled.map (·.id)).Perm (runs.map (·.id)) := by
    have hMapped := hPerm.map (·.id)
    simpa only [map_map, Function.comp_def, id_unranked] using hMapped
  have hShuffled := isRanking_rank (hIds.nodup_iff.mpr hDistinct)
  exact eq_rank_of_isRanking hDistinct
    ⟨hShuffled.permutes.trans hPerm, hShuffled.ordered, hShuffled.ranks⟩

end Ranks

section Global
variable {entries : List StrategyExperimentGlobalRankingEntry}

theorem nodup_globalPlaces (hDistinct : (entries.map (·.run.id)).Nodup) :
    (entries.map globalPlace).Nodup :=
  nodup_map_of_decides
    (fun _ _ hSame => id_inj.mp (congrArg (fun key => (ofLex (ofLex key).2).2) hSame)) hDistinct

theorem rankedRuns_eq : (buildGlobalRanking entries).rankedRuns = sort globalPlace entries := by
  rw [buildGlobalRanking, compareEntries_eq, sortBy_compareBy]

/-- The runs of a timeframe, in the order that the ranking of all gives them. -/
theorem map_run_sort {timeframe : String} (hOne : ∀ entry ∈ entries, entry.timeframe = timeframe) :
    (sort globalPlace entries).map (·.run) = sort place (entries.map (·.run)) := by
  apply map_sort
  intro left hLeft right hRight
  exact globalPlace_le_iff ((hOne left hLeft).trans (hOne right hRight).symm)

theorem rankedRuns_timeframe (hDistinct : (entries.map (·.run.id)).Nodup) (timeframe : String) :
    ((buildGlobalRanking entries).rankedRuns.filter (·.timeframe = timeframe)).map (·.run) =
      sort place ((entries.filter (·.timeframe = timeframe)).map (·.run)) := by
  rw [rankedRuns_eq, filter_sort (nodup_globalPlaces hDistinct)]
  apply map_run_sort
  intro entry hEntry
  simpa using (mem_filter.mp hEntry).2

end Global

/-- Runs have one ranking, which does not depend on the order they come in, and
the ranking of several timeframes keeps it on each of them. -/
theorem ranking_canonical {runs : List StrategyExperimentRun}
    {entries : List StrategyExperimentGlobalRankingEntry}
    (hRuns : (runs.map (·.id)).Nodup) (hEntries : (entries.map (·.run.id)).Nodup) :
    (∀ ranked, IsRanking runs ranked ↔ ranked = rankStrategyExperimentRuns runs) ∧
    (∀ shuffled : List StrategyExperimentRun,
      (shuffled.map (·.unranked)).Perm (runs.map (·.unranked)) →
        rankStrategyExperimentRuns shuffled = rankStrategyExperimentRuns runs) ∧
    ∀ timeframe : String,
      ((buildGlobalRanking entries).rankedRuns.filter (·.timeframe = timeframe)).map
          (·.run.unranked) =
        (rankStrategyExperimentRuns
          ((entries.filter (·.timeframe = timeframe)).map (·.run))).map (·.unranked) := by
  refine ⟨fun ranked => ⟨eq_rank_of_isRanking hRuns, ?_⟩, ?_, ?_⟩
  · rintro rfl
    exact isRanking_rank hRuns
  · intro shuffled hPerm
    exact rank_eq_of_perm hPerm hRuns
  · intro timeframe
    rw [rankStrategyExperimentRuns_eq, numberRanks_unranked, ← rankedRuns_timeframe hEntries,
      map_map]
    rfl

def sampleRun (id : BitVec 128) (score pnlPct : Decimal) : StrategyExperimentRun where
  id := ⟨id⟩
  experimentId := ⟨1⟩
  rank := 0
  candidate := { lookbackCandles := 20 }
  finalEquity := 1000 + 10 * pnlPct
  pnl := 10 * pnlPct
  pnlPct := pnlPct
  maxDrawdownPct := 1
  winRate := 50
  tradeCount := 4
  feePaid := 1
  slippageCost := 1
  feeSlippageDragPct := 1 / 5
  rawSignalCount := 4
  cooldownSuppressedCount := 0
  openPositionSuppressedCount := 0
  executedTradeCount := 4
  suppressionBreakdown := []
  lastSignalTime := none
  lastExecutedEntryTime := none
  score := score
  status := .completed
  warnings := []
  createdAt := 0

def sampleEntry (timeframe : String) (run : StrategyExperimentRun) :
    StrategyExperimentGlobalRankingEntry where
  timeframe := timeframe
  experimentId := run.experimentId
  candleCount := 200
  requiredCandles := 22
  insufficientDataPenalty := 0
  overtradingPenalty := 0
  run := run
  warnings := []

/-- Two runs tied but for their ids come in the order of the ids, with the better
run before them, in either arrangement. -/
theorem ranking_canonical_sample :
    (rankStrategyExperimentRuns [sampleRun 9 5 3, sampleRun 7 5 3, sampleRun 8 6 2]).map
        (fun run => (run.id, run.rank)) = [(⟨8⟩, 1), (⟨7⟩, 2), (⟨9⟩, 3)] ∧
    rankStrategyExperimentRuns [sampleRun 7 5 3, sampleRun 8 6 2, sampleRun 9 5 3] =
      rankStrategyExperimentRuns [sampleRun 9 5 3, sampleRun 7 5 3, sampleRun 8 6 2] := by
  have hRuns : ([sampleRun 9 5 3, sampleRun 7 5 3, sampleRun 8 6 2].map (·.id)).Nodup := by decide
  have hEntries : ([sampleEntry "1h" (sampleRun 9 5 3), sampleEntry "15m" (sampleRun 7 5 3)].map
      (·.run.id)).Nodup := by decide
  obtain ⟨hRanking, hShuffled, _⟩ := ranking_canonical hRuns hEntries
  constructor
  · decide +kernel
  · exact hShuffled _ (perm_append_singleton _ [_, _])

end AegisQuant.Experiment
