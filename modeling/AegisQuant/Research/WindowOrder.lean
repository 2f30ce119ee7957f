import AegisQuant.Library.Reordering
import AegisQuant.Research.CandidatePolicy

/-! The out-of-sample windows of a configuration. The ranking and the policy
preview look at the first late cell of a list only, so that the other late
cells and their order can matter. -/
namespace AegisQuant.Research
open Reordering Groups List Option

section Ranking
variable {floats : FloatArithmetic} {configIndex : Int}
  {cells other : List CrossAssetRobustnessMatrixCell}
variable {cell late : CrossAssetRobustnessMatrixCell}

def OneConfig (configIndex : Int) (cells : List CrossAssetRobustnessMatrixCell) : Prop :=
  ∀ cell ∈ cells, cell.configIndex = configIndex

theorem OneConfig.perm (hConfig : OneConfig configIndex cells) (hPerm : other.Perm cells) :
    OneConfig configIndex other := fun cell hCell => hConfig cell (hPerm.subset hCell)

theorem group_oneConfig (hConfig : OneConfig configIndex cells) (hSome : cells ≠ []) :
    group (·.configIndex) cells = [(configIndex, cells)] := by
  have hKeys : (group (·.configIndex) cells).map (·.1) = [configIndex] := by
    apply (increasing_group _ cells).eq_of_mem_iff (pairwise_singleton _ _)
    intro key
    rw [Groups.mem_keys_group, List.mem_map, List.mem_singleton]
    constructor
    · rintro ⟨cell, hCell, rfl⟩
      exact hConfig cell hCell
    · rintro rfl
      obtain ⟨cell, hCell⟩ := exists_mem_of_ne_nil cells hSome
      exact ⟨cell, hCell, hConfig cell hCell⟩
  rw [group_eq, hKeys, map_singleton, filter_eq_self.mpr]
  exact fun cell hCell => decide_eq_true (hConfig cell hCell)

theorem statuses_oneConfig {first : CrossAssetRobustnessMatrixCell}
    {rest : List CrossAssetRobustnessMatrixCell} (hConfig : OneConfig configIndex (first :: rest)) :
    (rankCrossAssetRobustnessConfigs floats (first :: rest)).map (·.status) =
      [(rankConfig floats configIndex first rest).status] := by
  rw [rankCrossAssetRobustnessConfigs, group_oneConfig hConfig (cons_ne_nil _ _)]
  rfl

/-- The first late cell is too sparse. -/
def sparsePicked (cells : List CrossAssetRobustnessMatrixCell) : Bool :=
  (cells.find? (·.isLate)).any (·.status == .tooSparse)

/-- The cell picked as combined, or the first late cell, is not positive. -/
def negativePicked (cells : List CrossAssetRobustnessMatrixCell) : Bool :=
  (combinedCell cells).any (·.compoundedPnlPct ≤ 0) ||
    (cells.find? (·.isLate)).any (·.compoundedPnlPct ≤ 0)

/-- The status where no picked cell decides it. -/
def aggregateStatus (floats : FloatArithmetic) (cells : List CrossAssetRobustnessMatrixCell) :
    CrossAssetRobustnessStatus :=
  let medianCellPnlPct := medianDecimalVec floats (cells.map (·.compoundedPnlPct))
  let worstWindowPnlPct :=
    ((cells.map fun cell => min cell.worstWindowPnlPct cell.compoundedPnlPct).min?).getD 0
  let maxDrawdownPct := (cells.map (·.maxDrawdownPct)).min?.getD 0
  let maxSymbolConcentrationPct := (cells.map (·.maxSymbolConcentrationPct)).max?.getD 0
  let btcTradeCount := (cells.map fun cell => tradesOf cell.symbolDistribution "BTCUSDT").sum
  let score := cells.foldl (fun score cell => score + cellScore cell) 50 -
    (if btcTradeCount = 0 then 5 else 0) + (if 0 < medianCellPnlPct then 8 else 0) -
    (if oneWindowDominatesPnl cells then 15 else 0)
  if 50 < maxSymbolConcentrationPct || medianCellPnlPct ≤ 0 || oneWindowDominatesPnl cells then
    .overfitRisk
  else if maxDrawdownPct < -10 || worstWindowPnlPct < -5 then .weak
  else if 115 ≤ score then .robust
  else .promising

def pickedStatus (cells : List CrossAssetRobustnessMatrixCell) : Option CrossAssetRobustnessStatus :=
  if sparsePicked cells then some .tooSparse
  else if negativePicked cells then some .negative
  else none

theorem exists_combinedCell (hSome : cells ≠ []) : ∃ cell, combinedCell cells = some cell := by
  unfold combinedCell
  cases cells.find? (·.isCombined) with
  | none => exact ⟨_, getLast?_eq_some_getLast hSome⟩
  | some cell => exact ⟨cell, rfl⟩

theorem rankConfig_status (first : CrossAssetRobustnessMatrixCell)
    (rest : List CrossAssetRobustnessMatrixCell) :
    (rankConfig floats configIndex first rest).status =
      (pickedStatus (first :: rest)).getD (aggregateStatus floats (first :: rest)) := by
  obtain ⟨cell, hCell⟩ := exists_combinedCell (cons_ne_nil first rest)
  simp only [rankConfig, classifyCrossAssetRobustnessRanking, hCell, getD_some, pickedStatus,
    sparsePicked, negativePicked, any_some, aggregateStatus]
  split_ifs <;> rfl

theorem medianDecimalVec_perm {values others : List Decimal} (hPerm : others.Perm values) :
    medianDecimalVec floats others = medianDecimalVec floats values := by
  simp only [medianDecimalVec, percentileDecimal, hPerm.isEmpty_eq, hPerm.length_eq,
    sort_perm hPerm]

theorem oneWindowDominatesPnl_perm (hPerm : other.Perm cells) :
    oneWindowDominatesPnl other = oneWindowDominatesPnl cells := by
  have hPositives := ((hPerm.filter fun cell => !cell.isCombined).map fun cell =>
    max cell.compoundedPnlPct 0)
  simp only [oneWindowDominatesPnl, hPositives.sum_eq, max?_perm hPositives]

theorem aggregateStatus_perm (hPerm : other.Perm cells) :
    aggregateStatus floats other = aggregateStatus floats cells := by
  have hScore : other.foldl (fun score cell => score + cellScore cell) 50 =
      cells.foldl (fun score cell => score + cellScore cell) 50 :=
    hPerm.foldl_eq' (by intros; exact add_right_comm _ _ _) 50
  simp only [aggregateStatus, hScore, oneWindowDominatesPnl_perm hPerm,
    medianDecimalVec_perm (hPerm.map _), min?_perm (hPerm.map _),
    max?_perm (hPerm.map _), (hPerm.map _).sum_eq]

theorem aggregateStatus_ne : aggregateStatus floats cells ≠ .tooSparse ∧
    aggregateStatus floats cells ≠ .negative := by
  simp only [aggregateStatus]
  split_ifs <;> decide

/-- The cells one of which is picked as combined, by the order of the list. -/
def combinedCandidates (cells : List CrossAssetRobustnessMatrixCell) :
    List CrossAssetRobustnessMatrixCell :=
  if cells.any (·.isCombined) then cells.filter (·.isCombined) else cells

theorem mem_candidates_of_combinedCell (hPerm : other.Perm cells)
    (hPicked : combinedCell other = some cell) : cell ∈ combinedCandidates cells := by
  unfold combinedCell at hPicked
  unfold combinedCandidates
  cases hFind : other.find? (·.isCombined) with
  | none =>
    rw [hFind, none_or] at hPicked
    have hNone := (find?_eq_none_perm hPerm).mp hFind
    rw [if_neg (by simpa using hNone)]
    exact hPerm.subset (mem_of_getLast? hPicked)
  | some found =>
    rw [hFind, some_or] at hPicked
    obtain ⟨hMem, hLabel⟩ := mem_of_find?_perm hPerm hFind
    rw [← some.inj hPicked, if_pos (any_eq_true.mpr ⟨found, hMem, hLabel⟩)]
    exact mem_filter.mpr ⟨hMem, hLabel⟩

theorem exists_perm_combinedCell (hCell : cell ∈ combinedCandidates cells) :
    ∃ other : List CrossAssetRobustnessMatrixCell, other.Perm cells ∧
      combinedCell other = some cell := by
  unfold combinedCandidates at hCell
  split at hCell
  · obtain ⟨hMem, hLabel⟩ := mem_filter.mp hCell
    obtain ⟨other, hPerm, hFind⟩ := exists_perm_find? hMem hLabel
    exact ⟨other, hPerm, by rw [combinedCell, hFind, some_or]⟩
  · rename_i hNone
    obtain ⟨rest, hRest⟩ := exists_perm_cons hCell
    refine ⟨rest ++ [cell], (perm_append_singleton cell rest).trans hRest, ?_⟩
    have hPerm : (rest ++ [cell]).Perm cells := (perm_append_singleton cell rest).trans hRest
    have hFind : (rest ++ [cell]).find? (·.isCombined) = none :=
      (find?_eq_none_perm hPerm).mpr (by simpa using hNone)
    rw [combinedCell, hFind, none_or, getLast?_concat]

theorem pickedStatus_cases (cells : List CrossAssetRobustnessMatrixCell) :
    pickedStatus cells = some .tooSparse ∨ pickedStatus cells = some .negative ∨
      pickedStatus cells = none := by
  unfold pickedStatus
  split_ifs <;> simp

theorem getD_pickedStatus_inj {status : CrossAssetRobustnessStatus} (hSparse : status ≠ .tooSparse)
    (hNegative : status ≠ .negative) :
    (pickedStatus other).getD status = (pickedStatus cells).getD status ↔
      pickedStatus other = pickedStatus cells := by
  rcases pickedStatus_cases other with h | h | h <;>
    rcases pickedStatus_cases cells with h' | h' | h' <;>
    simp [h, h', hSparse, hNegative, hSparse.symm, hNegative.symm]

theorem statuses_perm_iff (hConfig : OneConfig configIndex cells) (hPerm : other.Perm cells) :
    (rankCrossAssetRobustnessConfigs floats other).map (·.status) =
        (rankCrossAssetRobustnessConfigs floats cells).map (·.status) ↔
      pickedStatus other = pickedStatus cells := by
  cases hOther : other with
  | nil =>
    rw [hOther, nil_perm] at hPerm
    rw [hPerm]
    exact iff_of_true rfl rfl
  | cons first rest =>
    cases hCells : cells with
    | nil => rw [hOther, hCells] at hPerm; exact absurd hPerm.eq_nil (cons_ne_nil _ _)
    | cons head tail =>
      have hAggregate : aggregateStatus floats (first :: rest) =
          aggregateStatus floats (head :: tail) := by
        rw [← hOther, ← hCells]
        exact aggregateStatus_perm hPerm
      rw [statuses_oneConfig (hOther ▸ hConfig.perm hPerm), statuses_oneConfig (hCells ▸ hConfig),
        rankConfig_status, rankConfig_status, hAggregate, singleton_inj]
      exact getD_pickedStatus_inj aggregateStatus_ne.1 aggregateStatus_ne.2

/-- Every order of the cells leads to the same picked status. -/
def RankingSettled (cells : List CrossAssetRobustnessMatrixCell) : Prop :=
  ((∃ cell ∈ cells, cell.isLate = true) ∧
    ∀ cell ∈ cells, cell.isLate = true → cell.status = .tooSparse) ∨
  ((∀ cell ∈ cells, cell.isLate = true → cell.status ≠ .tooSparse) ∧
    (((∃ cell ∈ cells, cell.isLate = true) ∧
        ∀ cell ∈ cells, cell.isLate = true → cell.compoundedPnlPct ≤ 0) ∨
      (∀ cell ∈ combinedCandidates cells, cell.compoundedPnlPct ≤ 0) ∨
      ((∀ cell ∈ cells, cell.isLate = true → 0 < cell.compoundedPnlPct) ∧
        ∀ cell ∈ combinedCandidates cells, 0 < cell.compoundedPnlPct) ∨
      ((∀ cell ∈ cells, cell.isCombined = false) ∧
        (∃ cell ∈ cells, cell.isLate = true ∧ cell.compoundedPnlPct ≤ 0) ∧
        cells.countP (fun cell => decide (0 < cell.compoundedPnlPct)) ≤ 1)))

section
variable (hPerm : other.Perm cells)
include hPerm

/-- In any order some late cell is found, if there is one. -/
theorem exists_find?_isLate (hLate : ∃ cell ∈ cells, cell.isLate = true) :
    ∃ found ∈ cells, found.isLate = true ∧ other.find? (·.isLate) = some found := by
  cases hFind : other.find? (·.isLate) with
  | none =>
    obtain ⟨cell, hMem, hIsLate⟩ := hLate
    rw [(find?_eq_none_perm hPerm).mp hFind cell hMem] at hIsLate
    cases hIsLate
  | some found =>
    obtain ⟨hMem, hIsLate⟩ := mem_of_find?_perm hPerm hFind
    exact ⟨found, hMem, hIsLate, rfl⟩

theorem sparsePicked_of_all (hLate : ∃ cell ∈ cells, cell.isLate = true)
    (hSparse : ∀ cell ∈ cells, cell.isLate = true → cell.status = .tooSparse) :
    sparsePicked other = true := by
  obtain ⟨found, hMem, hIsLate, hFind⟩ := exists_find?_isLate hPerm hLate
  simp [sparsePicked, hFind, hSparse found hMem hIsLate]

theorem sparsePicked_of_none (hFull : ∀ cell ∈ cells, cell.isLate = true → cell.status ≠ .tooSparse)
    :
    sparsePicked other = false := by
  unfold sparsePicked
  cases hFind : other.find? (·.isLate) with
  | none => rfl
  | some found =>
    obtain ⟨hMem, hIsLate⟩ := mem_of_find?_perm hPerm hFind
    simp [hFull found hMem hIsLate]

theorem negativePicked_of_late (hLate : ∃ cell ∈ cells, cell.isLate = true)
    (hNegative : ∀ cell ∈ cells, cell.isLate = true → cell.compoundedPnlPct ≤ 0) :
    negativePicked other = true := by
  obtain ⟨found, hMem, hIsLate, hFind⟩ := exists_find?_isLate hPerm hLate
  simp [negativePicked, hFind, hNegative found hMem hIsLate]

theorem negativePicked_of_candidates (hSome : cells ≠ [])
    (hNegative : ∀ cell ∈ combinedCandidates cells, cell.compoundedPnlPct ≤ 0) :
    negativePicked other = true := by
  have hOther : other ≠ [] := fun hNil => hSome (hPerm.symm.trans (.of_eq hNil)).eq_nil
  obtain ⟨cell, hCell⟩ := exists_combinedCell hOther
  simp [negativePicked, hCell, hNegative cell (mem_candidates_of_combinedCell hPerm hCell)]

theorem not_negativePicked (hLate : ∀ cell ∈ cells, cell.isLate = true → 0 < cell.compoundedPnlPct)
    (hCandidates : ∀ cell ∈ combinedCandidates cells, 0 < cell.compoundedPnlPct) :
    negativePicked other = false := by
  have hCombined : (combinedCell other).any (·.compoundedPnlPct ≤ 0) = false := by
    cases hCell : combinedCell other with
    | none => rfl
    | some cell =>
      exact decide_eq_false
        (not_le.mpr (hCandidates cell (mem_candidates_of_combinedCell hPerm hCell)))
  have hFirstLate : (other.find? (·.isLate)).any (·.compoundedPnlPct ≤ 0) = false := by
    cases hFind : other.find? (·.isLate) with
    | none => rfl
    | some found =>
      obtain ⟨hMem, hIsLate⟩ := mem_of_find?_perm hPerm hFind
      exact decide_eq_false (not_le.mpr (hLate found hMem hIsLate))
  rw [negativePicked, hCombined, hFirstLate, Bool.or_false]

/-- One positive cell cannot be both the last and the first late one while
another late cell stands before it. -/
theorem negativePicked_of_one_positive (hNoLabel : ∀ cell ∈ cells, cell.isCombined = false)
    (hLate : ∃ cell ∈ cells, cell.isLate = true ∧ cell.compoundedPnlPct ≤ 0)
    (hOne : cells.countP (fun cell => decide (0 < cell.compoundedPnlPct)) ≤ 1) :
    negativePicked other = true := by
  by_contra hClear
  simp only [negativePicked, Bool.or_eq_true, not_or, Bool.not_eq_true] at hClear
  obtain ⟨late, hMem, hIsLate, hNegative⟩ := hLate
  rcases eq_nil_or_concat other with hNil | ⟨init, last, hOther⟩
  · rw [hNil] at hPerm
    rw [hPerm.symm.eq_nil] at hMem
    cases hMem
  · rw [concat_eq_append] at hOther
    have hLast : combinedCell other = some last := by
      rw [combinedCell, (find?_eq_none_perm hPerm).mpr hNoLabel, none_or, hOther, getLast?_concat]
    have hPositive : 0 < last.compoundedPnlPct := by
      rw [hLast] at hClear
      exact not_le.mp (of_decide_eq_false hClear.1)
    have hInit : ∀ cell ∈ init, ¬0 < cell.compoundedPnlPct := by
      rw [← hPerm.countP_eq, hOther, countP_append,
        countP_singleton, if_pos (decide_eq_true hPositive)] at hOne
      have hNone : init.countP (fun cell => decide (0 < cell.compoundedPnlPct)) = 0 := by omega
      intro cell hCell
      exact of_decide_eq_false (Bool.not_eq_true _ ▸ countP_eq_zero.mp hNone cell hCell)
    have hFront : late ∈ init := by
      have hAll := hPerm.mem_iff.mpr hMem
      rw [hOther, mem_append, mem_singleton] at hAll
      exact hAll.resolve_right fun hSame => absurd hPositive (not_lt.mpr (hSame ▸ hNegative))
    cases hFind : init.find? (·.isLate) with
    | none => exact absurd hIsLate (find?_eq_none.mp hFind late hFront)
    | some found =>
      have hFirst : other.find? (·.isLate) = some found := by
        rw [hOther, find?_append, hFind, some_or]
      rw [hFirst] at hClear
      exact hInit found (mem_of_find?_eq_some hFind)
        (not_le.mp (of_decide_eq_false hClear.2))

end

theorem pickedStatus_settled (hSettled : RankingSettled cells) (hPerm : other.Perm cells) :
    pickedStatus other = pickedStatus cells := by
  rcases hSettled with ⟨hLate, hSparse⟩ | ⟨hFull, hSettled⟩
  · rw [pickedStatus, pickedStatus, sparsePicked_of_all hPerm hLate hSparse,
      sparsePicked_of_all (.refl _) hLate hSparse]
    rfl
  · have hSame : negativePicked other = negativePicked cells := by
      rcases hSettled with ⟨hLate, hNegative⟩ | hNegative | ⟨hLate, hPositive⟩ | ⟨hNoLabel, hLate, hOne⟩
      · rw [negativePicked_of_late hPerm hLate hNegative,
          negativePicked_of_late (.refl _) hLate hNegative]
      · by_cases hSome : cells = []
        · rw [hSome] at hPerm
          rw [hPerm.eq_nil, hSome]
        · rw [negativePicked_of_candidates hPerm hSome hNegative,
            negativePicked_of_candidates (.refl _) hSome hNegative]
      · rw [not_negativePicked hPerm hLate hPositive, not_negativePicked (.refl _) hLate hPositive]
      · rw [negativePicked_of_one_positive hPerm hNoLabel hLate hOne,
          negativePicked_of_one_positive (.refl _) hNoLabel hLate hOne]
    rw [pickedStatus, pickedStatus, sparsePicked_of_none hPerm hFull,
      sparsePicked_of_none (.refl _) hFull, hSame]

theorem negativePicked_of_picked {combined : CrossAssetRobustnessMatrixCell}
    (hCombined : combinedCell cells = some combined) (hLate : cells.find? (·.isLate) = some late) :
    negativePicked cells =
      (decide (combined.compoundedPnlPct ≤ 0) || decide (late.compoundedPnlPct ≤ 0)) := by
  rw [negativePicked, hCombined, hLate]
  rfl

section
variable
  (hNegative : ∀ other : List CrossAssetRobustnessMatrixCell, other.Perm cells → negativePicked other = true)
  (hMem : late ∈ cells) (hIsLate : late.isLate = true) (hPositive : 0 < late.compoundedPnlPct)
include hNegative hMem hIsLate hPositive

/-- With a positive late cell in front, every candidate can be picked beside it. -/
theorem candidates_nonpos (hLabelled : cells.any (·.isCombined) = true) :
    ∀ cell ∈ combinedCandidates cells, cell.compoundedPnlPct ≤ 0 := by
  intro cell hCell
  rw [combinedCandidates, if_pos hLabelled] at hCell
  obtain ⟨hCellMem, hLabel⟩ := mem_filter.mp hCell
  obtain ⟨other, hPerm, hFindLate, hFindCombined⟩ :=
    exists_perm_find?_find? (p := (·.isLate)) (q := (·.isCombined)) hMem hIsLate hCellMem
      hLabel
  have hCombined : combinedCell other = some (if late.isCombined then late else cell) := by
    rw [combinedCell, hFindCombined, some_or]
  have hPicked := hNegative other hPerm
  rw [negativePicked_of_picked hCombined hFindLate,
    decide_eq_false (not_le.mpr hPositive : ¬late.compoundedPnlPct ≤ 0), Bool.or_false,
    decide_eq_true_eq] at hPicked
  split at hPicked
  · exact absurd hPositive (not_lt.mpr hPicked)
  · exact hPicked

/-- Without a labelled cell, the last one is picked. -/
theorem one_positive (hNoLabel : ∀ cell ∈ cells, cell.isCombined = false) :
    (∃ cell ∈ cells, cell.isLate = true ∧ cell.compoundedPnlPct ≤ 0) ∧
      cells.countP (fun cell => decide (0 < cell.compoundedPnlPct)) ≤ 1 := by
  obtain ⟨rest, hRest⟩ := exists_perm_cons hMem
  have hCombined {init : List CrossAssetRobustnessMatrixCell}
      {last : CrossAssetRobustnessMatrixCell} (hPerm : (init ++ [last]).Perm cells) :
      combinedCell (init ++ [last]) = some last := by
    rw [combinedCell, (find?_eq_none_perm hPerm).mpr hNoLabel, none_or, getLast?_concat]
  constructor
  · by_contra hAll
    have hPerm : (rest ++ [late]).Perm cells := (perm_append_singleton late rest).trans hRest
    have hPicked := hNegative _ hPerm
    cases hFind : (rest ++ [late]).find? (·.isLate) with
    | none =>
      rw [(find?_eq_none_perm hPerm).mp hFind late hMem] at hIsLate
      cases hIsLate
    | some found =>
      obtain ⟨hFoundMem, hFoundLate⟩ := mem_of_find?_perm hPerm hFind
      rw [negativePicked_of_picked (hCombined hPerm) hFind, Bool.or_eq_true, decide_eq_true_eq,
        decide_eq_true_eq] at hPicked
      rcases hPicked with hLast | hFirst
      · exact absurd hPositive (not_lt.mpr hLast)
      · exact hAll ⟨found, hFoundMem, hFoundLate, hFirst⟩
  · by_contra hMany
    have hOther : ∃ cell ∈ rest, 0 < cell.compoundedPnlPct := by
      rw [← hRest.countP_eq, countP_cons, if_pos (decide_eq_true hPositive)] at hMany
      have hSome : 0 < rest.countP (fun cell => decide (0 < cell.compoundedPnlPct)) := by omega
      obtain ⟨cell, hCell, hCellPositive⟩ := countP_pos_iff.mp hSome
      exact ⟨cell, hCell, of_decide_eq_true hCellPositive⟩
    obtain ⟨cell, hCell, hCellPositive⟩ := hOther
    obtain ⟨tail, hTail⟩ := exists_perm_cons hCell
    have hPerm : (late :: tail ++ [cell]).Perm cells := by
      refine .trans ?_ hRest
      exact (perm_append_singleton cell (late :: tail)).trans
        ((List.Perm.swap late cell tail).trans (hTail.cons late))
    have hPicked := hNegative _ hPerm
    rw [negativePicked_of_picked (hCombined hPerm) (find?_cons_of_pos hIsLate), Bool.or_eq_true,
      decide_eq_true_eq, decide_eq_true_eq] at hPicked
    rcases hPicked with hLast | hFirst
    · exact absurd hCellPositive (not_lt.mpr hLast)
    · exact absurd hPositive (not_lt.mpr hFirst)

end

/-- Orders in which any wanted late cell and any wanted candidate are picked. -/
theorem settled_of_negativePicked
    (hSame : ∀ other : List CrossAssetRobustnessMatrixCell, other.Perm cells →
      negativePicked other = negativePicked cells) :
    ((∃ cell ∈ cells, cell.isLate = true) ∧
        ∀ cell ∈ cells, cell.isLate = true → cell.compoundedPnlPct ≤ 0) ∨
      (∀ cell ∈ combinedCandidates cells, cell.compoundedPnlPct ≤ 0) ∨
      ((∀ cell ∈ cells, cell.isLate = true → 0 < cell.compoundedPnlPct) ∧
        ∀ cell ∈ combinedCandidates cells, 0 < cell.compoundedPnlPct) ∨
      ((∀ cell ∈ cells, cell.isCombined = false) ∧
        (∃ cell ∈ cells, cell.isLate = true ∧ cell.compoundedPnlPct ≤ 0) ∧
        cells.countP (fun cell => decide (0 < cell.compoundedPnlPct)) ≤ 1) := by
  cases hPicked : negativePicked cells with
  | false =>
    refine .inr (.inr (.inl ⟨fun cell hMem hIsLate => ?_, fun cell hCell => ?_⟩))
    · obtain ⟨other, hPerm, hFind⟩ := exists_perm_find? hMem hIsLate
      have hClear := (hSame other hPerm).trans hPicked
      rw [negativePicked, hFind, Bool.or_eq_false_iff] at hClear
      exact not_le.mp (of_decide_eq_false hClear.2)
    · obtain ⟨other, hPerm, hCombined⟩ := exists_perm_combinedCell hCell
      have hClear := (hSame other hPerm).trans hPicked
      rw [negativePicked, hCombined, Bool.or_eq_false_iff] at hClear
      exact not_le.mp (of_decide_eq_false hClear.1)
  | true =>
    have hNegative (other : List CrossAssetRobustnessMatrixCell) (hPerm : other.Perm cells) :
        negativePicked other = true := (hSame other hPerm).trans hPicked
    by_cases hGood : ∃ cell ∈ cells, cell.isLate = true ∧ 0 < cell.compoundedPnlPct
    · obtain ⟨late, hMem, hIsLate, hPositive⟩ := hGood
      cases hLabelled : cells.any (·.isCombined) with
      | true =>
        exact .inr (.inl (candidates_nonpos hNegative hMem hIsLate hPositive hLabelled))
      | false =>
        have hNoLabel : ∀ cell ∈ cells, cell.isCombined = false := by simpa using hLabelled
        exact .inr (.inr (.inr ⟨hNoLabel, one_positive hNegative hMem hIsLate hPositive hNoLabel⟩))
    · by_cases hLate : ∃ cell ∈ cells, cell.isLate = true
      · refine .inl ⟨hLate, fun cell hMem hIsLate => ?_⟩
        exact not_lt.mp fun hPositive => hGood ⟨cell, hMem, hIsLate, hPositive⟩
      · refine .inr (.inl fun cell hCell => ?_)
        obtain ⟨other, hPerm, hCombined⟩ := exists_perm_combinedCell hCell
        have hNone : other.find? (·.isLate) = none :=
          (find?_eq_none_perm hPerm).mpr fun item hItem =>
            Bool.eq_false_iff.mpr fun hIsLate => hLate ⟨item, hItem, hIsLate⟩
        have hClear := hNegative other hPerm
        rw [negativePicked, hCombined, hNone, any_none, Bool.or_false] at hClear
        exact of_decide_eq_true hClear

theorem pickedStatus_eq_sparse_iff (cells : List CrossAssetRobustnessMatrixCell) :
    pickedStatus cells = some .tooSparse ↔ sparsePicked cells = true := by
  unfold pickedStatus
  split_ifs <;> simp_all

/-- With a late cell that is not too sparse first, the verdict is negative
exactly when a picked cell is not positive. -/
theorem settled_of_pickedStatus
    (hSame : ∀ other : List CrossAssetRobustnessMatrixCell, other.Perm cells →
      pickedStatus other = pickedStatus cells) : RankingSettled cells := by
  have hSparse : ∀ cell ∈ cells, cell.isLate = true →
      (cell.status = .tooSparse ↔ sparsePicked cells = true) := by
    intro cell hMem hIsLate
    obtain ⟨other, hPerm, hFind⟩ := exists_perm_find? hMem hIsLate
    rw [← pickedStatus_eq_sparse_iff, ← hSame other hPerm, pickedStatus_eq_sparse_iff, sparsePicked,
      hFind, any_some, beq_iff_eq]
  cases hPicked : sparsePicked cells with
  | true =>
    refine .inl ⟨?_, fun cell hMem hIsLate => (hSparse cell hMem hIsLate).mpr hPicked⟩
    unfold sparsePicked at hPicked
    cases hFind : cells.find? (·.isLate) with
    | none => rw [hFind] at hPicked; cases hPicked
    | some found => exact ⟨found, mem_of_find?_eq_some hFind, find?_some hFind⟩
  | false =>
    have hFull : ∀ cell ∈ cells, cell.isLate = true → cell.status ≠ .tooSparse :=
      fun cell hMem hIsLate hStatus => by
        rw [(hSparse cell hMem hIsLate).mp hStatus] at hPicked
        cases hPicked
    have hNegative (other : List CrossAssetRobustnessMatrixCell) (hPerm : other.Perm cells) :
        negativePicked other = negativePicked cells := by
      have h := hSame other hPerm
      rw [pickedStatus, pickedStatus, sparsePicked_of_none hPerm hFull,
        sparsePicked_of_none (.refl _) hFull] at h
      revert h
      cases negativePicked other <;> cases negativePicked cells <;> simp
    exact .inr ⟨hFull, settled_of_negativePicked hNegative⟩

theorem rankings_perm_iff (hConfig : OneConfig configIndex cells) :
    (∀ other : List CrossAssetRobustnessMatrixCell, other.Perm cells →
      (rankCrossAssetRobustnessConfigs floats other).map (·.status) =
        (rankCrossAssetRobustnessConfigs floats cells).map (·.status)) ↔ RankingSettled cells := by
  constructor
  · intro hSame
    exact settled_of_pickedStatus fun other hPerm =>
      (statuses_perm_iff hConfig hPerm).mp (hSame other hPerm)
  · intro hSettled other hPerm
    exact (statuses_perm_iff hConfig hPerm).mpr (pickedStatus_settled hSettled hPerm)

theorem late_of_settled (hSettled : RankingSettled cells) (hSome : cells ≠ [])
    (hPicked : pickedStatus cells = none) :
    ∀ cell ∈ cells, cell.isLate = true → 0 < cell.compoundedPnlPct ∧ cell.status ≠ .tooSparse := by
  unfold pickedStatus at hPicked
  split at hPicked
  · cases hPicked
  rename_i hSparse
  split at hPicked
  · cases hPicked
  rename_i hNegative
  rcases hSettled with ⟨hLate, hAll⟩ | ⟨hFull, hSettled⟩
  · exact absurd (sparsePicked_of_all (.refl _) hLate hAll) hSparse
  rcases hSettled with ⟨hLate, hAll⟩ | hAll | ⟨hLate, -⟩ | ⟨hNoLabel, hLate, hOne⟩
  · exact absurd (negativePicked_of_late (.refl _) hLate hAll) hNegative
  · exact absurd (negativePicked_of_candidates (.refl _) hSome hAll) hNegative
  · exact fun cell hMem hIsLate => ⟨hLate cell hMem hIsLate, hFull cell hMem hIsLate⟩
  · exact absurd (negativePicked_of_one_positive (.refl _) hNoLabel hLate hOne) hNegative

theorem late_of_ranked (hConfig : OneConfig configIndex cells) (hSettled : RankingSettled cells)
    {ranking : CrossAssetRobustnessRanking}
    (hRanking : ranking ∈ rankCrossAssetRobustnessConfigs floats cells)
    (hStatus : ranking.status = .robust ∨ ranking.status = .promising) :
    ∀ cell ∈ cells, cell.isLate = true → 0 < cell.compoundedPnlPct ∧ cell.status ≠ .tooSparse := by
  cases hCells : cells with
  | nil => exact fun cell hMem => absurd hMem not_mem_nil
  | cons first rest =>
    have hMem := mem_map_of_mem (f := (·.status)) hRanking
    rw [hCells, statuses_oneConfig (hCells ▸ hConfig), mem_singleton, rankConfig_status] at hMem
    refine late_of_settled (hCells ▸ hSettled) (cons_ne_nil _ _) ?_
    rcases pickedStatus_cases (first :: rest) with h | h | h
    · rw [h, getD_some] at hMem
      rcases hStatus with hStatus | hStatus <;> rw [hStatus] at hMem <;> cases hMem
    · rw [h, getD_some] at hMem
      rcases hStatus with hStatus | hStatus <;> rw [hStatus] at hMem <;> cases hMem
    · exact h

end Ranking

section Policy
variable {display : Decimal → String} {now : DateTime} {evidence : PolicyEvidence}
  {configIndex : Int} {cells other : List CrossAssetRobustnessMatrixCell}
variable {p q : CrossAssetRobustnessMatrixCell → Bool}

/-- A late cell that passes the hard requirement and, under the conservative
policy, both reviews. -/
def goodLate (strictness : CrossAssetCandidateCreationPolicyStrictness)
    (cell : CrossAssetRobustnessMatrixCell) : Bool :=
  decide (0 < cell.compoundedPnlPct) && (strictness != .conservative ||
    (decide (0 < cell.medianTradePnlPct) && decide (60 < cell.totalTrades)))

def earlyPassed (cells : List CrossAssetRobustnessMatrixCell) : Bool :=
  (cells.find? (·.isEarly)).any fun cell => decide (0 < cell.compoundedPnlPct)

def latePassed (strictness : CrossAssetCandidateCreationPolicyStrictness)
    (cells : List CrossAssetRobustnessMatrixCell) : Bool :=
  (cells.find? (·.isLate)).any (goodLate strictness)

def blockedElsewhere (display : Decimal → String) (evidence : PolicyEvidence)
    (cells : List CrossAssetRobustnessMatrixCell) : Bool :=
  hasBlock (packageRequirements display evidence) ||
    hasBlock [noSevereDominance (evidence.topConfigCells cells)] ||
    hasBlock (btcParticipation display evidence)

theorem hasBlock_append (first second : List Requirement) :
    hasBlock (first ++ second) = (hasBlock first || hasBlock second) := any_append

theorem blocks_requirePassed (code : String) (passed : Bool) (passMessage blockMessage : String)
    (observedValue threshold : Option String) :
    ((requirePassed code passed passMessage blockMessage observedValue threshold).status == .block) =
      !passed := by
  cases passed <;> rfl

theorem blocks_positiveCell (display : Decimal → String) (code passMessage blockMessage missingMessage : String)
    (cell : Option CrossAssetRobustnessMatrixCell) :
    ((requirePositiveCell display code cell passMessage blockMessage missingMessage).status ==
      .block) = !cell.any fun cell => decide (0 < cell.compoundedPnlPct) := by
  cases cell with
  | none => rfl
  | some cell => exact blocks_requirePassed _ _ _ _ _ _

theorem blocks_strictStatus (condition : Bool)
    (strictness : CrossAssetCandidateCreationPolicyStrictness) :
    (strictStatus condition strictness == .block) = !(condition || strictness != .conservative) := by
  cases condition <;> cases strictness <;> rfl

/-- The hard requirement and the reviews of the late cell pass together for a
good one. -/
theorem blocks_late (display : Decimal → String)
    (strictness : CrossAssetCandidateCreationPolicyStrictness) :
    ((positive2025Plus display cells).status == .block ||
        hasBlock (lateCellReview display strictness (cells.find? (·.isLate)))) =
      !latePassed strictness cells := by
  rw [positive2025Plus, blocks_positiveCell, latePassed]
  cases cells.find? (·.isLate) with
  | none => rfl
  | some cell =>
    simp only [lateCellReview, hasBlock, any_cons, any_nil, blocks_strictStatus, any_some, goodLate]
    cases decide (0 < cell.compoundedPnlPct) <;> cases decide (0 < cell.medianTradePnlPct) <;>
      cases decide (60 < cell.totalTrades) <;> cases strictness <;> rfl

theorem policy_blocked : (hasBlock (hardRequirements display evidence cells) ||
        hasBlock (reviewRequirements display evidence cells)) =
      (blockedElsewhere display evidence cells || !earlyPassed (evidence.topConfigCells cells) ||
        !latePassed evidence.request.strictness (evidence.topConfigCells cells)) := by
  have hStanding : hasBlock standingReviews = false := rfl
  have hWindows : hasBlock [positive2023To2024 display (evidence.topConfigCells cells),
        positive2025Plus display (evidence.topConfigCells cells),
        noSevereDominance (evidence.topConfigCells cells)] =
      (!earlyPassed (evidence.topConfigCells cells) ||
        ((positive2025Plus display (evidence.topConfigCells cells)).status == .block ||
          hasBlock [noSevereDominance (evidence.topConfigCells cells)])) := by
    rw [earlyPassed, ← blocks_positiveCell display]
    rfl
  rw [hardRequirements, reviewRequirements, hasBlock_append, hasBlock_append, hasBlock_append,
    hWindows, hStanding, ← blocks_late display, blockedElsewhere, Bool.or_false]
  ac_rfl

theorem policy_status :
    (previewCrossAssetCandidateCreationPolicy display now evidence cells).status =
      if evidence.request.packageId ≠ relativeStrengthContinuationV1Id then .policyNotApplicable
      else if blockedElsewhere display evidence cells ||
          !earlyPassed (evidence.topConfigCells cells) ||
          !latePassed evidence.request.strictness (evidence.topConfigCells cells) then .policyBlocked
      else if evidence.request.strictness = .experimental then .policyReadyForManualCreate
      else .policyNeedsReview := by
  have hWarning : hasWarning (reviewRequirements display evidence cells) = true := by
    simp [hasWarning, reviewRequirements, standingReviews]
  simp only [previewCrossAssetCandidateCreationPolicy, policyStatus, policy_blocked, hWarning]
  split
  · rfl
  · split
    · rfl
    · rename_i hOpen
      rw [← policy_blocked] at hOpen
      simp only [Bool.or_eq_true, not_or, Bool.not_eq_true] at hOpen
      rw [hOpen.1]
      cases evidence.request.strictness <;> rfl

theorem topConfigCells_perm (evidence : PolicyEvidence) (hPerm : other.Perm cells) :
    (evidence.topConfigCells other).Perm (evidence.topConfigCells cells) := hPerm.filter _

theorem blockedElsewhere_perm (hPerm : other.Perm cells) :
    blockedElsewhere display evidence other = blockedElsewhere display evidence cells := by
  have hTop := topConfigCells_perm evidence hPerm
  have hDominance : noSevereDominance (evidence.topConfigCells other) =
      noSevereDominance (evidence.topConfigCells cells) := by
    have hSame : oneWindowDominatesPreviewCells (evidence.topConfigCells other) =
        oneWindowDominatesPreviewCells (evidence.topConfigCells cells) :=
      oneWindowDominatesPnl_perm hTop
    rw [noSevereDominance, noSevereDominance, hSame, hTop.isEmpty_eq]
  rw [blockedElsewhere, blockedElsewhere, hDominance]

theorem topConfigCells_eq (hConfig : OneConfig configIndex cells)
    (hOpen : blockedElsewhere display evidence cells = false) :
    evidence.topConfigCells cells = cells := by
  have hSome : evidence.topConfigCells cells ≠ [] := by
    intro hNone
    rw [blockedElsewhere, hNone] at hOpen
    have hBlocks : hasBlock [noSevereDominance []] = true := rfl
    rw [hBlocks, Bool.or_true, Bool.true_or] at hOpen
    cases hOpen
  obtain ⟨found, hFound⟩ := exists_mem_of_ne_nil _ hSome
  obtain ⟨hMem, hTop⟩ := mem_filter.mp hFound
  refine filter_eq_self.mpr fun cell hCell => ?_
  rwa [hConfig cell hCell, ← hConfig found hMem]

/-- Every order of the cells leads to the same status of the policy. -/
def PolicySettled (display : Decimal → String) (evidence : PolicyEvidence)
    (cells : List CrossAssetRobustnessMatrixCell) : Prop :=
  evidence.request.packageId ≠ relativeStrengthContinuationV1Id ∨
  blockedElsewhere display evidence cells = true ∨
  (∀ cell ∈ cells, cell.isEarly = true → cell.compoundedPnlPct ≤ 0) ∨
  (∀ cell ∈ cells, cell.isLate = true → goodLate evidence.request.strictness cell = false) ∨
  ((∀ cell ∈ cells, cell.isEarly = true → 0 < cell.compoundedPnlPct) ∧
    ∀ cell ∈ cells, cell.isLate = true → goodLate evidence.request.strictness cell = true)

theorem find?_any_of_all (hPerm : other.Perm cells)
    (hAll : ∀ cell ∈ cells, p cell = true → q cell = true) :
    (other.find? p).any q = cells.any p := by
  cases hFind : other.find? p with
  | none =>
    have hNone := (find?_eq_none_perm hPerm).mp hFind
    rw [Option.any_none, eq_comm, List.any_eq_false]
    exact fun cell hCell => Bool.eq_false_iff.mp (hNone cell hCell)
  | some found =>
    obtain ⟨hMem, hMatch⟩ := mem_of_find?_perm hPerm hFind
    rw [Option.any_some, hAll found hMem hMatch, eq_comm, List.any_eq_true]
    exact ⟨found, hMem, hMatch⟩

theorem find?_any_of_none (hPerm : other.Perm cells)
    (hNone : ∀ cell ∈ cells, p cell = true → q cell = false) : (other.find? p).any q = false := by
  cases hFind : other.find? p with
  | none => rfl
  | some found =>
    obtain ⟨hMem, hMatch⟩ := mem_of_find?_perm hPerm hFind
    exact hNone found hMem hMatch

theorem policy_open_iff (hPackage : evidence.request.packageId = relativeStrengthContinuationV1Id) :
    (previewCrossAssetCandidateCreationPolicy display now evidence cells).status ≠ .policyBlocked ↔
      blockedElsewhere display evidence cells = false ∧
        earlyPassed (evidence.topConfigCells cells) = true ∧
        latePassed evidence.request.strictness (evidence.topConfigCells cells) = true := by
  rw [policy_status, if_neg (not_not.mpr hPackage)]
  cases blockedElsewhere display evidence cells <;>
    cases earlyPassed (evidence.topConfigCells cells) <;>
    cases latePassed evidence.request.strictness (evidence.topConfigCells cells) <;>
    cases evidence.request.strictness <;> decide

section
variable (hConfig : OneConfig configIndex cells)
include hConfig

theorem policy_perm_of_settled (hSettled : PolicySettled display evidence cells)
    (hPerm : other.Perm cells) :
    (previewCrossAssetCandidateCreationPolicy display now evidence other).status =
      (previewCrossAssetCandidateCreationPolicy display now evidence cells).status := by
  rw [policy_status, policy_status, blockedElsewhere_perm hPerm]
  by_cases hPackage : evidence.request.packageId ≠ relativeStrengthContinuationV1Id
  · rw [if_pos hPackage, if_pos hPackage]
  · rw [if_neg hPackage, if_neg hPackage]
    cases hOpen : blockedElsewhere display evidence cells with
    | true => rfl
    | false =>
      have hTop := topConfigCells_eq hConfig hOpen
      have hOtherTop := topConfigCells_eq (hConfig.perm hPerm) ((blockedElsewhere_perm hPerm).trans hOpen)
      rw [hTop, hOtherTop]
      rcases hSettled with h | h | hEarly | hLate | ⟨hEarly, hLate⟩
      · exact absurd h hPackage
      · rw [hOpen] at h; cases h
      · have hNone (list : List CrossAssetRobustnessMatrixCell) (hList : list.Perm cells) :
            earlyPassed list = false :=
          find?_any_of_none hList fun cell hMem hIsEarly =>
            decide_eq_false (not_lt.mpr (hEarly cell hMem hIsEarly))
        rw [hNone other hPerm, hNone cells (.refl _)]
        rfl
      · have hNone (list : List CrossAssetRobustnessMatrixCell) (hList : list.Perm cells) :
            latePassed evidence.request.strictness list = false := find?_any_of_none hList hLate
        rw [hNone other hPerm, hNone cells (.refl _), Bool.not_false, Bool.or_true, Bool.or_true]
      · have hSame : earlyPassed other = earlyPassed cells := by
          have hAll : ∀ cell ∈ cells, cell.isEarly = true →
              decide (0 < cell.compoundedPnlPct) = true :=
            fun cell hMem hIsEarly => decide_eq_true (hEarly cell hMem hIsEarly)
          exact (find?_any_of_all hPerm hAll).trans (find?_any_of_all (.refl _) hAll).symm
        have hSameLate : latePassed evidence.request.strictness other =
            latePassed evidence.request.strictness cells :=
          (find?_any_of_all hPerm hLate).trans (find?_any_of_all (.refl _) hLate).symm
        rw [hSame, hSameLate]

theorem policy_settled_of_perm
    (hSame : ∀ other : List CrossAssetRobustnessMatrixCell, other.Perm cells →
      (previewCrossAssetCandidateCreationPolicy display now evidence other).status =
        (previewCrossAssetCandidateCreationPolicy display now evidence cells).status) :
    PolicySettled display evidence cells := by
  by_contra hUnsettled
  simp only [PolicySettled, not_or, not_not, Bool.not_eq_true] at hUnsettled
  obtain ⟨hPackage, hOpen, hSomeEarly, hSomeLate, hNotAll⟩ := hUnsettled
  simp only [not_forall, not_le, Bool.not_eq_false] at hSomeEarly hSomeLate
  obtain ⟨early, hEarlyMem, hIsEarly, hEarlyPositive⟩ := hSomeEarly
  obtain ⟨late, hLateMem, hIsLate, hGood⟩ := hSomeLate
  have hTop (list : List CrossAssetRobustnessMatrixCell) (hList : list.Perm cells) :
      evidence.topConfigCells list = list :=
    topConfigCells_eq (hConfig.perm hList) ((blockedElsewhere_perm hList).trans hOpen)
  -- one order passes, and so do all
  have hPasses : (previewCrossAssetCandidateCreationPolicy display now evidence cells).status ≠
      .policyBlocked := by
    obtain ⟨other, hPerm, hFindLate, hFindEarly⟩ :=
      exists_perm_find?_find? (p := (·.isLate)) (q := (·.isEarly)) hLateMem hIsLate hEarlyMem
        hIsEarly
    rw [← hSame other hPerm, policy_open_iff hPackage, hTop other hPerm, earlyPassed, latePassed,
      hFindLate, hFindEarly]
    refine ⟨(blockedElsewhere_perm hPerm).trans hOpen, ?_, hGood⟩
    have hLatePositive : 0 < late.compoundedPnlPct :=
      of_decide_eq_true (Bool.and_eq_true_iff.mp hGood).1
    split
    · exact decide_eq_true hLatePositive
    · exact decide_eq_true hEarlyPositive
  have hAllPass (other : List CrossAssetRobustnessMatrixCell) (hPerm : other.Perm cells) :
      earlyPassed other = true ∧ latePassed evidence.request.strictness other = true := by
    rw [← hSame other hPerm, policy_open_iff hPackage, hTop other hPerm] at hPasses
    exact hPasses.2
  apply hNotAll
  constructor
  · intro cell hMem hMatch
    obtain ⟨other, hPerm, hFind⟩ := exists_perm_find? hMem hMatch
    have hPassed := (hAllPass other hPerm).1
    rw [earlyPassed, hFind] at hPassed
    exact of_decide_eq_true hPassed
  · intro cell hMem hMatch
    obtain ⟨other, hPerm, hFind⟩ := exists_perm_find? hMem hMatch
    have hPassed := (hAllPass other hPerm).2
    rwa [latePassed, hFind] at hPassed

theorem late_of_open (hSettled : PolicySettled display evidence cells)
    (hBlocked : (previewCrossAssetCandidateCreationPolicy display now evidence cells).status ≠
      .policyBlocked)
    (hApplies : (previewCrossAssetCandidateCreationPolicy display now evidence cells).status ≠
      .policyNotApplicable) :
    ∀ cell ∈ cells, cell.isLate = true → 0 < cell.compoundedPnlPct := by
  have hPackage : evidence.request.packageId = relativeStrengthContinuationV1Id := by
    by_contra hOther
    rw [policy_status, if_pos hOther] at hApplies
    exact hApplies rfl
  obtain ⟨hOpen, hEarlyPassed, hLatePassed⟩ := (policy_open_iff hPackage).mp hBlocked
  rw [topConfigCells_eq hConfig hOpen] at hEarlyPassed hLatePassed
  rcases hSettled with h | h | hEarly | hLate | ⟨-, hLate⟩
  · exact absurd hPackage h
  · rw [hOpen] at h; cases h
  · rw [earlyPassed, find?_any_of_none (.refl _) fun cell hMem hIsEarly =>
      decide_eq_false (not_lt.mpr (hEarly cell hMem hIsEarly))] at hEarlyPassed
    cases hEarlyPassed
  · rw [latePassed, find?_any_of_none (.refl _) hLate] at hLatePassed
    cases hLatePassed
  · exact fun cell hMem hIsLate =>
      of_decide_eq_true (Bool.and_eq_true_iff.mp (hLate cell hMem hIsLate)).1

end

/-- Every late window counts, in any order, exactly where the order of the
cells can change neither the cells picked for the ranking nor those picked for
the policy. -/
theorem everyLateWindowCounts_iff (floats : FloatArithmetic) (display : Decimal → String)
    (now : DateTime) (evidence : PolicyEvidence) (configIndex : Int)
    (cells : List CrossAssetRobustnessMatrixCell) (hConfig : OneConfig configIndex cells) :
    ((∀ other : List CrossAssetRobustnessMatrixCell, other.Perm cells →
        (rankCrossAssetRobustnessConfigs floats other).map (·.status) =
            (rankCrossAssetRobustnessConfigs floats cells).map (·.status) ∧
          (previewCrossAssetCandidateCreationPolicy display now evidence other).status =
            (previewCrossAssetCandidateCreationPolicy display now evidence cells).status) ∧
      (∀ ranking ∈ rankCrossAssetRobustnessConfigs floats cells,
        ranking.status = .robust ∨ ranking.status = .promising →
          ∀ cell ∈ cells, cell.isLate = true →
            0 < cell.compoundedPnlPct ∧ cell.status ≠ .tooSparse) ∧
      ((previewCrossAssetCandidateCreationPolicy display now evidence cells).status ≠ .policyBlocked →
        (previewCrossAssetCandidateCreationPolicy display now evidence cells).status ≠
            .policyNotApplicable →
          ∀ cell ∈ cells, cell.isLate = true → 0 < cell.compoundedPnlPct)) ↔
      RankingSettled cells ∧ PolicySettled display evidence cells := by
  constructor
  · rintro ⟨hSame, -, -⟩
    exact ⟨(rankings_perm_iff hConfig).mp fun other hPerm => (hSame other hPerm).1,
      policy_settled_of_perm hConfig fun other hPerm => (hSame other hPerm).2⟩
  · rintro ⟨hRanking, hPolicy⟩
    refine ⟨fun other hPerm => ⟨(rankings_perm_iff hConfig).mpr hRanking other hPerm,
      policy_perm_of_settled hConfig hPolicy hPerm⟩, ?_, ?_⟩
    · exact fun ranking hMem hStatus => late_of_ranked hConfig hRanking hMem hStatus
    · exact late_of_open hConfig hPolicy

end Policy

section Sample

def exactFloats : FloatArithmetic where
  sqrt := some
  rank last percentileValue := last * percentileValue / 100
  difference upper lower := some (upper - lower)

def sampleCell (label : String) (start : DateTime) (pnl : Decimal) : CrossAssetRobustnessMatrixCell where
  configIndex := 0
  config := ⟨12, .rawReturn, 3, 12, .equalNotional, .none, .none, .none, .fixedHold⟩
  windowLabel := label
  windowStart := start
  status := if 0 < pnl then .promising else .negative
  totalTrades := 65
  compoundedPnlPct := pnl
  medianTradePnlPct := 1
  maxDrawdownPct := -4
  worstWindowPnlPct := min pnl 0
  feeSlippageDragPct := 0
  symbolDistribution := [("BTCUSDT", 20), ("ETHUSDT", 45)]
  maxSymbolConcentrationPct := 45
  findings := []

def sampleEarly : CrossAssetRobustnessMatrixCell := sampleCell "2023_2024" 0 4

def sampleCombined : CrossAssetRobustnessMatrixCell := sampleCell "combined" 0 6

def sampleFirstHalf : CrossAssetRobustnessMatrixCell := sampleCell "2025_h1" year2025 3

def sampleSecondHalf : CrossAssetRobustnessMatrixCell := sampleCell "2025_h2" (year2025 + 1) (-2)

def sampleCells : List CrossAssetRobustnessMatrixCell :=
  [sampleEarly, sampleFirstHalf, sampleSecondHalf, sampleCombined]

def sampleSwapped : List CrossAssetRobustnessMatrixCell :=
  [sampleEarly, sampleSecondHalf, sampleFirstHalf, sampleCombined]

def sampleEvidence (cells : List CrossAssetRobustnessMatrixCell) : PolicyEvidence where
  request := ⟨relativeStrengthContinuationV1Id, none, none, .conservative⟩
  gatePreview := ⟨[], []⟩
  supportingRun := none
  matrix := some ⟨⟨1⟩, .robust, rankCrossAssetRobustnessConfigs exactFloats cells⟩
  existingActiveCandidateCount := 0
  routeEnabled := false
  executionAuthorityNone := true

/-- The second half of 2025 loses, which is seen only where it comes first. -/
theorem late_loss_hidden_by_order : sampleSwapped.Perm sampleCells ∧
      ((rankCrossAssetRobustnessConfigs exactFloats sampleCells).map (·.status) = [.robust] ∧
        (rankCrossAssetRobustnessConfigs exactFloats sampleSwapped).map (·.status) = [.negative]) ∧
      ((previewCrossAssetCandidateCreationPolicy toString 0 (sampleEvidence sampleCells)
          sampleCells).status = .policyNeedsReview ∧
        (previewCrossAssetCandidateCreationPolicy toString 0 (sampleEvidence sampleCells)
          sampleSwapped).status = .policyBlocked) := by
  refine ⟨(List.Perm.swap _ _ _).cons _, ?_, ?_⟩ <;> decide +kernel

def sampleSettled : List CrossAssetRobustnessMatrixCell :=
  [sampleEarly, sampleFirstHalf, sampleCombined]

theorem everyLateWindowCounts_sample :
    (rankCrossAssetRobustnessConfigs exactFloats sampleSettled.reverse).map (·.status) =
        (rankCrossAssetRobustnessConfigs exactFloats sampleSettled).map (·.status) ∧
      (previewCrossAssetCandidateCreationPolicy toString 0 (sampleEvidence sampleSettled)
          sampleSettled.reverse).status =
        (previewCrossAssetCandidateCreationPolicy toString 0 (sampleEvidence sampleSettled)
          sampleSettled).status :=
  ((everyLateWindowCounts_iff exactFloats toString 0 (sampleEvidence sampleSettled) 0 sampleSettled
    (by unfold OneConfig; decide +kernel)).mpr
      ⟨by unfold RankingSettled; decide +kernel, by unfold PolicySettled; decide +kernel⟩).1
    sampleSettled.reverse (reverse_perm _)

end Sample

end AegisQuant.Research
