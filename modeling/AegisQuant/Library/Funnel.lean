import Mathlib.Data.List.Chain

/-! A funnel counts how many items reach each of its stages and how many pass
them. An item reaches a stage when it passes all stages before. -/
namespace Funnel
open List
universe u
variable {Stage : Type u} [DecidableEq Stage]

structure Count where
  reachedCount : Int
  passedCount : Int
  deriving DecidableEq, Repr

/-- Nothing has reached any stage. -/
def Count.zero : Count := ⟨0, 0⟩

/-- An item that passes a stage or not, if it reaches the stage at all. -/
def record (counts : Stage → Count) (stage : Stage) (reached passed : Bool) : Stage → Count :=
  if reached then
    Function.update counts stage {
      reachedCount := (counts stage).reachedCount + 1
      passedCount := (counts stage).passedCount + if passed then 1 else 0 }
  else counts

/-- An item on its way through a row of stages. -/
def recordRow (counts : Stage → Count) (reached : Bool) : List (Stage × Bool) → Stage → Count
  | [] => counts
  | (stage, passed) :: rest =>
    recordRow (record counts stage reached passed) (reached && passed) rest

variable {counts : Stage → Count} {stage other : Stage} {reached passed : Bool}
  {row before after : List (Stage × Bool)}

theorem record_of_ne (hOther : other ≠ stage) :
    record counts stage reached passed other = counts other := by
  unfold record
  split
  · exact Function.update_of_ne hOther _ _
  · rfl

theorem passedCount_record : (record counts stage reached passed stage).passedCount =
      (counts stage).passedCount + if reached && passed then 1 else 0 := by
  cases reached with
  | false => simp [record]
  | true => simp [record]

theorem recordRow_of_notMem (hOther : ∀ entry ∈ row, entry.1 ≠ other) :
    recordRow counts reached row other = counts other := by
  induction row generalizing counts reached with
  | nil => rfl
  | cons entry rest ih =>
    rw [recordRow, ih fun later hLater => hOther later (mem_cons_of_mem _ hLater)]
    exact record_of_ne (hOther entry mem_cons_self).symm

theorem passedCount_recordRow (hBefore : ∀ entry ∈ before, entry.1 ≠ stage)
    (hAfter : ∀ entry ∈ after, entry.1 ≠ stage) :
    (recordRow counts reached (before ++ (stage, passed) :: after) stage).passedCount =
      (counts stage).passedCount +
        if reached && (before.all (·.2) && passed) then 1 else 0 := by
  induction before generalizing counts reached with
  | nil =>
    rw [nil_append, recordRow, recordRow_of_notMem hAfter, passedCount_record, all_nil,
      Bool.true_and]
  | cons entry rest ih =>
    rw [cons_append, recordRow, ih fun later hLater => hBefore later (mem_cons_of_mem _ hLater),
      record_of_ne (hBefore entry mem_cons_self).symm, all_cons, Bool.and_assoc,
      Bool.and_assoc]

theorem reachedCount_record : (record counts stage reached passed stage).reachedCount =
      (counts stage).reachedCount + if reached then 1 else 0 := by
  cases reached with
  | false => simp [record]
  | true => simp [record]

theorem recordRow_unreached : recordRow counts false row = counts := by
  induction row with
  | nil => rfl
  | cons entry rest ih => exact ih

theorem recordRow_head (hFresh : stage ∉ row.map (·.1)) :
    recordRow counts reached ((stage, passed) :: row) stage =
      record counts stage reached passed stage :=
  recordRow_of_notMem fun entry hEntry hStage =>
    hFresh (mem_map.mpr ⟨entry, hEntry, hStage⟩)

/-- No stage is passed more often than it is reached. -/
def Bounded (counts : Stage → Count) : Prop :=
  ∀ stage, (counts stage).passedCount ≤ (counts stage).reachedCount

theorem Bounded.record (hBounded : Bounded counts) :
    Bounded (record counts stage reached passed) := by
  intro other
  by_cases hOther : other = stage
  · subst hOther
    have hEarlier := hBounded other
    rw [passedCount_record, reachedCount_record]
    cases reached with
    | false => simpa using hEarlier
    | true => cases passed with
      | false =>
        simp only [Bool.and_false, Bool.false_eq_true, if_false, if_true]
        omega
      | true => simpa using hEarlier
  · rw [record_of_ne hOther]
    exact hBounded other

theorem Bounded.recordRow (hBounded : Bounded counts) : Bounded (recordRow counts reached row) := by
  induction row generalizing counts reached with
  | nil => exact hBounded
  | cons entry rest ih => exact ih hBounded.record

/-- Along the stages, each is reached as often as the one before is passed. -/
def Chained (counts : Stage → Count) (stages : List Stage) : Prop :=
  stages.IsChain fun previous next => (counts next).reachedCount = (counts previous).passedCount

omit [DecidableEq Stage] in
theorem Chained.congr {first second : Stage → Count} {stages : List Stage}
    (hChained : Chained first stages) (hSame : ∀ stage ∈ stages, second stage = first stage) :
    Chained second stages := by
  apply List.IsChain.imp_of_mem_imp _ hChained
  intro previous next hPrevious hNext hLink
  rw [hSame next hNext, hSame previous hPrevious, hLink]

theorem Chained.recordRow (hChained : Chained counts (row.map (·.1)))
    (hDistinct : (row.map (·.1)).Nodup) :
    Chained (recordRow counts reached row) (row.map (·.1)) := by
  induction row generalizing counts reached with
  | nil => exact hChained
  | cons entry rest ih =>
    obtain ⟨stage, passed⟩ := entry
    obtain ⟨hFresh, hRest⟩ := nodup_cons.mp hDistinct
    obtain ⟨hLink, hTail⟩ := isChain_cons.mp hChained
    have hSame : ∀ other ∈ rest.map (·.1), record counts stage reached passed other = counts other :=
      fun other hOther => record_of_ne fun hStage => hFresh (hStage ▸ hOther)
    apply isChain_cons.mpr
    constructor
    · intro next hNext
      have hEarlier := hLink next hNext
      cases rest with
      | nil => cases hNext
      | cons second others =>
        cases hNext
        rw [recordRow_head hFresh, passedCount_record, Funnel.recordRow,
          recordRow_head (nodup_cons.mp hRest).1, reachedCount_record,
          hSame _ mem_cons_self, hEarlier]
    · exact ih (Chained.congr hTail hSame) hRest

end Funnel
