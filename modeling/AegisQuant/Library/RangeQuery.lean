import Mathlib.Data.List.Pairwise
import Mathlib.Data.List.TakeDrop

/-! A source of rows that are in the order of their times. A query for a range
is answered with the earliest rows of the range, up to a limit, and the rest of
the range is found behind the last row of the answer. -/
namespace RangeQuery
open List
universe u
variable {Row : Type u} {time : Row → Int}

structure Source (time : Row → Int) where
  rows : List Row
  increasing : rows.Pairwise fun earlier later => time earlier < time later

/-- The rows from a first time to a last one. -/
def Source.window (source : Source time) (first last : Int) : List Row :=
  source.rows.filter fun row => first ≤ time row ∧ time row ≤ last

def Source.answer (source : Source time) (first last : Int) (limit : Nat) : List Row :=
  (source.window first last).take limit

variable {source : Source time} {first last : Int} {limit : Nat} {row : Row}

theorem mem_window : row ∈ source.window first last ↔
    row ∈ source.rows ∧ first ≤ time row ∧ time row ≤ last := by
  simp [Source.window]

theorem mem_of_mem_answer (hRow : row ∈ source.answer first last limit) :
    row ∈ source.window first last := mem_of_mem_take hRow

theorem pairwise_window (source : Source time) (first last : Int) :
    (source.window first last).Pairwise fun earlier later => time earlier < time later :=
  source.increasing.filter _

theorem window_eq_nil (hEmpty : last < first) : source.window first last = [] := by
  apply filter_eq_nil_iff.mpr
  intro row hRow
  simp only [decide_eq_true_eq]
  omega

theorem answer_eq_window_iff : source.answer first last limit = source.window first last ↔
      (source.window first last).length ≤ limit := take_eq_self_iff _

/-- Behind the last row of an answer lies what it leaves out. -/
theorem window_eq_append (hLast : (source.answer first last limit).getLast? = some row) :
    source.window first last =
      source.answer first last limit ++ source.window (time row + 1) last := by
  obtain ⟨before, hAnswer⟩ := getLast?_eq_some_iff.mp hLast
  have hSplit : before ++ [row] ++ (source.window first last).drop limit =
      source.window first last := by
    rw [← hAnswer]
    exact take_append_drop limit _
  have hSorted := pairwise_window source first last
  rw [← hSplit] at hSorted
  obtain ⟨hAnswered, -, hBehind⟩ := pairwise_append.mp hSorted
  have hStart : first ≤ time row := by
    have hMem : row ∈ source.answer first last limit := by
      rw [hAnswer]
      simp
    exact (mem_window.mp (mem_of_mem_answer hMem)).2.1
  have hRest : source.window (time row + 1) last =
      (source.window first last).filter fun later => time row < time later := by
    rw [Source.window, Source.window, filter_filter]
    apply filter_congr
    intro later _
    rw [Bool.eq_iff_iff]
    simp only [Bool.and_eq_true, decide_eq_true_eq]
    omega
  have hNone : (before ++ [row]).filter (fun later => time row < time later) = [] := by
    apply filter_eq_nil_iff.mpr
    intro earlier hEarlier
    simp only [decide_eq_true_eq, Int.not_lt]
    cases mem_append.mp hEarlier with
    | inl hBefore =>
      exact Int.le_of_lt ((pairwise_append.mp hAnswered).2.2 earlier hBefore row (by simp))
    | inr hSame => exact Int.le_of_eq (congrArg time (mem_singleton.mp hSame))
  have hAll : ((source.window first last).drop limit).filter (fun later => time row < time later) =
      (source.window first last).drop limit := by
    apply filter_eq_self.mpr
    intro later hLater
    exact decide_eq_true (hBehind row (by simp) later hLater)
  have hDropped : (source.window first last).filter (fun later => time row < time later) =
      (source.window first last).drop limit := by
    calc (source.window first last).filter (fun later => time row < time later)
        = (before ++ [row] ++ (source.window first last).drop limit).filter
            (fun later => time row < time later) := by rw [hSplit]
      _ = (source.window first last).drop limit := by
            rw [filter_append, hNone, hAll, nil_append]
  rw [hRest, hDropped]
  exact (take_append_drop limit _).symm

end RangeQuery
