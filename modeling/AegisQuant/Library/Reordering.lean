import Mathlib.Data.List.Perm.Basic
import Mathlib.Order.MinMax
import AegisQuant.Library.SortByKey

/-! What a reordering of a list keeps and what it can change. Extrema and
sorted lists stay; any match can come to be the first, and two kinds of match
can come first together. -/
namespace Reordering
open SortByKey List Option
universe u
variable {α : Type u} {items other : List α} {p q : α → Bool} {x y : α}

section FirstMatch

theorem exists_perm_cons (hMem : x ∈ items) : ∃ rest, (x :: rest).Perm items := by
  obtain ⟨front, back, rfl⟩ := append_of_mem hMem
  exact ⟨front ++ back, perm_middle.symm⟩

theorem exists_perm_cons_cons (hFirst : x ∈ items) (hSecond : y ∈ items) (hNe : y ≠ x) :
    ∃ rest, (x :: y :: rest).Perm items := by
  obtain ⟨rest, hRest⟩ := exists_perm_cons hFirst
  have hLeft : y ∈ rest := (mem_cons.mp (hRest.mem_iff.mpr hSecond)).resolve_left hNe
  obtain ⟨tail, hTail⟩ := exists_perm_cons hLeft
  exact ⟨tail, (hTail.cons x).trans hRest⟩

theorem mem_of_find?_perm (hPerm : other.Perm items) (hFind : other.find? p = some x) :
    x ∈ items ∧ p x = true :=
  ⟨hPerm.subset (mem_of_find?_eq_some hFind), find?_some hFind⟩

theorem find?_eq_none_perm (hPerm : other.Perm items) :
    other.find? p = none ↔ ∀ item ∈ items, p item = false := by
  simp only [find?_eq_none, Bool.not_eq_true]
  exact forall_congr' fun item => imp_congr_left hPerm.mem_iff

theorem exists_perm_find? (hMem : x ∈ items) (hMatch : p x = true) :
    ∃ other : List α, other.Perm items ∧ other.find? p = some x := by
  obtain ⟨rest, hRest⟩ := exists_perm_cons hMem
  exact ⟨x :: rest, hRest, find?_cons_of_pos hMatch⟩

/-- The first match of the one kind is `x`, and that of the other kind is `y`
unless `x` is of that kind too. -/
theorem exists_perm_find?_find? (hFirst : x ∈ items) (hMatch : p x = true) (hSecond : y ∈ items)
    (hOther : q y = true) :
    ∃ other : List α, other.Perm items ∧ other.find? p = some x ∧
      other.find? q = some (if q x then x else y) := by
  cases hBoth : q x with
  | true =>
    obtain ⟨rest, hRest⟩ := exists_perm_cons hFirst
    exact ⟨x :: rest, hRest, find?_cons_of_pos hMatch, find?_cons_of_pos hBoth⟩
  | false =>
    have hNe : y ≠ x := fun hSame => by rw [hSame, hBoth] at hOther; cases hOther
    obtain ⟨rest, hRest⟩ := exists_perm_cons_cons hFirst hSecond hNe
    refine ⟨x :: y :: rest, hRest, find?_cons_of_pos hMatch, ?_⟩
    rw [find?_cons_of_neg (by simp [hBoth]), find?_cons_of_pos hOther]
    rfl

end FirstMatch

section Extrema
variable [LinearOrder α]

theorem min?_perm (hPerm : other.Perm items) : other.min? = items.min? := by
  refine ext fun least => ?_
  rw [min?_eq_some_iff, min?_eq_some_iff, hPerm.mem_iff]
  exact and_congr_right fun _ => forall_congr' fun item => imp_congr_left hPerm.mem_iff

theorem max?_perm (hPerm : other.Perm items) : other.max? = items.max? := by
  refine ext fun greatest => ?_
  rw [max?_eq_some_iff, max?_eq_some_iff, hPerm.mem_iff]
  exact and_congr_right fun _ => forall_congr' fun item => imp_congr_left hPerm.mem_iff

theorem getD_max?_le_iff {default bound : α} (hDefault : default ≤ bound) :
    items.max?.getD default ≤ bound ↔ ∀ item ∈ items, item ≤ bound := by
  cases hGreatest : items.max? with
  | none =>
    rw [max?_eq_none_iff.mp hGreatest]
    simpa using hDefault
  | some greatest =>
    obtain ⟨hMem, hAbove⟩ := max?_eq_some_iff.mp hGreatest
    rw [getD_some]
    constructor
    · intro hBound item hItem
      exact (hAbove item hItem).trans hBound
    · intro hAll
      exact hAll greatest hMem

theorem sort_perm (hPerm : other.Perm items) : sort id other = sort id items := by
  have hSame : (sort id other).Perm (sort id items) :=
    ((perm_sort id other).trans hPerm).trans (perm_sort id items).symm
  exact hSame.eq_of_pairwise (fun _ _ _ _ hBelow hAbove => le_antisymm hBelow hAbove)
    (pairwise_sort id other) (pairwise_sort id items)

end Extrema

section Gathering
universe v
variable {β : Type v} {f : α → Option β}

/-- A reordering of the items reorders what is gathered of them. -/
theorem mapM_perm (hPerm : other.Perm items) : (other.mapM f = none ∧ items.mapM f = none) ∨
      ∃ values values', other.mapM f = some values ∧ items.mapM f = some values' ∧
        values.Perm values' := by
  induction hPerm with
  | nil => exact Or.inr ⟨[], [], rfl, rfl, .nil⟩
  | cons item _ ih =>
    cases hItem : f item with
    | none => exact Or.inl (by simp [mapM_cons, hItem])
    | some value =>
      rcases ih with ⟨hOther, hItems⟩ | ⟨values, values', hOther, hItems, hValues⟩
      · exact Or.inl (by simp [mapM_cons, hItem, hOther, hItems])
      · refine Or.inr ⟨value :: values, value :: values', ?_, ?_, hValues.cons value⟩
        · simp [mapM_cons, hItem, hOther]
        · simp [mapM_cons, hItem, hItems]
  | swap first second rest =>
    cases hFirst : f first with
    | none => exact Or.inl (by simp [mapM_cons, hFirst])
    | some value =>
      cases hSecond : f second with
      | none => exact Or.inl (by simp [mapM_cons, hSecond])
      | some value' =>
        cases hRest : rest.mapM f with
        | none => exact Or.inl (by simp [mapM_cons, hRest])
        | some values =>
          refine Or.inr ⟨value' :: value :: values, value :: value' :: values, ?_, ?_, .swap ..⟩
          · simp [mapM_cons, hFirst, hSecond, hRest]
          · simp [mapM_cons, hFirst, hSecond, hRest]
  | trans _ _ ih ih' =>
    rcases ih with ⟨hOther, hMiddle⟩ | ⟨values, middle, hOther, hMiddle, hValues⟩
    · rcases ih' with ⟨-, hItems⟩ | ⟨_, _, hSome, -, -⟩
      · exact Or.inl ⟨hOther, hItems⟩
      · rw [hMiddle] at hSome
        cases hSome
    · rcases ih' with ⟨hNone, -⟩ | ⟨middle', values', hSome, hItems, hValues'⟩
      · rw [hMiddle] at hNone
        cases hNone
      · rw [hMiddle] at hSome
        cases hSome
        exact Or.inr ⟨values, values', hOther, hItems, hValues.trans hValues'⟩

/-- What is made of the values without a look at their order. -/
theorem bind_mapM_perm {γ : Type*} {next : List β → Option γ}
    (hOrder : ∀ values values' : List β, values.Perm values' → next values = next values')
    (hPerm : other.Perm items) : (other.mapM f).bind next = (items.mapM f).bind next := by
  rcases mapM_perm hPerm with ⟨hOther, hItems⟩ | ⟨values, values', hOther, hItems, hValues⟩
  · rw [hOther, hItems]
  · rw [hOther, hItems, bind_some, bind_some, hOrder values values' hValues]

end Gathering

end Reordering
