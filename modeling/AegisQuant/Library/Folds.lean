import Mathlib.Algebra.Order.BigOperators.Group.List
import Mathlib.Data.List.MinMax

/-! A fold over items whose steps add to a part of the state, or keep the lesser
or the greater of it and what the item brings. That part of the result is a sum,
a least or a greatest value, whatever becomes of the rest of the state. -/
namespace Folds
open List Option
universe u v w
variable {σ : Type u} {α : Type v} {β : Type w} (step : σ → α → σ)

variable (part : σ → β) {brought : α → β}

theorem part_foldl {op : β → β → β}
    (hStep : ∀ state item, part (step state item) = op (part state) (brought item)) (start : σ)
    (items : List α) : part (items.foldl step start) = (items.map brought).foldl op (part start) := by
  induction items generalizing start with
  | nil => rfl
  | cons item rest ih => rw [foldl_cons, ih, hStep, map_cons, foldl_cons]

theorem sum_foldl [AddMonoid β]
    (hStep : ∀ state item, part (step state item) = part state + brought item) (start : σ)
    (items : List α) : part (items.foldl step start) = part start + (items.map brought).sum := by
  induction items generalizing start with
  | nil => simp
  | cons item rest ih => rw [foldl_cons, ih, hStep, map_cons, sum_cons, add_assoc]

theorem kept_foldl (hStep : ∀ state item, part (step state item) = part state) (start : σ)
    (items : List α) : part (items.foldl step start) = part start := by
  induction items generalizing start with
  | nil => rfl
  | cons item rest ih => rw [foldl_cons, ih, hStep]

variable [LinearOrder β]

theorem min?_foldl
    (hStep : ∀ state item, part (step state item) = min (part state) (brought item)) (start : σ)
    (items : List α) :
    (part start :: items.map brought).min? = some (part (items.foldl step start)) := by
  rw [min?_cons', part_foldl step part hStep]

theorem max?_foldl
    (hStep : ∀ state item, part (step state item) = max (part state) (brought item)) (start : σ)
    (items : List α) :
    (part start :: items.map brought).max? = some (part (items.foldl step start)) := by
  rw [max?_cons', part_foldl step part hStep]

section Optional
variable (part : σ → Option β) {brought : α → Option β}

/-- Merging options keeps the extremum of the values that are there. -/
theorem foldl_merge_max (first : Option β) (others : List (Option β)) :
    others.foldl (merge max) first = ((first :: others).filterMap id).max? := by
  induction others generalizing first with
  | nil => cases first <;> simp
  | cons other rest ih =>
    rw [foldl_cons, ih]
    cases first <;> cases other <;> rfl

theorem foldl_merge_min (first : Option β) (others : List (Option β)) :
    others.foldl (merge min) first = ((first :: others).filterMap id).min? := by
  induction others generalizing first with
  | nil => cases first <;> simp
  | cons other rest ih =>
    rw [foldl_cons, ih]
    cases first <;> cases other <;> rfl

theorem merge_max_foldl
    (hStep : ∀ state item, part (step state item) = merge max (part state) (brought item))
    {start : σ} {first : α} (hSeed : part start = brought first) (items : List α) :
    part (items.foldl step start) = ((first :: items).filterMap brought).max? := by
  have hMap : brought first :: items.map brought = (first :: items).map brought := rfl
  rw [part_foldl step part hStep, foldl_merge_max, hSeed, hMap, filterMap_map, Function.id_comp]

theorem merge_min_foldl
    (hStep : ∀ state item, part (step state item) = merge min (part state) (brought item))
    {start : σ} {first : α} (hSeed : part start = brought first) (items : List α) :
    part (items.foldl step start) = ((first :: items).filterMap brought).min? := by
  have hMap : brought first :: items.map brought = (first :: items).map brought := rfl
  rw [part_foldl step part hStep, foldl_merge_min, hSeed, hMap, filterMap_map, Function.id_comp]

end Optional
/-- A table that is filled key by key. -/
theorem foldl_update {κ : Type u} {β : Type v} [DecidableEq κ] (value start : κ → β) (keys : List κ)
    (key : κ) :
    keys.foldl (fun table k => Function.update table k (value k)) start key =
      if key ∈ keys then value key else start key := by
  induction keys generalizing start with
  | nil => rfl
  | cons k rest ih =>
    rw [foldl_cons, ih]
    by_cases hRest : key ∈ rest
    · rw [if_pos hRest, if_pos (mem_cons_of_mem _ hRest)]
    · rw [if_neg hRest]
      by_cases hSame : key = k
      · rw [hSame, Function.update_self, if_pos (mem_cons_self ..)]
      · rw [Function.update_of_ne hSame, if_neg (by simp [hSame, hRest])]

end Folds

/-! The running maximum of a list of values, and a measure of every value
against the maximum up to it. Both grow at the end of the list. -/
namespace RunningMax
open List
universe u v
variable {α : Type u} {β : Type v} [LinearOrder α]

/-- The greatest of the start and the values. -/
def peak (start : α) (values : List α) : α := values.foldl max start

/-- Each value measured against the greatest so far, itself included. -/
def scan (measure : α → α → β) : α → List α → List β
  | _, [] => []
  | start, value :: rest =>
    measure (max start value) value :: scan measure (max start value) rest

theorem peak_concat (start : α) (values : List α) (value : α) :
    peak start (values ++ [value]) = max (peak start values) value := by
  rw [peak, foldl_append]
  rfl

theorem scan_concat (measure : α → α → β) (start : α) (values : List α) (value : α) :
    scan measure start (values ++ [value]) =
      scan measure start values ++ [measure (max (peak start values) value) value] := by
  induction values generalizing start with
  | nil => rfl
  | cons first rest ih =>
    rw [cons_append, scan, scan, ih, cons_append]
    rfl

theorem forall_mem_scan {P : β → Prop} {measure : α → α → β}
    (hMeasure : ∀ top value, value ≤ top → P (measure top value)) (start : α) (values : List α) :
    ∀ result ∈ scan measure start values, P result := by
  induction values generalizing start with
  | nil => simp [scan]
  | cons value rest ih =>
    rw [scan, forall_mem_cons]
    exact ⟨hMeasure _ _ (le_max_right ..), ih _⟩

section Greatest
variable [Zero α]

/-- The greatest value, and zero if there is none. -/
def greatest (values : List α) : α := values.max?.getD 0

theorem greatest_concat {values : List α} {value : α} (hNonneg : 0 ≤ value) :
    greatest (values ++ [value]) = max (greatest values) value := by
  unfold greatest
  cases values with
  | nil => simp [hNonneg]
  | cons first rest =>
    rw [cons_append, max?_cons', max?_cons', foldl_append]
    rfl

theorem le_greatest {values : List α} {value : α} (hValue : value ∈ values) :
    value ≤ greatest values := by
  obtain ⟨top, hTop⟩ := Option.isSome_iff_exists.mp
    (isSome_max?_of_ne_nil (ne_nil_of_mem hValue))
  rw [greatest, hTop, Option.getD_some]
  exact (max?_eq_some_iff.mp hTop).2 value hValue

end Greatest

end RunningMax
