import Mathlib.Algebra.BigOperators.Group.List.Basic
import Mathlib.Algebra.Order.Group.Nat
import Mathlib.Data.List.Nodup
import Mathlib.Data.List.ProdSigma

/-! Loops inside each other whose innermost body adds one item to a collection,
and may return from all of them when the collection is large enough. They
collect the items of a grid, one axis for each loop, up to the limit. -/
namespace NestedLoops
open List

variable {α β γ δ : Type}

/-- A loop adds to the items found so far. It returns from the loops around it
by giving them as an error. -/
abbrev Loop (β : Type) := List β → Except (List β) (List β)

def each (items : List α) (body : α → Loop β) : Loop β :=
  fun found => items.foldlM (fun found item => body item found) found

/-- Adds an item, and returns once there are as many as the limit. -/
def push (limit : Option Nat) (item : β) : Loop β :=
  fun found =>
    if limit.any (· ≤ (found ++ [item]).length) then .error (found ++ [item])
    else .ok (found ++ [item])

def run (loop : Loop β) : List β :=
  match loop [] with
  | .ok found => found
  | .error found => found

/-- The first items, as many as the limit. -/
def upTo (limit : Option Nat) (items : List β) : List β := limit.elim items items.take

/-- Adds the items one after the other. -/
def collect (limit : Option Nat) (items : List β) : Loop β := each items (push limit)

section Collect
variable {limit : Option Nat}

theorem push_eq_collect (item : β) : push limit item = collect limit [item] := by
  funext found
  simp [collect, each]

theorem collect_append (first second : List β) (found : List β) :
    collect limit (first ++ second) found = collect limit first found >>= collect limit second :=
  foldlM_append

theorem each_collect (items : List α) (inner : α → List β) :
    each items (fun item => collect limit (inner item)) = collect limit (items.flatMap inner) := by
  funext found
  induction items generalizing found with
  | nil => rfl
  | cons item rest ih =>
    rw [flatMap_cons, collect_append]
    change collect limit (inner item) found >>= _ = _
    cases collect limit (inner item) found with
    | error returned => rfl
    | ok found => exact ih found

theorem each_push (items : List α) (build : α → β) :
    each items (fun item => push limit (build item)) = collect limit (items.map build) := by
  simp only [push_eq_collect, each_collect, map_eq_flatMap]

theorem each_grid (items : List α) (grid : List γ) (build : α → γ → β) :
    each items (fun item => collect limit (grid.map (build item))) =
      collect limit ((items ×ˢ grid).map fun point => build point.1 point.2) := by
  rw [each_collect]
  congr 1
  induction items with
  | nil => rfl
  | cons item rest ih => simp [product_cons, ih]

variable (items found : List β)

theorem collect_none : collect none items found = .ok (found ++ items) := by
  induction items generalizing found with
  | nil => simp [collect, each, pure, Except.pure]
  | cons item rest ih =>
    have hRest := ih (found ++ [item])
    rw [append_assoc, singleton_append] at hRest
    exact hRest

/-- Within the limit everything is added, and at the limit the loops return. -/
theorem collect_some {limit : Nat} (hRoom : found.length < limit) :
    collect (some limit) items found =
      if (found ++ items).length < limit then .ok (found ++ items)
      else .error ((found ++ items).take limit) := by
  induction items generalizing found with
  | nil => simp [collect, each, pure, Except.pure, hRoom]
  | cons item rest ih =>
    have hNext : collect (some limit) (item :: rest) found =
        push (some limit) item found >>= collect (some limit) rest := rfl
    have hAssoc : found ++ item :: rest = (found ++ [item]) ++ rest := by simp
    rw [hNext, hAssoc, push, Option.any_some]
    by_cases hFull : limit ≤ (found ++ [item]).length
    · rw [decide_eq_true hFull, if_pos rfl]
      have hExact : (found ++ [item]).length = limit := by
        rw [length_append, length_singleton] at hFull ⊢
        exact le_antisymm hRoom hFull
      have hLong : ¬((found ++ [item]) ++ rest).length < limit := by
        rw [length_append, hExact]
        exact not_lt.mpr (Nat.le_add_right _ _)
      rw [if_neg hLong, take_append_of_le_length hExact.ge, take_of_length_le hExact.le]
      rfl
    · rw [decide_eq_false hFull, if_neg Bool.false_ne_true]
      exact ih (found ++ [item]) (not_le.mp hFull)

theorem run_collect (hLimit : limit ≠ some 0) (items : List β) :
    run (collect limit items) = upTo limit items := by
  cases limit with
  | none => rw [run, collect_none]; rfl
  | some limit =>
    have hRoom : 0 < limit := Nat.pos_of_ne_zero fun hZero => hLimit (congrArg some hZero)
    rw [run, collect_some items [] hRoom, nil_append]
    by_cases hShort : items.length < limit
    · rw [if_pos hShort]
      exact (take_of_length_le hShort.le).symm
    · rw [if_neg hShort]
      rfl

variable (limit) in
theorem collect_prefix : ∃ taken, taken <+: items ∧
    (collect limit items found = .ok (found ++ taken) ∨
      collect limit items found = .error (found ++ taken)) := by
  induction items generalizing found with
  | nil => exact ⟨[], prefix_rfl, Or.inl (by rw [append_nil]; rfl)⟩
  | cons item rest ih =>
    have hNext : collect limit (item :: rest) found =
        push limit item found >>= collect limit rest := rfl
    rw [hNext, push]
    split
    · exact ⟨[item], cons_prefix_cons.mpr ⟨rfl, nil_prefix⟩, Or.inr rfl⟩
    · obtain ⟨taken, hTaken, hCollect⟩ := ih (found ++ [item])
      rw [append_assoc, singleton_append] at hCollect
      exact ⟨item :: taken, cons_prefix_cons.mpr ⟨rfl, hTaken⟩, hCollect⟩

theorem mem_of_mem_run_collect {item : β} {items : List β}
    (hItem : item ∈ run (collect limit items)) : item ∈ items := by
  obtain ⟨taken, hTaken, hCollect | hCollect⟩ := collect_prefix limit items []
  · rw [run, hCollect] at hItem
    exact hTaken.subset hItem
  · rw [run, hCollect] at hItem
    exact hTaken.subset hItem

end Collect

section UpTo
variable {limit : Option Nat}

@[simp] theorem upTo_map (build : α → β) (items : List α) :
    upTo limit (items.map build) = (upTo limit items).map build := by
  cases limit with
  | none => rfl
  | some limit => exact map_take.symm

theorem upTo_some {count : Nat} (items : List β) :
    upTo (some count) items = items.take (min count items.length) :=
  take_eq_take_min

theorem upTo_sublist (items : List β) : (upTo limit items).Sublist items := by
  cases limit with
  | none => exact List.Sublist.refl items
  | some limit => exact take_sublist limit items

theorem upTo_append_of_le (first second : List β) (hLimit : ∃ count ∈ limit, count ≤ first.length) :
    upTo limit (first ++ second) = upTo limit first := by
  obtain ⟨count, hCount, hRoom⟩ := hLimit
  rw [Option.mem_def.mp hCount]
  exact take_append_of_le_length hRoom

theorem upTo_sublist_append (first second : List β) :
    (upTo limit first).Sublist (upTo limit (first ++ second)) := by
  cases limit with
  | none => exact sublist_append_left _ _
  | some count =>
    change (take count first).Sublist (take count (first ++ second))
    rw [take_append]
    exact sublist_append_left _ _

theorem upTo_of_beyond {items : List β} (hLimit : ¬∃ count ∈ limit, count ≤ items.length) :
    upTo limit items = items := by
  cases limit with
  | none => rfl
  | some count => exact take_of_length_le (not_le.mp fun hRoom => hLimit ⟨count, rfl, hRoom⟩).le

theorem append_singleton_sublist_upTo (first : List β) (item : β) (rest : List β)
    (hLimit : ¬∃ count ∈ limit, count ≤ first.length) :
    (first ++ [item]).Sublist (upTo limit (first ++ item :: rest)) := by
  have hStart : first ++ item :: rest = (first ++ [item]) ++ rest := by simp
  cases limit with
  | none =>
    rw [hStart]
    exact sublist_append_left _ _
  | some count =>
    have hBeyond : (first ++ [item]).length ≤ count := by
      rw [length_append, length_singleton]
      exact not_le.mp fun hRoom => hLimit ⟨count, rfl, hRoom⟩
    rw [hStart]
    change (first ++ [item]).Sublist (take count _)
    rw [take_append, take_of_length_le hBeyond]
    exact sublist_append_left _ _

end UpTo

/-! The points of a grid that the limit lets through differ in what is built
from them, unless an axis that the build leaves out is run through twice. -/

/-- The axes from the outermost to the innermost: how many values each has, and
whether the build keeps them apart. -/
abbrev Axes := List (Nat × Bool)

def Axes.points (axes : Axes) : Nat := (axes.map (·.1)).prod

/-- An axis that is left out has one value, or the limit is reached before its
second value. -/
def Axes.NoneRepeated (limit : Option Nat) : Axes → Prop
  | [] => True
  | (count, kept) :: inner =>
    (kept = true ∨ count ≤ 1 ∨ ∃ most ∈ limit, most ≤ Axes.points inner) ∧ NoneRepeated limit inner

instance Axes.decidableNoneRepeated (limit : Option Nat) :
    (axes : Axes) → Decidable (axes.NoneRepeated limit)
  | [] => isTrue trivial
  | (count, kept) :: inner =>
    have := decidableNoneRepeated limit inner
    inferInstanceAs (Decidable ((kept = true ∨ count ≤ 1 ∨
      ∃ most ∈ limit, most ≤ Axes.points inner) ∧ Axes.NoneRepeated limit inner))

/-- The grid has these axes under what is built from its points. -/
structure HasAxes (limit : Option Nat) (grid : List α) (build : α → β) (axes : Axes) : Prop where
  nonempty : grid ≠ []
  length : grid.length = axes.points
  nodup_iff : (upTo limit (grid.map build)).Nodup ↔ axes.NoneRepeated limit

section HasAxes
variable {limit : Option Nat} {items : List α} {grid : List γ} {field : α → β} {build : γ → δ}
  {axes : Axes}

theorem hasAxes_innermost (hItems : items ≠ []) (hNodup : (items.map field).Nodup) :
    HasAxes limit items field [(items.length, true)] where
  nonempty := hItems
  length := by simp [Axes.points]
  nodup_iff := by
    have hPrefix : (upTo limit (items.map field)).Sublist (items.map field) := upTo_sublist _
    simpa [Axes.NoneRepeated] using hNodup.sublist hPrefix

theorem nodup_row_iff (value : β) :
    (upTo limit (grid.map fun point => (value, build point))).Nodup ↔
      (upTo limit (grid.map build)).Nodup := by
  have hRow : (grid.map fun point => (value, build point)) = (grid.map build).map (Prod.mk value) :=
    map_map.symm
  rw [hRow, upTo_map]
  exact nodup_map_iff (Prod.mk_right_injective value)

theorem map_product_cons (first : α) (others : List α) :
    ((first :: others) ×ˢ grid).map (Prod.map field build) =
      (grid.map fun point => (field first, build point)) ++
        (others ×ˢ grid).map (Prod.map field build) := by
  rw [product_cons, map_append, map_map]
  rfl

theorem nodup_product_of_nodup (hItems : (items.map field).Nodup) (hGrid : (grid.map build).Nodup) :
    ((items ×ˢ grid).map (Prod.map field build)).Nodup := by
  have hProduct : (items ×ˢ grid).map (Prod.map field build) =
      (items.map field) ×ˢ (grid.map build) := by
    induction items with
    | nil => rfl
    | cons item rest ih =>
      rw [map_product_cons, map_cons, product_cons, map_map, ih (nodup_cons.mp hItems).2]
      rfl
  rw [hProduct]
  exact hItems.product hGrid

theorem not_nodup_of_left_out {first second : α} {others : List α} (hGrid : grid ≠ [])
    (hSame : field second = field first) (hBeyond : ¬∃ count ∈ limit, count ≤ grid.length) :
    ¬(upTo limit (((first :: second :: others) ×ˢ grid).map (Prod.map field build))).Nodup := by
  obtain ⟨point, rest, rfl⟩ := exists_cons_of_ne_nil hGrid
  intro hNodup
  rw [map_product_cons, map_product_cons, map_cons, cons_append] at hNodup
  have hRow : ¬∃ count ∈ limit, count ≤
      ((point :: rest).map fun point => (field first, build point)).length := by
    rwa [length_map]
  have hStart := hNodup.sublist (append_singleton_sublist_upTo _ _ _ hRow)
  have hTwice := (nodup_append.mp hStart).2.2 _ (mem_cons_self ..) _
    (mem_singleton_self _)
  rw [hSame] at hTwice
  exact hTwice rfl

theorem HasAxes.axis (inner : HasAxes limit grid build axes) {kept : Bool} (hItems : items ≠ [])
    (hKept : kept = true → (items.map field).Nodup)
    (hLeftOut : kept = false → ∀ value ∈ items, ∀ other ∈ items, field value = field other) :
    HasAxes limit (items ×ˢ grid) (Prod.map field build) ((items.length, kept) :: axes) where
  nonempty := by
    have hLength : (items ×ˢ grid).length ≠ 0 := by
      rw [length_product]
      exact Nat.mul_ne_zero (mt length_eq_zero_iff.mp hItems)
        (mt length_eq_zero_iff.mp inner.nonempty)
    exact mt length_eq_zero_iff.mpr hLength
  length := by simp [Axes.points, inner.length, length_product]
  nodup_iff := by
    obtain ⟨first, others, rfl⟩ := exists_cons_of_ne_nil hItems
    rw [Axes.NoneRepeated, ← inner.nodup_iff, ← inner.length]
    constructor
    · intro hNodup
      constructor
      · by_contra hRepeated
        rw [not_or, not_or, Bool.not_eq_true] at hRepeated
        obtain ⟨hOut, hMany, hBeyond⟩ := hRepeated
        cases others with
        | nil => exact hMany (by simp)
        | cons second others =>
          exact not_nodup_of_left_out inner.nonempty
            (hLeftOut hOut second (by simp) first (by simp)) hBeyond hNodup
      · rw [map_product_cons] at hNodup
        exact (nodup_row_iff (field first)).mp (hNodup.sublist (upTo_sublist_append _ _))
    · rintro ⟨hAxis, hGrid⟩
      have hRow := (nodup_row_iff (field first)).mpr hGrid
      by_cases hWithin : ∃ most ∈ limit, most ≤ grid.length
      · rw [map_product_cons, upTo_append_of_le _ _ (by simpa using hWithin)]
        exact hRow
      · have hWhole : upTo limit (grid.map build) = grid.map build :=
          upTo_of_beyond (by simpa using hWithin)
        rw [hWhole] at hGrid
        rcases hAxis with hKeep | hOne | hEarly
        · exact (nodup_product_of_nodup (hKept hKeep) hGrid).sublist (upTo_sublist _)
        · have hAlone : others = [] := by
            rw [length_cons] at hOne
            exact length_eq_zero_iff.mp (by omega)
          have hSingle : ([first].map field).Nodup := nodup_singleton _
          rw [hAlone]
          exact (nodup_product_of_nodup hSingle hGrid).sublist (upTo_sublist _)
        · exact absurd hEarly hWithin

end HasAxes

end NestedLoops
