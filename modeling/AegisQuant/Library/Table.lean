import Mathlib.Data.List.MinMax
import Mathlib.Data.List.Sort
import Mathlib.Algebra.BigOperators.Group.List.Basic

/-! A database table whose rows are identified by a unique key, and the
orders in which a query may return rows. Uniqueness is a field of the table,
so every row found under a key is the only one. -/
universe u v

structure Table {Key : Type u} {Row : Type v} (key : Row → Key) where
  rows : List Row
  unique : (rows.map key).Nodup

namespace Table
open List Option
variable {Key : Type u} {Row : Type v} {key : Row → Key}

def empty : Table key := ⟨[], nodup_nil⟩

@[simp] theorem rows_empty : (empty : Table key).rows = [] := rfl

variable {table : Table key} {row : Row}

theorem ne_of_split {before after : List Row} (hRows : table.rows = before ++ row :: after) :
    (∀ other ∈ before, key other ≠ key row) ∧ ∀ other ∈ after, key other ≠ key row := by
  have hDistinct := table.unique
  rw [hRows, map_append, map_cons, nodup_append, nodup_cons] at hDistinct
  obtain ⟨-, ⟨hAfter, -⟩, hBefore⟩ := hDistinct
  constructor
  · intro other hOther
    exact hBefore _ (mem_map_of_mem hOther) _ (mem_cons_self ..)
  · intro other hOther hSame
    exact hAfter (hSame ▸ mem_map_of_mem hOther)

variable [DecidableEq Key]

def find? (table : Table key) (k : Key) : Option Row := table.rows.find? fun row => key row = k

/-- Replaces the row found under `k`; `f` must leave its key as it is. -/
def modify (table : Table key) (k : Key) (f : Row → Row) (hKey : ∀ row, key (f row) = key row) :
    Table key where
  rows := table.rows.map fun row => if key row = k then f row else row
  unique := by
    have hKeys : (table.rows.map fun row => if key row = k then f row else row).map key =
        table.rows.map key := by
      rw [List.map_map]
      refine map_congr_left fun row _ => ?_
      simp only [Function.comp_apply]
      split
      · exact hKey row
      · rfl
    rw [hKeys]
    exact table.unique

@[simp] theorem find?_empty (k : Key) : (empty : Table key).find? k = none := rfl

section
variable {table : Table key}

variable {k : Key}

theorem find?_eq_none : table.find? k = none ↔ ∀ row ∈ table.rows, key row ≠ k := by
  simp [find?]

variable {row : Row}

theorem key_of_find? (hFind : table.find? k = some row) : key row = k := by
  simpa using find?_some hFind

theorem mem_of_find? (hFind : table.find? k = some row) : row ∈ table.rows :=
  mem_of_find?_eq_some hFind

theorem find?_of_mem (hRow : row ∈ table.rows) : table.find? (key row) = some row := by
  cases hFind : table.find? (key row) with
  | none => exact absurd rfl (find?_eq_none.mp hFind row hRow)
  | some other =>
    have hSame := inj_on_of_nodup_map table.unique (mem_of_find? hFind) hRow
      (key_of_find? hFind)
    rw [hSame]

theorem find?_eq_some : table.find? k = some row ↔ row ∈ table.rows ∧ key row = k := by
  constructor
  · intro hFind
    exact ⟨mem_of_find? hFind, key_of_find? hFind⟩
  · rintro ⟨hRow, rfl⟩
    exact find?_of_mem hRow

theorem find?_modify_self {f : Row → Row} {hKey : ∀ row, key (f row) = key row} :
    (table.modify k f hKey).find? k = (table.find? k).map f := by
  simp only [find?, modify, find?_map, Function.comp_def]
  have hSame : (fun row => decide (key (if key row = k then f row else row) = k)) =
      fun row => decide (key row = k) := by
    funext row
    by_cases hRow : key row = k
    · simp [hRow, hKey]
    · simp [hRow]
  rw [hSame]
  cases hFind : table.rows.find? fun row => decide (key row = k) with
  | none => rfl
  | some row => simp [show key row = k by simpa using find?_some hFind]

theorem find?_modify_of_ne {k other : Key} {f : Row → Row} {hKey : ∀ row, key (f row) = key row}
    (hOther : other ≠ k) :
    (table.modify k f hKey).find? other = table.find? other := by
  simp only [find?, modify, find?_map, Function.comp_def]
  have hSame : (fun row => decide (key (if key row = k then f row else row) = other)) =
      fun row => decide (key row = other) := by
    funext row
    by_cases hRow : key row = k
    · simp [hRow, hKey]
    · simp [hRow]
  rw [hSame]
  cases hFind : table.rows.find? fun row => decide (key row = other) with
  | none => rfl
  | some row =>
    have hRow : key row = other := by simpa using find?_some hFind
    simp [hRow, hOther]

theorem filter_key_of_mem (hRow : row ∈ table.rows) :
    (table.rows.filter fun other => key other = key row) = [row] := by
  obtain ⟨before, after, hRows⟩ := append_of_mem hRow
  obtain ⟨hBefore, hAfter⟩ := ne_of_split hRows
  have hNone (part : List Row) (hPart : ∀ other ∈ part, key other ≠ key row) :
      (part.filter fun other => key other = key row) = [] := by
    rw [filter_eq_nil_iff]
    intro other hOther
    simpa using hPart other hOther
  rw [hRows, filter_append, hNone before hBefore, filter_cons_of_pos (by simp),
    hNone after hAfter, nil_append]

theorem rows_modify_of_find? (hFind : table.find? k = some row) (f : Row → Row)
    (hKey : ∀ row, key (f row) = key row) :
    ∃ before after, table.rows = before ++ row :: after ∧
      (table.modify k f hKey).rows = before ++ f row :: after := by
  have hRow := key_of_find? hFind
  obtain ⟨before, after, hRows⟩ := append_of_mem (mem_of_find? hFind)
  obtain ⟨hBefore, hAfter⟩ := ne_of_split hRows
  refine ⟨before, after, hRows, ?_⟩
  have hSame (part : List Row) (hPart : ∀ other ∈ part, key other ≠ key row) :
      (part.map fun other => if key other = k then f other else other) = part := by
    rw [List.map_congr_left fun other hOther => if_neg (hRow ▸ hPart other hOther), List.map_id']
  simp only [modify, hRows, map_append, map_cons, if_pos hRow]
  rw [hSame before hBefore, hSame after hAfter]

end

/-- Adds a row under a key that no row has. -/
def insert (table : Table key) (row : Row) (hFresh : table.find? (key row) = none) : Table key where
  rows := table.rows ++ [row]
  unique := by
    rw [map_append, map_cons, map_nil, nodup_append]
    refine ⟨table.unique, by simp, ?_⟩
    intro first hFirst second hSecond
    obtain ⟨other, hOther, rfl⟩ := mem_map.mp hFirst
    rw [mem_singleton] at hSecond
    exact hSecond ▸ find?_eq_none.mp hFresh other hOther

/-- `INSERT` under a unique constraint: refused on a key already present. -/
def insert? (table : Table key) (row : Row) : Option (Table key) :=
  if hFresh : table.find? (key row) = none then some (table.insert row hFresh) else none

theorem insert?_eq_some {table next : Table key} : table.insert? row = some next ↔
      table.find? (key row) = none ∧ next.rows = table.rows ++ [row] := by
  unfold insert?
  split
  · rename_i hFresh
    constructor
    · intro hNext
      rw [← some.inj hNext]
      exact ⟨hFresh, rfl⟩
    · rintro ⟨_, hRows⟩
      cases next
      simp only [some.injEq, insert]
      congr
      exact hRows.symm
  · rename_i hPresent
    simp [hPresent]

theorem insert?_of_unused (hFresh : table.find? (key row) = none) :
    ∃ next, table.insert? row = some next :=
  ⟨table.insert row hFresh, dif_pos hFresh⟩

section
variable {table next : Table key} {row : Row} (hNext : table.insert? row = some next)
include hNext

theorem find?_insert?_self : next.find? (key row) = some row := by
  rw [find?_eq_some, (insert?_eq_some.mp hNext).2]
  exact ⟨by simp, rfl⟩

theorem find?_insert?_of_ne {other : Key} (hOther : other ≠ key row) :
    next.find? other = table.find? other := by
  simp [find?, (insert?_eq_some.mp hNext).2, find?_append, hOther.symm]

end

/-- Several rows inserted together, all of them or none. -/
def insertAll? (table : Table key) (rows : List Row) : Option (Table key) :=
  if hFresh : (rows.map key).Nodup ∧ ∀ row ∈ rows, table.find? (key row) = none then
    some {
      rows := table.rows ++ rows
      unique := by
        rw [map_append, nodup_append]
        refine ⟨table.unique, hFresh.1, ?_⟩
        intro first hFirst second hSecond
        obtain ⟨other, hOther, rfl⟩ := mem_map.mp hFirst
        obtain ⟨row, hRow, rfl⟩ := mem_map.mp hSecond
        exact find?_eq_none.mp (hFresh.2 row hRow) other hOther }
  else none

theorem insertAll?_eq_some {table next : Table key} {rows : List Row} :
    table.insertAll? rows = some next ↔
      ((rows.map key).Nodup ∧ ∀ row ∈ rows, table.find? (key row) = none) ∧
        next.rows = table.rows ++ rows := by
  unfold insertAll?
  split
  · rename_i hFresh
    constructor
    · intro hNext
      rw [← some.inj hNext]
      exact ⟨hFresh, rfl⟩
    · rintro ⟨-, hRows⟩
      cases next
      simp only [some.injEq]
      congr
      exact hRows.symm
  · rename_i hPresent
    simp [hPresent]

/-- `INSERT … ON CONFLICT (key) DO UPDATE`: the row replaces the one under
its key, or is added. -/
def upsert (table : Table key) (row : Row) (merge : Row → Row)
    (hKey : ∀ current, key (merge current) = key current) : Table key :=
  if hFresh : table.find? (key row) = none then table.insert row hFresh
  else table.modify (key row) merge hKey

section
variable {table : Table key} {row : Row} {merge : Row → Row}
  {hKey : ∀ current, key (merge current) = key current}
include hKey

theorem rows_upsert_of_fresh (hFresh : table.find? (key row) = none) :
    (table.upsert row merge hKey).rows = table.rows ++ [row] := by
  rw [upsert, dif_pos hFresh]
  rfl

theorem rows_upsert_of_present (hPresent : table.find? (key row) ≠ none) :
    (table.upsert row merge hKey).rows =
      table.rows.map fun current => if key current = key row then merge current else current := by
  rw [upsert, dif_neg hPresent]
  rfl

end

theorem rows_upsert_of_find? {row current : Row} (hFind : table.find? (key row) = some current)
    (merge : Row → Row) (hKey : ∀ current, key (merge current) = key current) :
    ∃ before after, table.rows = before ++ current :: after ∧
      (table.upsert row merge hKey).rows = before ++ merge current :: after := by
  rw [upsert, dif_neg (by simp [hFind])]
  exact rows_modify_of_find? hFind merge hKey

section
variable {table : Table key} {row : Row} {merge : Row → Row}
  {hKey : ∀ current, key (merge current) = key current}
include hKey

theorem find?_upsert_of_ne {other : Key} (hOther : other ≠ key row) :
    (table.upsert row merge hKey).find? other = table.find? other := by
  unfold upsert
  split
  · simp only [find?, insert, find?_append, find?_singleton]
    rw [decide_eq_false hOther.symm]
    simp
  · exact find?_modify_of_ne hOther

theorem find?_upsert : (table.upsert row merge hKey).find? (key row) =
      some ((table.find? (key row)).elim row merge) := by
  cases hFind : table.find? (key row) with
  | none =>
    rw [find?_eq_some, rows_upsert_of_fresh hFind]
    exact ⟨by simp, rfl⟩
  | some current =>
    rw [upsert, dif_neg (by simp [hFind]), find?_modify_self, hFind]
    rfl

theorem find?_upsert_self (hMerge : ∀ current, key current = key row → merge current = row) :
    (table.upsert row merge hKey).find? (key row) = some row := by
  rw [find?_upsert]
  cases hFind : table.find? (key row) with
  | none => rfl
  | some current => exact congrArg some (hMerge current (key_of_find? hFind))

end

section
variable {table : Table key} {k : Key} {f : Row → Row} (hKey : ∀ row, key (f row) = key row)
include hKey

theorem countP_modify_le {p : Row → Bool} (hChanged : ∀ row, p (f row) → p row) :
    (table.modify k f hKey).rows.countP p ≤ table.rows.countP p := by
  rw [modify, countP_map]
  apply countP_mono_left
  intro row _ hRow
  simp only [Function.comp_apply] at hRow
  split at hRow
  · exact hChanged row hRow
  · exact hRow

theorem forall_mem_modify {P : Row → Prop} (hRows : ∀ row ∈ table.rows, P row)
    (hChanged : ∀ row ∈ table.rows, P (f row)) : ∀ row ∈ (table.modify k f hKey).rows, P row := by
  intro row hRow
  obtain ⟨old, hOld, rfl⟩ := mem_map.mp hRow
  split
  · exact hChanged old hOld
  · exact hRows old hOld

end

theorem forall_mem_upsert {merge : Row → Row} (hKey : ∀ current, key (merge current) = key current)
    {P : Row → Prop} (hRows : ∀ current ∈ table.rows, P current) (hNew : P row)
    (hMerged : ∀ current ∈ table.rows, P (merge current)) :
    ∀ current ∈ (table.upsert row merge hKey).rows, P current := by
  by_cases hFresh : table.find? (key row) = none
  · rw [rows_upsert_of_fresh hFresh]
    exact forall_mem_append.mpr ⟨hRows, forall_mem_singleton.mpr hNew⟩
  · rw [upsert, dif_neg hFresh]
    exact forall_mem_modify hKey hRows hMerged

/-- The rows under other keys. -/
def rest (table : Table key) (k : Key) : List Row := table.rows.filter fun row => key row ≠ k

/-- `DELETE … WHERE key = k`. -/
def erase (table : Table key) (k : Key) : Table key where
  rows := table.rest k
  unique := (filter_sublist.map key).nodup table.unique

@[simp] theorem rows_erase (table : Table key) (k : Key) : (table.erase k).rows = table.rest k := rfl

theorem rest_of_fresh {k : Key} (hFresh : table.find? k = none) : table.rest k = table.rows := by
  rw [rest, filter_eq_self]
  intro row hRow
  exact decide_eq_true (find?_eq_none.mp hFresh row hRow)

theorem rest_of_find? {k : Key} {before after : List Row} (hRow : key row = k)
    (hRows : table.rows = before ++ row :: after) :
    table.rest k = before ++ after := by
  obtain ⟨hBefore, hAfter⟩ := ne_of_split hRows
  have hKeep (part : List Row) (hPart : ∀ other ∈ part, key other ≠ key row) :
      (part.filter fun other => key other ≠ k) = part :=
    filter_eq_self.mpr fun other hOther => decide_eq_true (hRow ▸ hPart other hOther)
  rw [rest, hRows, filter_append, filter_cons_of_neg (by simpa using hRow),
    hKeep before hBefore, hKeep after hAfter]

theorem sum_upsert {Total : Type*} [AddCommMonoid Total] (value : Row → Total) (table : Table key)
    (row : Row) {merge : Row → Row} {hKey : ∀ current, key (merge current) = key current}
    (hMerge : ∀ current, key current = key row → value (merge current) = value row) :
    ((table.upsert row merge hKey).rows.map value).sum =
      ((table.rest (key row)).map value).sum + value row := by
  cases hFind : table.find? (key row) with
  | none => simp [rows_upsert_of_fresh hFind, rest_of_fresh hFind]
  | some current =>
    obtain ⟨before, after, hRows, hUpserted⟩ := rows_upsert_of_find? hFind merge hKey
    have hCurrent := key_of_find? hFind
    rw [hUpserted, rest_of_find? hCurrent hRows]
    simp only [map_append, map_cons, sum_append, sum_cons, hMerge current hCurrent]
    rw [add_assoc, add_comm (value row)]

/-- A partial unique index, given by the value each row has in it, if any: no
two rows have the same value. -/
def Indexed {Value : Type u} (index : Row → Option Value) (rows : List Row) : Prop :=
  (rows.filterMap index).Nodup

instance {Value : Type u} [DecidableEq Value] (index : Row → Option Value) (rows : List Row) :
    Decidable (Indexed index rows) :=
  inferInstanceAs (Decidable (rows.filterMap index).Nodup)

theorem eq_of_indexed {Value : Type u} {index : Row → Option Value} {rows : List Row}
    (hIndexed : Indexed index rows) {first second : Row} {value : Value} (hFirst : first ∈ rows)
    (hSecond : second ∈ rows) (hFirstValue : index first = some value)
    (hSecondValue : index second = some value) : first = second := by
  have hSecondMem : second ∈ rows.filter fun row => (index row).isSome :=
    mem_filter.mpr ⟨hSecond, by simp [hSecondValue]⟩
  have hFirstMem : first ∈ rows.filter fun row => (index row).isSome :=
    mem_filter.mpr ⟨hFirst, by simp [hFirstValue]⟩
  have hValues : (rows.filter fun row => (index row).isSome).map index =
      (rows.filterMap index).map some := by
    rw [map_filterMap_some_eq_filter_map_isSome]
    rw [List.filter_map]
    rfl
  have hDistinct : ((rows.filter fun row => (index row).isSome).map index).Nodup := by
    rw [hValues]
    exact hIndexed.map (some_injective _)
  exact inj_on_of_nodup_map hDistinct hFirstMem hSecondMem
    (hFirstValue.trans hSecondValue.symm)

section Latest
variable {Time : Type*} [LinearOrder Time] {time : Row → Time} {p : Row → Bool}
  {first second : Table key}
omit [DecidableEq Key]

/-- `ORDER BY time DESC LIMIT 1` over the rows that `p` selects. -/
def latest (table : Table key) (time : Row → Time) (p : Row → Bool) : Option Row :=
  (table.rows.filter p).argmax time

theorem perm_filter (hSame : ∀ row, p row → (row ∈ first.rows ↔ row ∈ second.rows)) :
    (first.rows.filter p).Perm (second.rows.filter p) := by
  rw [perm_ext_iff_of_nodup (first.unique.of_map.filter _) (second.unique.of_map.filter _)]
  intro row
  rw [mem_filter, mem_filter]
  exact and_congr_left (hSame row)

/-- Tables with the same selected rows have the same latest one, if rows of one
time have one key. -/
theorem latest_congr (hSame : ∀ row, p row → (row ∈ first.rows ↔ row ∈ second.rows))
    (hTied : ∀ row other, p row → p other → time row = time other → key row = key other) :
    first.latest time p = second.latest time p := by
  have hPerm := perm_filter hSame
  cases hFirst : first.latest time p with
  | none =>
    have hNone : first.rows.filter p = [] := argmax_eq_none.mp hFirst
    rw [hNone] at hPerm
    rw [latest, ← hPerm.nil_eq, argmax_nil]
  | some row =>
    have hRow := argmax_mem hFirst
    cases hSecond : second.latest time p with
    | none =>
      have hNone : second.rows.filter p = [] := argmax_eq_none.mp hSecond
      rw [hPerm.mem_iff, hNone] at hRow
      cases hRow
    | some other =>
      have hOther := hPerm.mem_iff.mpr (argmax_mem hSecond)
      have hTime : time row = time other :=
        le_antisymm (le_of_mem_argmax (hPerm.mem_iff.mp hRow) hSecond)
          (le_of_mem_argmax hOther hFirst)
      obtain ⟨hMem, hSelected⟩ := mem_filter.mp hRow
      obtain ⟨hOtherMem, hOtherSelected⟩ := mem_filter.mp hOther
      rw [inj_on_of_nodup_map first.unique hMem hOtherMem
        (hTied row other hSelected hOtherSelected hTime)]

end Latest

end Table

/-- `ORDER BY`: the rows come back in some order that respects `le`. Rows
that `le` does not separate may come in any order. -/
structure RowOrder {Row : Type v} (le : Row → Row → Prop) where
  arrange : List Row → List Row
  perm : ∀ rows, (arrange rows).Perm rows
  sorted : ∀ rows, (arrange rows).Pairwise le

namespace RowOrder
open List
variable {Row : Type v} {le : Row → Row → Prop}

theorem mem_arrange (order : RowOrder le) {rows : List Row} {row : Row} :
    row ∈ order.arrange rows ↔ row ∈ rows :=
  (order.perm rows).mem_iff

/-- The order in which tied rows keep their place. -/
def stable (le : Row → Row → Prop) [DecidableRel le] [Std.Total le] [IsTrans Row le] :
    RowOrder le where
  arrange := insertionSort le
  perm := perm_insertionSort le
  sorted := pairwise_insertionSort le

end RowOrder
