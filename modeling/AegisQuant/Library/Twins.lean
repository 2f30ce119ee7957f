import AegisQuant.Library.Table

/-! Lists and tables that agree row by row up to a relation, and the queries
and writes that cannot tell them apart. -/
universe u v w

namespace List
variable {Row : Type u} {Other : Type v} {R : Row → Other → Prop}
variable {rows : List Row} {others : List Other}

section
variable (hTwins : Forall₂ R rows others)
include hTwins

theorem Forall₂.countP_eq {p : Row → Bool} {q : Other → Bool}
    (hSame : ∀ row other, R row other → p row = q other) : rows.countP p = others.countP q := by
  induction hTwins with
  | nil => rfl
  | cons hHead _ ih => rw [countP_cons, countP_cons, ih, hSame _ _ hHead]

theorem Forall₂.filterMap_eq {Out : Type w} {f : Row → Option Out} {g : Other → Option Out}
    (hSame : ∀ row other, R row other → f row = g other) :
    rows.filterMap f = others.filterMap g := by
  induction hTwins with
  | nil => rfl
  | cons hHead _ ih => rw [filterMap_cons, filterMap_cons, ih, hSame _ _ hHead]

/-- Either neither query finds a row, or both find one and they are twins. -/
theorem Forall₂.find?_cases {p : Row → Bool} {q : Other → Bool}
    (hSame : ∀ row other, R row other → p row = q other) :
    (rows.find? p = none ∧ others.find? q = none) ∨
      ∃ row other, rows.find? p = some row ∧ others.find? q = some other ∧ R row other := by
  induction hTwins with
  | nil => exact .inl ⟨rfl, rfl⟩
  | @cons row other _ _ hHead _ ih =>
    rw [find?_cons, find?_cons, ← hSame _ _ hHead]
    cases p row with
    | true => exact .inr ⟨row, other, rfl, rfl, hHead⟩
    | false => exact ih

theorem Forall₂.append {rows' : List Row} {others' : List Other} (hTwins' : Forall₂ R rows' others')
    : Forall₂ R (rows ++ rows') (others ++ others') :=
  rel_append hTwins hTwins'

end

end List

namespace Table
open List Option
variable {Key : Type u} {Row : Type v} {key : Row → Key} [DecidableEq Key] {R : Row → Row → Prop}
  {table other : Table key} {row row' : Row} {merge merge' : Row → Row}

theorem forall₂_upsert {hKey : ∀ current, key (merge current) = key current}
    {hKey' : ∀ current, key (merge' current) = key current}
    (hTwins : List.Forall₂ R table.rows other.rows)
    (hKeys : ∀ first second, R first second → key first = key second) (hRow : R row row')
    (hMerge : ∀ first second, R first second → R (merge first) (merge' second)) :
    List.Forall₂ R (table.upsert row merge hKey).rows (other.upsert row' merge' hKey').rows := by
  have hSame := hKeys _ _ hRow
  rcases hTwins.find?_cases (p := fun current => key current = key row)
      (q := fun current => key current = key row') (fun first second hRelated => by
        rw [hKeys _ _ hRelated, hSame]) with ⟨hNone, hNone'⟩ | ⟨found, found', hSome, hSome', -⟩
  · rw [rows_upsert_of_fresh hNone, rows_upsert_of_fresh hNone']
    exact hTwins.append (.cons hRow .nil)
  · have hPresent : table.find? (key row) ≠ none := by
      unfold find?
      rw [hSome]
      exact some_ne_none _
    have hPresent' : other.find? (key row') ≠ none := by
      unfold find?
      rw [hSome']
      exact some_ne_none _
    rw [rows_upsert_of_present hPresent, rows_upsert_of_present hPresent',
      forall₂_map_left_iff, forall₂_map_right_iff]
    refine hTwins.imp fun first second hRelated => ?_
    rw [hKeys _ _ hRelated, hSame]
    split
    · exact hMerge _ _ hRelated
    · exact hRelated

end Table
