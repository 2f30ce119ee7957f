import Mathlib.Data.List.Nodup
import Mathlib.Order.Lattice

/-! Sorted association lists and their text. The text joins the entries with one
separator and each key to its value with another; it gives the entries back if
and only if no value contains the first. -/
namespace KeyedText
universe u v
open List

section Entries
variable {κ : Type u} {ν : Type v} [LinearOrder κ] {entries : List (κ × ν)} {key other : κ}
  {value : ν}

/-- The entries with the value of one key replaced or added. -/
def insert (key : κ) (value : ν) : List (κ × ν) → List (κ × ν)
  | [] => [(key, value)]
  | entry :: rest =>
    if key < entry.1 then (key, value) :: entry :: rest
    else if key = entry.1 then (key, value) :: rest
    else entry :: insert key value rest

def insertSome (key : κ) (value : Option ν) (entries : List (κ × ν)) : List (κ × ν) :=
  value.elim entries (insert key · entries)

/-- The value is added unless the key has one. -/
def insertAbsent (key : κ) (value : ν) (entries : List (κ × ν)) : List (κ × ν) :=
  if (entries.lookup key).isSome then entries else insert key value entries

theorem mem_insert {entry : κ × ν} (hEntry : entry ∈ insert key value entries) :
    entry = (key, value) ∨ entry ∈ entries := by
  induction entries with
  | nil => simpa [insert] using hEntry
  | cons head rest ih =>
    rw [insert] at hEntry
    split_ifs at hEntry with hBefore hSame
    · simpa using hEntry
    · simp only [mem_cons] at hEntry ⊢
      tauto
    · rcases mem_cons.mp hEntry with hHead | hRest
      · exact .inr (mem_cons.mpr (.inl hHead))
      · exact (ih hRest).imp id (mem_cons_of_mem head)

theorem sorted_insert (hSorted : entries.Pairwise (·.1 < ·.1)) :
    (insert key value entries).Pairwise (·.1 < ·.1) := by
  induction entries with
  | nil => simp [insert]
  | cons head rest ih =>
    obtain ⟨hHead, hRest⟩ := pairwise_cons.mp hSorted
    rw [insert]
    split_ifs with hBefore hSame
    · exact pairwise_cons.mpr ⟨fun entry hEntry => (mem_cons.mp hEntry).elim (· ▸ hBefore)
        fun hEntry => lt_trans hBefore (hHead entry hEntry), hSorted⟩
    · exact pairwise_cons.mpr ⟨fun entry hEntry => hSame ▸ hHead entry hEntry, hRest⟩
    · refine pairwise_cons.mpr ⟨fun entry hEntry => ?_, ih hRest⟩
      rcases mem_insert hEntry with rfl | hEntry
      · exact lt_of_le_of_ne (not_lt.mp hBefore) (Ne.symm hSame)
      · exact hHead entry hEntry

@[simp] theorem lookup_insert_self (key : κ) (value : ν) (entries : List (κ × ν)) :
    (insert key value entries).lookup key = some value := by
  induction entries with
  | nil => simp [insert]
  | cons head rest ih =>
    rw [insert]
    split_ifs with hBefore hSame
    · simp
    · simp
    · rw [lookup_cons, beq_false_of_ne hSame, ih]

theorem lookup_insert_of_ne (hOther : other ≠ key) :
    (insert key value entries).lookup other = entries.lookup other := by
  induction entries with
  | nil => rw [insert, lookup_cons, beq_false_of_ne hOther]
  | cons head rest ih =>
    rw [insert]
    split_ifs with hBefore hSame
    · rw [lookup_cons, beq_false_of_ne hOther]
    · rw [lookup_cons, lookup_cons, ← hSame, beq_false_of_ne hOther]
    · rw [lookup_cons, lookup_cons, ih]

theorem lookup_of_mem (hSorted : entries.Pairwise (·.1 < ·.1)) (hEntry : (key, value) ∈ entries) :
    entries.lookup key = some value := by
  induction entries with
  | nil => cases hEntry
  | cons head rest ih =>
    obtain ⟨hHead, hRest⟩ := pairwise_cons.mp hSorted
    rcases mem_cons.mp hEntry with rfl | hEntry
    · rw [lookup_cons_self]
    · rw [lookup_cons, beq_false_of_ne (hHead _ hEntry).ne', ih hRest hEntry]

theorem lookup_insertSome_self (key : κ) (option : Option ν) (entries : List (κ × ν)) :
    (insertSome key option entries).lookup key = option.or (entries.lookup key) := by
  cases option with
  | none => rfl
  | some value => exact lookup_insert_self key value entries

theorem lookup_insertSome_of_ne (hOther : other ≠ key) (option : Option ν) :
    (insertSome key option entries).lookup other = entries.lookup other := by
  cases option with
  | none => rfl
  | some value => exact lookup_insert_of_ne hOther

theorem lookup_insertAbsent_of_ne (hOther : other ≠ key) :
    (insertAbsent key value entries).lookup other = entries.lookup other := by
  rw [insertAbsent]
  split
  · rfl
  · exact lookup_insert_of_ne hOther

end Entries

section Labels
variable {α β : Type*} [DecidableEq α] [DecidableEq β] {label : α → β} {keys : List α}

/-- Keys gathered label by label are gathered once if and only if the label of
each is named at most once. -/
theorem nodup_flatMap_filter (hKeys : keys.Nodup) (labels : List β) :
    (labels.flatMap fun name => keys.filter fun key => label key = name).Nodup ↔
      ∀ key ∈ keys, labels.count (label key) ≤ 1 := by
  have hCount (key : α) : (labels.flatMap fun name =>
      keys.filter fun key => label key = name).count key =
        labels.count (label key) * keys.count key := by
    induction labels with
    | nil => simp
    | cons name rest ih =>
      rw [flatMap_cons, count_append, ih, count_cons, Nat.add_mul, Nat.add_comm]
      by_cases hName : label key = name
      · simp [count_filter, hName]
      · simp [hName, Ne.symm hName, count_eq_zero]
  rw [nodup_iff_count_le_one]
  constructor
  · intro hOnce key hKey
    have hOne := hOnce key
    rwa [hCount, count_eq_one_of_mem hKeys hKey, Nat.mul_one] at hOne
  · intro hNamed key
    rw [hCount]
    by_cases hKey : key ∈ keys
    · rw [count_eq_one_of_mem hKeys hKey, Nat.mul_one]
      exact hNamed key hKey
    · rw [count_eq_zero.mpr hKey]
      exact Nat.zero_le 1

end Labels

section Text
variable {α : Type u} [DecidableEq α] {separator assign : α} {entries : List (List α × List α)}

def entryText (assign : α) (entry : List α × List α) : List α := entry.1 ++ assign :: entry.2

def text (separator assign : α) (entries : List (List α × List α)) : List α :=
  [separator].intercalate (entries.map (entryText assign))

/-- A part of the text, cut at its first assignment. -/
def cut (assign : α) (part : List α) : List α × List α :=
  (part.takeWhile (· ≠ assign), (part.dropWhile (· ≠ assign)).tail)

def parse (separator assign : α) (chars : List α) : List (List α × List α) :=
  (chars.splitOn separator).map (cut assign)

theorem cut_entryText {entry : List α × List α} (hKey : assign ∉ entry.1) :
    cut assign (entryText assign entry) = entry := by
  have hAll : ∀ char ∈ entry.1, decide (char ≠ assign) = true := by
    intro char hChar
    exact decide_eq_true fun hSame => hKey (hSame ▸ hChar)
  rw [cut, entryText, takeWhile_append_of_pos hAll, dropWhile_append_of_pos hAll]
  simp

theorem not_mem_of_mem_splitOn {chars part : List α} (hPart : part ∈ chars.splitOn separator) :
    separator ∉ part := by
  induction chars generalizing part with
  | nil => simp_all
  | cons char rest ih =>
    rw [splitOn_cons_eq_if_modifyHead] at hPart
    split at hPart
    · rcases mem_cons.mp hPart with rfl | hRest
      · exact not_mem_nil
      · exact ih hRest
    · rename_i hChar
      cases hSplit : rest.splitOn separator with
      | nil => exact absurd hSplit (splitOn_ne_nil _ _)
      | cons first parts =>
        rw [hSplit, modifyHead_cons] at hPart
        rw [hSplit] at ih
        rcases mem_cons.mp hPart with rfl | hRest
        · exact not_mem_cons_of_ne_of_not_mem (fun hSame => hChar (by simp [hSame]))
            (ih mem_cons_self)
        · exact ih (mem_cons_of_mem _ hRest)

/-- The text gives the entries back if and only if no value contains the
separator. -/
theorem parse_text_iff (hSome : entries ≠ []) (hDiffer : separator ≠ assign)
    (hKeys : ∀ entry ∈ entries, separator ∉ entry.1 ∧ assign ∉ entry.1) :
    parse separator assign (text separator assign entries) = entries ↔
      ∀ entry ∈ entries, separator ∉ entry.2 := by
  constructor
  · intro hParse entry hEntry hMem
    rw [← hParse] at hEntry
    obtain ⟨part, hPart, rfl⟩ := mem_map.mp hEntry
    exact not_mem_of_mem_splitOn hPart (dropWhile_subset _ (mem_of_mem_tail hMem))
  · intro hValues
    rw [parse, text, splitOn_intercalate separator _ (by simpa using hSome), map_map]
    · exact (map_congr_left fun entry hEntry => cut_entryText (hKeys entry hEntry).2).trans
        (map_id entries)
    · intro part hPart
      obtain ⟨entry, hEntry, rfl⟩ := mem_map.mp hPart
      simp only [entryText, mem_append, mem_cons, not_or]
      exact ⟨(hKeys entry hEntry).1, hDiffer, hValues entry hEntry⟩

end Text

end KeyedText
