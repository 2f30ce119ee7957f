import AegisQuant.Library.SortByKey
import Mathlib.Algebra.GroupWithZero.Nat
import Mathlib.Data.List.Dedup
import Mathlib.Data.List.Induction

/-! Items grouped in an ordered map. A group holds the items of its key in the
order in which they came, and the groups are in the order of their keys. -/
namespace Groups
open List
universe u v
variable {α : Type u} {κ : Type v} [LinearOrder κ]

/-- Appends an item to the group of its key, or starts the group in its place. -/
def push (k : κ) (item : α) : List (κ × List α) → List (κ × List α)
  | [] => [(k, [item])]
  | (other, items) :: rest =>
    if k < other then (k, [item]) :: (other, items) :: rest
    else if k = other then (other, items ++ [item]) :: rest
    else (other, items) :: push k item rest

def group (key : α → κ) (items : List α) : List (κ × List α) :=
  items.foldl (fun groups item => push (key item) item groups) []

def itemsOf (k : κ) : List (κ × List α) → List α
  | [] => []
  | (first, items) :: rest => if k = first then items else itemsOf k rest

def Increasing (groups : List (κ × List α)) : Prop := (groups.map (·.1)).Pairwise (· < ·)

section Push
variable {k other : κ} {item : α} {groups : List (κ × List α)}

theorem mem_keys_push : other ∈ (push k item groups).map (·.1) ↔
    other = k ∨ other ∈ groups.map (·.1) := by
  induction groups with
  | nil => simp [push]
  | cons head rest ih =>
    obtain ⟨first, members⟩ := head
    unfold push
    split
    · simp
    · split
      · rename_i hSame
        simp [hSame]
      · rw [map_cons, mem_cons, ih, map_cons, mem_cons]
        exact or_left_comm

theorem Increasing.push (hGroups : Increasing groups) : Increasing (push k item groups) := by
  induction groups with
  | nil => exact pairwise_singleton _ _
  | cons head rest ih =>
    obtain ⟨first, members⟩ := head
    obtain ⟨hFirst, hRest⟩ := pairwise_cons.mp hGroups
    unfold Groups.push
    split
    · rename_i hBefore
      refine pairwise_cons.mpr ⟨?_, hGroups⟩
      intro next hNext
      rcases mem_cons.mp hNext with rfl | hNext
      · exact hBefore
      · exact lt_trans hBefore (hFirst next hNext)
    · split
      · exact hGroups
      · rename_i hNotBefore hOther
        refine pairwise_cons.mpr ⟨?_, ih hRest⟩
        intro next hNext
        rcases mem_keys_push.mp hNext with rfl | hNext
        · exact lt_of_le_of_ne (not_lt.mp hNotBefore) (Ne.symm hOther)
        · exact hFirst next hNext

theorem itemsOf_of_not_mem (hAbsent : k ∉ groups.map (·.1)) : itemsOf k groups = [] := by
  induction groups with
  | nil => rfl
  | cons head rest ih =>
    obtain ⟨first, members⟩ := head
    rw [map_cons, mem_cons, not_or] at hAbsent
    rw [itemsOf, if_neg hAbsent.1, ih hAbsent.2]

theorem itemsOf_push (hGroups : Increasing groups) : itemsOf other (push k item groups) =
      itemsOf other groups ++ if other = k then [item] else [] := by
  induction groups with
  | nil => simp [push, itemsOf]
  | cons head rest ih =>
    obtain ⟨first, members⟩ := head
    obtain ⟨hFirst, hRest⟩ := pairwise_cons.mp hGroups
    unfold push
    split
    · rename_i hBefore
      have hAbsent : k ∉ ((first, members) :: rest).map (·.1) := by
        rw [map_cons, mem_cons, not_or]
        exact ⟨ne_of_lt hBefore, fun hLater => lt_asymm hBefore (hFirst k hLater)⟩
      by_cases hOther : other = k
      · rw [hOther, itemsOf_of_not_mem hAbsent, itemsOf, if_pos rfl, if_pos rfl, nil_append]
      · rw [itemsOf, if_neg hOther, if_neg hOther, append_nil]
    · split
      · rename_i hSame
        by_cases hOther : other = first
        · rw [itemsOf, if_pos hOther, itemsOf, if_pos hOther, if_pos (hOther.trans hSame.symm)]
        · rw [itemsOf, if_neg hOther, itemsOf, if_neg hOther,
            if_neg (fun hKey => hOther (hKey.trans hSame)), append_nil]
      · rename_i hNotSame
        by_cases hOther : other = first
        · rw [itemsOf, if_pos hOther, itemsOf, if_pos hOther,
            if_neg (fun hKey => hNotSame (hKey.symm.trans hOther)), append_nil]
        · rw [itemsOf, if_neg hOther, itemsOf, if_neg hOther, ih hRest]

theorem eq_map_keys (hGroups : Increasing groups) :
    groups = (groups.map (·.1)).map fun k => (k, itemsOf k groups) := by
  induction groups with
  | nil => rfl
  | cons head rest ih =>
    obtain ⟨first, members⟩ := head
    obtain ⟨hFirst, hRest⟩ := pairwise_cons.mp hGroups
    have hSame : ∀ k ∈ rest.map (·.1), itemsOf k ((first, members) :: rest) = itemsOf k rest := by
      intro k hKey
      rw [itemsOf, if_neg (ne_of_gt (hFirst k hKey))]
    rw [map_cons, map_cons, itemsOf, if_pos rfl, map_congr_left fun k hKey =>
      congrArg (Prod.mk k) (hSame k hKey), ← ih hRest]

end Push

section Group
variable {key : α → κ} {items other : List α}

theorem group_append (key : α → κ) (items : List α) (item : α) :
    group key (items ++ [item]) = push (key item) item (group key items) := by
  rw [group, foldl_append]
  rfl

theorem increasing_group (key : α → κ) (items : List α) : Increasing (group key items) := by
  induction items using reverseRecOn with
  | nil => exact List.Pairwise.nil
  | append_singleton items item ih =>
    rw [group_append]
    exact ih.push

theorem mem_keys_group {k : κ} : k ∈ (group key items).map (·.1) ↔ k ∈ items.map key := by
  induction items using reverseRecOn with
  | nil => simp [group]
  | append_singleton items item ih =>
    rw [group_append, mem_keys_push, ih, map_append, mem_append, map_singleton,
      mem_singleton, or_comm]

theorem itemsOf_group (k : κ) : itemsOf k (group key items) = items.filter fun item => key item = k := by
  induction items using reverseRecOn with
  | nil => rfl
  | append_singleton items item ih =>
    rw [group_append, itemsOf_push (increasing_group key items), ih, filter_append]
    by_cases hKey : key item = k
    · simp [hKey]
    · simp [hKey, Ne.symm hKey]

/-- The groups are those of the keys that occur, each with the items that have
its key. -/
theorem group_eq (key : α → κ) (items : List α) :
    group key items = ((group key items).map (·.1)).map fun k =>
      (k, items.filter fun item => key item = k) := by
  have hGroups := eq_map_keys (increasing_group key items)
  simpa only [itemsOf_group] using hGroups

theorem keys_group_congr (hKeys : ∀ k, k ∈ other.map key ↔ k ∈ items.map key) :
    (group key other).map (·.1) = (group key items).map (·.1) := by
  apply (increasing_group key other).eq_of_mem_iff (increasing_group key items)
  intro k
  rw [mem_keys_group, mem_keys_group, hKeys]

end Group

/-- The last item of each key, in the order of the keys. -/
def lasts (key : α → κ) (items : List α) : List α :=
  (group key items).filterMap fun bucket => bucket.2.getLast?

section Lasts
variable {key : α → κ} {items : List α} {item : α}

theorem lasts_eq (key : α → κ) (items : List α) :
    lasts key items = ((group key items).map (·.1)).filterMap fun k =>
      (items.filter fun item => key item = k).getLast? := by
  rw [lasts, group_eq, filterMap_map]
  exact congrArg _ (by rw [← group_eq])

theorem last_of_key {k : κ}
    (hLast : (items.filter fun other => key other = k).getLast? = some item) :
    item ∈ items ∧ key item = k := by
  have hMember := mem_filter.mp (mem_of_mem_getLast? hLast)
  exact ⟨hMember.1, of_decide_eq_true hMember.2⟩

theorem mem_lasts : item ∈ lasts key items ↔
    (items.filter fun other => key other = key item).getLast? = some item := by
  rw [lasts_eq, mem_filterMap]
  constructor
  · rintro ⟨k, -, hLast⟩
    rwa [(last_of_key hLast).2]
  · intro hLast
    exact ⟨key item, mem_keys_group.mpr (mem_map_of_mem (last_of_key hLast).1), hLast⟩

theorem mem_of_mem_lasts (hItem : item ∈ lasts key items) : item ∈ items :=
  (last_of_key (mem_lasts.mp hItem)).1

theorem map_key_lasts (key : α → κ) (items : List α) :
    (lasts key items).map key = (group key items).map (·.1) := by
  rw [lasts_eq, map_filterMap]
  refine (filterMap_congr ?_).trans (filterMap_some ..)
  intro k hKey
  obtain ⟨item, hItem, rfl⟩ := mem_map.mp (mem_keys_group.mp hKey)
  cases hLast : (items.filter fun other => key other = key item).getLast? with
  | none =>
    rw [getLast?_eq_none_iff, filter_eq_nil_iff] at hLast
    exact absurd (decide_eq_true rfl) (hLast item hItem)
  | some last => exact congrArg some (last_of_key hLast).2

theorem strict_lasts (key : α → κ) (items : List α) :
    (lasts key items).Pairwise fun first second => key first < key second := by
  rw [← pairwise_map, map_key_lasts]
  exact increasing_group key items

theorem lasts_of_strict (hStrict : items.Pairwise fun first second => key first < key second) :
    lasts key items = items := by
  have hDistinct : (items.map key).Nodup := pairwise_map.mpr (hStrict.imp ne_of_lt)
  refine SortByKey.eq_of_strict hStrict (strict_lasts key items) fun item =>
    ⟨mem_of_mem_lasts, fun hItem => ?_⟩
  obtain ⟨kept, hKept, hSame⟩ := mem_map.mp
    (map_key_lasts key items ▸ mem_keys_group.mpr (mem_map_of_mem hItem))
  rwa [← inj_on_of_nodup_map hDistinct (mem_of_mem_lasts hKept) hItem hSame]

theorem nodup_map_lasts (key : α → κ) (items : List α) : ((lasts key items).map key).Nodup := by
  rw [map_key_lasts]
  exact (increasing_group key items).imp ne_of_lt

theorem length_lasts (key : α → κ) (items : List α) :
    (lasts key items).length = (items.map key).dedup.length := by
  have hPerm : ((lasts key items).map key).Perm (items.map key).dedup := by
    rw [perm_ext_iff_of_nodup (nodup_map_lasts key items) (nodup_dedup _)]
    intro k
    rw [map_key_lasts, mem_keys_group, mem_dedup]
  rw [← hPerm.length_eq, length_map]

end Lasts

section Counts
variable {α : Type u} {κ : Type v} [DecidableEq κ] {keys : List κ}

theorem countP_key_cons {k : κ} (hFresh : k ∉ keys) (key : α → κ) (p : α → Bool) (items : List α) :
    items.countP (fun item => p item && decide (key item ∈ k :: keys)) =
      items.countP (fun item => p item && decide (key item = k)) +
        items.countP (fun item => p item && decide (key item ∈ keys)) := by
  induction items with
  | nil => rfl
  | cons item rest ih =>
    simp only [countP_cons, ih]
    by_cases hKey : key item = k
    · have hLater : key item ∉ keys := hKey ▸ hFresh
      simp only [hKey, mem_cons_self, hFresh, decide_true, decide_false, Bool.and_true,
        Bool.and_false, Bool.false_eq_true, if_false]
      omega
    · simp only [mem_cons, hKey, false_or, decide_false, Bool.and_false, Bool.false_eq_true,
        if_false]
      omega

theorem sum_countP_key (hKeys : keys.Nodup) (key : α → κ) (p : α → Bool) (items : List α) :
    (keys.map fun k => items.countP fun item => p item && decide (key item = k)).sum =
      items.countP fun item => p item && decide (key item ∈ keys) := by
  induction keys with
  | nil => simp
  | cons k rest ih =>
    obtain ⟨hFresh, hRest⟩ := nodup_cons.mp hKeys
    rw [map_cons, sum_cons, ih hRest, countP_key_cons hFresh]

end Counts

end Groups
