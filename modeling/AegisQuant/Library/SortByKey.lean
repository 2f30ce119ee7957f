import Mathlib.Data.List.Sort
import Mathlib.Data.Prod.Lex

/-! Sorting by a key. Items with distinct keys have one sorted order, however
they arrive. A comparator sorts by a key when it compares the keys, which it does
part by part when the key is a lexicographic one. -/
namespace SortByKey
open List
universe u v w x
variable {α : Type u} {κ : Type v} [LinearOrder κ] (key : α → κ)

/-- Stable insertion by the key. -/
def sort (items : List α) : List α :=
  items.insertionSort (fun left right => key left ≤ key right)

def compareBy (left right : α) : Ordering := compare (key left) (key right)

/-- Stable insertion by a comparator. -/
def sortBy (cmp : α → α → Ordering) (items : List α) : List α :=
  items.insertionSort (fun left right => (cmp left right).isLE)

instance totalByKey : Std.Total (fun left right : α => key left ≤ key right) :=
  ⟨fun left right => le_total (key left) (key right)⟩

instance transByKey : IsTrans α (fun left right : α => key left ≤ key right) :=
  ⟨fun _ _ _ hFirst hSecond => le_trans hFirst hSecond⟩

theorem perm_sort (items : List α) : (sort key items).Perm items :=
  perm_insertionSort _ items

theorem pairwise_sort (items : List α) :
    (sort key items).Pairwise (fun left right => key left ≤ key right) :=
  pairwise_insertionSort _ items

variable {key} {items other : List α}

theorem sort_of_pairwise (hSorted : items.Pairwise (fun left right => key left ≤ key right)) :
    sort key items = items := hSorted.insertionSort_eq

theorem nodup_sort (hDistinct : (items.map key).Nodup) : ((sort key items).map key).Nodup :=
  ((perm_sort key items).map key).nodup_iff.mpr hDistinct

omit [LinearOrder κ] in
theorem nodup_map_of_decides {β : Type w} {name : α → β}
    (hDecides : ∀ left right, key left = key right → name left = name right)
    (hDistinct : (items.map name).Nodup) : (items.map key).Nodup :=
  pairwise_map.mpr <| (pairwise_map.mp hDistinct).imp fun hNames hKeys =>
    hNames (hDecides _ _ hKeys)

theorem strict_sort (hDistinct : (items.map key).Nodup) :
    (sort key items).Pairwise (fun left right => key left < key right) := by
  have hKeys := pairwise_map.mp (nodup_sort hDistinct)
  exact ((pairwise_sort key items).and hKeys).imp fun hBoth => lt_of_le_of_ne hBoth.1 hBoth.2

theorem sort_eq_of_perm (hPerm : other.Perm items) (hDistinct : (items.map key).Nodup) :
    sort key other = sort key items := by
  have hSame : (sort key other).Perm (sort key items) :=
    ((perm_sort key other).trans hPerm).trans (perm_sort key items).symm
  refine hSame.eq_of_pairwise ?_ (pairwise_sort key other) (pairwise_sort key items)
  intro left right hLeft hRight hBelow hAbove
  exact inj_on_of_nodup_map (nodup_sort hDistinct) (hSame.mem_iff.mp hLeft) hRight
    (le_antisymm hBelow hAbove)

theorem eq_of_strict (hItems : items.Pairwise (fun left right => key left < key right))
    (hOther : other.Pairwise (fun left right => key left < key right))
    (hSame : ∀ item, item ∈ other ↔ item ∈ items) : other = items := by
  have hIrrefl : Std.Irrefl (fun left right : α => key left < key right) :=
    ⟨fun item => lt_irrefl (key item)⟩
  have hAntisymm : Std.Antisymm (fun left right : α => key left < key right) :=
    ⟨fun _ _ hBelow hAbove => absurd hAbove (lt_asymm hBelow)⟩
  exact hOther.eq_of_mem_iff hItems hSame

variable {β : Type w} {μ : Type x} [LinearOrder μ]

theorem compare_toLex (left right : κ) (left' right' : μ) :
    compare (toLex (left, left')) (toLex (right, right')) =
      (compare left right).then (compare left' right') := by
  rw [Prod.Lex.compare_def]
  rfl

theorem isLE_compareBy (left right : α) :
    (compareBy key left right).isLE = true ↔ key left ≤ key right :=
  Ordering.isLE_iff_ne_gt.trans compare_le_iff_le

theorem sortBy_compareBy : sortBy (compareBy key) items = sort key items := by
  have hBelow : (fun left right => (compareBy key left right).isLE = true) =
      fun left right => key left ≤ key right := by
    funext left right
    exact propext (isLE_compareBy left right)
  unfold sortBy sort
  congr!

/-- A map under which two keys order the items alike may be taken before the
items are sorted or after it. -/
theorem map_sort {other : β → μ} {f : α → β}
    (hAlike : ∀ left ∈ items, ∀ right ∈ items,
      (key left ≤ key right ↔ other (f left) ≤ other (f right))) :
    (sort key items).map f = sort other (items.map f) :=
  map_insertionSort _ _ f items hAlike

theorem filter_sort (hDistinct : (items.map key).Nodup) (keep : α → Bool) :
    (sort key items).filter keep = sort key (items.filter keep) := by
  have hSorted := (pairwise_sort key items).filter keep
  have hKeys : ((items.filter keep).map key).Nodup :=
    hDistinct.sublist (filter_sublist.map key)
  calc (sort key items).filter keep
      = sort key ((sort key items).filter keep) := (sort_of_pairwise hSorted).symm
    _ = sort key (items.filter keep) := sort_eq_of_perm ((perm_sort key items).filter keep) hKeys

section Heads
variable {other : α → μ} {count : Nat}

omit [LinearOrder κ] in
/-- In strict order an item is among the first ones when few items come before it. -/
theorem mem_take_iff_countP {sorted : List α}
    (hSorted : sorted.Pairwise (fun left right => other left < other right)) {item : α}
    (hItem : item ∈ sorted) :
    item ∈ sorted.take count ↔ sorted.countP (fun before => other before < other item) < count := by
  induction sorted generalizing count with
  | nil => exact absurd hItem not_mem_nil
  | cons first rest ih =>
    obtain ⟨hFirst, hRest⟩ := pairwise_cons.mp hSorted
    cases count with
    | zero => simp
    | succ count =>
      rw [take_succ_cons, mem_cons, countP_cons]
      rcases mem_cons.mp hItem with rfl | hLater
      · have hNone : rest.countP (fun before => other before < other item) = 0 := by
          rw [countP_eq_zero]
          intro before hBefore
          simpa using (hFirst before hBefore).le
        simp [hNone]
      · have hBelow := hFirst item hLater
        have hNe : item ≠ first := fun hSame => absurd (hSame ▸ hBelow) (lt_irrefl _)
        rw [ih hRest hLater, or_iff_right hNe, decide_eq_true hBelow, if_pos rfl]
        omega

theorem lt_of_strict_of_strict {sorted : List α}
    (hKey : sorted.Pairwise (fun left right => key left < key right))
    (hOther : sorted.Pairwise (fun left right => other left < other right))
    {left right : α} (hLeft : left ∈ sorted) (hRight : right ∈ sorted)
    (hBelow : other left < other right) : key left < key right := by
  have hAlike := List.Pairwise.forall_of_forall_of_flip
    (fun item _ hLt => absurd hLt (lt_irrefl (other item)))
    (hKey.imp fun {first second} hLt (_ : other first < other second) => hLt)
    (hOther.imp fun hAbove hLt => absurd hLt (lt_asymm hAbove))
  exact hAlike hLeft hRight hBelow

/-- The first items by the other key, as many as the count, come by the key
before every item that comes after them. -/
def KeepsHead (key : α → κ) (other : α → μ) (count : Nat) (items : List α) : Prop :=
  ∀ left ∈ items, items.countP (fun before => other before < other left) < count →
    ∀ right ∈ items, other left < other right → key left < key right

theorem mem_take_sort_iff (hOthers : (items.map other).Nodup) {item : α} (hItem : item ∈ items) :
    item ∈ (sort other items).take count ↔
      items.countP (fun before => other before < other item) < count := by
  have hSorted := (perm_sort other items).mem_iff.mpr hItem
  rw [mem_take_iff_countP (strict_sort hOthers) hSorted, (perm_sort other items).countP_eq]

theorem keepsHead_of_take_sort_eq (hKeys : (items.map key).Nodup)
    (hOthers : (items.map other).Nodup)
    (hSame : (sort key items).take count = (sort other items).take count) :
    KeepsHead key other count items := by
  intro left hLeft hFew right hRight hBelow
  have hTaken := (mem_take_sort_iff hOthers hLeft).mpr hFew
  rw [← hSame] at hTaken
  have hKey := strict_sort hKeys
  have hSomewhere : right ∈ (sort key items).take count ++ (sort key items).drop count := by
    rw [take_append_drop, (perm_sort key items).mem_iff]
    exact hRight
  rcases mem_append.mp hSomewhere with hAlso | hAfter
  · have hTakeKey := hKey.sublist (take_sublist count _)
    have hTakeOther := (strict_sort hOthers).sublist (take_sublist count _)
    rw [← hSame] at hTakeOther
    exact lt_of_strict_of_strict hTakeKey hTakeOther hTaken hAlso hBelow
  · exact hKey.rel_of_mem_take_of_mem_drop hTaken hAfter

/-- The items after the head, sorted by the key, follow it in the order of the key. -/
theorem take_sort_eq_of_keepsHead (hKeys : (items.map key).Nodup)
    (hOthers : (items.map other).Nodup) (hKeeps : KeepsHead key other count items) :
    (sort key items).take count = (sort other items).take count := by
  have hOther := strict_sort hOthers
  have hItems : ∀ item, item ∈ sort other items → item ∈ items :=
    fun item => (perm_sort other items).mem_iff.mp
  have hBefore : ∀ left ∈ (sort other items).take count, ∀ right ∈ sort other items,
      other left < other right → key left ≤ key right := by
    intro left hLeft right hRight hBelow
    have hLeftItem := hItems left (mem_of_mem_take hLeft)
    have hFew := (mem_take_sort_iff hOthers hLeftItem).mp hLeft
    exact (hKeeps left hLeftItem hFew right (hItems right hRight) hBelow).le
  have hSorted : ((sort other items).take count ++ sort key ((sort other items).drop count)).Pairwise
      (fun left right => key left ≤ key right) := by
    apply pairwise_append.mpr
    refine ⟨?_, pairwise_sort key _, ?_⟩
    · apply (hOther.sublist (take_sublist count _)).imp_of_mem
      intro left right hLeft hRight hBelow
      exact hBefore left hLeft right (mem_of_mem_take hRight) hBelow
    · intro left hLeft right hRight
      have hDropped := (perm_sort key _).mem_iff.mp hRight
      exact hBefore left hLeft right (mem_of_mem_drop hDropped)
        (hOther.rel_of_mem_take_of_mem_drop hLeft hDropped)
  have hPerm : ((sort other items).take count ++ sort key ((sort other items).drop count)).Perm
      items := by
    apply List.Perm.trans _ (perm_sort other items)
    conv_rhs => rw [← take_append_drop count (sort other items)]
    exact (perm_sort key _).append_left _
  rw [← sort_eq_of_perm hPerm hKeys, sort_of_pairwise hSorted, take_append, take_take,
    min_self, length_take]
  by_cases hShort : (sort other items).length ≤ count
  · rw [drop_of_length_le hShort]
    simp [sort]
  · have hFull : count - min count (sort other items).length = 0 := by omega
    rw [hFull, take_zero, append_nil]

end Heads

end SortByKey
