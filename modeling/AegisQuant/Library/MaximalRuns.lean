import Mathlib.Data.List.Basic
import Mathlib.Tactic.LinearCombination
import Mathlib.Tactic.Linarith
import Mathlib.Tactic.Ring

/-! The maximal runs of consecutive items of a list that have a property, as a
scan with one open run finds them. The second part is about lists whose items
are one step apart, where a run is known by its first item and its length. -/
namespace MaximalRuns
open List Option
universe u
variable {α : Type u}

/-- What the end of an open run leaves behind. -/
def close : List α → List (List α)
  | [] => []
  | first :: rest => [first :: rest]

def runsFrom (p : α → Bool) (current : List α) : List α → List (List α)
  | [] => close current
  | item :: rest =>
    if p item then runsFrom p (current ++ [item]) rest else close current ++ runsFrom p [] rest

def runs (p : α → Bool) (items : List α) : List (List α) := runsFrom p [] items

/-- A nonempty block of items with the property that neither neighbour has. -/
structure IsRun (p : α → Bool) (before block after : List α) : Prop where
  nonempty : block ≠ []
  all : ∀ item ∈ block, p item = true
  left : ∀ item, before.getLast? = some item → p item = false
  right : ∀ item, after.head? = some item → p item = false

section Runs
variable {p : α → Bool} {before block current items : List α}

theorem mem_close : block ∈ close current ↔ block = current ∧ current ≠ [] := by
  cases current with
  | nil => simp [close]
  | cons first rest => simp [close]

@[simp] theorem flatten_close (current : List α) : (close current).flatten = current := by
  cases current with
  | nil => rfl
  | cons first rest => simp [close]

theorem flatten_runsFrom (p : α → Bool) (current items : List α) :
    (runsFrom p current items).flatten = current ++ items.filter p := by
  induction items generalizing current with
  | nil => simp [runsFrom]
  | cons item rest ih =>
    cases hItem : p item with
    | true => simp [runsFrom, hItem, ih]
    | false => simp [runsFrom, hItem, ih]

theorem flatten_runs (p : α → Bool) (items : List α) : (runs p items).flatten = items.filter p :=
  flatten_runsFrom p [] items

theorem isRun_of_mem_runsFrom (hLeft : ∀ item, before.getLast? = some item → p item = false)
    (hCurrent : ∀ item ∈ current, p item = true) (hBlock : block ∈ runsFrom p current items) :
    ∃ front back, before ++ current ++ items = front ++ block ++ back ∧
      before.length ≤ front.length ∧ IsRun p front block back := by
  induction items generalizing before current with
  | nil =>
    obtain ⟨rfl, hSome⟩ := mem_close.mp hBlock
    exact ⟨before, [], rfl, le_rfl, hSome, hCurrent, hLeft, fun item hHead => nomatch hHead⟩
  | cons item rest ih =>
    cases hItem : p item with
    | true =>
      rw [runsFrom, hItem, if_pos rfl] at hBlock
      have hLonger : ∀ other ∈ current ++ [item], p other = true := by
        intro other hOther
        rcases mem_append.mp hOther with hOther | hOther
        · exact hCurrent other hOther
        · rw [mem_singleton.mp hOther]
          exact hItem
      obtain ⟨front, back, hSplit, hLength, hRun⟩ := ih hLeft hLonger hBlock
      refine ⟨front, back, ?_, hLength, hRun⟩
      rw [← hSplit, append_assoc, append_assoc, append_assoc]
      rfl
    | false =>
      rw [runsFrom, hItem, if_neg Bool.false_ne_true, mem_append] at hBlock
      rcases hBlock with hClosed | hLater
      · obtain ⟨rfl, hSome⟩ := mem_close.mp hClosed
        refine ⟨before, item :: rest, rfl, le_rfl, hSome, hCurrent, hLeft, ?_⟩
        intro other hHead
        cases hHead
        exact hItem
      · have hBoundary : ∀ other, (before ++ current ++ [item]).getLast? = some other →
            p other = false := by
          intro other hLast
          rw [getLast?_append] at hLast
          cases hLast
          exact hItem
        have hNone : ∀ other ∈ ([] : List α), p other = true := fun _ hOther => nomatch hOther
        obtain ⟨front, back, hSplit, hLength, hRun⟩ := ih hBoundary hNone hLater
        refine ⟨front, back, ?_, ?_, hRun⟩
        · rw [← hSplit, append_nil, append_assoc (before ++ current)]
          rfl
        · simp only [length_append] at hLength
          omega

theorem isRun_of_mem (hBlock : block ∈ runs p items) :
    ∃ front back, items = front ++ block ++ back ∧ IsRun p front block back := by
  have hLeft : ∀ item, ([] : List α).getLast? = some item → p item = false := fun _ hLast => nomatch hLast
  have hCurrent : ∀ item ∈ ([] : List α), p item = true := fun _ hItem => nomatch hItem
  obtain ⟨front, back, hSplit, -, hRun⟩ := isRun_of_mem_runsFrom hLeft hCurrent hBlock
  exact ⟨front, back, hSplit, hRun⟩

/-- Two blocks that follow each other with something in between. -/
def Apart (items earlier later : List α) : Prop :=
  ∃ before between after, items = before ++ earlier ++ between ++ later ++ after ∧ between ≠ []

theorem pairwise_runsFrom (p : α → Bool) (before current items : List α) :
    (runsFrom p current items).Pairwise (Apart (before ++ current ++ items)) := by
  induction items generalizing before current with
  | nil =>
    cases current with
    | nil => exact List.Pairwise.nil
    | cons first rest => exact pairwise_singleton _ _
  | cons item rest ih =>
    cases hItem : p item with
    | true =>
      rw [runsFrom, hItem, if_pos rfl]
      have hRest := ih before (current ++ [item])
      rw [← append_assoc, append_assoc _ [item]] at hRest
      exact hRest
    | false =>
      rw [runsFrom, hItem, if_neg Bool.false_ne_true]
      refine pairwise_append.mpr ⟨?_, ?_, ?_⟩
      · cases current with
        | nil => exact List.Pairwise.nil
        | cons first rest => exact pairwise_singleton _ _
      · have hRest := ih (before ++ current ++ [item]) []
        rw [append_nil, append_assoc _ [item]] at hRest
        exact hRest
      · intro earlier hEarlier later hLater
        obtain ⟨rfl, -⟩ := mem_close.mp hEarlier
        obtain ⟨front, back, hSplit, -⟩ := isRun_of_mem hLater
        refine ⟨before, item :: front, back, ?_, cons_ne_nil _ _⟩
        rw [hSplit]
        simp

theorem pairwise_runs (p : α → Bool) (items : List α) : (runs p items).Pairwise (Apart items) :=
  pairwise_runsFrom p [] [] items

end Runs

/-- So many points, each a step after the one before it. -/
def progression (step : Int) : Nat → Int → List Int
  | 0, _ => []
  | count + 1, first => first :: progression step count (first + step)

section Progression
variable {step first point : Int} {count : Nat}

@[simp] theorem length_progression (step : Int) (count : Nat) (first : Int) :
    (progression step count first).length = count := by
  induction count generalizing first with
  | zero => rfl
  | succ count ih => rw [progression, length_cons, ih]

theorem mem_progression :
    point ∈ progression step count first ↔ ∃ i < count, point = first + (i : Nat) * step := by
  induction count generalizing first with
  | zero => simp [progression]
  | succ count ih =>
    rw [progression, mem_cons, ih]
    constructor
    · rintro (rfl | ⟨i, hIndex, rfl⟩)
      · exact ⟨0, Nat.succ_pos _, by simp⟩
      · refine ⟨i + 1, Nat.succ_lt_succ hIndex, ?_⟩
        push_cast
        ring
    · rintro ⟨i, hIndex, rfl⟩
      cases i with
      | zero => exact .inl (by simp)
      | succ i =>
        refine .inr ⟨i, Nat.lt_of_succ_lt_succ hIndex, ?_⟩
        push_cast
        ring

theorem getElem?_progression {index : Nat} (hIndex : index < count) :
    (progression step count first)[index]? = some (first + index * step) := by
  induction count generalizing first index with
  | zero => omega
  | succ count ih =>
    cases index with
    | zero => simp [progression]
    | succ index =>
      rw [progression, getElem?_cons_succ, ih (Nat.lt_of_succ_lt_succ hIndex)]
      push_cast
      ring_nf

theorem pairwise_progression (hStep : 0 < step) (count : Nat) (first : Int) :
    (progression step count first).Pairwise (· < ·) := by
  induction count generalizing first with
  | zero => exact List.Pairwise.nil
  | succ count ih =>
    refine pairwise_cons.mpr ⟨?_, ih _⟩
    intro point hPoint
    obtain ⟨i, -, rfl⟩ := mem_progression.mp hPoint
    have hBehind : 0 ≤ (i : Int) * step := Int.mul_nonneg (Int.natCast_nonneg i) hStep.le
    omega

/-- Neighbours are a step apart. -/
theorem sub_of_mem_zip_progression {pair : Int × Int}
    (hPair : pair ∈ (progression step count first).zip (progression step count first).tail) :
    pair.2 - pair.1 = step := by
  induction count generalizing first with
  | zero => cases hPair
  | succ count ih =>
    cases count with
    | zero => cases hPair
    | succ count =>
      rcases mem_cons.mp hPair with rfl | hRest
      · exact add_sub_cancel_left first step
      · exact ih hRest

theorem progression_eq_append {before after : List Int}
    (hSplit : progression step count first = before ++ after) :
    before = progression step before.length first ∧
      after = progression step after.length (first + before.length * step) := by
  induction before generalizing count first with
  | nil =>
    rw [nil_append] at hSplit
    refine ⟨rfl, ?_⟩
    rw [← hSplit, length_progression]
    simp
  | cons point before ih =>
    cases count with
    | zero => cases hSplit
    | succ count =>
      rw [progression, cons_append] at hSplit
      injection hSplit with hFirst hRest
      obtain ⟨hBefore, hAfter⟩ := ih hRest
      refine ⟨?_, ?_⟩
      · rw [length_cons, progression, ← hFirst, ← hBefore]
      · rw [length_cons]
        have hShift : first + ((before.length + 1 : Nat) : Int) * step =
            first + step + before.length * step := by
          push_cast
          ring
        rw [hShift, ← hAfter]

variable {items : List Int}

theorem lt_of_mem_zip_tail (hSorted : items.Pairwise (· < ·)) {pair : Int × Int}
    (hPair : pair ∈ items.zip items.tail) : pair.1 < pair.2 := by
  induction items with
  | nil => cases hPair
  | cons item rest ih =>
    cases rest with
    | nil => cases hPair
    | cons next rest =>
      obtain ⟨hFirst, hRest⟩ := pairwise_cons.mp hSorted
      rcases mem_cons.mp hPair with rfl | hLater
      · exact hFirst next (mem_cons_self ..)
      · exact ih hRest hLater

theorem eq_progression_of_zip (hHead : items.head? = some first)
    (hApart : ∀ pair ∈ items.zip items.tail, pair.2 - pair.1 = step) :
    items = progression step items.length first := by
  induction items generalizing first with
  | nil => cases hHead
  | cons item rest ih =>
    obtain rfl := some.inj hHead
    rw [length_cons, progression]
    cases rest with
    | nil => rfl
    | cons next rest =>
      rw [tail_cons, zip_cons_cons] at hApart
      have hNext : next - item = step := hApart (item, next) (mem_cons_self ..)
      have hRest := ih (head?_cons ..) fun pair hPair =>
        hApart pair (mem_cons_of_mem _ hPair)
      have hSecond : next = item + step := by omega
      rw [← hSecond, ← hRest]

theorem points_succ_iff (hStep : 0 < step) {rest : List Int} :
    (∀ i ≤ count + 1, first + (i : Nat) * step ∈ first :: rest) ↔
      ∀ i ≤ count, first + step + (i : Nat) * step ∈ rest := by
  have hBehind : ∀ i : Nat, first + ((i + 1 : Nat) : Int) * step = first + step + i * step := by
    intro i
    push_cast
    ring
  constructor
  · intro hAll i hIndex
    have hPoint := hAll (i + 1) (Nat.succ_le_succ hIndex)
    rw [hBehind] at hPoint
    have hBeyond : 0 ≤ (i : Int) * step := Int.mul_nonneg (Int.natCast_nonneg i) hStep.le
    exact (mem_cons.mp hPoint).resolve_left (by omega)
  · intro hAll i hIndex
    cases i with
    | zero => simp
    | succ i =>
      rw [hBehind]
      exact mem_cons_of_mem _ (hAll i (Nat.le_of_succ_le_succ hIndex))

/-- Increasing items on the grid of the first one begin with a progression
exactly when its points are among them. -/
theorem take_eq_progression_iff (hStep : 0 < step) (hSorted : items.Pairwise (· < ·))
    (hHead : items.head? = some first) (hGrid : ∀ item ∈ items, step ∣ item - first) :
    items.take (count + 1) = progression step (count + 1) first ↔
      ∀ i ≤ count, first + (i : Nat) * step ∈ items := by
  induction count generalizing items first with
  | zero =>
    obtain ⟨rest, rfl⟩ := head?_eq_some_iff.mp hHead
    simp [progression]
  | succ count ih =>
    obtain ⟨rest, rfl⟩ := head?_eq_some_iff.mp hHead
    obtain ⟨hFirst, hRest⟩ := pairwise_cons.mp hSorted
    have hGap : ∀ item ∈ rest, first + step ≤ item := by
      intro item hItem
      have hLe := Int.le_of_dvd (Int.sub_pos_of_lt (hFirst item hItem))
        (hGrid item (mem_cons_of_mem _ hItem))
      omega
    rw [points_succ_iff hStep, take_succ_cons, progression, cons.injEq, and_iff_right rfl]
    by_cases hNext : rest.head? = some (first + step)
    · apply ih hRest hNext
      intro item hItem
      have hShift : item - (first + step) = item - first - step := by omega
      rw [hShift]
      exact Int.dvd_sub (hGrid item (mem_cons_of_mem _ hItem)) (Int.dvd_refl step)
    · apply iff_of_false
      · intro hSame
        apply hNext
        have hTaken := congrArg head? hSame
        rwa [head?_take, if_neg (Nat.succ_ne_zero count)] at hTaken
      · intro hAll
        have hPoint := hAll 0 (Nat.zero_le _)
        rw [Int.natCast_zero, zero_mul, add_zero] at hPoint
        obtain ⟨second, more, rfl⟩ := exists_cons_of_ne_nil (ne_nil_of_mem hPoint)
        rcases mem_cons.mp hPoint with hSecond | hLater
        · exact hNext (congrArg some hSecond.symm)
        · have hBelow := (pairwise_cons.mp hRest).1 _ hLater
          have hAtLeast := hGap second (mem_cons_self ..)
          omega

section Blocks
variable {front block back earlier later : List Int} {p : Int → Bool}

theorem block_of_progression (hSplit : progression step count first = front ++ block ++ back) :
    block = progression step block.length (first + front.length * step) ∧
      back = progression step back.length (first + (front.length + block.length) * step) ∧
      front.length + block.length + back.length = count := by
  have hCount : front.length + block.length + back.length = count := by
    rw [← length_progression step count first, hSplit, length_append, length_append]
  rw [append_assoc] at hSplit
  obtain ⟨-, hRest⟩ := progression_eq_append hSplit
  obtain ⟨hBlock, hBack⟩ := progression_eq_append hRest.symm
  rw [add_assoc, ← add_mul] at hBack
  exact ⟨hBlock, hBack, hCount⟩

theorem head?_progression (hCount : count ≠ 0) :
    (progression step count first).head? = some first := by
  cases count with
  | zero => exact absurd rfl hCount
  | succ count => rfl

theorem getLast?_progression (hCount : count ≠ 0) :
    (progression step count first).getLast? = some (first + (count - 1) * step) := by
  induction count generalizing first with
  | zero => exact absurd rfl hCount
  | succ count ih =>
    cases count with
    | zero => simp [progression]
    | succ count =>
      rw [progression, progression, getLast?_cons_cons]
      have hRest : (progression step (count + 1) (first + step)).getLast? =
          some (first + step + ((count + 1 : Nat) - 1) * step) := ih (Nat.succ_ne_zero count)
      rw [progression] at hRest
      rw [hRest]
      congr 1
      push_cast
      ring

theorem outside_of_isRun (hStep : 0 < step)
    (hSplit : progression step count first = front ++ block ++ back) (hRun : IsRun p front block back)
    (hPoint : point ∈ progression step count first)
    (hSide : point = first + front.length * step - step ∨
      point = first + front.length * step + block.length * step) : p point = false := by
  obtain ⟨hBlock, hBack, hCount⟩ := block_of_progression hSplit
  obtain ⟨i, hIndex, rfl⟩ := mem_progression.mp hPoint
  rcases hSide with hBefore | hAfter
  · have hPosition : (i + 1 : Int) = front.length := by
      apply mul_right_cancel₀ hStep.ne'
      linear_combination hBefore
    have hSome : front.length ≠ 0 := by omega
    apply hRun.left
    rw [append_assoc] at hSplit
    rw [(progression_eq_append hSplit).1, getLast?_progression hSome, ← hPosition, add_sub_cancel_right]
  · have hPosition : (i : Int) = front.length + block.length := by
      apply mul_right_cancel₀ hStep.ne'
      linear_combination hAfter
    have hSome : back.length ≠ 0 := by omega
    apply hRun.right
    rw [hBack, head?_progression hSome, ← hPosition]

/-- Blocks with something in between leave a point out. -/
theorem lt_of_apart (hStep : 0 < step) (hApart : Apart (progression step count first) earlier later)
    {start next : Int} (hEarlier : earlier.head? = some start) (hLater : later.head? = some next) :
    start + earlier.length * step < next := by
  obtain ⟨before, between, after, hSplit, hBetween⟩ := hApart
  have hNext := hSplit
  rw [append_assoc, append_assoc] at hSplit
  obtain ⟨hFirst, -, -⟩ := block_of_progression hSplit
  obtain ⟨hSecond, -, -⟩ := block_of_progression hNext
  have hStart : earlier.length ≠ 0 := by
    intro hNone
    rw [length_eq_zero_iff.mp hNone] at hEarlier
    cases hEarlier
  have hEnd : later.length ≠ 0 := by
    intro hNone
    rw [length_eq_zero_iff.mp hNone] at hLater
    cases hLater
  rw [hFirst, head?_progression hStart] at hEarlier
  rw [hSecond, head?_progression hEnd] at hLater
  obtain rfl := some.inj hEarlier
  obtain rfl := some.inj hLater
  have hRoom : 0 < (between.length : Int) * step :=
    Int.mul_pos (Int.natCast_pos.mpr (length_pos_iff.mpr hBetween)) hStep
  simp only [length_append]
  push_cast
  linarith

end Blocks

end Progression

end MaximalRuns
