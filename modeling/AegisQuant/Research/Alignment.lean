import AegisQuant.Research.CrossAsset

/-! The alignment of the candles of several symbols. The aligned times
increase and every symbol has a candle at each of them; the rows of two runs
agree as far as their candles do. -/
namespace AegisQuant.Research
open List Option

/-- What the alignment has done with the symbols so far. -/
structure Aligned (request : CrossAssetResearchRequest) (interval : CandleInterval)
    (candlesBySymbol : String → Option (List Candle)) (done : List String)
    (alignment : Alignment) : Prop where
  started : alignment.alignedTimes = none → done = []
  increasing : ∀ times, alignment.alignedTimes = some times → times.Pairwise (· < ·)
  covered : ∀ times, alignment.alignedTimes = some times → ∀ symbol ∈ done, ∀ time ∈ times,
    time ∈ openTimes (windowCandles request interval ((candlesBySymbol symbol).getD []))
  normalized : ∀ symbol, alignment.normalized symbol = if symbol ∈ done then
    windowCandles request interval ((candlesBySymbol symbol).getD []) else []

/-- The rows of two runs are equally many and agree at the first `k`. -/
structure RowsAgree (k : Nat) (first second : List Candle) : Prop where
  length : first.length = second.length
  take : first.take k = second.take k

section Alignment
variable {request : CrossAssetResearchRequest} {interval : CandleInterval}
  {candlesBySymbol : String → Option (List Candle)} {done : List String} {symbol : String}
  {alignment next : Alignment}

theorem Aligned.step (hAligned : Aligned request interval candlesBySymbol done alignment)
    (hStep : alignSymbol request interval candlesBySymbol alignment symbol = .ok next) :
    Aligned request interval candlesBySymbol (done ++ [symbol]) next := by
  unfold alignSymbol at hStep
  split at hStep
  · cases hStep
  · rename_i candles hCandles
    cases hStep
    have hOwn : (candlesBySymbol symbol).getD [] = candles := by rw [hCandles, getD_some]
    refine ⟨by simp, ?_, ?_, ?_⟩
    · rintro times ⟨⟩
      split
      · rename_i existing hExisting
        exact (hAligned.increasing existing hExisting).sublist filter_sublist
      · exact Groups.increasing_group _ _
    · rintro times ⟨⟩ other hOther time hTime
      rcases mem_append.mp hOther with hDone | hLast
      · split at hTime
        · rename_i existing hExisting
          exact hAligned.covered existing hExisting other hDone time (mem_filter.mp hTime).1
        · rename_i hNone
          rw [hAligned.started hNone] at hDone
          cases hDone
      · rw [mem_singleton.mp hLast, hOwn]
        split at hTime
        · exact of_decide_eq_true (mem_filter.mp hTime).2
        · exact hTime
    · intro other
      dsimp only
      by_cases hSame : other = symbol
      · rw [hSame, Function.update_self, hOwn, if_pos (by simp)]
      · rw [Function.update_of_ne hSame, hAligned.normalized other]
        simp only [mem_append, mem_singleton, hSame, or_false]

theorem aligned_of_foldlM {symbols : List String}
    (hFold : symbols.foldlM (alignSymbol request interval candlesBySymbol) ⟨none, fun _ => []⟩ =
      .ok alignment) : Aligned request interval candlesBySymbol symbols alignment := by
  refine Fallible.foldlM_invariant_of_done (fun _ _ _ _ hAligned hStep => hAligned.step hStep) ?_ hFold
  exact ⟨fun _ => rfl, by simp, by simp, by simp⟩

variable {candles : List Candle}

theorem candleAt_isSome {time : DateTime} (hTime : time ∈ openTimes candles) :
    (candleAt candles time).isSome := by
  obtain ⟨candle, hCandle, hOpen⟩ := mem_map.mp (Groups.mem_keys_group.mp hTime)
  rw [candleAt, isSome_iff_ne_none, ne_eq, getLast?_eq_none_iff]
  exact ne_nil_of_mem (mem_filter.mpr ⟨hCandle, decide_eq_true hOpen⟩)

theorem map_some_filterMap {α β : Type} {f : α → Option β} {items : List α}
    (hSome : ∀ item ∈ items, (f item).isSome) : (items.filterMap f).map some = items.map f := by
  induction items with
  | nil => rfl
  | cons item rest ih =>
    obtain ⟨hItem, hRest⟩ := forall_mem_cons.mp hSome
    obtain ⟨value, hValue⟩ := isSome_iff_exists.mp hItem
    rw [filterMap_cons_some hValue, map_cons, map_cons, ih hRest, hValue]

theorem filterMap_candleAt_nil (times : List DateTime) : times.filterMap (candleAt []) = [] :=
  filterMap_eq_nil_iff.mpr fun _ _ => rfl

theorem takeRows_agree {times times' : List DateTime} {k : Nat} (symbols : List String)
    {normalized normalized' rows rows' : String → List Candle}
    (hNormalized : ∀ symbol, RowsAgree k (times.filterMap (candleAt (normalized symbol)))
      (times'.filterMap (candleAt (normalized' symbol))))
    (hRows : ∀ symbol, RowsAgree k (rows symbol) (rows' symbol)) (symbol : String) :
    RowsAgree k (takeRows times symbols normalized rows symbol)
      (takeRows times' symbols normalized' rows' symbol) := by
  induction symbols generalizing normalized normalized' rows rows' with
  | nil => exact hRows symbol
  | cons head rest ih =>
    apply ih
    · intro other
      by_cases hSame : other = head
      · rw [hSame, Function.update_self, Function.update_self, filterMap_candleAt_nil,
          filterMap_candleAt_nil]
        exact ⟨rfl, rfl⟩
      · rw [Function.update_of_ne hSame, Function.update_of_ne hSame]
        exact hNormalized other
    · intro other
      by_cases hSame : other = head
      · rw [hSame, Function.update_self, Function.update_self]
        exact hNormalized head
      · rw [Function.update_of_ne hSame, Function.update_of_ne hSame]
        exact hRows other

section
variable (times : List DateTime) (symbols : List String) {normalized rows : String → List Candle}

theorem length_takeRows_le (hRows : ∀ symbol, (rows symbol).length ≤ times.length) (symbol : String)
    :
    (takeRows times symbols normalized rows symbol).length ≤ times.length := by
  induction symbols generalizing normalized rows with
  | nil => exact hRows symbol
  | cons head rest ih =>
    apply ih
    intro other
    by_cases hSame : other = head
    · rw [hSame, Function.update_self]
      exact length_filterMap_le _ _
    · rw [Function.update_of_ne hSame]
      exact hRows other

theorem takeRows_cases (symbol : String) : takeRows times symbols normalized rows symbol = [] ∨
      takeRows times symbols normalized rows symbol =
        times.filterMap (candleAt (normalized symbol)) ∨
      takeRows times symbols normalized rows symbol = rows symbol := by
  induction symbols generalizing normalized rows with
  | nil => exact Or.inr (Or.inr rfl)
  | cons head rest ih =>
    have hRest := @ih (Function.update normalized head [])
      (Function.update rows head (times.filterMap (candleAt (normalized head))))
    rw [← takeRows] at hRest
    by_cases hSame : symbol = head
    · rw [hSame, Function.update_self, Function.update_self, filterMap_candleAt_nil] at hRest
      rw [hSame]
      rcases hRest with hNone | hNone | hRows
      · exact Or.inl hNone
      · exact Or.inl hNone
      · exact Or.inr (Or.inl hRows)
    · rwa [Function.update_of_ne hSame, Function.update_of_ne hSame] at hRest

end

theorem candleAt_eq_some {time : DateTime} {candle : Candle}
    (hCandle : candleAt candles time = some candle) :
    candle ∈ candles ∧ candle.openTime = time := by
  obtain ⟨hMem, hTime⟩ := mem_filter.mp (mem_of_getLast? hCandle)
  exact ⟨hMem, of_decide_eq_true hTime⟩

theorem map_openTime_filterMap {times : List DateTime}
    (hCovered : ∀ time ∈ times, time ∈ openTimes candles) :
    (times.filterMap (candleAt candles)).map (·.openTime) = times := by
  induction times with
  | nil => rfl
  | cons time rest ih =>
    obtain ⟨hTime, hRest⟩ := forall_mem_cons.mp hCovered
    obtain ⟨candle, hCandle⟩ := isSome_iff_exists.mp (candleAt_isSome hTime)
    rw [filterMap_cons_some hCandle, map_cons, ih hRest, (candleAt_eq_some hCandle).2]

end Alignment

end AegisQuant.Research
