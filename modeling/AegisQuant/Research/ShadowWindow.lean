import AegisQuant.Research.CrossAssetNoLookAhead

/-! The window of the latest candles. The features at its last candle are those
of the whole history, since no lookback reaches behind its second candle. -/
namespace AegisQuant.Research
open List Option

section Locality
variable {rows : List Candle} {start index lookback : Nat}
variable (floats : FloatArithmetic) {lookbacks : CrossAssetFeatureLookbacks}

theorem returnOver_drop (hLookback : lookback ≤ index) :
    returnOver (rows.drop start) index lookback = returnOver rows (start + index) lookback := by
  have hEarlier : start + index - lookback = start + (index - lookback) := by omega
  unfold returnOver
  rw [if_neg (by omega), if_neg (by omega), getElem?_drop, getElem?_drop, hEarlier]

theorem hourlyReturns_drop (hIndex : 1 ≤ index) :
    (hourlyReturns (rows.drop start))[index]? = (hourlyReturns rows)[start + index]? := by
  simp only [hourlyReturns, getElem?_map, length_drop]
  by_cases hBound : start + index < rows.length
  · rw [getElem?_range (by omega), getElem?_range hBound, map_some,
      map_some, returnOver_drop hIndex]
  · rw [getElem?_eq_none (by rw [length_range]; omega),
      getElem?_eq_none (by rw [length_range]; omega)]
    rfl

theorem realizedVol_drop (hLookback : lookback ≤ index) :
    realizedVol floats (hourlyReturns (rows.drop start)) index lookback =
      realizedVol floats (hourlyReturns rows) (start + index) lookback := by
  have hSlice : ((hourlyReturns (rows.drop start)).drop (index + 1 - lookback)).take lookback =
      ((hourlyReturns rows).drop (start + index + 1 - lookback)).take lookback := by
    apply ext_getElem?
    intro place
    rw [getElem?_take, getElem?_take, getElem?_drop, getElem?_drop]
    split
    · rw [hourlyReturns_drop (by omega)]
      congr 1
      omega
    · rfl
  unfold realizedVol
  rw [if_neg (by omega), if_neg (by omega), hSlice]

theorem distanceFromHighPct_drop (hLookback : lookback ≤ index) :
    distanceFromHighPct (rows.drop start) index lookback =
      distanceFromHighPct rows (start + index) lookback := by
  have hStart : start + (index + 1 - lookback) = start + index + 1 - lookback := by omega
  unfold distanceFromHighPct
  rw [if_pos (by omega), if_pos (by omega), drop_drop, getElem?_drop, hStart]

structure CrossAssetFeatureLookbacks.Within (lookbacks : CrossAssetFeatureLookbacks) (index : Nat) :
    Prop where
  ranking : lookbacks.ranking ≤ index
  sixHours : lookbacks.sixHours ≤ index
  twentyFourHours : lookbacks.twentyFourHours ≤ index
  seventyTwoHours : lookbacks.seventyTwoHours ≤ index

theorem featureRow_drop (hWithin : lookbacks.Within index) :
    featureRow floats lookbacks (rows.drop start) index =
      featureRow floats lookbacks rows (start + index) := by
  simp only [featureRow, returnOver_drop hWithin.ranking, returnOver_drop hWithin.sixHours,
    returnOver_drop hWithin.twentyFourHours, returnOver_drop hWithin.seventyTwoHours,
    realizedVol_drop floats hWithin.ranking, realizedVol_drop floats hWithin.twentyFourHours,
    realizedVol_drop floats hWithin.seventyTwoHours,
    distanceFromHighPct_drop hWithin.seventyTwoHours]

/-- The rows of a window that starts at `start` and ends with the candle of
`start + index` have its features at their end. -/
theorem computeCrossAssetFeatures_window (hWithin : lookbacks.Within index)
    {window whole : String → List Candle} {symbol : String}
    (hWindow : window symbol = ((whole symbol).take (start + index + 1)).drop start) :
    (computeCrossAssetFeatures floats window lookbacks symbol)[index]? =
      (computeCrossAssetFeatures floats whole lookbacks symbol)[start + index]? := by
  simp only [computeCrossAssetFeatures, getElem?_map]
  have hLength : (window symbol).length = min (start + index + 1) (whole symbol).length - start := by
    rw [hWindow, length_drop, length_take]
  by_cases hBound : start + index < (whole symbol).length
  · rw [getElem?_range (by omega), getElem?_range hBound, map_some,
      map_some, hWindow, featureRow_drop floats hWithin,
      featureRow_take (Nat.lt_succ_self _)]
  · rw [getElem?_eq_none (by rw [length_range]; omega),
      getElem?_eq_none (by rw [length_range]; omega)]
    rfl

end Locality

end AegisQuant.Research
