import AegisQuant.Replay.FunnelAgrees

/-! The rows of the compression funnel: each condition is reached by the
candles that pass the one before it. -/
namespace AegisQuant.Replay
open List FunnelCondition

variable {config : CompressionRefinementConfig} {candles : List Candle} {maxHolding index count : Nat}
  {feeDragPct : Decimal} {latest : Candle} {metrics : CompressionRefinementMetrics}
  {state : FunnelState}

/-- What holds of the counters and of the samples after a number of candles. -/
structure FunnelSound (count : Nat) (state : FunnelState) : Prop where
  chained : Funnel.Chained state.stats compressionFunnelConditions
  bounded : Funnel.Bounded state.stats
  enoughData : (state.stats .enoughData).reachedCount = count
  samples : (state.stats .forwardPnlAvailable).passedCount = state.samples.length

/-- A candle on its way through all conditions: those behind `enough_data` are
not looked at without enough data, which counts as not reaching them. -/
structure FunnelRow (row : List (FunnelCondition × Bool)) (state next : FunnelState) : Prop where
  conditions : row.map (·.1) = compressionFunnelConditions
  stats : next.stats = Funnel.recordRow state.stats true row
  samples : next.samples.length = state.samples.length + if row.all (·.2) then 1 else 0

theorem funnelRow_of_short {openUntilIndex : Option Nat} :
    FunnelRow ((.enoughData, false) :: compressionFunnelConditions.tail.map fun condition =>
        (condition, false)) state
      { state with
        stats := recordFunnelCondition state.stats .enoughData true false
        openUntilIndex := openUntilIndex } where
  conditions := rfl
  stats := Funnel.recordRow_unreached.symm
  samples := by simp

/-- A sample is taken of a candle that passes every condition. -/
theorem funnelRow_of_enough {executableSignal forwardPnlAvailable : Bool} {next : FunnelState}
    (hStats : next.stats = Funnel.recordRow (recordFunnelCondition state.stats .enoughData true true)
      true (funnelSequence config latest metrics executableSignal forwardPnlAvailable))
    (hSignal : executableSignal = true → finalWouldSignal config latest metrics = true)
    (hForward : forwardPnlAvailable = true → executableSignal = true)
    (hSamples : next.samples.length = state.samples.length + if forwardPnlAvailable then 1 else 0) :
    FunnelRow ((.enoughData, true) ::
      funnelSequence config latest metrics executableSignal forwardPnlAvailable) state next where
  conditions := rfl
  stats := hStats
  samples := by
    have hAll : ((enoughData, true) :: funnelSequence config latest metrics
        executableSignal forwardPnlAvailable).all (·.2) = forwardPnlAvailable := by
      cases forwardPnlAvailable with
      | false => simp [funnelSequence]
      | true =>
        have hExecutable := hForward rfl
        have hFinal := hSignal hExecutable
        have hConditions := hFinal
        simp only [finalWouldSignal, Bool.and_eq_true, and_assoc] at hConditions
        simpa [funnelSequence, hExecutable, hFinal] using hConditions
    rw [hSamples, hAll]

/-- Every candle goes through the conditions in their order. -/
theorem exists_funnelRow (hLatest : candles[index]? = some latest) :
    ∃ next row, funnelAt config candles maxHolding feeDragPct index latest state = .ok next ∧
      FunnelRow row state next := by
  rcases lt_or_ge (index + 1) (compressionRequiredCandles config) with hShort | hEnough
  · simp only [funnelAt, decide_eq_false (not_le.mpr hShort), Bool.not_false, if_true]
    exact ⟨_, _, rfl, funnelRow_of_short⟩
  · obtain ⟨metrics, hMetrics, -⟩ := calculateCompressionRefinementMetrics_recent hLatest hEnough
    simp only [funnelAt, decide_eq_true hEnough, Bool.not_true, Bool.false_eq_true, if_false, hMetrics,
      Fallible.ok_bind]
    refine ⟨_, _, rfl, funnelRow_of_enough rfl ?_ ?_ ?_⟩
    · intro hExecutable
      simp only [Bool.and_eq_true] at hExecutable
      exact hExecutable.1.1.1
    · intro hForward
      exact (Bool.and_eq_true_iff.mp hForward).1
    · cases candles[index + 1]? with
      | none => simp
      | some entry =>
        cases candles[index + 1 + maxHolding]? with
        | none => simp
        | some exit =>
          dsimp only
          split
          · simp [*]
          · simp [*]

theorem FunnelSound.start : FunnelSound 0 .initial where
  chained := by repeat constructor
  bounded := fun _ => le_rfl
  enoughData := rfl
  samples := rfl

theorem FunnelSound.advance {next : FunnelState} {row : List (FunnelCondition × Bool)}
    (hSound : FunnelSound count state) (hRow : FunnelRow row state next) :
    FunnelSound (count + 1) next where
  chained := by
    rw [hRow.stats, ← hRow.conditions]
    apply Funnel.Chained.recordRow
    · rw [hRow.conditions]
      exact hSound.chained
    · rw [hRow.conditions]
      decide
  bounded := by
    rw [hRow.stats]
    exact hSound.bounded.recordRow
  enoughData := by
    obtain ⟨⟨stage, passed⟩, rest, rfl, hStage, hRest⟩ := map_eq_cons_iff.mp hRow.conditions
    cases hStage
    have hFresh : FunnelCondition.enoughData ∉ rest.map (·.1) := by
      rw [hRest]
      decide
    rw [hRow.stats, Funnel.recordRow_head hFresh, Funnel.reachedCount_record, hSound.enoughData]
    push_cast
    rfl
  samples := by
    obtain ⟨before, last, rfl, hBefore, hLast⟩ : ∃ before last, row = before ++ last ∧
        before.map (·.1) = compressionFunnelConditions.dropLast ∧
        last.map (·.1) = [forwardPnlAvailable] :=
      map_eq_append_iff.mp hRow.conditions
    obtain ⟨⟨stage, passed⟩, rfl, rfl⟩ := map_eq_singleton_iff.mp hLast
    have hFresh : ∀ entry ∈ before, entry.1 ≠ forwardPnlAvailable := by
      intro entry hEntry hSame
      have hMem : entry.1 ∈ compressionFunnelConditions.dropLast :=
        hBefore ▸ mem_map_of_mem hEntry
      rw [hSame] at hMem
      exact absurd hMem (by decide)
    have hSamples := hRow.samples
    rw [all_append, all_cons, all_nil, Bool.and_true] at hSamples
    rw [hRow.stats, Funnel.passedCount_recordRow hFresh (by simp), hSound.samples, Bool.true_and,
      hSamples]
    push_cast
    rfl

theorem exists_funnelTo (hCount : count ≤ candles.length) :
    ∃ state, funnelTo config candles maxHolding feeDragPct count = .ok state ∧
      FunnelSound count state := by
  apply exists_funnelTo_of_step .start _ hCount
  intro index latest state hLatest hSound
  have hGoes : ∃ next row, funnelAt config candles maxHolding feeDragPct index latest state =
      .ok next ∧ FunnelRow row state next := exists_funnelRow hLatest
  obtain ⟨next, row, hNext, hRow⟩ := hGoes
  exact ⟨next, hNext, hSound.advance hRow⟩

/-- What the rows of a breakdown say together. -/
structure RowsChained (candles : List Candle)
    (breakdown : List CompressionBreakoutConditionBreakdown)
    (samples : List CompressionSignalSample) : Prop where
  conditions : breakdown.map (·.condition) = compressionFunnelConditions.map (·.asStr)
  chained : breakdown.IsChain fun previous next => next.reachedCount = previous.passedCount
  bounded : ∀ row ∈ breakdown, row.passedCount ≤ row.reachedCount
  failed : ∀ row ∈ breakdown, row.failedCount = row.reachedCount - row.passedCount
  enoughData : ∀ row ∈ breakdown, row.condition = "enough_data" → row.reachedCount = candles.length
  samples : ∀ row ∈ breakdown, row.condition = "forward_pnl_available" →
    row.passedCount = samples.length

theorem FunnelSound.rowsChained (hSound : FunnelSound candles.length state) :
    RowsChained candles (compressionFunnelConditions.map (conditionBreakdown state.stats))
      state.samples where
  conditions := rfl
  chained := (isChain_map _).mpr hSound.chained
  bounded := by
    intro row hRow
    obtain ⟨condition, -, rfl⟩ := mem_map.mp hRow
    exact hSound.bounded condition
  failed := by
    intro row hRow
    obtain ⟨condition, -, rfl⟩ := mem_map.mp hRow
    rfl
  enoughData := by
    intro row hRow hName
    obtain ⟨condition, -, rfl⟩ := mem_map.mp hRow
    cases condition with
    | enoughData => exact hSound.enoughData
    | _ => exact absurd hName (by simp [conditionBreakdown, asStr])
  samples := by
    intro row hRow hName
    obtain ⟨condition, -, rfl⟩ := mem_map.mp hRow
    cases condition with
    | forwardPnlAvailable => exact hSound.samples
    | _ => exact absurd hName (by simp [conditionBreakdown, asStr])

/-- The funnel returns a breakdown, whose rows chain: a condition is reached by
the candles that pass the one before it, and there is a sample for each candle
that passes the last. -/
theorem compression_funnel_rows_chain (candles : List Candle) (config : CompressionRefinementConfig)
    (holdingWindows : List Nat) (feeDragPct : Decimal) :
    ∃ breakdown topBottleneck samples,
      buildCompressionRefinementFunnel candles config holdingWindows feeDragPct =
        .ok (breakdown, topBottleneck, samples) ∧ RowsChained candles breakdown samples := by
  have hRun : ∃ state, funnelTo config candles (holdingWindows.max?.getD 20) feeDragPct
      candles.length = .ok state ∧ FunnelSound candles.length state := exists_funnelTo le_rfl
  obtain ⟨state, hState, hSound⟩ := hRun
  refine ⟨_, topBottleneck (compressionFunnelConditions.map (conditionBreakdown state.stats)), _, ?_,
    hSound.rowsChained⟩
  rw [buildCompressionRefinementFunnel, hState, Fallible.ok_bind]
  rfl

end AegisQuant.Replay
