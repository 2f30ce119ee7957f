import AegisQuant.Experiment.Duplicates
import AegisQuant.Experiment.Overrides
import AegisQuant.Strategy.AcceptedConfigs

/-! The candles that an experiment and a walk-forward run ask for before they
evaluate a strategy, against the candles the strategy needs to decide once and
to enter on the next one. -/
namespace AegisQuant.Experiment
open Strategy List Option StrategyId

def requiredCandlesForRequest (request : StrategyExperimentRequest) : Nat :=
  let maxLookback := request.lookbackCandidates.max?.getD 1
  let maxStrategyLookback :=
    ([some maxLookback, request.trendLookbackCandidates.bind max?,
      request.momentumLookbackCandidates.bind max?,
      request.compressionLookbackCandidates.bind max?,
      request.breakoutLookbackCandidates.bind max?].filterMap id).max?.getD maxLookback
  let maxHolding := (request.holdingCandlesCandidates.bind max?).getD 0
  maxStrategyLookback + maxHolding + 2

def requiredCandlesForCandidate (candidate : StrategyExperimentCandidate) : Nat :=
  [candidate.lookbackCandles, candidate.trendLookbackCandles.getD 0,
    candidate.momentumLookbackCandles.getD 0,
    candidate.compressionLookbackCandles.getD 0,
    candidate.breakoutLookbackCandles.getD 0].max?.getD candidate.lookbackCandles +
    candidate.holdingCandles.getD 0 + 2

def requiredCandlesForWalkForwardCandidate (candidate : StrategyWalkForwardCandidate) : Nat :=
  let maxLookback :=
    [candidate.lookbackCandles, candidate.trendLookbackCandles.getD 0,
      candidate.momentumLookbackCandles.getD 0,
      candidate.breakoutLookbackCandles.getD 0].max?.getD 0
  maxLookback + candidate.holdingCandles.getD 0 + 2

/-! The lookbacks that the gates look at, and how far back they reach with the
candles a position is held. -/

def requestLookbacks (request : StrategyExperimentRequest) : List Nat :=
  [if request.lookbackCandidates = [] then [1] else request.lookbackCandidates,
    request.trendLookbackCandidates.getD [], request.momentumLookbackCandidates.getD [],
    request.compressionLookbackCandidates.getD [],
    request.breakoutLookbackCandidates.getD []].flatten

def requestHoldings (request : StrategyExperimentRequest) : List Nat :=
  0 :: request.holdingCandlesCandidates.getD []

def candidateLookbacks (candidate : StrategyExperimentCandidate) : List Nat :=
  [candidate.lookbackCandles, candidate.trendLookbackCandles.getD 0,
    candidate.momentumLookbackCandles.getD 0, candidate.compressionLookbackCandles.getD 0,
    candidate.breakoutLookbackCandles.getD 0]

def walkForwardLookbacks (candidate : StrategyWalkForwardCandidate) : List Nat :=
  [candidate.lookbackCandles, candidate.trendLookbackCandles.getD 0,
    candidate.momentumLookbackCandles.getD 0, candidate.breakoutLookbackCandles.getD 0]

/-- Some lookback and some number of holding candles reach back as far as is
needed. -/
def Reaches (lookbacks holdings : List Nat) (needed : Nat) : Prop :=
  ∃ lookback ∈ lookbacks, ∃ holding ∈ holdings, needed ≤ lookback + holding

/-- How far back a strategy looks beyond the lookbacks that every gate covers.
An identifier that is not spelled as the strategy's own leaves some lookbacks to
the stored configuration, which no gate looks at. -/
def missedLookbacks (strategyId : String) (config : StrategyConfig) : List Nat :=
  let fromBase (lookbacks : List Nat) :=
    if strategyId = config.strategyId.asStr then [] else lookbacks
  match config.strategyId with
  | .momentumV1 | .volatilityBreakoutV1 | .rangeReversionV1 | .failedBreakdownReclaimV1 => []
  | .trendFilterMomentumV1 | .trendFilterMomentumV2 =>
    momentumLookback config :: fromBase [trendLookback config]
  | .volatilityBreakoutV2 => fromBase [breakoutLookback config]
  | .volatilityCompressionBreakoutV1 => [compressionLookback config + breakoutLookback config]
  | .trendPullbackContinuationV1 =>
    [pullbackSmaLookback config - 1, 19] ++ fromBase [trendLookback config, pullbackLookback config]

section Reach
variable {lookbacks holdings : List Nat} {needed : Nat}

theorem le_add_max?_iff {lookback holding : Nat} (hLookback : lookbacks.max? = some lookback)
    (hHolding : holdings.max? = some holding) :
    needed ≤ lookback + holding ↔ Reaches lookbacks holdings needed := by
  obtain ⟨hLookbackMem, hLookbackBound⟩ := max?_eq_some_iff.mp hLookback
  obtain ⟨hHoldingMem, hHoldingBound⟩ := max?_eq_some_iff.mp hHolding
  constructor
  · intro hLe
    exact ⟨lookback, hLookbackMem, holding, hHoldingMem, hLe⟩
  · rintro ⟨value, hValue, held, hHeld, hLe⟩
    exact hLe.trans (Nat.add_le_add (hLookbackBound value hValue) (hHoldingBound held hHeld))

/-- The greatest of the greatest values of several lists. -/
theorem max?_maxima (lists : List (List Nat)) :
    ((lists.map max?).filterMap id).max? = lists.flatten.max? := by
  ext greatest
  rw [filterMap_map, Function.id_comp, max?_eq_some_iff, max?_eq_some_iff]
  simp only [mem_filterMap, mem_flatten]
  constructor
  · rintro ⟨⟨values, hValues, hMax⟩, hBound⟩
    refine ⟨⟨values, hValues, (max?_eq_some_iff.mp hMax).1⟩, ?_⟩
    rintro value ⟨other, hOther, hValue⟩
    obtain ⟨top, hTop⟩ := isSome_iff_exists.mp
      (isSome_max?_of_ne_nil (ne_nil_of_mem hValue))
    exact ((max?_eq_some_iff.mp hTop).2 value hValue).trans (hBound top ⟨other, hOther, hTop⟩)
  · rintro ⟨⟨values, hValues, hMem⟩, hBound⟩
    refine ⟨⟨values, hValues, max?_eq_some_iff.mpr ⟨hMem, ?_⟩⟩, ?_⟩
    · intro value hValue
      exact hBound value ⟨values, hValues, hValue⟩
    · rintro top ⟨other, hOther, hTop⟩
      exact hBound top ⟨other, hOther, (max?_eq_some_iff.mp hTop).1⟩

theorem bind_max?_eq (values : Option (List Nat)) : values.bind max? = (values.getD []).max? := by
  cases values <;> rfl

/-- The gate of a request reaches as far back as its lookbacks and holdings. -/
theorem le_requiredCandlesForRequest_iff (request : StrategyExperimentRequest) :
    needed + 2 ≤ requiredCandlesForRequest request ↔
      Reaches (requestLookbacks request) (requestHoldings request) needed := by
  have hFirst : some (request.lookbackCandidates.max?.getD 1) =
      (if request.lookbackCandidates = [] then [1] else request.lookbackCandidates).max? := by
    split
    · rename_i hNone
      rw [hNone]
      rfl
    · rename_i hSome
      obtain ⟨greatest, hGreatest⟩ := isSome_iff_exists.mp (isSome_max?_of_ne_nil hSome)
      rw [hGreatest]
      rfl
  have hLookbacks : ([some (request.lookbackCandidates.max?.getD 1),
      request.trendLookbackCandidates.bind max?,
      request.momentumLookbackCandidates.bind max?,
      request.compressionLookbackCandidates.bind max?,
      request.breakoutLookbackCandidates.bind max?].filterMap id).max? =
        (requestLookbacks request).max? := by
    rw [hFirst, bind_max?_eq, bind_max?_eq, bind_max?_eq, bind_max?_eq]
    exact max?_maxima [if request.lookbackCandidates = [] then [1] else request.lookbackCandidates,
      request.trendLookbackCandidates.getD [], request.momentumLookbackCandidates.getD [],
      request.compressionLookbackCandidates.getD [], request.breakoutLookbackCandidates.getD []]
  have hHoldings : (requestHoldings request).max? =
      some ((request.holdingCandlesCandidates.bind max?).getD 0) := by
    rw [requestHoldings, max?_cons, bind_max?_eq]
    cases (request.holdingCandlesCandidates.getD []).max? with
    | none => rfl
    | some greatest => simp
  obtain ⟨greatest, hGreatest⟩ : ∃ greatest, (requestLookbacks request).max? = some greatest := by
    rw [← hLookbacks]
    exact isSome_iff_exists.mp (isSome_max?_of_ne_nil
      (ne_nil_of_mem (mem_filterMap.mpr ⟨_, mem_cons_self .., rfl⟩)))
  rw [← le_add_max?_iff hGreatest hHoldings, requiredCandlesForRequest, hLookbacks, hGreatest,
    getD_some, Nat.add_le_add_iff_right]

/-- The gates of one candidate add its holding to the greatest of its lookbacks. -/
theorem le_gate_iff (hLookbacks : lookbacks ≠ []) (fallback holding : Nat) :
    needed + 2 ≤ lookbacks.max?.getD fallback + holding + 2 ↔
      Reaches lookbacks [holding] needed := by
  obtain ⟨greatest, hGreatest⟩ := isSome_iff_exists.mp (isSome_max?_of_ne_nil hLookbacks)
  rw [← le_add_max?_iff hGreatest rfl, hGreatest, getD_some, Nat.add_le_add_iff_right]
  rfl

theorem le_requiredCandlesForCandidate_iff (candidate : StrategyExperimentCandidate) :
    needed + 2 ≤ requiredCandlesForCandidate candidate ↔
      Reaches (candidateLookbacks candidate) [candidate.holdingCandles.getD 0] needed := by
  have hSome : candidateLookbacks candidate ≠ [] := cons_ne_nil _ _
  exact le_gate_iff hSome _ _

theorem le_requiredCandlesForWalkForwardCandidate_iff (candidate : StrategyWalkForwardCandidate) :
    needed + 2 ≤ requiredCandlesForWalkForwardCandidate candidate ↔
      Reaches (walkForwardLookbacks candidate) [candidate.holdingCandles.getD 0] needed := by
  have hSome : walkForwardLookbacks candidate ≠ [] := cons_ne_nil _ _
  exact le_gate_iff hSome _ _

end Reach

/-! What a gate reaches of the lookbacks of a configuration. -/

/-- A gate that reaches back `depth` candles covers the lookbacks it looks at. -/
structure CoversRead (strategyId : String) (config : StrategyConfig) (depth : Nat) : Prop where
  least : config.strategyId ≠ .trendPullbackContinuationV1 → 2 ≤ config.lookbackCandles
  lookback : config.strategyId ≠ .trendPullbackContinuationV1 → config.lookbackCandles ≤ depth
  trend : strategyId = config.strategyId.asStr →
    config.strategyId ∈ [.trendFilterMomentumV1, .trendFilterMomentumV2,
      trendPullbackContinuationV1] → trendLookback config ≤ depth
  breakout : strategyId = config.strategyId.asStr → config.strategyId = .volatilityBreakoutV2 →
    breakoutLookback config ≤ depth
  pullback : strategyId = config.strategyId.asStr →
    config.strategyId = .trendPullbackContinuationV1 →
      pullbackLookback config ≤ trendLookback config

/-- The gate is large enough exactly when it covers the lookbacks it misses. -/
theorem CoversRead.requiredCandleCount_iff {strategyId : String} {config : StrategyConfig}
    {depth : Nat} (covers : CoversRead strategyId config depth) :
    requiredCandleCount config ≤ depth + 1 ↔
      ∀ needed ∈ missedLookbacks strategyId config, needed ≤ depth := by
  obtain ⟨hLeast, hLookback, hTrend, hBreakout, hPullback⟩ := covers
  unfold requiredCandleCount missedLookbacks
  cases hId : config.strategyId with
  | momentumV1 | volatilityBreakoutV1 | rangeReversionV1 | failedBreakdownReclaimV1 =>
    have hSome := hLeast (by rw [hId]; decide)
    have hRead := hLookback (by rw [hId]; decide)
    simp only [not_mem_nil, false_implies, implies_true, iff_true]
    omega
  | trendFilterMomentumV1 | trendFilterMomentumV2 =>
    have hSome := hLeast (by rw [hId]; decide)
    have hRead := hLookback (by rw [hId]; decide)
    rw [hId] at hTrend
    dsimp only
    split
    · rename_i hSpelled
      have hCovered := hTrend hSpelled (by decide)
      simp only [forall_mem_singleton]
      omega
    · simp only [forall_mem_cons, not_mem_nil, false_implies, implies_true, and_true]
      omega
  | volatilityBreakoutV2 =>
    have hSome := hLeast (by rw [hId]; decide)
    have hRead := hLookback (by rw [hId]; decide)
    rw [hId] at hBreakout
    dsimp only
    split
    · rename_i hSpelled
      have hCovered := hBreakout hSpelled rfl
      simp only [not_mem_nil, false_implies, implies_true, iff_true]
      omega
    · simp only [forall_mem_singleton]
      omega
  | volatilityCompressionBreakoutV1 =>
    have hSome := hLeast (by rw [hId]; decide)
    have hRead := hLookback (by rw [hId]; decide)
    simp only [forall_mem_singleton]
    omega
  | trendPullbackContinuationV1 =>
    rw [hId] at hTrend hPullback
    dsimp only
    split
    · rename_i hSpelled
      have hCovered := hTrend hSpelled (by decide)
      have hShorter := hPullback hSpelled rfl
      simp only [append_nil, forall_mem_cons, not_mem_nil, false_implies, implies_true, and_true]
      omega
    · simp only [cons_append, nil_append, forall_mem_cons, not_mem_nil,
        false_implies, implies_true, and_true]
      omega

/-! What the two builders pass on. -/

/-- The lookbacks of an update that come from a candidate whenever the strategy
is spelled as its own. -/
structure TakesLookbacks (update : StrategyConfigUpdateRequest) (main : Nat)
    (trend breakout : Option Nat) : Prop where
  lookback : update.lookbackCandles = main
  trend : ∀ strategy ∈ [trendFilterMomentumV1, .trendFilterMomentumV2,
    .trendPullbackContinuationV1], update.strategyId = strategy.asStr →
      update.trendLookbackCandles = some (trend.getD main)
  breakout : update.strategyId = volatilityBreakoutV2.asStr →
    update.breakoutLookbackCandles = some (breakout.getD main)

theorem onlyFor_or_base {strategyId : String} {strategies : List StrategyId} {strategy : StrategyId}
    (hStrategy : strategy ∈ strategies) (hSpelled : strategyId = strategy.asStr)
    (value base : Option Nat) (main : Nat) :
    (onlyFor strategyId strategies (value.or (some main))).or base = some (value.getD main) := by
  have hAny : (strategies.any fun other => strategyId = other.asStr) = true :=
    any_eq_true.mpr ⟨strategy, hStrategy, decide_eq_true hSpelled⟩
  cases value <;> simp [onlyFor, hAny]

variable (baseConfig : StrategyConfig)

theorem takesLookbacks_experiment (request : StrategyExperimentRequest)
    (candidate : StrategyExperimentCandidate) :
    TakesLookbacks (experimentStrategyOverride baseConfig request candidate)
      candidate.lookbackCandles candidate.trendLookbackCandles candidate.breakoutLookbackCandles where
  lookback := rfl
  trend := fun _ hStrategy hSpelled => onlyFor_or_base hStrategy hSpelled _ _ _
  breakout := fun hSpelled => onlyFor_or_base (mem_cons_self ..) hSpelled _ _ _

theorem takesLookbacks_walkForward (request : StrategyWalkForwardRequest) :
    TakesLookbacks (walkForwardStrategyOverride baseConfig request)
      request.candidateConfig.lookbackCandles request.candidateConfig.trendLookbackCandles
      request.candidateConfig.breakoutLookbackCandles where
  lookback := rfl
  trend := fun _ hStrategy hSpelled => onlyFor_or_base hStrategy hSpelled _ _ _
  breakout := fun hSpelled => onlyFor_or_base (mem_cons_self ..) hSpelled _ _ _

section Gates
variable {update : StrategyConfigUpdateRequest} {context : StrategyValidationContext}
  {validatedAt : DateTime} {config : StrategyConfig} {main depth : Nat}
  {trend breakout : Option Nat}

theorem coversRead_of_takes (takes : TakesLookbacks update main trend breakout)
    (hConfig : (validateStrategyConfig update context validatedAt).normalizedConfig = some config)
    (hLookback : config.strategyId ≠ .trendPullbackContinuationV1 → main ≤ depth)
    (hTrend : update.strategyId = config.strategyId.asStr →
      config.strategyId ∈ [.trendFilterMomentumV1, .trendFilterMomentumV2,
        trendPullbackContinuationV1] → trend.getD main ≤ depth)
    (hBreakout : update.strategyId = config.strategyId.asStr →
      config.strategyId = .volatilityBreakoutV2 → breakout.getD main ≤ depth) :
    CoversRead update.strategyId config depth := by
  obtain ⟨strategyId, -, hIssues, rfl⟩ := normalizedConfig_eq_some.mp hConfig
  have hPassed := passedChecks_of_no_error hIssues
  have hLeast := lookback_of_passedChecks hPassed
  constructor
  · intro _
    exact hLeast
  · intro hOther
    change update.lookbackCandles ≤ depth
    rw [takes.lookback]
    exact hLookback hOther
  · intro hSpelled hStrategy
    change update.trendLookbackCandles.getD update.lookbackCandles ≤ depth
    rw [takes.trend strategyId hStrategy hSpelled]
    exact hTrend hSpelled hStrategy
  · intro hSpelled hStrategy
    replace hStrategy : strategyId = .volatilityBreakoutV2 := hStrategy
    subst hStrategy
    change (orFor .volatilityBreakoutV2 update.breakoutLookbackCandles
      .volatilityCompressionBreakoutV1 20).getD update.lookbackCandles ≤ depth
    rw [orFor_of_ne (by decide), takes.breakout hSpelled]
    exact hBreakout hSpelled rfl
  · intro hSpelled hStrategy
    replace hStrategy : strategyId = .trendPullbackContinuationV1 := hStrategy
    subst hStrategy
    have hChecks := hPassed.trendPullback rfl
    simp only [validateTrendPullback, hasError_append, hasError_errorIf, Bool.or_eq_false_iff,
      decide_eq_false_iff_not, not_lt] at hChecks
    have hOrder := hChecks.1.1.1.1.1.2
    change (orFor .trendPullbackContinuationV1 update.pullbackLookbackCandles
      .trendPullbackContinuationV1 10).getD 10 ≤
        update.trendLookbackCandles.getD update.lookbackCandles
    rw [orFor_self, getD_some]
    rw [takes.trend .trendPullbackContinuationV1 (by decide) hSpelled] at hOrder ⊢
    exact hOrder

/-- A gate covers the lookbacks it looks at. -/
theorem requiredCandleCount_add_one_le_iff {strategyId : String} {gate : Nat}
    {lookbacks holdings : List Nat}
    (hGate : ∀ needed, needed + 2 ≤ gate ↔ Reaches lookbacks holdings needed)
    (hCovers : ∀ depth, (∀ needed, needed ≤ depth ↔ Reaches lookbacks holdings needed) →
      CoversRead strategyId config depth) (hAtLeast : 2 ≤ gate) :
    requiredCandleCount config + 1 ≤ gate ↔
      ∀ needed ∈ missedLookbacks strategyId config, Reaches lookbacks holdings needed := by
  obtain ⟨depth, rfl⟩ := Nat.exists_eq_add_of_le' hAtLeast
  have hDepth (needed : Nat) : needed ≤ depth ↔ Reaches lookbacks holdings needed := by
    rw [← hGate needed, Nat.add_le_add_iff_right]
  have hCount := (hCovers depth hDepth).requiredCandleCount_iff
  simp only [← hDepth]
  rw [← hCount]
  exact Nat.add_le_add_iff_right

end Gates

section Candidates
variable {request : StrategyExperimentRequest} {candidate : StrategyExperimentCandidate}

/-- The lookbacks of a candidate come from the lists that the gate looks at. -/
structure FromLists (request : StrategyExperimentRequest) (candidate : StrategyExperimentCandidate) :
    Prop where
  lookback : request.strategyId ≠ "trend_pullback_continuation_v1" →
    candidate.lookbackCandles ∈ request.lookbackCandidates
  trend : request.strategyId ≠ "failed_breakdown_reclaim_v1" →
    ∃ trend ∈ request.trendLookbacks, candidate.trendLookbackCandles = some trend
  breakout : request.strategyId ≠ "failed_breakdown_reclaim_v1" →
    request.strategyId ≠ "trend_pullback_continuation_v1" →
      ∃ breakout ∈ request.breakoutLookbacks, candidate.breakoutLookbackCandles = some breakout

theorem fromLists_of_mem (hCandidate : candidate ∈ request.candidates) :
    FromLists request candidate := by
  have hAll := mem_allCandidates request hCandidate
  unfold allCandidates at hAll
  split at hAll
  · rename_i hReclaim
    obtain ⟨point, hPoint, rfl⟩ := mem_map.mp hAll
    exact ⟨fun _ => (mem_product.mp hPoint).1, fun hOther => absurd hReclaim hOther,
      fun hOther => absurd hReclaim hOther⟩
  · split at hAll
    · rename_i hPullback
      obtain ⟨point, hPoint, rfl⟩ := mem_map.mp hAll
      exact ⟨fun hOther => absurd hPullback hOther, fun _ => ⟨_, (mem_product.mp hPoint).1, rfl⟩,
        fun _ hOther => absurd hPullback hOther⟩
    · obtain ⟨point, hPoint, rfl⟩ := mem_map.mp hAll
      obtain ⟨hLookback, hRest⟩ := mem_product.mp hPoint
      obtain ⟨hTrend, hRest⟩ := mem_product.mp hRest
      obtain ⟨-, hRest⟩ := mem_product.mp hRest
      obtain ⟨-, hRest⟩ := mem_product.mp hRest
      obtain ⟨hBreakout, -⟩ := mem_product.mp hRest
      exact ⟨fun _ => hLookback, fun _ => ⟨_, hTrend, rfl⟩, fun _ _ => ⟨_, hBreakout, rfl⟩⟩

theorem mem_nonEmptyOr {α : Type} {value : α} {values : Option (List α)} {fallback : List α}
    (hValue : value ∈ nonEmptyOr values fallback) : value ∈ values.getD [] ∨ value ∈ fallback := by
  rw [nonEmptyOr_eq] at hValue
  split at hValue
  · exact Or.inr hValue
  · exact Or.inl hValue

theorem lookback_mem_requestLookbacks {lookback : Nat}
    (hLookback : lookback ∈ request.lookbackCandidates) : lookback ∈ requestLookbacks request := by
  have hFirst : lookback ∈
      (if request.lookbackCandidates = [] then [1] else request.lookbackCandidates) := by
    rw [if_neg (ne_nil_of_mem hLookback)]
    exact hLookback
  exact mem_append_left _ hFirst

theorem trend_mem_requestLookbacks {trend : Nat} (hTrend : trend ∈ request.trendLookbacks) :
    trend ∈ requestLookbacks request := by
  rcases mem_nonEmptyOr hTrend with hGiven | hLookback
  · simp [requestLookbacks, hGiven]
  · exact lookback_mem_requestLookbacks hLookback

theorem breakout_mem_requestLookbacks {breakout : Nat}
    (hBreakout : breakout ∈ request.breakoutLookbacks) : breakout ∈ requestLookbacks request := by
  rcases mem_nonEmptyOr hBreakout with hGiven | hLookback
  · simp [requestLookbacks, hGiven]
  · exact lookback_mem_requestLookbacks hLookback

variable {baseConfig config : StrategyConfig} {context : StrategyValidationContext}
  {validatedAt : DateTime}

variable {update : StrategyConfigUpdateRequest}

theorem strategyId_of_normalizedConfig
    (hConfig : (validateStrategyConfig update context validatedAt).normalizedConfig = some config) :
    fromStr update.strategyId = .ok config.strategyId := by
  obtain ⟨strategyId, hId, -, rfl⟩ := normalizedConfig_eq_some.mp hConfig
  exact hId

theorem coversRead_request (hCandidate : candidate ∈ request.candidates)
    (hConfig : (validateStrategyConfig (experimentStrategyOverride baseConfig request candidate)
      context validatedAt).normalizedConfig = some config) {depth : Nat}
    (hDepth : ∀ needed, needed ≤ depth ↔
      Reaches (requestLookbacks request) (requestHoldings request) needed) :
    CoversRead request.strategyId config depth := by
  have hLists := fromLists_of_mem hCandidate
  have hParsed := strategyId_of_normalizedConfig hConfig
  change fromStr request.strategyId = _ at hParsed
  have hRead {lookback : Nat} (hLookback : lookback ∈ requestLookbacks request) :
      lookback ≤ depth :=
    (hDepth lookback).mpr ⟨lookback, hLookback, 0, mem_cons_self .., le_rfl⟩
  refine coversRead_of_takes (takesLookbacks_experiment baseConfig request candidate) hConfig ?_ ?_ ?_
  · intro hOther
    refine hRead (lookback_mem_requestLookbacks (hLists.lookback fun hPullback => hOther ?_))
    have hSpelled : request.strategyId = trendPullbackContinuationV1.asStr := hPullback
    rw [hSpelled, fromStr_asStr] at hParsed
    exact (Except.ok.inj hParsed).symm
  · intro hSpelled hStrategy
    have hOther : ∀ strategy ∈ [.trendFilterMomentumV1, .trendFilterMomentumV2,
        trendPullbackContinuationV1],
        strategy.asStr ≠ "failed_breakdown_reclaim_v1" := by decide
    have hReclaim : request.strategyId ≠ "failed_breakdown_reclaim_v1" :=
      ne_of_eq_of_ne hSpelled (hOther config.strategyId hStrategy)
    obtain ⟨trend, hTrend, hSome⟩ := hLists.trend hReclaim
    rw [hSome]
    exact hRead (trend_mem_requestLookbacks hTrend)
  · intro hSpelled hStrategy
    rw [hStrategy] at hSpelled
    have hReclaim : request.strategyId ≠ "failed_breakdown_reclaim_v1" :=
      ne_of_eq_of_ne hSpelled (by decide)
    have hPullback : request.strategyId ≠ "trend_pullback_continuation_v1" :=
      ne_of_eq_of_ne hSpelled (by decide)
    obtain ⟨breakout, hBreakout, hSome⟩ := hLists.breakout hReclaim hPullback
    rw [hSome]
    exact hRead (breakout_mem_requestLookbacks hBreakout)

theorem coversRead_takes {main : Nat} {trend breakout : Option Nat}
    (takes : TakesLookbacks update main trend breakout)
    (hConfig : (validateStrategyConfig update context validatedAt).normalizedConfig = some config)
    {lookbacks : List Nat} (hMain : main ∈ lookbacks) (hTrend : trend.getD 0 ∈ lookbacks)
    (hBreakout : breakout.getD 0 ∈ lookbacks) {holding depth : Nat}
    (hDepth : ∀ needed, needed ≤ depth ↔ Reaches lookbacks [holding] needed) :
    CoversRead update.strategyId config depth := by
  have hRead {lookback : Nat} (hLookback : lookback ∈ lookbacks) : lookback ≤ depth :=
    (hDepth lookback).mpr ⟨lookback, hLookback, _, mem_cons_self .., Nat.le_add_right ..⟩
  have hGiven {lookback : Option Nat} (hLookback : lookback.getD 0 ∈ lookbacks) :
      lookback.getD main ≤ depth := by
    cases lookback with
    | none => exact hRead hMain
    | some lookback => exact hRead hLookback
  exact coversRead_of_takes takes hConfig (fun _ => hRead hMain) (fun _ _ => hGiven hTrend)
    (fun _ _ => hGiven hBreakout)

end Candidates

/-- The gates ask for enough candles exactly when they reach back as far as the
lookbacks that the strategy looks at and the gates do not. -/
theorem gates_cover_history_iff {request : StrategyExperimentRequest}
    {candidate : StrategyExperimentCandidate} (hCandidate : candidate ∈ request.candidates)
    {baseConfig config : StrategyConfig} {context : StrategyValidationContext}
    {validatedAt : DateTime}
    (hConfig : (validateStrategyConfig (experimentStrategyOverride baseConfig request candidate)
      context validatedAt).normalizedConfig = some config)
    {walkForward : StrategyWalkForwardRequest} {storedConfig walkForwardConfig : StrategyConfig}
    {walkForwardContext : StrategyValidationContext} {walkForwardAt : DateTime}
    (hWalkForward : (validateStrategyConfig (walkForwardStrategyOverride storedConfig walkForward)
      walkForwardContext walkForwardAt).normalizedConfig = some walkForwardConfig) :
    (requiredCandleCount config + 1 ≤ requiredCandlesForRequest request ∧
        requiredCandleCount config + 1 ≤ requiredCandlesForCandidate candidate ↔
      ∀ needed ∈ missedLookbacks request.strategyId config,
        Reaches (requestLookbacks request) (requestHoldings request) needed ∧
        Reaches (candidateLookbacks candidate) [candidate.holdingCandles.getD 0] needed) ∧
    (requiredCandleCount walkForwardConfig + 1 ≤
        requiredCandlesForWalkForwardCandidate walkForward.candidateConfig ↔
      ∀ needed ∈ missedLookbacks walkForward.strategyId walkForwardConfig,
        Reaches (walkForwardLookbacks walkForward.candidateConfig)
          [walkForward.candidateConfig.holdingCandles.getD 0] needed) := by
  constructor
  · have hRequestGate : requiredCandleCount config + 1 ≤ requiredCandlesForRequest request ↔
        ∀ needed ∈ missedLookbacks request.strategyId config,
          Reaches (requestLookbacks request) (requestHoldings request) needed :=
      requiredCandleCount_add_one_le_iff (fun _ => le_requiredCandlesForRequest_iff request)
        (fun _ => coversRead_request hCandidate hConfig) (Nat.le_add_left ..)
    have hCandidateGate : requiredCandleCount config + 1 ≤ requiredCandlesForCandidate candidate ↔
        ∀ needed ∈ missedLookbacks request.strategyId config,
          Reaches (candidateLookbacks candidate) [candidate.holdingCandles.getD 0] needed := by
      apply requiredCandleCount_add_one_le_iff
        (fun _ => le_requiredCandlesForCandidate_iff candidate) _ (Nat.le_add_left ..)
      intro depth hDepth
      exact coversRead_takes (takesLookbacks_experiment baseConfig request candidate) hConfig
        (by simp [candidateLookbacks]) (by simp [candidateLookbacks])
        (by simp [candidateLookbacks]) hDepth
    rw [hRequestGate, hCandidateGate]
    constructor
    · intro hBoth needed hNeeded
      exact ⟨hBoth.1 needed hNeeded, hBoth.2 needed hNeeded⟩
    · intro hBoth
      exact ⟨fun needed hNeeded => (hBoth needed hNeeded).1,
        fun needed hNeeded => (hBoth needed hNeeded).2⟩
  · apply requiredCandleCount_add_one_le_iff
      (fun _ => le_requiredCandlesForWalkForwardCandidate_iff walkForward.candidateConfig) _
      (Nat.le_add_left ..)
    intro depth hDepth
    exact coversRead_takes (takesLookbacks_walkForward storedConfig walkForward) hWalkForward
      (by simp [walkForwardLookbacks]) (by simp [walkForwardLookbacks])
      (by simp [walkForwardLookbacks]) hDepth

def sampleHistory (strategyId : String) : StrategyExperimentRequest where
  strategyId := strategyId
  symbol := "BTCUSDT"
  timeframe := "1h"
  startTime := 0
  endTime := DateTime.seconds 86400
  initialCapital := 1000
  feeBps := 10
  slippageBps := 5
  lookbackCandidates := [20]

def sampleContext : StrategyValidationContext where
  supportedSymbols := [.btcusdt]
  maxPositionNotional := some 1000
  displayDecimal := fun _ => ""

def sampleCandidate (strategyId : String) : StrategyExperimentCandidate :=
  (sampleHistory strategyId).gridCandidate 20 20 0 20 20 25 0 0 0 20 80 0 0 0 0 0 0 0 0

/-- The gates of `momentum_v1` are large enough. -/
theorem gates_cover_history_sample : ∃ config,
    (validateStrategyConfig (experimentStrategyOverride sampleBaseConfig (sampleHistory "momentum_v1")
      (sampleCandidate "momentum_v1")) sampleContext 0).normalizedConfig = some config ∧
    requiredCandleCount config + 1 ≤ requiredCandlesForRequest (sampleHistory "momentum_v1") ∧
    requiredCandleCount config + 1 ≤
      requiredCandlesForCandidate (sampleCandidate "momentum_v1") := by
  have hMissed : (validateStrategyConfig (experimentStrategyOverride sampleBaseConfig
      (sampleHistory "momentum_v1") (sampleCandidate "momentum_v1")) sampleContext
        0).normalizedConfig.map (missedLookbacks "momentum_v1") = some [] := by decide +kernel
  have hWalkForward : (validateStrategyConfig (walkForwardStrategyOverride sampleBaseConfig
      { sampleWalkForward with symbol := "BTCUSDT" }) sampleContext 0).normalizedConfig.isSome := by
    decide +kernel
  obtain ⟨config, hConfig, hNone⟩ := map_eq_some_iff.mp hMissed
  obtain ⟨walkForwardConfig, hWalkForward⟩ := isSome_iff_exists.mp hWalkForward
  obtain ⟨hGates, -⟩ := gates_cover_history_iff (by decide +kernel) hConfig hWalkForward
  refine ⟨config, hConfig, hGates.mpr ?_⟩
  intro needed hNeeded
  change needed ∈ missedLookbacks "momentum_v1" config at hNeeded
  rw [hNone] at hNeeded
  cases hNeeded

/-- The two lookbacks of the compression breakout add up, and the gates ask for
one of them only. -/
theorem compression_history_not_covered :
    (sampleHistory "volatility_compression_breakout_v1").validate = .ok () ∧
    sampleCandidate "volatility_compression_breakout_v1" ∈
      (sampleHistory "volatility_compression_breakout_v1").candidates ∧
    ∃ config, (validateStrategyConfig (experimentStrategyOverride sampleBaseConfig
        (sampleHistory "volatility_compression_breakout_v1")
        (sampleCandidate "volatility_compression_breakout_v1")) sampleContext
          0).normalizedConfig = some config ∧ requiredCandleCount config = 41 ∧
      requiredCandlesForRequest (sampleHistory "volatility_compression_breakout_v1") = 22 ∧
      requiredCandlesForCandidate (sampleCandidate "volatility_compression_breakout_v1") = 22 := by
  have hCount : (validateStrategyConfig (experimentStrategyOverride sampleBaseConfig
      (sampleHistory "volatility_compression_breakout_v1")
      (sampleCandidate "volatility_compression_breakout_v1")) sampleContext
        0).normalizedConfig.map requiredCandleCount = some 41 := by decide +kernel
  obtain ⟨config, hConfig, hCount⟩ := map_eq_some_iff.mp hCount
  exact ⟨by decide +kernel, by decide +kernel, config, hConfig, hCount, by decide +kernel,
    by decide +kernel⟩

end AegisQuant.Experiment
