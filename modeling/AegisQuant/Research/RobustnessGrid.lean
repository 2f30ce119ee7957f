import AegisQuant.Library.NestedLoops
import AegisQuant.Research.Robustness
import AegisQuant.Store.Columns

/-! The grid of configurations of a robustness matrix and its cap. The grid is
sorted by a distance from a reference configuration and by the JSON text, and
the first configurations are kept. The distance is computed in 32 bits. -/
namespace AegisQuant.Research
open NestedLoops SortByKey List

structure CrossAssetRobustnessMatrixWindow where
  label : String
  startTime : DateTime
  endTime : DateTime

structure CrossAssetRobustnessMatrixRequest where
  symbols : List String
  timeframe : String
  windows : List CrossAssetRobustnessMatrixWindow
  rankingLookbackHours : List Nat
  rankMetrics : List CrossAssetRankMetric
  minRankSpreadPct : List Decimal
  holdingHours : List Nat
  feeBps : Decimal
  slippageBps : Decimal
  sizingModes : List CrossAssetSizingMode
  minWeight : Decimal
  maxWeight : Decimal
  marketFilters : List CrossAssetMarketFilter
  volFilters : List CrossAssetVolFilter
  overextensionFilters : List CrossAssetOverextensionFilter
  exitRules : List CrossAssetExitRule
  maxConfigs : Nat

def CrossAssetRobustnessMatrixRequest.validate (request : CrossAssetRobustnessMatrixRequest) :
    Except Fault Unit := do
  let require (valid : Bool) (message : String) : Except Fault Unit :=
    Fallible.require valid (.core (.invalidCrossAssetRobustnessMatrixRequest message))
  require (2 ≤ request.symbols.length) "at least two symbols are required"
  require (request.symbols.all fun symbol => trim symbol ≠ "") "symbols cannot contain empty values"
  require (request.timeframe = "1h" || request.timeframe = "4h")
    "only 1h and 4h timeframes are supported"
  let _ ← (CandleInterval.fromStr request.timeframe).mapError Fault.core
  require (!request.windows.isEmpty) "at least one window is required"
  request.windows.forM fun window =>
    require (trim window.label ≠ "" && window.startTime < window.endTime)
      "matrix windows require a label and valid time range"
  require (!(request.rankingLookbackHours.isEmpty || request.rankMetrics.isEmpty ||
      request.minRankSpreadPct.isEmpty || request.holdingHours.isEmpty ||
      request.sizingModes.isEmpty || request.marketFilters.isEmpty || request.volFilters.isEmpty ||
      request.overextensionFilters.isEmpty || request.exitRules.isEmpty))
    "all matrix parameter grids must contain at least one value"
  require (!(request.rankingLookbackHours.any (· = 0) || request.holdingHours.any (· = 0)))
    "ranking lookbacks and holding hours must be greater than zero"
  require (!(request.minRankSpreadPct.any (· < 0) || request.feeBps < 0 || request.slippageBps < 0))
    "spread, fee, and slippage values cannot be negative"
  require (!(request.minWeight ≤ 0 || request.maxWeight ≤ 0 || request.maxWeight < request.minWeight))
    "min_weight and max_weight must be positive and ordered"
  require (request.maxConfigs ≠ 0) "max_configs must be greater than zero"

def CrossAssetRobustnessMatrixRequest.fullConfigCount
    (request : CrossAssetRobustnessMatrixRequest) : Nat :=
  request.rankingLookbackHours.length * request.rankMetrics.length *
    request.minRankSpreadPct.length * request.holdingHours.length * request.sizingModes.length *
    request.marketFilters.length * request.volFilters.length *
    request.overextensionFilters.length * request.exitRules.length

/-- `+` of two `i32` in a release build. -/
def addI32 (left right : Int) : Int := (left + right).bmod (2 ^ 32)

def absDiff (left right : Nat) : Nat := (left - right) + (right - left)

/-- `to_i32` of the distance of two decimals, which cuts off the fraction. -/
def spreadDistance (left right : Decimal) : Option Int :=
  let distance := |left - right|.floor
  if distance ≤ 2147483647 then some distance else none

def rankMetricDistance : CrossAssetRankMetric → Int
  | .rawReturn => 0
  | .volAdjustedReturn => 2

def sizingModeDistance : CrossAssetSizingMode → Int
  | .equalNotional => 0
  | .volatilityNormalized => 1

def marketFilterDistance : CrossAssetMarketFilter → Int
  | .none => 0
  | .basket72hReturnGt _ => 1
  | .atLeastNSymbolsPositive24h _ => 1
  | .basket24hReturnGt _ => 3

def volFilterDistance : CrossAssetVolFilter → Int
  | .none => 0
  | .assetNotExtremeVsBasket _ => 1
  | .basketVolBelowPercentile _ => 3

def overextensionFilterDistance : CrossAssetOverextensionFilter → Int
  | .none => 0
  | .maxReturn24hPct maxPct => if maxPct = 10 then 1 else 2
  | .minDistanceFrom72hHighPct _ => 3

def exitRuleDistance : CrossAssetExitRule → Int
  | .fixedHold => 0
  | .stopPct stopPct => if stopPct = 5 then 1 else 2
  | .takeProfitPct _ => 2

def crossAssetRobustnessConfigDistance (config : CrossAssetRobustnessConfig) : Int :=
  let distance := 0
  let distance := addI32 distance (asI32 (absDiff config.rankingLookbackHours 12))
  let distance := addI32 distance (asI32 (absDiff config.holdingHours 12))
  let distance := addI32 distance ((spreadDistance config.minRankSpreadPct 3).getD 50)
  let distance := addI32 distance (rankMetricDistance config.rankMetric)
  let distance := addI32 distance (sizingModeDistance config.sizingMode)
  let distance := addI32 distance (marketFilterDistance config.marketFilter)
  let distance := addI32 distance (volFilterDistance config.volFilter)
  let distance := addI32 distance (overextensionFilterDistance config.overextensionFilter)
  addI32 distance (exitRuleDistance config.exitRule)

/-- The loops over the nine lists. -/
def CrossAssetRobustnessMatrixRequest.configs (request : CrossAssetRobustnessMatrixRequest) :
    List CrossAssetRobustnessConfig :=
  run <| each request.rankingLookbackHours fun rankingLookbackHours =>
    each request.rankMetrics fun rankMetric =>
    each request.minRankSpreadPct fun minRankSpreadPct =>
    each request.holdingHours fun holdingHours =>
    each request.sizingModes fun sizingMode =>
    each request.marketFilters fun marketFilter =>
    each request.volFilters fun volFilter =>
    each request.overextensionFilters fun overextensionFilter =>
    each request.exitRules fun exitRule =>
      push none {
        rankingLookbackHours := rankingLookbackHours
        rankMetric := rankMetric
        minRankSpreadPct := minRankSpreadPct
        holdingHours := holdingHours
        sizingMode := sizingMode
        marketFilter := marketFilter
        volFilter := volFilter
        overextensionFilter := overextensionFilter
        exitRule := exitRule }

/-- The key of the comparator: the distance, and for one distance the text. -/
def configKey (toJson : CrossAssetRobustnessConfig → String) (config : CrossAssetRobustnessConfig) :
    Int ×ₗ String :=
  toLex (crossAssetRobustnessConfigDistance config, toJson config)

def buildCrossAssetRobustnessConfigs (toJson : CrossAssetRobustnessConfig → String)
    (request : CrossAssetRobustnessMatrixRequest) :
    Except Fault (List CrossAssetRobustnessConfig × Nat) := do
  request.validate
  let fullCount := request.fullConfigCount
  let configs := sort (configKey toJson) request.configs
  let skipped := fullCount - request.maxConfigs
  pure (configs.take request.maxConfigs, skipped)

/-- A configuration of the product of the nine lists. -/
structure OnGrid (request : CrossAssetRobustnessMatrixRequest)
    (config : CrossAssetRobustnessConfig) : Prop where
  rankingLookbackHours : config.rankingLookbackHours ∈ request.rankingLookbackHours
  rankMetric : config.rankMetric ∈ request.rankMetrics
  minRankSpreadPct : config.minRankSpreadPct ∈ request.minRankSpreadPct
  holdingHours : config.holdingHours ∈ request.holdingHours
  sizingMode : config.sizingMode ∈ request.sizingModes
  marketFilter : config.marketFilter ∈ request.marketFilters
  volFilter : config.volFilter ∈ request.volFilters
  overextensionFilter : config.overextensionFilter ∈ request.overextensionFilters
  exitRule : config.exitRule ∈ request.exitRules

structure DistinctValues (request : CrossAssetRobustnessMatrixRequest) : Prop where
  rankingLookbackHours : request.rankingLookbackHours.Nodup
  rankMetrics : request.rankMetrics.Nodup
  minRankSpreadPct : request.minRankSpreadPct.Nodup
  holdingHours : request.holdingHours.Nodup
  sizingModes : request.sizingModes.Nodup
  marketFilters : request.marketFilters.Nodup
  volFilters : request.volFilters.Nodup
  overextensionFilters : request.overextensionFilters.Nodup
  exitRules : request.exitRules.Nodup

/-- The same request with each of the nine lists in any order. -/
structure PermutedLists (other request : CrossAssetRobustnessMatrixRequest) : Prop where
  rankingLookbackHours : other.rankingLookbackHours.Perm request.rankingLookbackHours
  rankMetrics : other.rankMetrics.Perm request.rankMetrics
  minRankSpreadPct : other.minRankSpreadPct.Perm request.minRankSpreadPct
  holdingHours : other.holdingHours.Perm request.holdingHours
  sizingModes : other.sizingModes.Perm request.sizingModes
  marketFilters : other.marketFilters.Perm request.marketFilters
  volFilters : other.volFilters.Perm request.volFilters
  overextensionFilters : other.overextensionFilters.Perm request.overextensionFilters
  exitRules : other.exitRules.Perm request.exitRules
  symbols : other.symbols = request.symbols
  timeframe : other.timeframe = request.timeframe
  windows : other.windows = request.windows
  feeBps : other.feeBps = request.feeBps
  slippageBps : other.slippageBps = request.slippageBps
  minWeight : other.minWeight = request.minWeight
  maxWeight : other.maxWeight = request.maxWeight
  maxConfigs : other.maxConfigs = request.maxConfigs

section Grid
variable {request other : CrossAssetRobustnessMatrixRequest}

def configOf : Nat × CrossAssetRankMetric × Decimal × Nat × CrossAssetSizingMode ×
    CrossAssetMarketFilter × CrossAssetVolFilter × CrossAssetOverextensionFilter ×
    CrossAssetExitRule → CrossAssetRobustnessConfig
  | (rankingLookbackHours, rankMetric, minRankSpreadPct, holdingHours, sizingMode, marketFilter,
      volFilter, overextensionFilter, exitRule) =>
    ⟨rankingLookbackHours, rankMetric, minRankSpreadPct, holdingHours, sizingMode, marketFilter,
      volFilter, overextensionFilter, exitRule⟩

theorem configOf_injective : Function.Injective configOf := by
  intro left right hSame
  simp only [configOf, CrossAssetRobustnessConfig.mk.injEq] at hSame
  simpa only [Prod.ext_iff] using hSame

def fieldLists (request : CrossAssetRobustnessMatrixRequest) :=
  request.rankingLookbackHours ×ˢ request.rankMetrics ×ˢ request.minRankSpreadPct ×ˢ
    request.holdingHours ×ˢ request.sizingModes ×ˢ request.marketFilters ×ˢ request.volFilters ×ˢ
    request.overextensionFilters ×ˢ request.exitRules

theorem configs_eq (request : CrossAssetRobustnessMatrixRequest) :
    request.configs = (fieldLists request).map configOf := by
  have hCollect : request.configs = run (collect none ((fieldLists request).map configOf)) := by
    simp only [CrossAssetRobustnessMatrixRequest.configs, each_push, each_grid]
    rfl
  rw [hCollect, run_collect (by decide)]
  rfl

theorem mem_configs {config : CrossAssetRobustnessConfig} :
    config ∈ request.configs ↔ OnGrid request config := by
  rw [configs_eq, mem_map]
  constructor
  · rintro ⟨⟨_, _, _, _, _, _, _, _, _⟩, hPoint, rfl⟩
    simp only [fieldLists, mem_product] at hPoint
    obtain ⟨hLookback, hMetric, hSpread, hHolding, hSizing, hMarket, hVol, hExtension, hExit⟩ := hPoint
    exact ⟨hLookback, hMetric, hSpread, hHolding, hSizing, hMarket, hVol, hExtension, hExit⟩
  · intro hGrid
    refine ⟨(config.rankingLookbackHours, config.rankMetric, config.minRankSpreadPct,
      config.holdingHours, config.sizingMode, config.marketFilter, config.volFilter,
      config.overextensionFilter, config.exitRule), ?_, rfl⟩
    simp only [fieldLists, mem_product]
    exact ⟨hGrid.rankingLookbackHours, hGrid.rankMetric, hGrid.minRankSpreadPct,
      hGrid.holdingHours, hGrid.sizingMode, hGrid.marketFilter, hGrid.volFilter,
      hGrid.overextensionFilter, hGrid.exitRule⟩

theorem length_configs : request.configs.length = request.fullConfigCount := by
  rw [configs_eq, length_map]
  simp only [fieldLists, length_product, CrossAssetRobustnessMatrixRequest.fullConfigCount]
  ring

theorem DistinctValues.nodup_configs (hDistinct : DistinctValues request) :
    request.configs.Nodup := by
  rw [configs_eq, nodup_map_iff configOf_injective]
  exact hDistinct.rankingLookbackHours.product <| hDistinct.rankMetrics.product <|
    hDistinct.minRankSpreadPct.product <| hDistinct.holdingHours.product <|
    hDistinct.sizingModes.product <| hDistinct.marketFilters.product <|
    hDistinct.volFilters.product <| hDistinct.overextensionFilters.product hDistinct.exitRules

theorem PermutedLists.configs (hPerm : PermutedLists other request) :
    other.configs.Perm request.configs := by
  rw [configs_eq, configs_eq]
  apply List.Perm.map
  exact hPerm.rankingLookbackHours.product <| hPerm.rankMetrics.product <|
    hPerm.minRankSpreadPct.product <| hPerm.holdingHours.product <|
    hPerm.sizingModes.product <| hPerm.marketFilters.product <|
    hPerm.volFilters.product <| hPerm.overextensionFilters.product hPerm.exitRules

theorem PermutedLists.validate (hPerm : PermutedLists other request) :
    other.validate = request.validate := by
  simp only [CrossAssetRobustnessMatrixRequest.validate, hPerm.symbols, hPerm.timeframe,
    hPerm.windows, hPerm.feeBps, hPerm.slippageBps, hPerm.minWeight, hPerm.maxWeight,
    hPerm.maxConfigs, hPerm.rankingLookbackHours.isEmpty_eq, hPerm.rankMetrics.isEmpty_eq,
    hPerm.minRankSpreadPct.isEmpty_eq, hPerm.holdingHours.isEmpty_eq, hPerm.sizingModes.isEmpty_eq,
    hPerm.marketFilters.isEmpty_eq, hPerm.volFilters.isEmpty_eq,
    hPerm.overextensionFilters.isEmpty_eq, hPerm.exitRules.isEmpty_eq,
    hPerm.rankingLookbackHours.any_eq, hPerm.holdingHours.any_eq, hPerm.minRankSpreadPct.any_eq]

end Grid

/-- The distance as an integer. What a spread adds that is too far away for 32
bits is left open. -/
def trueDistance (beyond : Decimal → Int) (config : CrossAssetRobustnessConfig) : Int :=
  absDiff config.rankingLookbackHours 12 + absDiff config.holdingHours 12 +
    (spreadDistance config.minRankSpreadPct 3).getD (beyond config.minRankSpreadPct) +
    rankMetricDistance config.rankMetric + sizingModeDistance config.sizingMode +
    marketFilterDistance config.marketFilter + volFilterDistance config.volFilter +
    overextensionFilterDistance config.overextensionFilter + exitRuleDistance config.exitRule

def trueKey (toJson : CrossAssetRobustnessConfig → String) (beyond : Decimal → Int)
    (config : CrossAssetRobustnessConfig) : Int ×ₗ String :=
  toLex (trueDistance beyond config, toJson config)

/-- The product in the true order is cut off at the cap, the rest is reported
as skipped, and the order of the lists does not matter. -/
structure CanonicalGrid (toJson : CrossAssetRobustnessConfig → String) (beyond : Decimal → Int)
    (request : CrossAssetRobustnessMatrixRequest) : Prop where
  capped : ∃ product : List CrossAssetRobustnessConfig,
    product.Pairwise (fun left right => trueKey toJson beyond left < trueKey toJson beyond right) ∧
    (∀ config, config ∈ product ↔ OnGrid request config) ∧
    product.length = request.fullConfigCount ∧
    ∃ returned skipped, buildCrossAssetRobustnessConfigs toJson request = .ok (returned, skipped) ∧
      returned = product.take (min request.maxConfigs product.length) ∧
      skipped = product.length - returned.length
  unchanged : ∀ other, PermutedLists other request →
    buildCrossAssetRobustnessConfigs toJson other = buildCrossAssetRobustnessConfigs toJson request

section Cap
variable {toJson : CrossAssetRobustnessConfig → String} {beyond : Decimal → Int}
  {request other : CrossAssetRobustnessMatrixRequest}

theorem nodup_map_toJson (hJson : ∀ left right, OnGrid request left → OnGrid request right →
      toJson left = toJson right → left = right) (hDistinct : DistinctValues request) :
    (request.configs.map toJson).Nodup :=
  hDistinct.nodup_configs.map_on fun left hLeft right hRight =>
    hJson left right (mem_configs.mp hLeft) (mem_configs.mp hRight)

theorem buildCrossAssetRobustnessConfigs_ok (toJson : CrossAssetRobustnessConfig → String)
    (hValid : request.validate = .ok ()) :
    buildCrossAssetRobustnessConfigs toJson request =
      .ok ((sort (configKey toJson) request.configs).take request.maxConfigs,
        request.configs.length - request.maxConfigs) := by
  rw [length_configs, buildCrossAssetRobustnessConfigs, hValid]
  rfl

theorem PermutedLists.build (hPerm : PermutedLists other request)
    (hKeys : (request.configs.map (configKey toJson)).Nodup) (hValid : request.validate = .ok ()) :
    buildCrossAssetRobustnessConfigs toJson other = buildCrossAssetRobustnessConfigs toJson request := by
  rw [buildCrossAssetRobustnessConfigs_ok toJson hValid,
    buildCrossAssetRobustnessConfigs_ok toJson (hPerm.validate.trans hValid),
    sort_eq_of_perm hPerm.configs hKeys, hPerm.configs.length_eq, hPerm.maxConfigs]

theorem nodup_map_configKey (hTexts : (request.configs.map toJson).Nodup) :
    (request.configs.map (configKey toJson)).Nodup :=
  nodup_map_of_decides (fun _ _ hSame => congrArg (fun key => (ofLex key).2) hSame) hTexts

theorem nodup_map_trueKey (hTexts : (request.configs.map toJson).Nodup) :
    (request.configs.map (trueKey toJson beyond)).Nodup :=
  nodup_map_of_decides (fun _ _ hSame => congrArg (fun key => (ofLex key).2) hSame) hTexts

theorem CanonicalGrid.take_sort (hCanonical : CanonicalGrid toJson beyond request)
    (hValid : request.validate = .ok ()) (hTexts : (request.configs.map toJson).Nodup) :
    (sort (configKey toJson) request.configs).take request.maxConfigs =
      (sort (trueKey toJson beyond) request.configs).take request.maxConfigs := by
  obtain ⟨product, hStrict, hProduct, -, returned, skipped, hReturned, hHead, -⟩ := hCanonical.capped
  have hSame : product = sort (trueKey toJson beyond) request.configs := by
    apply eq_of_strict (strict_sort (nodup_map_trueKey hTexts)) hStrict
    intro config
    rw [hProduct, (perm_sort _ _).mem_iff, mem_configs]
  rw [buildCrossAssetRobustnessConfigs_ok toJson hValid, Except.ok.injEq, Prod.mk.injEq] at hReturned
  rw [hReturned.1, hHead, hSame, ← take_eq_take_min]

theorem canonicalGrid_of_take_sort (hValid : request.validate = .ok ())
    (hTexts : (request.configs.map toJson).Nodup)
    (hHead : (sort (configKey toJson) request.configs).take request.maxConfigs =
      (sort (trueKey toJson beyond) request.configs).take request.maxConfigs) :
    CanonicalGrid toJson beyond request := by
  have hLength := (perm_sort (trueKey toJson beyond) request.configs).length_eq
  constructor
  case capped =>
    refine ⟨_, strict_sort (nodup_map_trueKey hTexts),
      fun config => (perm_sort _ _).mem_iff.trans mem_configs, hLength.trans length_configs, _, _,
      buildCrossAssetRobustnessConfigs_ok toJson hValid, ?_, ?_⟩
    · rw [← take_eq_take_min, hHead]
    · rw [hLength, length_take, (perm_sort _ request.configs).length_eq]
      omega
  case unchanged => exact fun other hPerm => hPerm.build (nodup_map_configKey hTexts) hValid

/-- The cap is canonical exactly when the configurations within it by the true
distance come, by the wrapped distance, before all that follow them. -/
theorem canonicalGrid_iff (toJson : CrossAssetRobustnessConfig → String) (beyond : Decimal → Int)
    (request : CrossAssetRobustnessMatrixRequest) (hValid : request.validate = .ok ())
    (hDistinct : DistinctValues request)
    (hJson : ∀ left right, OnGrid request left → OnGrid request right →
      toJson left = toJson right → left = right) :
    CanonicalGrid toJson beyond request ↔
      KeepsHead (configKey toJson) (trueKey toJson beyond) request.maxConfigs request.configs := by
  have hTexts := nodup_map_toJson hJson hDistinct
  have hKeys : (request.configs.map (configKey toJson)).Nodup := nodup_map_configKey hTexts
  have hTrue : (request.configs.map (trueKey toJson beyond)).Nodup := nodup_map_trueKey hTexts
  constructor
  · intro hCanonical
    exact keepsHead_of_take_sort_eq hKeys hTrue (hCanonical.take_sort hValid hTexts)
  · intro hKeeps
    exact canonicalGrid_of_take_sort hValid hTexts (take_sort_eq_of_keepsHead hKeys hTrue hKeeps)

end Cap

section Sample

/-- A grid of two lookbacks, capped at one configuration. -/
def lookbackRequest (first second : Nat) : CrossAssetRobustnessMatrixRequest where
  symbols := ["BTCUSDT", "ETHUSDT"]
  timeframe := "1h"
  windows := [⟨"day", 0, DateTime.seconds 86400⟩]
  rankingLookbackHours := [first, second]
  rankMetrics := [.rawReturn]
  minRankSpreadPct := [3]
  holdingHours := [12]
  feeBps := 10
  slippageBps := 5
  sizingModes := [.equalNotional]
  minWeight := 1
  maxWeight := 1
  marketFilters := [.none]
  volFilters := [.none]
  overextensionFilters := [.none]
  exitRules := [.fixedHold]
  maxConfigs := 1

/-- The text of a configuration of such a grid. -/
def lookbackJson (config : CrossAssetRobustnessConfig) : String :=
  "\x7b\"ranking_lookback_hours\":" ++ toString config.rankingLookbackHours ++
    ",\"rank_metric\":\"raw_return\",\"min_rank_spread_pct\":\"3\",\"holding_hours\":12," ++
    "\"sizing_mode\":\"equal_notional\",\"market_filter\":\x7b\"kind\":\"none\"\x7d," ++
    "\"vol_filter\":\x7b\"kind\":\"none\"\x7d,\"overextension_filter\":\x7b\"kind\":\"none\"\x7d," ++
    "\"exit_rule\":\x7b\"kind\":\"fixed_hold\"\x7d\x7d"

theorem canonicalGrid_near : CanonicalGrid lookbackJson (fun _ => 50) (lookbackRequest 24 12) := by
  apply (canonicalGrid_iff lookbackJson (fun _ => 50) (lookbackRequest 24 12) ?_ ?_ ?_).mpr
  · unfold KeepsHead
    decide +kernel
  · with_unfolding_all rfl
  · constructor <;> decide +kernel
  · have hTexts : ((lookbackRequest 24 12).configs.map lookbackJson).Nodup := by decide +kernel
    intro left right hLeft hRight
    exact inj_on_of_nodup_map hTexts (mem_configs.mpr hLeft) (mem_configs.mpr hRight)

/-- A lookback of 2^31 + 12 hours is taken for the nearest one. -/
theorem far_lookback_kept_first : (lookbackRequest 12 2147483660).validate = .ok () ∧
      DistinctValues (lookbackRequest 12 2147483660) ∧
      (∀ left right, OnGrid (lookbackRequest 12 2147483660) left →
        OnGrid (lookbackRequest 12 2147483660) right →
        lookbackJson left = lookbackJson right → left = right) ∧
      ¬CanonicalGrid lookbackJson (fun _ => 50) (lookbackRequest 12 2147483660) := by
  have hValid : (lookbackRequest 12 2147483660).validate = .ok () := by with_unfolding_all rfl
  have hTexts : ((lookbackRequest 12 2147483660).configs.map lookbackJson).Nodup := by decide +kernel
  refine ⟨hValid, by constructor <;> decide +kernel, ?_, fun hCanonical => ?_⟩
  · intro left right hLeft hRight
    exact inj_on_of_nodup_map hTexts (mem_configs.mpr hLeft) (mem_configs.mpr hRight)
  · exact absurd (hCanonical.take_sort hValid hTexts) (by decide +kernel)

end Sample

end AegisQuant.Research
