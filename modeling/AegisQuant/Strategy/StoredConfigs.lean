import AegisQuant.Library.Table
import AegisQuant.Store.Columns
import AegisQuant.Strategy.AcceptedConfigs
import Mathlib.Data.List.ReduceOption

/-! Strategy configurations in the database: the row of a strategy, the version
log and the audit log, one call that writes all three, and what the row gives
back. -/
namespace AegisQuant

@[simp] theorem StrategyMode.fromStr_asStr (mode : StrategyMode) :
    StrategyMode.fromStr mode.asStr = .ok mode := by
  cases mode <;> decide +kernel

end AegisQuant

namespace AegisQuant.Strategy
open Fallible List Option

inductive StrategyStatus where
  | enabled
  | disabled
  deriving DecidableEq, Repr

def StrategyStatus.asStr : StrategyStatus → String
  | .enabled => "enabled"
  | .disabled => "disabled"

/-- A row of `strategy_configs`. -/
structure StrategyConfigRow where
  strategyId : String
  status : String
  enabled : Bool
  mode : String
  symbols : String
  timeframe : String
  suggestedNotional : Decimal
  momentumLookbackCandles : Int
  breakoutLookbackCandles : Int
  maxSignalAgeMs : Int
  cooldownSeconds : Int
  lookbackCandles : Int
  trendLookbackCandles : Option Int
  strategyMomentumLookbackCandles : Option Int
  compressionLookbackCandles : Option Int
  strategyBreakoutLookbackCandles : Option Int
  pullbackLookbackCandles : Option Int
  pullbackSmaLookbackCandles : Option Int
  compressionPercentileThreshold : Option Decimal
  minBreakoutPct : Option Decimal
  maxBreakoutExtensionPct : Option Decimal
  minVolumeExpansionRatio : Option Decimal
  lowerBandPct : Option Decimal
  upperBandPct : Option Decimal
  minRangeWidthPct : Option Decimal
  maxRangeWidthPct : Option Decimal
  minCloseAboveSmaPct : Option Decimal
  maxCloseAboveSmaPct : Option Decimal
  minMomentumReturnPct : Option Decimal
  minTrendReturnPct : Option Decimal
  minTrendSlopePct : Option Decimal
  minPullbackDepthPct : Option Decimal
  maxPullbackDepthPct : Option Decimal
  minReclaimPct : Option Decimal
  minBreakdownPct : Option Decimal
  minReclaimClosePct : Option Decimal
  minLowerWickPct : Option Decimal
  minVolumeRatio : Option Decimal
  maxChoppiness : Option Decimal
  confidenceFloor : Option Decimal
  stopLossPct : Option Decimal
  takeProfitPct : Option Decimal
  holdingCandles : Option Int
  notes : Option String
  currentVersion : Int
  createdAt : DateTime
  updatedAt : DateTime

structure StrategyConfigRecord where
  strategyId : String
  enabled : Bool
  mode : String
  symbols : String
  timeframe : String
  suggestedNotional : Decimal
  maxSignalAgeMs : Int
  cooldownSeconds : Int
  lookbackCandles : Int
  trendLookbackCandles : Option Int
  momentumLookbackCandles : Option Int
  compressionLookbackCandles : Option Int
  breakoutLookbackCandles : Option Int
  pullbackLookbackCandles : Option Int
  pullbackSmaLookbackCandles : Option Int
  compressionPercentileThreshold : Option Decimal
  minBreakoutPct : Option Decimal
  maxBreakoutExtensionPct : Option Decimal
  minVolumeExpansionRatio : Option Decimal
  lowerBandPct : Option Decimal
  upperBandPct : Option Decimal
  minRangeWidthPct : Option Decimal
  maxRangeWidthPct : Option Decimal
  minCloseAboveSmaPct : Option Decimal
  maxCloseAboveSmaPct : Option Decimal
  minMomentumReturnPct : Option Decimal
  minTrendReturnPct : Option Decimal
  minTrendSlopePct : Option Decimal
  minPullbackDepthPct : Option Decimal
  maxPullbackDepthPct : Option Decimal
  minReclaimPct : Option Decimal
  minBreakdownPct : Option Decimal
  minReclaimClosePct : Option Decimal
  minLowerWickPct : Option Decimal
  minVolumeRatio : Option Decimal
  maxChoppiness : Option Decimal
  confidenceFloor : Option Decimal
  stopLossPct : Option Decimal
  takeProfitPct : Option Decimal
  holdingCandles : Option Int
  notes : Option String
  currentVersion : Int
  createdAt : DateTime
  updatedAt : DateTime

/-- The values an upsert binds. -/
def strategyConfigRow (config : StrategyConfig) (currentVersion : Int) (now : DateTime) :
    StrategyConfigRow where
  strategyId := config.strategyId.asStr
  status := (if config.enabled then StrategyStatus.enabled else StrategyStatus.disabled).asStr
  enabled := config.enabled
  mode := config.mode.asStr
  symbols := joinSymbols config.symbols
  timeframe := config.timeframe.asStr
  suggestedNotional := numeric config.suggestedNotional
  momentumLookbackCandles := asI32 (config.momentumLookbackCandles.getD config.lookbackCandles)
  breakoutLookbackCandles := asI32 (config.breakoutLookbackCandles.getD config.lookbackCandles)
  maxSignalAgeMs := config.maxSignalAgeMs
  cooldownSeconds := asI32 config.cooldownSeconds
  lookbackCandles := asI32 config.lookbackCandles
  trendLookbackCandles := config.trendLookbackCandles.map asI32
  strategyMomentumLookbackCandles := config.momentumLookbackCandles.map asI32
  compressionLookbackCandles := config.compressionLookbackCandles.map asI32
  strategyBreakoutLookbackCandles := config.breakoutLookbackCandles.map asI32
  pullbackLookbackCandles := config.pullbackLookbackCandles.map asI32
  pullbackSmaLookbackCandles := config.pullbackSmaLookbackCandles.map asI32
  compressionPercentileThreshold := config.compressionPercentileThreshold.map numeric
  minBreakoutPct := config.minBreakoutPct.map numeric
  maxBreakoutExtensionPct := config.maxBreakoutExtensionPct.map numeric
  minVolumeExpansionRatio := config.minVolumeExpansionRatio.map numeric
  lowerBandPct := config.lowerBandPct.map numeric
  upperBandPct := config.upperBandPct.map numeric
  minRangeWidthPct := config.minRangeWidthPct.map numeric
  maxRangeWidthPct := config.maxRangeWidthPct.map numeric
  minCloseAboveSmaPct := config.minCloseAboveSmaPct.map numeric
  maxCloseAboveSmaPct := config.maxCloseAboveSmaPct.map numeric
  minMomentumReturnPct := config.minMomentumReturnPct.map numeric
  minTrendReturnPct := config.minTrendReturnPct.map numeric
  minTrendSlopePct := config.minTrendSlopePct.map numeric
  minPullbackDepthPct := config.minPullbackDepthPct.map numeric
  maxPullbackDepthPct := config.maxPullbackDepthPct.map numeric
  minReclaimPct := config.minReclaimPct.map numeric
  minBreakdownPct := config.minBreakdownPct.map numeric
  minReclaimClosePct := config.minReclaimClosePct.map numeric
  minLowerWickPct := config.minLowerWickPct.map numeric
  minVolumeRatio := config.minVolumeRatio.map numeric
  maxChoppiness := config.maxChoppiness.map numeric
  confidenceFloor := config.confidenceFloor.map numeric
  stopLossPct := config.stopLossPct.map numeric
  takeProfitPct := config.takeProfitPct.map numeric
  holdingCandles := config.holdingCandles.map asI32
  notes := config.notes
  currentVersion := currentVersion
  createdAt := now
  updatedAt := now

/-- `ON CONFLICT (strategy_id) DO UPDATE`. -/
def StrategyConfigRow.update (current excluded : StrategyConfigRow) (now : DateTime) :
    StrategyConfigRow :=
  { current with
    status := excluded.status
    enabled := excluded.enabled
    mode := excluded.mode
    symbols := excluded.symbols
    timeframe := excluded.timeframe
    suggestedNotional := excluded.suggestedNotional
    momentumLookbackCandles := excluded.momentumLookbackCandles
    breakoutLookbackCandles := excluded.breakoutLookbackCandles
    maxSignalAgeMs := excluded.maxSignalAgeMs
    cooldownSeconds := excluded.cooldownSeconds
    lookbackCandles := excluded.lookbackCandles
    trendLookbackCandles := excluded.trendLookbackCandles
    strategyMomentumLookbackCandles := excluded.strategyMomentumLookbackCandles
    compressionLookbackCandles := excluded.compressionLookbackCandles
    strategyBreakoutLookbackCandles := excluded.strategyBreakoutLookbackCandles
    pullbackLookbackCandles := excluded.pullbackLookbackCandles
    pullbackSmaLookbackCandles := excluded.pullbackSmaLookbackCandles
    compressionPercentileThreshold := excluded.compressionPercentileThreshold
    minBreakoutPct := excluded.minBreakoutPct
    maxBreakoutExtensionPct := excluded.maxBreakoutExtensionPct
    minVolumeExpansionRatio := excluded.minVolumeExpansionRatio
    lowerBandPct := excluded.lowerBandPct
    upperBandPct := excluded.upperBandPct
    minRangeWidthPct := excluded.minRangeWidthPct
    maxRangeWidthPct := excluded.maxRangeWidthPct
    minCloseAboveSmaPct := excluded.minCloseAboveSmaPct
    maxCloseAboveSmaPct := excluded.maxCloseAboveSmaPct
    minMomentumReturnPct := excluded.minMomentumReturnPct
    minTrendReturnPct := excluded.minTrendReturnPct
    minTrendSlopePct := excluded.minTrendSlopePct
    minPullbackDepthPct := excluded.minPullbackDepthPct
    maxPullbackDepthPct := excluded.maxPullbackDepthPct
    minReclaimPct := excluded.minReclaimPct
    minBreakdownPct := excluded.minBreakdownPct
    minReclaimClosePct := excluded.minReclaimClosePct
    minLowerWickPct := excluded.minLowerWickPct
    minVolumeRatio := excluded.minVolumeRatio
    maxChoppiness := excluded.maxChoppiness
    confidenceFloor := excluded.confidenceFloor
    stopLossPct := excluded.stopLossPct
    takeProfitPct := excluded.takeProfitPct
    holdingCandles := excluded.holdingCandles
    notes := excluded.notes
    currentVersion := excluded.currentVersion
    updatedAt := now }

theorem StrategyConfigRow.strategyId_update (current excluded : StrategyConfigRow) (now : DateTime) :
    (current.update excluded now).strategyId = current.strategyId := rfl

def mapStrategyConfig (row : StrategyConfigRow) : StrategyConfigRecord where
  strategyId := row.strategyId
  enabled := row.enabled
  mode := row.mode
  symbols := row.symbols
  timeframe := row.timeframe
  suggestedNotional := row.suggestedNotional
  maxSignalAgeMs := row.maxSignalAgeMs
  cooldownSeconds := row.cooldownSeconds
  lookbackCandles := row.lookbackCandles
  trendLookbackCandles := row.trendLookbackCandles
  momentumLookbackCandles := row.strategyMomentumLookbackCandles
  compressionLookbackCandles := row.compressionLookbackCandles
  breakoutLookbackCandles := row.strategyBreakoutLookbackCandles
  pullbackLookbackCandles := row.pullbackLookbackCandles
  pullbackSmaLookbackCandles := row.pullbackSmaLookbackCandles
  compressionPercentileThreshold := row.compressionPercentileThreshold
  minBreakoutPct := row.minBreakoutPct
  maxBreakoutExtensionPct := row.maxBreakoutExtensionPct
  minVolumeExpansionRatio := row.minVolumeExpansionRatio
  lowerBandPct := row.lowerBandPct
  upperBandPct := row.upperBandPct
  minRangeWidthPct := row.minRangeWidthPct
  maxRangeWidthPct := row.maxRangeWidthPct
  minCloseAboveSmaPct := row.minCloseAboveSmaPct
  maxCloseAboveSmaPct := row.maxCloseAboveSmaPct
  minMomentumReturnPct := row.minMomentumReturnPct
  minTrendReturnPct := row.minTrendReturnPct
  minTrendSlopePct := row.minTrendSlopePct
  minPullbackDepthPct := row.minPullbackDepthPct
  maxPullbackDepthPct := row.maxPullbackDepthPct
  minReclaimPct := row.minReclaimPct
  minBreakdownPct := row.minBreakdownPct
  minReclaimClosePct := row.minReclaimClosePct
  minLowerWickPct := row.minLowerWickPct
  minVolumeRatio := row.minVolumeRatio
  maxChoppiness := row.maxChoppiness
  confidenceFloor := row.confidenceFloor
  stopLossPct := row.stopLossPct
  takeProfitPct := row.takeProfitPct
  holdingCandles := row.holdingCandles
  notes := row.notes
  currentVersion := row.currentVersion
  createdAt := row.createdAt
  updatedAt := row.updatedAt

def strategyConfigFromRecord (record : StrategyConfigRecord) : Except Fault StrategyConfig := do
  let symbols ← (splitSymbols record.symbols).mapError Fault.core
  let strategyId ← (StrategyId.fromStr record.strategyId).mapError Fault.core
  let mode ← (StrategyMode.fromStr record.mode).mapError Fault.core
  let timeframe ← (CandleInterval.fromStr record.timeframe).mapError Fault.core
  let config : StrategyConfig := {
    strategyId := strategyId
    enabled := record.enabled
    mode := mode
    symbols := symbols
    timeframe := timeframe
    suggestedNotional := record.suggestedNotional
    maxSignalAgeMs := record.maxSignalAgeMs
    cooldownSeconds := asU32 record.cooldownSeconds
    lookbackCandles := asU32 record.lookbackCandles
    trendLookbackCandles := record.trendLookbackCandles.map asU32
    momentumLookbackCandles := record.momentumLookbackCandles.map asU32
    compressionLookbackCandles := record.compressionLookbackCandles.map asU32
    breakoutLookbackCandles := record.breakoutLookbackCandles.map asU32
    pullbackLookbackCandles := record.pullbackLookbackCandles.map asU32
    pullbackSmaLookbackCandles := record.pullbackSmaLookbackCandles.map asU32
    compressionPercentileThreshold := record.compressionPercentileThreshold
    minBreakoutPct := record.minBreakoutPct
    maxBreakoutExtensionPct := record.maxBreakoutExtensionPct
    minVolumeExpansionRatio := record.minVolumeExpansionRatio
    lowerBandPct := record.lowerBandPct
    upperBandPct := record.upperBandPct
    minRangeWidthPct := record.minRangeWidthPct
    maxRangeWidthPct := record.maxRangeWidthPct
    minCloseAboveSmaPct := record.minCloseAboveSmaPct
    maxCloseAboveSmaPct := record.maxCloseAboveSmaPct
    minMomentumReturnPct := record.minMomentumReturnPct
    minTrendReturnPct := record.minTrendReturnPct
    minTrendSlopePct := record.minTrendSlopePct
    minPullbackDepthPct := record.minPullbackDepthPct
    maxPullbackDepthPct := record.maxPullbackDepthPct
    minReclaimPct := record.minReclaimPct
    minBreakdownPct := record.minBreakdownPct
    minReclaimClosePct := record.minReclaimClosePct
    minLowerWickPct := record.minLowerWickPct
    minVolumeRatio := record.minVolumeRatio
    maxChoppiness := record.maxChoppiness
    confidenceFloor := record.confidenceFloor
    stopLossPct := record.stopLossPct
    takeProfitPct := record.takeProfitPct
    holdingCandles := record.holdingCandles.map asU32
    confirmationCandles := 0
    requireConfirmationCloseAboveLookbackLow := false
    requireConfirmationLowAboveBreakdownLow := false
    notes := record.notes }
  config.validate.mapError Fault.core
  return config

def optionalDecimals (config : StrategyConfig) : List (Option Decimal) := [
    config.compressionPercentileThreshold, config.minBreakoutPct, config.maxBreakoutExtensionPct,
    config.minVolumeExpansionRatio, config.lowerBandPct, config.upperBandPct,
    config.minRangeWidthPct, config.maxRangeWidthPct, config.minCloseAboveSmaPct,
    config.maxCloseAboveSmaPct, config.minMomentumReturnPct, config.minTrendReturnPct,
    config.minTrendSlopePct, config.minPullbackDepthPct, config.maxPullbackDepthPct,
    config.minReclaimPct, config.minBreakdownPct, config.minReclaimClosePct,
    config.minLowerWickPct, config.minVolumeRatio, config.maxChoppiness, config.confidenceFloor,
    config.stopLossPct, config.takeProfitPct]

def decimals (config : StrategyConfig) : List Decimal :=
  config.suggestedNotional :: (optionalDecimals config).reduceOption

def optionalCounts (config : StrategyConfig) : List (Option Nat) := [
    config.trendLookbackCandles, config.momentumLookbackCandles, config.compressionLookbackCandles,
    config.breakoutLookbackCandles, config.pullbackLookbackCandles,
    config.pullbackSmaLookbackCandles, config.holdingCandles]

def counts (config : StrategyConfig) : List Nat :=
  config.cooldownSeconds :: config.lookbackCandles :: (optionalCounts config).reduceOption

/-- A row of `strategy_config_versions`. -/
structure StrategyConfigVersionRow where
  strategyId : String
  version : Int
  config : StrategyConfig
  actorId : Option Uuid
  correlationId : Uuid
  createdAt : DateTime

def StrategyConfigVersionRow.key (row : StrategyConfigVersionRow) : String × Int :=
  (row.strategyId, row.version)

structure StrategyConfigAuditEntry where
  strategyId : String
  version : Option Int
  oldConfig : Option StrategyConfig
  newConfig : Option StrategyConfig
  validationIssues : List StrategyConfigValidationIssue
  actorId : Option Uuid
  correlationId : Uuid
  createdAt : DateTime

structure StrategyConfigTables where
  configs : Table StrategyConfigRow.strategyId
  versions : Table StrategyConfigVersionRow.key
  audit : List StrategyConfigAuditEntry

def getStrategyConfig (tables : StrategyConfigTables) (strategyId : StrategyId) :
    Option StrategyConfigRecord :=
  (tables.configs.find? strategyId.asStr).map mapStrategyConfig

/-- `SELECT MAX(version)`, with zero for no version. -/
def persistedVersion (tables : StrategyConfigTables) (strategyId : StrategyId) : Int :=
  ((tables.versions.rows.filter fun row => row.strategyId = strategyId.asStr).map
    (·.version)).max?.getD 0

/-- The statement fails on a decimal that its column cannot hold. -/
def upsertStrategyConfigTx (tables : StrategyConfigTables) (config : StrategyConfig)
    (currentVersion : Int) (now : DateTime) : Except Fault StrategyConfigTables := do
  require (!(decimals config).any numericOverflows) (.message "numeric field overflow")
  let row := strategyConfigRow config currentVersion now
  return { tables with
    configs := tables.configs.upsert row (·.update row now) fun current =>
      current.strategyId_update row now }

def nextStrategyVersion (existing : Option StrategyConfigRecord) (persisted : Int) : Int :=
  max ((existing.map (·.currentVersion)).getD 0) persisted + 1

structure PersistConfigCall where
  config : StrategyConfig
  actorId : Option Uuid
  correlationId : Uuid
  now : DateTime

def persistStrategyConfigVersion (tables : StrategyConfigTables) (call : PersistConfigCall) :
    Except Fault (StrategyConfigTables × Option StrategyConfigRecord) := do
  let strategyId := call.config.strategyId
  let existing := getStrategyConfig tables strategyId
  let nextVersion := nextStrategyVersion existing (persistedVersion tables strategyId)
  let upserted ← upsertStrategyConfigTx tables call.config nextVersion call.now
  let versions ← ofOption
    (upserted.versions.insert? ⟨strategyId.asStr, nextVersion, call.config, call.actorId,
      call.correlationId, call.now⟩)
    (.message "duplicate key value violates unique constraint")
  let oldConfig ← existing.mapM strategyConfigFromRecord
  let audit := upserted.audit ++ [{
    strategyId := strategyId.asStr
    version := some nextVersion
    oldConfig := oldConfig
    newConfig := some call.config
    validationIssues := []
    actorId := call.actorId
    correlationId := call.correlationId
    createdAt := call.now }]
  return ({ upserted with versions := versions, audit := audit }, getStrategyConfig upserted strategyId)

def storedStrategyConfig (tables : StrategyConfigTables) (strategyId : StrategyId) :
    Except Fault (Option StrategyConfig) :=
  (getStrategyConfig tables strategyId).mapM strategyConfigFromRecord

def persistAndReadBack (tables : StrategyConfigTables) (call : PersistConfigCall) :
    Except Fault (Option StrategyConfig) := do
  let (stored, _) ← persistStrategyConfigVersion tables call
  storedStrategyConfig stored call.config.strategyId

section ReadBack
variable {config : StrategyConfig} {version : Int} {now : DateTime}

/-- A configuration all of whose values fit their columns. -/
structure FitsColumns (config : StrategyConfig) : Prop where
  symbols : ∀ symbol ∈ config.symbols, ',' ∉ symbol.text.toList
  decimals : ∀ decimal ∈ decimals config, FitsNumeric decimal
  counts : ∀ count ∈ counts config, count < 2 ^ 32

theorem FitsColumns.map_numeric (fits : FitsColumns config) :
    (optionalDecimals config).map (Option.map numeric) = optionalDecimals config := by
  refine Eq.trans (map_congr_left fun value hValue => ?_) (map_id _)
  refine AegisQuant.map_numeric fun decimal hDecimal => fits.decimals decimal ?_
  rw [mem_def] at hDecimal
  exact mem_cons_of_mem _ (reduceOption_mem_iff.mpr (hDecimal ▸ hValue))

theorem FitsColumns.map_counts (fits : FitsColumns config) :
    (optionalCounts config).map (fun count => (count.map asI32).map asU32) = optionalCounts config := by
  refine Eq.trans (map_congr_left fun value hValue => ?_) (map_id _)
  refine map_asU32_asI32 fun count hCount => fits.counts count ?_
  rw [mem_def] at hCount
  exact mem_cons_of_mem _ (mem_cons_of_mem _
    (reduceOption_mem_iff.mpr (hCount ▸ hValue)))

/-- The configuration a row keeps: entry confirmation has no columns. -/
def withoutConfirmation (config : StrategyConfig) : StrategyConfig :=
  { config with
    confirmationCandles := 0
    requireConfirmationCloseAboveLookbackLow := false
    requireConfirmationLowAboveBreakdownLow := false }

theorem strategyConfigFromRecord_strategyConfigRow (version : Int) (now : DateTime) (fits : FitsColumns config)
    (hValid : config.validate = .ok ()) :
    strategyConfigFromRecord (mapStrategyConfig (strategyConfigRow config version now)) =
      .ok (withoutConfirmation config) := by
  have hDecimals := fits.map_numeric
  simp only [optionalDecimals, List.map_cons, List.map_nil, List.cons.injEq] at hDecimals
  have hCounts := fits.map_counts
  simp only [optionalCounts, map_cons, map_nil, cons.injEq] at hCounts
  have hNotional := (fits.decimals _ (mem_cons_self ..)).1
  have hCooldown := asU32_asI32 (fits.counts _ (mem_cons_self ..))
  have hLookback := asU32_asI32 (fits.counts _ (mem_cons_of_mem _ (mem_cons_self ..)))
  simp only [strategyConfigFromRecord, mapStrategyConfig, strategyConfigRow,
    splitSymbols_joinSymbols fits.symbols, StrategyId.fromStr_asStr, StrategyMode.fromStr_asStr,
    CandleInterval.fromStr_asStr, hNotional, hCooldown, hLookback, hDecimals, hCounts]
  change (config.validate.mapError Fault.core >>= fun _ => pure (withoutConfirmation config)) = _
  rw [hValid]
  rfl

/-- Neither the version nor the timestamps of a row are decoded, and a conflict
leaves nothing else of the row that was there. -/
theorem strategyConfigFromRecord_update {current excluded : StrategyConfigRow}
    (hSame : current.strategyId = excluded.strategyId) :
    strategyConfigFromRecord (mapStrategyConfig (current.update excluded now)) =
      strategyConfigFromRecord (mapStrategyConfig excluded) := by
  simp only [strategyConfigFromRecord, mapStrategyConfig, StrategyConfigRow.update, hSame]

end ReadBack

section Persist
variable {tables : StrategyConfigTables} {call : PersistConfigCall}

theorem require_fits (fits : FitsColumns call.config) :
    (decimals call.config).any numericOverflows = false := by
  rw [List.any_eq_false]
  intro decimal hDecimal
  simp [(fits.decimals decimal hDecimal).2]

theorem storedStrategyConfig_of_find? {strategyId : StrategyId} {row : StrategyConfigRow}
    (hFind : tables.configs.find? strategyId.asStr = some row) :
    storedStrategyConfig tables strategyId =
      (strategyConfigFromRecord (mapStrategyConfig row)).map some := by
  rw [storedStrategyConfig, getStrategyConfig, hFind, map_some, mapM_some]
  rfl

theorem storedStrategyConfig_upsert {upserted : StrategyConfigTables} {version : Int}
    (fits : FitsColumns call.config) (hValid : call.config.validate = .ok ())
    (hUpsert : upsertStrategyConfigTx tables call.config version call.now = .ok upserted) :
    storedStrategyConfig upserted call.config.strategyId =
      .ok (some (withoutConfirmation call.config)) := by
  obtain ⟨_, -, hUpserted⟩ := bind_eq_ok.mp hUpsert
  rw [pure_eq_ok] at hUpserted
  subst hUpserted
  have hDecoded := strategyConfigFromRecord_strategyConfigRow version call.now fits hValid
  rw [storedStrategyConfig_of_find? Table.find?_upsert]
  cases hFind : tables.configs.find? (strategyConfigRow call.config version call.now).strategyId with
  | none =>
    rw [elim_none, hDecoded]
    rfl
  | some current =>
    rw [elim_some, strategyConfigFromRecord_update (Table.key_of_find? hFind), hDecoded]
    rfl

theorem le_persistedVersion {row : StrategyConfigVersionRow} {strategyId : StrategyId}
    (hRow : row ∈ tables.versions.rows) (hStrategy : row.strategyId = strategyId.asStr) :
    row.version ≤ persistedVersion tables strategyId := by
  have hMem : row.version ∈ (tables.versions.rows.filter fun row =>
      row.strategyId = strategyId.asStr).map (·.version) :=
    mem_map_of_mem (mem_filter.mpr ⟨hRow, decide_eq_true hStrategy⟩)
  obtain ⟨greatest, hGreatest⟩ := isSome_iff_exists.mp (isSome_max?_of_mem hMem)
  rw [persistedVersion, hGreatest, getD_some]
  exact (max?_le_iff hGreatest).mp le_rfl _ hMem

theorem find?_nextStrategyVersion (tables : StrategyConfigTables) (strategyId : StrategyId)
    (existing : Option StrategyConfigRecord) :
    tables.versions.find? (strategyId.asStr,
      nextStrategyVersion existing (persistedVersion tables strategyId)) = none := by
  rw [Table.find?_eq_none]
  intro row hRow hKey
  rw [StrategyConfigVersionRow.key, Prod.mk.injEq] at hKey
  have hPersisted := le_persistedVersion hRow hKey.1
  have hNext := hKey.2
  rw [nextStrategyVersion] at hNext
  omega

/-- A call goes through if the row that was there, which goes into the audit
log, can be decoded. The row then keeps all but the entry confirmation. -/
theorem persistAndReadBack_eq (fits : FitsColumns call.config)
    (hValid : call.config.validate = .ok ()) :
    persistAndReadBack tables call =
      (storedStrategyConfig tables call.config.strategyId).map fun _ =>
        some (withoutConfirmation call.config) := by
  have hRequire := require_fits fits
  obtain ⟨upserted, hUpsert⟩ : ∃ upserted, upsertStrategyConfigTx tables call.config
      (nextStrategyVersion (getStrategyConfig tables call.config.strategyId)
        (persistedVersion tables call.config.strategyId)) call.now = .ok upserted := by
    simp only [upsertStrategyConfigTx, hRequire]
    exact ⟨_, rfl⟩
  have hVersions : upserted.versions = tables.versions := by
    obtain ⟨_, -, hUpserted⟩ := bind_eq_ok.mp hUpsert
    rw [pure_eq_ok] at hUpserted
    rw [← hUpserted]
  have hStored := storedStrategyConfig_upsert fits hValid hUpsert
  obtain ⟨versions, hInsert⟩ : ∃ versions, upserted.versions.insert?
      ⟨call.config.strategyId.asStr, nextStrategyVersion
        (getStrategyConfig tables call.config.strategyId)
        (persistedVersion tables call.config.strategyId), call.config, call.actorId,
        call.correlationId, call.now⟩ = some versions :=
    Table.insert?_of_unused (hVersions ▸ find?_nextStrategyVersion tables call.config.strategyId _)
  simp only [persistAndReadBack, persistStrategyConfigVersion, hUpsert, hInsert, ok_bind, ofOption]
  change ((storedStrategyConfig tables call.config.strategyId >>= _) >>= _) = _
  cases storedStrategyConfig tables call.config.strategyId with
  | error fault => rfl
  | ok oldConfig => exact hStored

end Persist

section Claim
variable {request : StrategyConfigUpdateRequest} {context : StrategyValidationContext}
  {validatedAt : DateTime} {config : StrategyConfig}

theorem withoutConfirmation_eq_self : withoutConfirmation config = config ↔
    config.confirmationCandles = 0 ∧ config.requireConfirmationCloseAboveLookbackLow = false ∧
      config.requireConfirmationLowAboveBreakdownLow = false := by
  constructor
  · intro hSame
    exact ⟨by rw [← hSame]; rfl, by rw [← hSame]; rfl, by rw [← hSame]; rfl⟩
  · rintro ⟨hCandles, hClose, hLow⟩
    cases config
    simp only at hCandles hClose hLow
    rw [withoutConfirmation, hCandles, hClose, hLow]

/-- An accepted configuration is read back as it was stored precisely if it
asks for no entry confirmation, on a row that can be decoded or on none. The
version log and the audit log keep the confirmation, the row has no columns for
it. -/
theorem stored_config_unchanged_iff (tables : StrategyConfigTables) (actorId : Option Uuid)
    (correlationId : Uuid) (now : DateTime)
    (hConfig : (validateStrategyConfig request context validatedAt).normalizedConfig = some config)
    (hFits : FitsColumns config) :
    persistAndReadBack tables ⟨config, actorId, correlationId, now⟩ = .ok (some config) ↔
      (storedStrategyConfig tables config.strategyId).isOk ∧ config.confirmationCandles = 0 ∧
        config.requireConfirmationCloseAboveLookbackLow = false ∧
        config.requireConfirmationLowAboveBreakdownLow = false := by
  have hValid : config.validate = .ok () := by
    obtain ⟨strategyId, -, hIssues, rfl⟩ := normalizedConfig_eq_some.mp hConfig
    exact validate_of_passedChecks (passedChecks_of_no_error hIssues)
  rw [← withoutConfirmation_eq_self, persistAndReadBack_eq hFits hValid]
  cases storedStrategyConfig tables config.strategyId with
  | error fault => simp [Except.map, Except.isOk, Except.toBool]
  | ok stored => simp [Except.map, Except.isOk, Except.toBool]

end Claim

section Sample

def emptyConfigTables : StrategyConfigTables := ⟨Table.empty, Table.empty, []⟩

def sampleReclaimRequest (confirmationCandles : Nat) : StrategyConfigUpdateRequest :=
  { samplePullbackRequest with
    strategyId := "failed_breakdown_reclaim_v1"
    confirmationCandles := confirmationCandles }

def sampleReclaimConfig (confirmationCandles : Nat) : StrategyConfig :=
  normalizedConfig .failedBreakdownReclaimV1 (sampleReclaimRequest confirmationCandles)
    sampleValidation

theorem stored_config_unchanged_sample :
    persistAndReadBack emptyConfigTables ⟨sampleReclaimConfig 0, none, ⟨1⟩, 0⟩ =
      .ok (some (sampleReclaimConfig 0)) := by
  have hAccepted : (validateStrategyConfig (sampleReclaimRequest 0) sampleValidation
      0).normalizedConfig = some (sampleReclaimConfig 0) := by
    with_unfolding_all rfl
  have hFits : FitsColumns (sampleReclaimConfig 0) :=
    ⟨by decide +kernel, by decide +kernel, by decide +kernel⟩
  exact (stored_config_unchanged_iff emptyConfigTables none ⟨1⟩ 0 hAccepted hFits).mpr
    ⟨rfl, rfl, rfl, rfl⟩

/-- Three candles of confirmation are accepted, and none is read back. -/
theorem stored_config_loses_confirmation :
    ¬∀ request context validatedAt config actorId correlationId now,
      (validateStrategyConfig request context validatedAt).valid = true →
      (validateStrategyConfig request context validatedAt).normalizedConfig = some config →
      FitsColumns config →
      persistAndReadBack emptyConfigTables ⟨config, actorId, correlationId, now⟩ =
        .ok (some config) := by
  intro hUnchanged
  have hAccepted : (validateStrategyConfig (sampleReclaimRequest 3) sampleValidation
      0).normalizedConfig = some (sampleReclaimConfig 3) := by
    with_unfolding_all rfl
  have hFits : FitsColumns (sampleReclaimConfig 3) :=
    ⟨by decide +kernel, by decide +kernel, by decide +kernel⟩
  have hStored := hUnchanged _ _ _ _ none ⟨1⟩ 0 (valid_of_normalizedConfig hAccepted) hAccepted hFits
  rw [persistAndReadBack_eq hFits (by decide +kernel)] at hStored
  have hSame := withoutConfirmation_eq_self.mp (some.inj (Except.ok.inj hStored))
  exact absurd hSame.1 (by decide +kernel)

end Sample

end AegisQuant.Strategy
