import AegisQuant.Library.VersionedRegister
import AegisQuant.Risk.Engine
import AegisQuant.Store.Columns

/-! The stored risk configuration, one row under a fixed key, as a versioned
register. Its calls take the number of the next version from the row alone. -/
namespace AegisQuant.Risk
open VersionedRegister Option

def globalRiskConfigKey : String := "global"

/-- A row of `risk_configs`, and the record the code reads it as. -/
structure RiskConfigRecord where
  configKey : String
  configId : Uuid
  maxOpenPositions : Int
  maxDailyLossPct : Decimal
  maxWeeklyLossPct : Decimal
  maxPositionNotional : Decimal
  maxSlippagePct : Decimal
  maxConsecutiveLosses : Int
  cooldownSeconds : Int
  maxSignalAgeMs : Int
  staleFeedThresholdSeconds : Int
  currentVersion : Int
  createdAt : DateTime
  updatedAt : DateTime

structure PersistRiskConfigCall where
  config : RiskConfig
  newConfigId : Uuid
  actorId : Option Uuid
  correlationId : Uuid
  now : DateTime

/-- The values an upsert binds. -/
def riskConfigRow (configId : Uuid) (config : RiskConfig) (currentVersion : Int) (now : DateTime) :
    RiskConfigRecord where
  configKey := globalRiskConfigKey
  configId := configId
  maxOpenPositions := asI32 config.maxOpenPositions
  maxDailyLossPct := numeric config.maxDailyLossPct
  maxWeeklyLossPct := numeric config.maxWeeklyLossPct
  maxPositionNotional := numeric config.maxPositionNotional
  maxSlippagePct := numeric config.maxSlippagePct
  maxConsecutiveLosses := asI32 config.maxConsecutiveLosses
  cooldownSeconds := asI32 config.cooldownSeconds
  maxSignalAgeMs := config.maxSignalAgeMs
  staleFeedThresholdSeconds := asI32 config.staleFeedThresholdSeconds
  currentVersion := currentVersion
  createdAt := now
  updatedAt := now

/-- `ON CONFLICT (config_key) DO UPDATE`. -/
def RiskConfigRecord.update (current excluded : RiskConfigRecord) (now : DateTime) :
    RiskConfigRecord :=
  { current with
    configId := excluded.configId
    maxOpenPositions := excluded.maxOpenPositions
    maxDailyLossPct := excluded.maxDailyLossPct
    maxWeeklyLossPct := excluded.maxWeeklyLossPct
    maxPositionNotional := excluded.maxPositionNotional
    maxSlippagePct := excluded.maxSlippagePct
    maxConsecutiveLosses := excluded.maxConsecutiveLosses
    cooldownSeconds := excluded.cooldownSeconds
    maxSignalAgeMs := excluded.maxSignalAgeMs
    staleFeedThresholdSeconds := excluded.staleFeedThresholdSeconds
    currentVersion := excluded.currentVersion
    updatedAt := now }

def riskConfigFromRecord (record : RiskConfigRecord) : Except Fault RiskConfig := do
  let config : RiskConfig := {
    maxOpenPositions := asU32 record.maxOpenPositions
    maxDailyLossPct := record.maxDailyLossPct
    maxWeeklyLossPct := record.maxWeeklyLossPct
    maxPositionNotional := record.maxPositionNotional
    maxSlippagePct := record.maxSlippagePct
    maxConsecutiveLosses := asU32 record.maxConsecutiveLosses
    cooldownSeconds := asU32 record.cooldownSeconds
    maxSignalAgeMs := record.maxSignalAgeMs
    staleFeedThresholdSeconds := asU32 record.staleFeedThresholdSeconds }
  config.validate.mapError Fault.core
  return config

def riskDecimals (config : RiskConfig) : List Decimal :=
  [config.maxDailyLossPct, config.maxWeeklyLossPct, config.maxPositionNotional,
    config.maxSlippagePct]

def riskCounts (config : RiskConfig) : List Nat :=
  [config.maxOpenPositions, config.maxConsecutiveLosses, config.cooldownSeconds,
    config.staleFeedThresholdSeconds]

/-- The row that the upsert of a call leaves. The identifier is that of the row
the call has read. -/
def writtenRiskRow (existing current : Option RiskConfigRecord) (call : PersistRiskConfigCall)
    (version : Int) : RiskConfigRecord :=
  let excluded := riskConfigRow ((existing.map (·.configId)).getD call.newConfigId) call.config version
    call.now
  current.elim excluded (·.update excluded call.now)

def riskRegister : Register PersistRiskConfigCall RiskConfig RiskConfigRecord where
  value call := call.config
  version row := row.currentVersion
  write existing current call version :=
    if (riskDecimals call.config).any numericOverflows then none
    else some (writtenRiskRow existing current call version)
  decode row := (riskConfigFromRecord row).toOption
  readsLog := false
  version_write := by
    intro existing current call version row hWrite
    rw [ite_none_left_eq_some] at hWrite
    rw [← some.inj hWrite.2]
    cases current <;> rfl

/-- A configuration that its row gives back. -/
structure StorableRisk (config : RiskConfig) : Prop where
  valid : config.validate = .ok ()
  decimals : ∀ decimal ∈ riskDecimals config, FitsNumeric decimal
  counts : ∀ count ∈ riskCounts config, count < 2 ^ 32

theorem riskConfigFromRecord_riskConfigRow {config : RiskConfig} (hStorable : StorableRisk config)
    (configId : Uuid) (version : Int) (now : DateTime) :
    riskConfigFromRecord (riskConfigRow configId config version now) = .ok config := by
  have hDecimals := hStorable.decimals
  simp only [riskDecimals, List.forall_mem_cons] at hDecimals
  obtain ⟨hDaily, hWeekly, hNotional, hSlippage, -⟩ := hDecimals
  have hCounts := hStorable.counts
  simp only [riskCounts, List.forall_mem_cons] at hCounts
  obtain ⟨hOpen, hLosses, hCooldown, hStale, -⟩ := hCounts
  simp only [riskConfigFromRecord, riskConfigRow, hDaily.1, hWeekly.1, hNotional.1, hSlippage.1,
    asU32_asI32 hOpen, asU32_asI32 hLosses, asU32_asI32 hCooldown, asU32_asI32 hStale]
  change (config.validate.mapError Fault.core >>= fun _ => pure config) = _
  rw [hStorable.valid]
  rfl

theorem riskConfigFromRecord_update (current excluded : RiskConfigRecord) (now : DateTime) :
    riskConfigFromRecord (current.update excluded now) = riskConfigFromRecord excluded := by
  simp only [riskConfigFromRecord, RiskConfigRecord.update]

theorem readsBack_of_storableRisk {call : PersistRiskConfigCall}
    (hStorable : StorableRisk call.config) : ReadsBack riskRegister call := by
  intro existing current version row hWrite
  simp only [riskRegister, ite_none_left_eq_some, some.injEq] at hWrite
  obtain ⟨-, rfl⟩ := hWrite
  have hDecoded := riskConfigFromRecord_riskConfigRow hStorable
    ((existing.map (·.configId)).getD call.newConfigId) version call.now
  change (riskConfigFromRecord (writtenRiskRow existing current call version)).toOption =
    some call.config
  cases current with
  | none => exact congrArg Except.toOption hDecoded
  | some current =>
    exact congrArg Except.toOption ((riskConfigFromRecord_update current _ call.now).trans hDecoded)

end AegisQuant.Risk
