import AegisQuant.Library.VersionedRegister
import AegisQuant.Strategy.StoredConfigs

/-! The stored configuration of one strategy as a versioned register. Its calls
ask the row and then the log for the present version, in two statements. -/
namespace AegisQuant.Strategy
open VersionedRegister Option

/-- The rows and the calls of one strategy. -/
abbrev RowOf (strategyId : StrategyId) : Type :=
  { row : StrategyConfigRow // row.strategyId = strategyId.asStr }

abbrev CallOf (strategyId : StrategyId) : Type :=
  { call : PersistConfigCall // call.config.strategyId = strategyId }

def writtenRow {strategyId : StrategyId} (existing : Option (RowOf strategyId))
    (call : CallOf strategyId) (version : Int) : RowOf strategyId :=
  match existing with
  | none => ⟨strategyConfigRow call.1.config version call.1.now, congrArg StrategyId.asStr call.2⟩
  | some current =>
    ⟨current.1.update (strategyConfigRow call.1.config version call.1.now) call.1.now, current.2⟩

def strategyRegister (strategyId : StrategyId) :
    Register (CallOf strategyId) StrategyConfig (RowOf strategyId) where
  value call := call.1.config
  version row := row.1.currentVersion
  write _ current call version :=
    if (decimals call.1.config).any numericOverflows then none
    else some (writtenRow current call version)
  decode row := (strategyConfigFromRecord (mapStrategyConfig row.1)).toOption
  readsLog := true
  version_write := by
    intro existing current call version row hWrite
    rw [ite_none_left_eq_some] at hWrite
    rw [← some.inj hWrite.2]
    cases current <;> rfl

/-- A configuration that its row gives back. -/
structure Storable (config : StrategyConfig) : Prop where
  valid : config.validate = .ok ()
  fits : FitsColumns config
  unconfirmed : withoutConfirmation config = config

theorem readsBack_of_storable {strategyId : StrategyId} {call : CallOf strategyId}
    (hStorable : Storable call.1.config) : ReadsBack (strategyRegister strategyId) call := by
  intro existing current version row hWrite
  have hDecoded := strategyConfigFromRecord_strategyConfigRow version call.1.now hStorable.fits
    hStorable.valid
  rw [hStorable.unconfirmed] at hDecoded
  simp only [strategyRegister, ite_none_left_eq_some, some.injEq] at hWrite
  obtain ⟨-, rfl⟩ := hWrite
  change (strategyConfigFromRecord (mapStrategyConfig (writtenRow current call version).1)).toOption =
    some call.1.config
  cases current with
  | none => exact congrArg Except.toOption hDecoded
  | some current =>
    have hSame : current.1.strategyId =
        (strategyConfigRow call.1.config version call.1.now).strategyId :=
      current.2.trans (congrArg StrategyId.asStr call.2.symm)
    exact congrArg Except.toOption ((strategyConfigFromRecord_update hSame).trans hDecoded)

end AegisQuant.Strategy
