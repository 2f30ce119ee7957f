import AegisQuant.Risk.Engine

/-! The limits behind the rules. Each rejecting rule watches one limit; the
evaluation approves when none is broken, and a worse snapshot, a tighter
configuration or a riskier signal breaks no fewer of them. -/
namespace AegisQuant.Risk
open List

def LimitBroken (config : RiskConfig) (context : RiskCheckContext) (snapshot : RiskStateSnapshot) :
    RiskRejectionReason → Prop
  | .killSwitchActive => snapshot.killSwitchEnabled = true
  | .maxOpenPositionsExceeded =>
    ∃ count ∈ snapshot.openPositionsCount, count ≥ config.maxOpenPositions
  | .maxDailyLossExceeded => ∃ lossPct ∈ snapshot.dailyLossPct, lossPct ≥ config.maxDailyLossPct
  | .maxWeeklyLossExceeded => ∃ lossPct ∈ snapshot.weeklyLossPct, lossPct ≥ config.maxWeeklyLossPct
  | .maxConsecutiveLossesExceeded =>
    ∃ losses ∈ snapshot.consecutiveLosses, losses ≥ config.maxConsecutiveLosses
  | .cooldownActive => ∃ lastTradeAt ∈ snapshot.lastTradeAt,
      context.evaluatedAt - lastTradeAt < DateTime.seconds config.cooldownSeconds
  | .signalTooOld =>
    context.evaluatedAt - context.signalCreatedAt > DateTime.milliseconds config.maxSignalAgeMs
  | .positionNotionalExceeded => context.suggestedNotional > config.maxPositionNotional
  | .dataStale => ∃ lastUpdate ∈ snapshot.latestMarketDataAt,
      context.evaluatedAt - lastUpdate > DateTime.seconds config.staleFeedThresholdSeconds
  | .duplicateOrderDetected | .unsupportedState => False

instance decidableLimitBroken (config : RiskConfig) (context : RiskCheckContext)
    (snapshot : RiskStateSnapshot) (reason : RiskRejectionReason) :
    Decidable (LimitBroken config context snapshot reason) := by
  cases reason <;> unfold LimitBroken <;> infer_instance

def reasonsInRuleOrder : List RiskRejectionReason :=
  [.killSwitchActive, .maxOpenPositionsExceeded, .maxDailyLossExceeded, .maxWeeklyLossExceeded,
    .maxConsecutiveLossesExceeded, .cooldownActive, .signalTooOld, .positionNotionalExceeded,
    .duplicateOrderDetected, .dataStale]

def namedReason : RiskRejectionReason → RiskRejectionReason
  | .maxDailyLossExceeded => .maxWeeklyLossExceeded
  | .maxWeeklyLossExceeded => .maxDailyLossExceeded
  | reason => reason

/-- The rule gives its reason when the limit is broken, and only then. -/
def Watches (rule : RiskRule) (limit : RiskRejectionReason) : Prop :=
  ∀ context snapshot config, rejectionReason (rule context snapshot config) =
    if LimitBroken config context snapshot limit then some (namedReason limit) else none

section Rules

variable (ruleName : String)

theorem rejectionReason_rejected (reason : RiskRejectionReason) (message : RuleMessage)
    : rejectionReason (rejected ruleName reason message) = some reason :=
  rfl

theorem rejectionReason_passed : rejectionReason (passed ruleName) = none :=
  rfl

theorem rejectionReason_warned (ruleName message : String) :
    rejectionReason (warned ruleName message) = none := rfl

theorem rejectionReason_figureRule {Figure : Type} (reason : RiskRejectionReason)
    (figure : Option Figure) (beyond : Figure → Prop) [DecidablePred beyond]
    [Decidable (∃ value ∈ figure, beyond value)] (message : Figure → RuleMessage)
    (unavailable : String) :
    rejectionReason (figureRule ruleName reason figure (fun value => beyond value) message
        unavailable) = if ∃ value ∈ figure, beyond value then some reason else none := by
  cases figure with
  | none => simp [figureRule, rejectionReason_warned]
  | some value =>
    by_cases hBeyond : beyond value
    · simp [figureRule, hBeyond, rejectionReason_rejected]
    · simp [figureRule, hBeyond, rejectionReason_passed]

theorem rejectionReason_ite (broken : Prop) [Decidable broken] (ruleName : String)
    (reason : RiskRejectionReason) (message : RuleMessage) :
    rejectionReason (if broken then rejected ruleName reason message else passed ruleName) =
      if broken then some reason else none := by
  by_cases hBroken : broken
  · rw [if_pos hBroken, if_pos hBroken, rejectionReason_rejected]
  · rw [if_neg hBroken, if_neg hBroken, rejectionReason_passed]

theorem killSwitchRule_watches : Watches killSwitchRule .killSwitchActive :=
  fun _ _ _ => rejectionReason_ite _ _ _ _

theorem maxOpenPositionsRule_watches : Watches maxOpenPositionsRule .maxOpenPositionsExceeded :=
  fun _ _ _ => rejectionReason_figureRule _ _ _ _ _ _

theorem maxDailyLossRule_watches : Watches maxDailyLossRule .maxDailyLossExceeded :=
  fun _ _ _ => rejectionReason_figureRule _ _ _ _ _ _

theorem maxWeeklyLossRule_watches : Watches maxWeeklyLossRule .maxWeeklyLossExceeded :=
  fun _ _ _ => rejectionReason_figureRule _ _ _ _ _ _

theorem maxConsecutiveLossesRule_watches :
    Watches maxConsecutiveLossesRule .maxConsecutiveLossesExceeded :=
  fun _ _ _ => rejectionReason_figureRule _ _ _ _ _ _

theorem cooldownRule_watches : Watches cooldownRule .cooldownActive :=
  fun _ _ _ => rejectionReason_figureRule _ _ _ _ _ _

theorem maxSignalAgeRule_watches : Watches maxSignalAgeRule .signalTooOld :=
  fun _ _ _ => rejectionReason_ite _ _ _ _

theorem maxPositionNotionalRule_watches :
    Watches maxPositionNotionalRule .positionNotionalExceeded :=
  fun _ _ _ => rejectionReason_ite _ _ _ _

theorem duplicateOrderRule_watches : Watches duplicateOrderRule .duplicateOrderDetected := by
  intro context snapshot config
  rw [if_neg (show ¬LimitBroken config context snapshot .duplicateOrderDetected from id),
    duplicateOrderRule, rejectionReason_warned]

theorem dataFreshnessRule_watches : Watches dataFreshnessRule .dataStale :=
  fun _ _ _ => rejectionReason_figureRule _ _ _ _ _ _

theorem riskRules_watch : List.Forall₂ Watches riskRules reasonsInRuleOrder :=
  .cons killSwitchRule_watches <| .cons maxOpenPositionsRule_watches <|
    .cons maxDailyLossRule_watches <| .cons maxWeeklyLossRule_watches <|
    .cons maxConsecutiveLossesRule_watches <| .cons cooldownRule_watches <|
    .cons maxSignalAgeRule_watches <| .cons maxPositionNotionalRule_watches <|
    .cons duplicateOrderRule_watches <| .cons dataFreshnessRule_watches .nil

end Rules

section Evaluation
variable {config : RiskConfig} {riskDecisionId : Uuid} {context : RiskCheckContext}
  {snapshot : RiskStateSnapshot}

theorem reasons_evaluate : (evaluate config riskDecisionId context snapshot).reasons =
    reasonsInRuleOrder.filterMap fun limit =>
      if LimitBroken config context snapshot limit then some (namedReason limit) else none := by
  have hReasons {rules : List RiskRule} {limits : List RiskRejectionReason}
      (hWatch : List.Forall₂ Watches rules limits) :
      rules.filterMap (fun rule => rejectionReason (rule context snapshot config)) =
        limits.filterMap fun limit =>
          if LimitBroken config context snapshot limit then some (namedReason limit) else none := by
    induction hWatch with
    | nil => rfl
    | cons hRule _ ih => rw [filterMap_cons, filterMap_cons, hRule, ih]
  rw [← hReasons riskRules_watch]
  exact filterMap_map

theorem evaluate_approved_iff_unbroken :
    (evaluate config riskDecisionId context snapshot).decision = .approved ↔
      ∀ limit, ¬LimitBroken config context snapshot limit := by
  have hEmpty : (evaluate config riskDecisionId context snapshot).decision = .approved ↔
      (evaluate config riskDecisionId context snapshot).reasons = [] := by
    simp [evaluate]
  rw [hEmpty, reasons_evaluate, filterMap_eq_nil_iff]
  constructor
  · intro hNone limit hBroken
    have hListed : limit ∈ reasonsInRuleOrder := by
      cases limit with
      | unsupportedState => exact hBroken.elim
      | _ => decide
    have hReason := hNone limit hListed
    rw [if_pos hBroken] at hReason
    cases hReason
  · intro hUnbroken limit _
    exact if_neg (hUnbroken limit)

theorem evaluate_rejected_iff_broken :
    (evaluate config riskDecisionId context snapshot).decision = .rejected ↔
      ∃ limit, LimitBroken config context snapshot limit := by
  have hNot : (evaluate config riskDecisionId context snapshot).decision = .rejected ↔
      ¬(evaluate config riskDecisionId context snapshot).decision = .approved := by
    cases (evaluate config riskDecisionId context snapshot).decision <;> decide
  rw [hNot, evaluate_approved_iff_unbroken, not_forall]
  simp only [not_not]

end Evaluation

section Order

/-- A known figure stays known and is no better; an unknown one becomes
anything. -/
def FigureWorse {Figure : Type} (worse : Figure → Figure → Prop) (before after : Option Figure) :
    Prop :=
  ∀ value ∈ before, ∃ value' ∈ after, worse value value'

/-- Times are worse for market data when they are earlier, and for the last
trade when they are later. -/
structure SnapshotWorse (before after : RiskStateSnapshot) : Prop where
  killSwitchEnabled : before.killSwitchEnabled = true → after.killSwitchEnabled = true
  openPositionsCount : FigureWorse (· ≤ ·) before.openPositionsCount after.openPositionsCount
  dailyLossPct : FigureWorse (· ≤ ·) before.dailyLossPct after.dailyLossPct
  weeklyLossPct : FigureWorse (· ≤ ·) before.weeklyLossPct after.weeklyLossPct
  consecutiveLosses : FigureWorse (· ≤ ·) before.consecutiveLosses after.consecutiveLosses
  latestMarketDataAt : FigureWorse (· ≥ ·) before.latestMarketDataAt after.latestMarketDataAt
  lastTradeAt : FigureWorse (· ≤ ·) before.lastTradeAt after.lastTradeAt

structure ConfigTighter (before after : RiskConfig) : Prop where
  maxOpenPositions : after.maxOpenPositions ≤ before.maxOpenPositions
  maxDailyLossPct : after.maxDailyLossPct ≤ before.maxDailyLossPct
  maxWeeklyLossPct : after.maxWeeklyLossPct ≤ before.maxWeeklyLossPct
  maxPositionNotional : after.maxPositionNotional ≤ before.maxPositionNotional
  maxSlippagePct : after.maxSlippagePct ≤ before.maxSlippagePct
  maxConsecutiveLosses : after.maxConsecutiveLosses ≤ before.maxConsecutiveLosses
  cooldownSeconds : before.cooldownSeconds ≤ after.cooldownSeconds
  maxSignalAgeMs : after.maxSignalAgeMs ≤ before.maxSignalAgeMs
  staleFeedThresholdSeconds : after.staleFeedThresholdSeconds ≤ before.staleFeedThresholdSeconds

/-- Evaluated at the same time, a signal is riskier when it asks for more or
was created earlier. -/
structure ContextRiskier (before after : RiskCheckContext) : Prop where
  evaluatedAt : after.evaluatedAt = before.evaluatedAt
  suggestedNotional : before.suggestedNotional ≤ after.suggestedNotional
  signalCreatedAt : after.signalCreatedAt ≤ before.signalCreatedAt

theorem FigureWorse.beyond {Figure : Type} {worse : Figure → Figure → Prop}
    {before after : Option Figure} {limit limit' : Figure → Prop}
    (hWorse : FigureWorse worse before after)
    (hKept : ∀ value value', worse value value' → limit value → limit' value')
    (hBeyond : ∃ value ∈ before, limit value) : ∃ value ∈ after, limit' value := by
  obtain ⟨value, hValue, hLimit⟩ := hBeyond
  obtain ⟨value', hValue', hLe⟩ := hWorse value hValue
  exact ⟨value', hValue', hKept value value' hLe hLimit⟩

theorem seconds_mono {count count' : Nat} (hLe : count ≤ count') :
    DateTime.seconds count ≤ DateTime.seconds count' :=
  Int.mul_le_mul_of_nonneg_right (Int.ofNat_le.mpr hLe) (by decide)

theorem milliseconds_mono {count count' : Int} (hLe : count ≤ count') :
    DateTime.milliseconds count ≤ DateTime.milliseconds count' :=
  Int.mul_le_mul_of_nonneg_right hLe (by decide)

variable {config config' : RiskConfig} {context context' : RiskCheckContext}
  {snapshot snapshot' : RiskStateSnapshot}

theorem LimitBroken.mono (hWorse : SnapshotWorse snapshot snapshot')
    (hTighter : ConfigTighter config config') (hRiskier : ContextRiskier context context')
    {limit : RiskRejectionReason} (hBroken : LimitBroken config context snapshot limit) :
    LimitBroken config' context' snapshot' limit := by
  cases limit with
  | killSwitchActive => exact hWorse.killSwitchEnabled hBroken
  | maxOpenPositionsExceeded =>
    apply hWorse.openPositionsCount.beyond _ hBroken
    intro count count' hCount hBeyond
    exact hTighter.maxOpenPositions.trans (hBeyond.trans hCount)
  | maxDailyLossExceeded =>
    apply hWorse.dailyLossPct.beyond _ hBroken
    intro lossPct lossPct' hLoss hBeyond
    exact hTighter.maxDailyLossPct.trans (hBeyond.trans hLoss)
  | maxWeeklyLossExceeded =>
    apply hWorse.weeklyLossPct.beyond _ hBroken
    intro lossPct lossPct' hLoss hBeyond
    exact hTighter.maxWeeklyLossPct.trans (hBeyond.trans hLoss)
  | maxConsecutiveLossesExceeded =>
    apply hWorse.consecutiveLosses.beyond _ hBroken
    intro losses losses' hLosses hBeyond
    exact hTighter.maxConsecutiveLosses.trans (hBeyond.trans hLosses)
  | cooldownActive =>
    apply hWorse.lastTradeAt.beyond _ hBroken
    intro lastTradeAt lastTradeAt' hLater hActive
    have hCooldown := seconds_mono hTighter.cooldownSeconds
    rw [hRiskier.evaluatedAt]
    exact (Int.sub_le_sub_left hLater _).trans_lt (hActive.trans_le hCooldown)
  | signalTooOld =>
    have hLimit := milliseconds_mono hTighter.maxSignalAgeMs
    have hAge := Int.sub_le_sub_left hRiskier.signalCreatedAt context.evaluatedAt
    unfold LimitBroken at hBroken ⊢
    rw [hRiskier.evaluatedAt]
    exact hLimit.trans_lt (hBroken.trans_le hAge)
  | duplicateOrderDetected => exact hBroken.elim
  | dataStale =>
    apply hWorse.latestMarketDataAt.beyond _ hBroken
    intro lastUpdate lastUpdate' hEarlier hStale
    have hLimit := seconds_mono hTighter.staleFeedThresholdSeconds
    rw [hRiskier.evaluatedAt]
    exact hLimit.trans_lt (hStale.trans_le (Int.sub_le_sub_left hEarlier _))
  | positionNotionalExceeded =>
    exact hTighter.maxPositionNotional.trans_lt (hBroken.trans_le hRiskier.suggestedNotional)
  | unsupportedState => exact hBroken.elim

end Order

def sampleSignal : RiskCheckContext where
  signalId := ⟨1⟩
  correlationId := ⟨2⟩
  strategyId := "momentum_v1"
  symbol := .btcusdt
  side := .buy
  suggestedNotional := 1000
  signalCreatedAt := DateTime.seconds 100
  evaluatedAt := DateTime.seconds 101

def sampleSnapshot (dailyLossPct : Decimal) : RiskStateSnapshot where
  killSwitchEnabled := false
  killSwitchReason := none
  openPositionsCount := none
  dailyLossPct := some dailyLossPct
  weeklyLossPct := none
  consecutiveLosses := none
  latestMarketDataAt := none
  lastTradeAt := none

section Results
variable {config config' : RiskConfig} {riskDecisionId riskDecisionId' : Uuid}
  {context context' : RiskCheckContext} {snapshot snapshot' : RiskStateSnapshot}

/-- No worse snapshot, tighter configuration or riskier signal turns a rejection
into an approval; an approval says that no limit is broken, and approves what
was asked for. -/
theorem risk_gate_monotone (hWorse : SnapshotWorse snapshot snapshot')
    (hTighter : ConfigTighter config config') (hRiskier : ContextRiskier context context') :
    ((evaluate config riskDecisionId context snapshot).decision = .rejected →
      (evaluate config' riskDecisionId' context' snapshot').decision = .rejected) ∧
    ((evaluate config riskDecisionId context snapshot).decision = .approved ↔
      ∀ limit, ¬LimitBroken config context snapshot limit) ∧
    ((evaluate config riskDecisionId context snapshot).decision = .approved →
      (evaluate config riskDecisionId context snapshot).approvedNotional =
        some context.suggestedNotional) := by
  refine ⟨?_, evaluate_approved_iff_unbroken, approvedNotional_of_approved⟩
  intro hRejected
  obtain ⟨limit, hBroken⟩ := evaluate_rejected_iff_broken.mp hRejected
  exact evaluate_rejected_iff_broken.mpr ⟨limit, hBroken.mono hWorse hTighter hRiskier⟩

theorem risk_gate_monotone_sample :
    (evaluate .default ⟨3⟩ sampleSignal (sampleSnapshot 4)).decision = .rejected := by
  have hUnknown {Figure : Type} (worse : Figure → Figure → Prop) : FigureWorse worse none none := by
    intro value hValue
    cases hValue
  have hWorse : SnapshotWorse (sampleSnapshot 3) (sampleSnapshot 4) := {
    killSwitchEnabled := id
    openPositionsCount := hUnknown _
    dailyLossPct := by
      intro value hValue
      cases hValue
      exact ⟨4, rfl, by decide⟩
    weeklyLossPct := hUnknown _
    consecutiveLosses := hUnknown _
    latestMarketDataAt := hUnknown _
    lastTradeAt := hUnknown _ }
  have hTighter : ConfigTighter .default .default := by constructor <;> exact le_rfl
  have hRiskier : ContextRiskier sampleSignal sampleSignal := ⟨rfl, le_rfl, le_rfl⟩
  have hRejected :
      (evaluate .default ⟨3⟩ sampleSignal (sampleSnapshot 3)).decision = .rejected := by
    decide +kernel
  exact (risk_gate_monotone hWorse hTighter hRiskier).1 hRejected

theorem filterMap_namedReason {limits : List RiskRejectionReason}
    (hNamed : ∀ limit ∈ limits, namedReason limit = limit) :
    (limits.filterMap fun limit =>
        if LimitBroken config context snapshot limit then some (namedReason limit) else none) =
      limits.filter fun limit => LimitBroken config context snapshot limit := by
  rw [← filterMap_eq_filter]
  apply filterMap_congr
  intro limit hLimit
  rw [hNamed limit hLimit]
  simp [Option.guard]

/-- The reasons are those of the broken limits, each once and in the order of
the rules, exactly when neither loss limit is broken: the rules on daily and
weekly losses give each other's reason. -/
theorem reasons_name_limits_iff : (evaluate config riskDecisionId context snapshot).reasons =
        reasonsInRuleOrder.filter (fun limit => LimitBroken config context snapshot limit) ↔
      ¬LimitBroken config context snapshot .maxDailyLossExceeded ∧
        ¬LimitBroken config context snapshot .maxWeeklyLossExceeded := by
  let before : List RiskRejectionReason := [.killSwitchActive, .maxOpenPositionsExceeded]
  let losses : List RiskRejectionReason := [.maxDailyLossExceeded, .maxWeeklyLossExceeded]
  let after : List RiskRejectionReason :=
    [.maxConsecutiveLossesExceeded, .cooldownActive, .signalTooOld, .positionNotionalExceeded,
      .duplicateOrderDetected, .dataStale]
  have hParts : reasonsInRuleOrder = before ++ losses ++ after := rfl
  have hBefore : ∀ limit ∈ before, namedReason limit = limit := by decide
  have hAfter : ∀ limit ∈ after, namedReason limit = limit := by decide
  rw [reasons_evaluate, hParts]
  simp only [filterMap_append, filter_append, filterMap_namedReason hBefore,
    filterMap_namedReason hAfter, append_cancel_left_eq, append_cancel_right_eq]
  by_cases hDaily : LimitBroken config context snapshot .maxDailyLossExceeded <;>
    by_cases hWeekly : LimitBroken config context snapshot .maxWeeklyLossExceeded <;>
    simp [losses, hDaily, hWeekly, namedReason]

/-- A daily loss at its limit is reported as a weekly one. -/
theorem daily_loss_named_weekly : ¬∀ config riskDecisionId context snapshot,
      (evaluate config riskDecisionId context snapshot).reasons =
        reasonsInRuleOrder.filter fun limit => LimitBroken config context snapshot limit := by
  intro hNamed
  have hReasons := hNamed .default ⟨3⟩ sampleSignal (sampleSnapshot 3)
  revert hReasons
  decide +kernel

end Results

end AegisQuant.Risk
