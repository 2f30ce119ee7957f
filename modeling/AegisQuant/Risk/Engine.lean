import AegisQuant.Core.Basic

/-! The risk engine: ten rules over a snapshot of the account and the market,
and the evaluation that approves a signal when none of them rejects it. -/
namespace AegisQuant.Risk

structure RiskConfig where
  maxOpenPositions : Nat
  maxDailyLossPct : Decimal
  maxWeeklyLossPct : Decimal
  maxPositionNotional : Decimal
  maxSlippagePct : Decimal
  maxConsecutiveLosses : Nat
  cooldownSeconds : Nat
  maxSignalAgeMs : Int
  staleFeedThresholdSeconds : Nat
  deriving DecidableEq

def RiskConfig.default : RiskConfig where
  maxOpenPositions := 2
  maxDailyLossPct := 2
  maxWeeklyLossPct := 5
  maxPositionNotional := 150000
  maxSlippagePct := 1
  maxConsecutiveLosses := 3
  cooldownSeconds := 900
  maxSignalAgeMs := 5000
  staleFeedThresholdSeconds := 10

def RiskConfig.validate (config : RiskConfig) : Except CoreError Unit :=
  if config.maxOpenPositions = 0 then
    .error (.invalidRiskConfig "max_open_positions must be greater than zero")
  else if config.maxDailyLossPct ≤ 0 then
    .error (.invalidRiskConfig "max_daily_loss_pct must be greater than zero")
  else if config.maxWeeklyLossPct ≤ 0 then
    .error (.invalidRiskConfig "max_weekly_loss_pct must be greater than zero")
  else if config.maxPositionNotional ≤ 0 then
    .error (.invalidRiskConfig "max_position_notional must be greater than zero")
  else if config.maxSlippagePct < 0 then
    .error (.invalidRiskConfig "max_slippage_pct cannot be negative")
  else if config.maxConsecutiveLosses = 0 then
    .error (.invalidRiskConfig "max_consecutive_losses must be greater than zero")
  else if config.maxSignalAgeMs ≤ 0 then
    .error (.invalidRiskConfig "max_signal_age_ms must be greater than zero")
  else if config.staleFeedThresholdSeconds = 0 then
    .error (.invalidRiskConfig "stale_feed_threshold_seconds must be greater than zero")
  else .ok ()

structure RiskStateSnapshot where
  killSwitchEnabled : Bool
  killSwitchReason : Option String
  openPositionsCount : Option Nat
  dailyLossPct : Option Decimal
  weeklyLossPct : Option Decimal
  consecutiveLosses : Option Nat
  latestMarketDataAt : Option DateTime
  lastTradeAt : Option DateTime
  deriving DecidableEq

structure RiskCheckContext where
  signalId : Uuid
  correlationId : Uuid
  strategyId : String
  symbol : Symbol
  side : Side
  suggestedNotional : Decimal
  signalCreatedAt : DateTime
  evaluatedAt : DateTime
  deriving DecidableEq

inductive RiskRejectionReason where
  | killSwitchActive
  | maxOpenPositionsExceeded
  | maxDailyLossExceeded
  | maxWeeklyLossExceeded
  | maxConsecutiveLossesExceeded
  | signalTooOld
  | duplicateOrderDetected
  | dataStale
  | positionNotionalExceeded
  | cooldownActive
  | unsupportedState
  deriving DecidableEq, Repr

def reasonCode : RiskRejectionReason → String
  | .killSwitchActive => "kill_switch_active"
  | .maxOpenPositionsExceeded => "max_open_positions_exceeded"
  | .maxDailyLossExceeded => "max_daily_loss_exceeded"
  | .maxWeeklyLossExceeded => "max_weekly_loss_exceeded"
  | .maxConsecutiveLossesExceeded => "max_consecutive_losses_exceeded"
  | .signalTooOld => "signal_too_old"
  | .duplicateOrderDetected => "duplicate_order_detected"
  | .dataStale => "data_stale"
  | .positionNotionalExceeded => "position_notional_exceeded"
  | .cooldownActive => "cooldown_active"
  | .unsupportedState => "unsupported_state"

inductive RiskRuleDecision where
  | pass
  | warn
  | reject
  deriving DecidableEq, Repr

inductive RuleMessage where
  | text (content : String)
  | exceedsLimit (subject : String) (figure limit : Decimal) (measure : String)
  | cooldownActiveUntil (time : DateTime)
  deriving DecidableEq

structure RiskRuleResult where
  ruleName : String
  decision : RiskRuleDecision
  reason : Option RiskRejectionReason
  message : Option RuleMessage
  deriving DecidableEq

def passed (ruleName : String) : RiskRuleResult := ⟨ruleName, .pass, none, none⟩

def warned (ruleName : String) (message : String) : RiskRuleResult :=
  ⟨ruleName, .warn, none, some (.text message)⟩

def rejected (ruleName : String) (reason : RiskRejectionReason) (message : RuleMessage) :
    RiskRuleResult :=
  ⟨ruleName, .reject, some reason, some message⟩

/-- The shape of the rules about one figure of the snapshot: reject if it is
beyond the limit, warn if it is not known. -/
def figureRule {Figure : Type} (ruleName : String) (reason : RiskRejectionReason)
    (figure : Option Figure) (beyond : Figure → Bool) (message : Figure → RuleMessage)
    (unavailable : String) : RiskRuleResult :=
  match figure with
  | some value => if beyond value then rejected ruleName reason (message value) else passed ruleName
  | none => warned ruleName unavailable

abbrev RiskRule := RiskCheckContext → RiskStateSnapshot → RiskConfig → RiskRuleResult

def killSwitchRule : RiskRule := fun _ snapshot _ =>
  if snapshot.killSwitchEnabled then
    rejected "kill_switch" .killSwitchActive
      (.text (snapshot.killSwitchReason.getD "persistent kill switch is enabled"))
  else passed "kill_switch"

def maxOpenPositionsRule : RiskRule := fun _ snapshot config =>
  figureRule "max_open_positions" .maxOpenPositionsExceeded snapshot.openPositionsCount
    (fun count => count ≥ config.maxOpenPositions)
    (fun count => .exceedsLimit "open positions" count config.maxOpenPositions "")
    "TODO: open position query is not wired yet"

/-- The reason is the weekly one. -/
def maxDailyLossRule : RiskRule := fun _ snapshot config =>
  figureRule "max_daily_loss" .maxWeeklyLossExceeded snapshot.dailyLossPct
    (fun lossPct => lossPct ≥ config.maxDailyLossPct)
    (fun lossPct => .exceedsLimit "daily loss pct" lossPct config.maxDailyLossPct "")
    "TODO: daily loss query is not wired yet"

/-- The reason is the daily one. -/
def maxWeeklyLossRule : RiskRule := fun _ snapshot config =>
  figureRule "max_weekly_loss" .maxDailyLossExceeded snapshot.weeklyLossPct
    (fun lossPct => lossPct ≥ config.maxWeeklyLossPct)
    (fun lossPct => .exceedsLimit "weekly loss pct" lossPct config.maxWeeklyLossPct "")
    "weekly loss pct is unavailable"

def maxConsecutiveLossesRule : RiskRule := fun _ snapshot config =>
  figureRule "max_consecutive_losses" .maxConsecutiveLossesExceeded snapshot.consecutiveLosses
    (fun losses => losses ≥ config.maxConsecutiveLosses)
    (fun losses => .exceedsLimit "consecutive losses" losses config.maxConsecutiveLosses "")
    "consecutive losses are unavailable"

def cooldownRule : RiskRule := fun context snapshot config =>
  figureRule "cooldown" .cooldownActive snapshot.lastTradeAt
    (fun lastTradeAt => context.evaluatedAt - lastTradeAt < DateTime.seconds config.cooldownSeconds)
    (fun lastTradeAt =>
      .cooldownActiveUntil (lastTradeAt + DateTime.seconds config.cooldownSeconds))
    "latest trade timestamp is unavailable"

def maxSignalAgeRule : RiskRule := fun context _ config =>
  let signalAge := context.evaluatedAt - context.signalCreatedAt
  if signalAge > DateTime.milliseconds config.maxSignalAgeMs then
    rejected "max_signal_age" .signalTooOld
      (.exceedsLimit "signal age" (DateTime.timestampMillis signalAge) config.maxSignalAgeMs "ms")
  else passed "max_signal_age"

def maxPositionNotionalRule : RiskRule := fun context _ config =>
  if context.suggestedNotional > config.maxPositionNotional then
    rejected "max_position_notional" .positionNotionalExceeded
      (.exceedsLimit "suggested notional" context.suggestedNotional config.maxPositionNotional "")
  else passed "max_position_notional"

def duplicateOrderRule : RiskRule := fun _ _ _ =>
  warned "duplicate_order" "TODO: duplicate order detection requires persisted order-intent lookup"

def dataFreshnessRule : RiskRule := fun context snapshot config =>
  figureRule "data_freshness" .dataStale snapshot.latestMarketDataAt
    (fun lastUpdate =>
      context.evaluatedAt - lastUpdate > DateTime.seconds config.staleFeedThresholdSeconds)
    (fun _ => .text "latest market data is stale")
    "TODO: market data freshness source is not wired yet"

def riskRules : List RiskRule :=
  [killSwitchRule, maxOpenPositionsRule, maxDailyLossRule, maxWeeklyLossRule,
    maxConsecutiveLossesRule, cooldownRule, maxSignalAgeRule, maxPositionNotionalRule,
    duplicateOrderRule, dataFreshnessRule]

inductive RiskEvaluationDecision where
  | approved
  | rejected
  deriving DecidableEq, Repr

def RiskEvaluationDecision.asStr : RiskEvaluationDecision → String
  | .approved => "APPROVED"
  | .rejected => "REJECTED"

structure RiskEvaluationResult where
  riskDecisionId : Uuid
  decision : RiskEvaluationDecision
  approvedNotional : Option Decimal
  riskScore : Decimal
  reasons : List RiskRejectionReason
  ruleResults : List RiskRuleResult
  correlationId : Uuid
  deriving DecidableEq

def rejectionReason (result : RiskRuleResult) : Option RiskRejectionReason :=
  if result.decision = .reject then result.reason else none

/-- `riskDecisionId` is the identifier drawn for the evaluation. -/
def evaluate (config : RiskConfig) (riskDecisionId : Uuid) (context : RiskCheckContext)
    (snapshot : RiskStateSnapshot) : RiskEvaluationResult :=
  let ruleResults := riskRules.map fun rule => rule context snapshot config
  let reasons := ruleResults.filterMap rejectionReason
  { riskDecisionId := riskDecisionId
    decision := if reasons.isEmpty then .approved else .rejected
    approvedNotional := if reasons.isEmpty then some context.suggestedNotional else none
    riskScore := if reasons.isEmpty then 0 else 1
    reasons := reasons
    ruleResults := ruleResults
    correlationId := context.correlationId }

section Specifications
variable {config : RiskConfig} {riskDecisionId : Uuid} {context : RiskCheckContext}
  {snapshot : RiskStateSnapshot}

theorem evaluate_approved_iff :
    (evaluate config riskDecisionId context snapshot).decision = .approved ↔
      ∀ rule ∈ riskRules, rejectionReason (rule context snapshot config) = none := by
  simp [evaluate]

section
variable (hApproved : (evaluate config riskDecisionId context snapshot).decision = .approved)
include hApproved

theorem approvedNotional_of_approved :
    (evaluate config riskDecisionId context snapshot).approvedNotional =
      some context.suggestedNotional := by
  unfold evaluate at hApproved ⊢
  simp only at hApproved ⊢
  split at hApproved
  · rename_i hEmpty
    rw [if_pos hEmpty]
  · cases hApproved

theorem killSwitch_off_of_approved : snapshot.killSwitchEnabled = false := by
  have hRule := evaluate_approved_iff.mp hApproved killSwitchRule (by simp [riskRules])
  cases hSwitch : snapshot.killSwitchEnabled with
  | false => rfl
  | true => simp [killSwitchRule, hSwitch, rejectionReason, rejected] at hRule

end

end Specifications

end AegisQuant.Risk
