import AegisQuant.Pipeline.PaperPipeline
import AegisQuant.Testnet.Desk

/-! `run_testnet_shadow_once`: a strategy evaluation with its persisted signal
and risk decision, recorded as the order that would have been submitted. It
sends nothing; the readiness of its candles is given with the call. -/
namespace AegisQuant.Testnet
open Exchange Paper Risk Pipeline Fallible

inductive TestnetShadowDecision where
  | noSignal
  | riskRejected
  | wouldSubmit
  | candleDataStale
  | skippedDisabledStrategy
  | skippedKillSwitch
  | skippedStalePrice
  | skippedStaleFeed
  | error
  deriving DecidableEq, Repr

def TestnetShadowDecision.asStr : TestnetShadowDecision → String
  | .noSignal => "NO_SIGNAL"
  | .riskRejected => "RISK_REJECTED"
  | .wouldSubmit => "WOULD_SUBMIT"
  | .candleDataStale => "CANDLE_DATA_STALE"
  | .skippedDisabledStrategy => "SKIPPED_DISABLED_STRATEGY"
  | .skippedKillSwitch => "SKIPPED_KILL_SWITCH"
  | .skippedStalePrice => "SKIPPED_STALE_PRICE"
  | .skippedStaleFeed => "SKIPPED_STALE_FEED"
  | .error => "ERROR"

inductive TestnetShadowStatus where
  | completed
  | rejected
  | error
  deriving DecidableEq, Repr

def TestnetShadowStatus.asStr : TestnetShadowStatus → String
  | .completed => "COMPLETED"
  | .rejected => "REJECTED"
  | .error => "ERROR"

inductive TestnetShadowRejectionReason where
  | noSignal
  | conditionsNotMet
  | insufficientHistory
  | strategyDisabled
  | killSwitchActive
  | candleDataStale
  | stalePrice
  | staleFeed
  | marketFeedStaleWarning
  | marketFeedUnavailable
  | marketFeedDegraded
  | unsupportedTimeframe
  | invalidPrice
  | riskRejected
  | maxOpenPositionsExceeded
  | maxDailyLossExceeded
  | maxWeeklyLossExceeded
  | maxConsecutiveLossesExceeded
  | signalTooOld
  | duplicateOrderDetected
  | dataStale
  | positionNotionalExceeded
  | cooldownActive
  | unsupportedState
  | error
  deriving DecidableEq, Repr

def TestnetShadowRejectionReason.asStr : TestnetShadowRejectionReason → String
  | .noSignal => "no_signal"
  | .conditionsNotMet => "conditions_not_met"
  | .insufficientHistory => "insufficient_history"
  | .strategyDisabled => "strategy_disabled"
  | .killSwitchActive => "kill_switch_active"
  | .candleDataStale => "candle_data_stale"
  | .stalePrice => "stale_price"
  | .staleFeed => "stale_feed"
  | .marketFeedStaleWarning => "market_feed_stale_warning"
  | .marketFeedUnavailable => "market_feed_unavailable"
  | .marketFeedDegraded => "market_feed_degraded"
  | .unsupportedTimeframe => "unsupported_timeframe"
  | .invalidPrice => "invalid_price"
  | .riskRejected => "risk_rejected"
  | .maxOpenPositionsExceeded => "max_open_positions_exceeded"
  | .maxDailyLossExceeded => "max_daily_loss_exceeded"
  | .maxWeeklyLossExceeded => "max_weekly_loss_exceeded"
  | .maxConsecutiveLossesExceeded => "max_consecutive_losses_exceeded"
  | .signalTooOld => "signal_too_old"
  | .duplicateOrderDetected => "duplicate_order_detected"
  | .dataStale => "data_stale"
  | .positionNotionalExceeded => "position_notional_exceeded"
  | .cooldownActive => "cooldown_active"
  | .unsupportedState => "unsupported_state"
  | .error => "error"

structure TestnetShadowRunRequest where
  strategyId : String
  symbol : String
  timeframe : String
  correlationId : Option Uuid

structure ShadowCandleReadiness where
  candles : List Candle
  blockReason : Option TestnetShadowRejectionReason

structure ShadowIds where
  correlation : Uuid
  signal : Uuid
  riskDecision : Uuid
  run : Uuid

/-- One run, with what it reads from outside the tables. -/
structure ShadowCall where
  request : TestnetShadowRunRequest
  ids : ShadowIds
  now : DateTime
  exchange : String
  config : StrategyConfig
  rules : StrategyRules
  persistedRiskConfig : Option RiskConfig
  journalOrder : RowOrder newestEntryFirst
  readiness : ShadowCandleReadiness
  latestTick : Option MarkTick
  latestClosedCandle : Option Candle

def ShadowCall.correlationId (call : ShadowCall) : Uuid :=
  call.request.correlationId.getD call.ids.correlation

structure ResolvedPrice where
  source : String
  price : Decimal

structure ShadowOutcomePlan where
  decision : TestnetShadowDecision
  status : TestnetShadowStatus
  signalId : Option Uuid
  riskDecisionId : Option Uuid
  wouldSubmitOrder : Option TestnetShadowIntent
  reasons : List TestnetShadowRejectionReason
  priceSource : Option String
  resolvedPrice : Option Decimal

structure ShadowEvaluationInput where
  killSwitchActive : Bool
  strategyEnabled : Bool
  requiredFeedBlock : Option TestnetShadowRejectionReason
  feedWarning : Option TestnetShadowRejectionReason
  candleBlock : Option TestnetShadowRejectionReason
  timeframeMatches : Bool
  signal : Option StrategySignal
  signalReason : SignalReason
  riskDecisionId : Option Uuid
  riskDecision : Option RiskEvaluationDecision
  riskReasons : List RiskRejectionReason
  price : Option ResolvedPrice
  approvedNotional : Option Decimal

def signalReasonToShadowReasons : SignalReason → List TestnetShadowRejectionReason
  | .conditionsNotMet => [.conditionsNotMet]
  | .insufficientHistory => [.insufficientHistory]
  | .strategyDisabled => [.strategyDisabled]
  | _ => [.noSignal]

def riskReasonToShadowReason (reason : RiskRejectionReason) : TestnetShadowRejectionReason :=
  match reasonCode reason with
  | "kill_switch_active" => .killSwitchActive
  | "max_open_positions_exceeded" => .maxOpenPositionsExceeded
  | "max_daily_loss_exceeded" => .maxDailyLossExceeded
  | "max_weekly_loss_exceeded" => .maxWeeklyLossExceeded
  | "max_consecutive_losses_exceeded" => .maxConsecutiveLossesExceeded
  | "signal_too_old" => .signalTooOld
  | "duplicate_order_detected" => .duplicateOrderDetected
  | "data_stale" => .dataStale
  | "position_notional_exceeded" => .positionNotionalExceeded
  | "cooldown_active" => .cooldownActive
  | _ => .unsupportedState

def exchangeOrderSideFromSignal : SignalSide → ExchangeOrderSide
  | .buy => .buy
  | .sell => .sell

/-- A plan that ends before there is a signal. -/
def skippedPlan (decision : TestnetShadowDecision) (status : TestnetShadowStatus)
    (reasons : List TestnetShadowRejectionReason) : ShadowOutcomePlan where
  decision := decision
  status := status
  signalId := none
  riskDecisionId := none
  wouldSubmitOrder := none
  reasons := reasons
  priceSource := none
  resolvedPrice := none

def candleBlockDecision : TestnetShadowRejectionReason → TestnetShadowDecision
  | .candleDataStale | .dataStale | .insufficientHistory => .candleDataStale
  | _ => .error

def wouldSubmitIntent (signal : StrategySignal) (quantity quoteNotional : Decimal)
    (riskDecisionId : Option Uuid) : TestnetShadowIntent where
  exchange := .binance
  environment := .testnet
  symbol := signal.symbol
  side := exchangeOrderSideFromSignal signal.side
  orderType := .market
  timeInForce := none
  quantity := some quantity
  quoteNotional := some quoteNotional
  limitPrice := none
  riskDecisionId := riskDecisionId

/-- The plan of an approved signal at the resolved price. -/
def approvedShadowOutcome (input : ShadowEvaluationInput) (signal : StrategySignal)
    (price : ResolvedPrice) : Except Fault ShadowOutcomePlan :=
  match input.approvedNotional with
  | none => .error (.message "approved notional is required for WOULD_SUBMIT")
  | some quoteNotional => do
      let quotient ← checkedDiv quoteNotional price.price
      let quantity := roundDp 8 quotient
      if quantity ≤ 0 then
        return {
          decision := .skippedStalePrice
          status := .rejected
          signalId := some signal.signalId
          riskDecisionId := input.riskDecisionId
          wouldSubmitOrder := none
          reasons := [.invalidPrice]
          priceSource := some price.source
          resolvedPrice := some price.price }
      else
        return {
          decision := .wouldSubmit
          status := .completed
          signalId := some signal.signalId
          riskDecisionId := input.riskDecisionId
          wouldSubmitOrder := some
            (wouldSubmitIntent signal quantity quoteNotional input.riskDecisionId)
          reasons := input.feedWarning.toList
          priceSource := some price.source
          resolvedPrice := some price.price }

def evaluateShadowOutcome (input : ShadowEvaluationInput) : Except Fault ShadowOutcomePlan :=
  if input.killSwitchActive then
    .ok (skippedPlan .skippedKillSwitch .rejected [.killSwitchActive])
  else if !input.strategyEnabled then
    .ok (skippedPlan .skippedDisabledStrategy .rejected [.strategyDisabled])
  else if !input.timeframeMatches then
    .ok (skippedPlan .error .error [.unsupportedTimeframe])
  else match input.requiredFeedBlock, input.candleBlock, input.signal with
    | some reason, _, _ => .ok (skippedPlan .skippedStaleFeed .rejected [reason])
    | none, some reason, _ => .ok (skippedPlan (candleBlockDecision reason) .rejected [reason])
    | none, none, none => .ok (skippedPlan .noSignal .completed
        (signalReasonToShadowReasons input.signalReason ++ input.feedWarning.toList))
    | none, none, some signal =>
      if input.riskDecision ≠ some .approved then
        .ok { skippedPlan .riskRejected .rejected
            (if input.riskReasons.isEmpty then [.riskRejected]
              else input.riskReasons.map riskReasonToShadowReason) with
          signalId := some signal.signalId
          riskDecisionId := input.riskDecisionId }
      else match input.price with
        | none => .ok { skippedPlan .skippedStalePrice .rejected [.stalePrice] with
            signalId := some signal.signalId
            riskDecisionId := input.riskDecisionId }
        | some price => approvedShadowOutcome input signal price

def shadowFeedBlockReason (db : Database) (exchange : String) (symbol : Symbol) :
    Option TestnetShadowRejectionReason :=
  match db.marketFeeds.find? fun feed => feed.exchange = exchange && feed.symbol = symbol.text with
  | none => some .marketFeedUnavailable
  | some feed =>
    if feed.freshnessStatus ≠ .fresh then some .staleFeed
    else if feed.status ≠ "connected" then some .marketFeedDegraded
    else none

def optionalMarketFeedWarning : TestnetShadowRejectionReason → TestnetShadowRejectionReason
  | .staleFeed | .marketFeedDegraded => .marketFeedStaleWarning
  | other => other

def strategyRequiresLiveMarketFeed (_ : StrategyId) : Bool := false

def shadowPriceThresholdSeconds (config : StrategyConfig) (riskConfig : RiskConfig) : Nat :=
  let strategyThresholdSeconds := max (config.maxSignalAgeMs.tdiv 1000) 1
  min (max (riskConfig.staleFeedThresholdSeconds : Int) strategyThresholdSeconds).toNat (2 ^ 32 - 1)

def resolveShadowPrice (call : ShadowCall) (stalePriceThresholdSeconds : Nat) :
    Option ResolvedPrice :=
  let staleThreshold := DateTime.seconds stalePriceThresholdSeconds
  match call.latestTick.filter fun tick =>
      0 < tick.price && call.now - tick.receivedAt ≤ staleThreshold with
  | some tick => some ⟨"market_tick", tick.price⟩
  | none => match call.latestClosedCandle with
      | none => none
      | some candle =>
        if candle.close ≤ 0 ∨ call.now - candle.closeTime > staleThreshold then none
        else some ⟨"closed_candle", candle.close⟩

/-- What the strategy and the risk engine contribute to the outcome. -/
structure ShadowEvidence where
  signal : Option StrategySignal
  signalReason : SignalReason
  riskDecisionId : Option Uuid
  riskDecision : Option RiskEvaluationDecision
  riskReasons : List RiskRejectionReason
  approvedNotional : Option Decimal
  price : Option ResolvedPrice

def noEvidence (reason : SignalReason) : ShadowEvidence where
  signal := none
  signalReason := reason
  riskDecisionId := none
  riskDecision := none
  riskReasons := []
  approvedNotional := none
  price := none

def shadowRiskContext (call : ShadowCall) (symbol : Symbol) (signal : SignalRecord) (side : Side) :
    RiskCheckContext where
  signalId := signal.id
  correlationId := call.correlationId
  strategyId := signal.strategyId
  symbol := symbol
  side := side
  suggestedNotional := signal.suggestedNotional
  signalCreatedAt := signal.createdAt
  evaluatedAt := call.now

def shadowRiskEvaluation (db : Database) (call : ShadowCall) (config : RiskConfig) (symbol : Symbol)
    (signal : SignalRecord) (side : Side) : RiskEvaluationResult :=
  Risk.evaluate config call.ids.riskDecision (shadowRiskContext call symbol signal side)
    (loadRiskStateSnapshot call.journalOrder db call.now)

/-- The evidence of a generated signal: the stored signal is evaluated, but
the plan is made from the generated one. -/
def shadowRiskStage (db : Database) (call : ShadowCall) (config : RiskConfig) (symbol : Symbol)
    (reason : SignalReason) (generated : StrategySignal) (signal : SignalRecord) :
    Database × Except Fault ShadowEvidence :=
  match parseSignalSide signal.side with
  | .error fault => (db, .error fault)
  | .ok side =>
    let evaluation := shadowRiskEvaluation db call config symbol signal side
    match insertRiskDecision db
        (riskDecisionRow (shadowRiskContext call symbol signal side) evaluation call.now) with
    | .error fault => (db, .error fault)
    | .ok decided => (decided, .ok {
        signal := some generated
        signalReason := reason
        riskDecisionId := some call.ids.riskDecision
        riskDecision := some evaluation.decision
        riskReasons := evaluation.reasons
        approvedNotional := evaluation.approvedNotional
        price := if evaluation.decision = .approved then
          resolveShadowPrice call (shadowPriceThresholdSeconds call.config config) else none })

def shadowSignalStage (db : Database) (call : ShadowCall) (config : RiskConfig)
    (strategyId : StrategyId) (symbol : Symbol) : Database × Except Fault ShadowEvidence :=
  match AegisQuant.evaluate call.rules call.ids.signal {
      correlationId := call.correlationId
      strategyId := strategyId
      symbol := symbol
      config := call.config
      candles := call.readiness.candles
      evaluatedAt := call.now } with
  | .error fault => (db, .error fault)
  | .ok evaluation =>
    match evaluation.signal with
    | none => (db, .ok (noEvidence evaluation.reason))
    | some generated =>
      match insertSignalDeduped db (signalRecord generated call.now) with
      | .error fault => (db, .error fault)
      | .ok (persisted, outcome) => shadowRiskStage persisted call config symbol
          evaluation.reason generated outcome.signal

/-- The strategy is evaluated only if nothing blocks the run. -/
def shadowEvidence (db : Database) (call : ShadowCall) (config : RiskConfig)
    (strategyId : StrategyId) (symbol : Symbol) (timeframe : CandleInterval)
    (requiredFeedBlock : Option TestnetShadowRejectionReason) :
    Database × Except Fault ShadowEvidence :=
  if !db.systemState.killSwitchEnabled && call.config.enabled && call.config.timeframe = timeframe &&
      requiredFeedBlock.isNone && call.readiness.blockReason.isNone then
    shadowSignalStage db call config strategyId symbol
  else (db, .ok (noEvidence .conditionsNotMet))

def signalConflict : RequestError :=
  .rejected "shadow_signal_conflict"
    ("A duplicate-like signal persistence race prevented this shadow run from being recorded. " ++
      "Retry the request.")

def getSignalById (db : Database) (signalId : Uuid) : Option SignalRecord :=
  db.signals.rows.find? fun signal => signal.id = signalId

/-- The id of the generated signal if it was stored, else that of the stored
signal with the same identity. -/
def stabilizeShadowSignalId (db : Database) (call : ShadowCall) (signalId : Option Uuid)
    (signal : Option StrategySignal) : Except RequestError (Option Uuid) :=
  match signalId with
  | none => .ok none
  | some id =>
    if (getSignalById db id).isSome then .ok (some id)
    else match signal.bind fun signal => db.signals.find? (signalRecord signal call.now).key with
      | some repaired => .ok (some repaired.id)
      | none => .error signalConflict

def shadowRunRecord (call : ShadowCall) (plan : ShadowOutcomePlan) (signalId : Option Uuid) :
    TestnetShadowRunRecord where
  id := call.ids.run
  strategyId := call.request.strategyId
  symbol := call.request.symbol
  timeframe := call.request.timeframe
  decision := plan.decision.asStr
  signalId := signalId
  riskDecisionId := plan.riskDecisionId
  wouldSubmitPayload := plan.wouldSubmitOrder
  priceSource := plan.priceSource
  resolvedPrice := plan.resolvedPrice
  reasons := plan.reasons.map (·.asStr)
  status := plan.status.asStr
  evaluatedCandleOpenTime := call.readiness.candles.getLast?.map (·.openTime)
  createdAt := call.now
  correlationId := some call.correlationId

def persistShadowResult (desk : Desk) (call : ShadowCall) (plan : ShadowOutcomePlan)
    (signal : Option StrategySignal) : Desk × Except RequestError TestnetShadowRunRecord :=
  match stabilizeShadowSignalId desk.db call plan.signalId signal with
  | .error err => (desk, .error err)
  | .ok signalId =>
    match desk.shadowRuns.insert? (shadowRunRecord call plan signalId) with
    | none => (desk, .error (.rejected "failed_to_run_testnet_shadow"
        "Testnet shadow run could not be completed."))
    | some shadowRuns =>
      ({ desk with shadowRuns := shadowRuns }, .ok (shadowRunRecord call plan signalId))

structure ShadowSetup where
  strategyId : StrategyId
  symbol : Symbol
  timeframe : CandleInterval
  riskConfig : RiskConfig

/-- The part of the run before its first write. -/
def shadowSetup (service : Service) (call : ShadowCall) : Except RequestError ShadowSetup := do
  require service.shadowObservationOnly
    (.rejected "shadow_observation_only_required"
      "SHADOW_OBSERVATION_ONLY=true is required before recording shadow observations.")
  let strategyId ← (StrategyId.fromStr call.request.strategyId).mapError fun _ =>
    .rejected "invalid_strategy_id" "strategy_id is invalid for shadow execution."
  let symbol ← (Symbol.new call.request.symbol).mapError fun _ =>
    .rejected "invalid_symbol" "symbol is invalid for shadow execution."
  let timeframe ← (CandleInterval.fromStr call.request.timeframe).mapError fun _ =>
    .rejected "invalid_timeframe" "timeframe is invalid for shadow execution."
  let riskConfig ← (loadRiskConfig call.persistedRiskConfig).mapError
    (.failed "failed_to_run_testnet_shadow")
  return ⟨strategyId, symbol, timeframe, riskConfig⟩

def shadowOutcomeInput (db : Database) (call : ShadowCall) (setup : ShadowSetup)
    (requiredFeedBlock feedWarning : Option TestnetShadowRejectionReason)
    (evidence : ShadowEvidence) : ShadowEvaluationInput where
  killSwitchActive := db.systemState.killSwitchEnabled
  strategyEnabled := call.config.enabled
  requiredFeedBlock := requiredFeedBlock
  feedWarning := feedWarning
  candleBlock := call.readiness.blockReason
  timeframeMatches := call.config.timeframe = setup.timeframe
  signal := evidence.signal
  signalReason := evidence.signalReason
  riskDecisionId := evidence.riskDecisionId
  riskDecision := evidence.riskDecision
  riskReasons := evidence.riskReasons
  price := evidence.price
  approvedNotional := evidence.approvedNotional.or (some call.config.suggestedNotional)

def runTestnetShadowOnce (service : Service) (desk : Desk) (call : ShadowCall) :
    Desk × Except RequestError TestnetShadowRunRecord :=
  match shadowSetup service call with
  | .error err => (desk, .error err)
  | .ok setup =>
    let feedBlock := shadowFeedBlockReason desk.db call.exchange setup.symbol
    let (requiredFeedBlock, feedWarning) := if strategyRequiresLiveMarketFeed setup.strategyId
      then (feedBlock, none) else (none, feedBlock.map optionalMarketFeedWarning)
    let (db, evidence) := shadowEvidence desk.db call setup.riskConfig setup.strategyId setup.symbol
      setup.timeframe requiredFeedBlock
    let desk' := { desk with db := db }
    match evidence with
    | .error fault => (desk', .error (.failed "failed_to_run_testnet_shadow" fault))
    | .ok evidence =>
      match evaluateShadowOutcome
          (shadowOutcomeInput desk.db call setup requiredFeedBlock feedWarning evidence) with
      | .error fault => (desk', .error (.failed "failed_to_run_testnet_shadow" fault))
      | .ok plan => persistShadowResult desk' call plan evidence.signal

section Specifications

theorem evaluateShadowOutcome_wouldSubmit {input : ShadowEvaluationInput} {plan : ShadowOutcomePlan}
    {payload : TestnetShadowIntent} (hPlan : evaluateShadowOutcome input = .ok plan)
    (hPayload : plan.wouldSubmitOrder = some payload) :
    ∃ signal quantity notional, input.signal = some signal ∧ input.riskDecision = some .approved ∧
      input.approvedNotional = some notional ∧ plan.riskDecisionId = input.riskDecisionId ∧
      payload = wouldSubmitIntent signal quantity notional input.riskDecisionId := by
  have hSkipped {decision status reasons} (hSkip : Except.ok (skippedPlan decision status reasons) =
      (.ok plan : Except Fault ShadowOutcomePlan)) : False := by
    cases hSkip
    cases hPayload
  unfold evaluateShadowOutcome at hPlan
  split at hPlan
  · exact (hSkipped hPlan).elim
  split at hPlan
  · exact (hSkipped hPlan).elim
  split at hPlan
  · exact (hSkipped hPlan).elim
  split at hPlan
  · exact (hSkipped hPlan).elim
  · exact (hSkipped hPlan).elim
  · exact (hSkipped hPlan).elim
  rename_i signal _ _ hSignal
  split at hPlan
  · cases hPlan
    cases hPayload
  rename_i hApproved
  split at hPlan
  · cases hPlan
    cases hPayload
  rename_i price _
  unfold approvedShadowOutcome at hPlan
  split at hPlan
  · cases hPlan
  rename_i notional hNotional
  obtain ⟨quotient, -, hPlan⟩ := bind_eq_ok.mp hPlan
  simp only at hPlan
  split at hPlan
  · cases hPlan
    cases hPayload
  · cases hPlan
    cases hPayload
    exact ⟨signal, _, notional, hSignal, not_not.mp hApproved, hNotional, rfl, rfl⟩

/-- What the two stages write: at most a signal and the decision on it. -/
theorem shadowEvidence_cases (db : Database) (call : ShadowCall) (config : RiskConfig)
    (strategyId : StrategyId) (symbol : Symbol) (timeframe : CandleInterval)
    (requiredFeedBlock : Option TestnetShadowRejectionReason) :
    let result := shadowEvidence db call config strategyId symbol timeframe requiredFeedBlock
    (result.1 = db ∧ ∀ evidence, result.2 = .ok evidence → evidence.signal = none) ∨
    ∃ generated persisted outcome,
      insertSignalDeduped db (signalRecord generated call.now) = .ok (persisted, outcome) ∧
      ((result.1 = persisted ∧ ∃ fault, result.2 = .error fault) ∨
        ∃ side evidence, parseSignalSide outcome.signal.side = .ok side ∧
          insertRiskDecision persisted (riskDecisionRow
              (shadowRiskContext call symbol outcome.signal side)
              (shadowRiskEvaluation persisted call config symbol outcome.signal side) call.now) =
            .ok result.1 ∧
          result.2 = .ok evidence ∧ evidence.signal = some generated ∧
          evidence.riskDecisionId = some call.ids.riskDecision ∧
          evidence.riskDecision =
            some (shadowRiskEvaluation persisted call config symbol outcome.signal side).decision ∧
          evidence.approvedNotional = (shadowRiskEvaluation persisted call config symbol
            outcome.signal side).approvedNotional) := by
  unfold shadowEvidence shadowSignalStage
  simp only
  split
  · split
    · exact .inl ⟨rfl, by rintro _ ⟨⟩⟩
    rename_i evaluation _
    split
    · exact .inl ⟨rfl, by rintro _ ⟨⟩; rfl⟩
    rename_i generated _
    split
    · exact .inl ⟨rfl, by rintro _ ⟨⟩⟩
    rename_i persisted outcome hInsert
    refine .inr ⟨generated, persisted, outcome, hInsert, ?_⟩
    unfold shadowRiskStage
    split
    · exact .inl ⟨rfl, _, rfl⟩
    rename_i side hSide
    simp only
    split
    · exact .inl ⟨rfl, _, rfl⟩
    rename_i decided hDecided
    exact .inr ⟨side, _, hSide, hDecided, rfl, rfl, rfl, rfl, rfl⟩
  · exact .inl ⟨rfl, by rintro _ ⟨⟩; rfl⟩

/-- A run changes nothing, keeps what its stages have written, or records the
plan made from their evidence. -/
theorem runTestnetShadowOnce_cases (service : Service) (desk : Desk) (call : ShadowCall) :
    (runTestnetShadowOnce service desk call).1 = desk ∨
    ∃ setup requiredFeedBlock feedWarning db, shadowSetup service call = .ok setup ∧
      (shadowEvidence desk.db call setup.riskConfig setup.strategyId setup.symbol setup.timeframe
        requiredFeedBlock).1 = db ∧
      ((runTestnetShadowOnce service desk call).1 = { desk with db := db } ∨
        ∃ evidence plan signalId shadowRuns,
          (shadowEvidence desk.db call setup.riskConfig setup.strategyId setup.symbol setup.timeframe
            requiredFeedBlock).2 = .ok evidence ∧
          evaluateShadowOutcome (shadowOutcomeInput desk.db call setup requiredFeedBlock feedWarning
            evidence) = .ok plan ∧
          stabilizeShadowSignalId db call plan.signalId evidence.signal = .ok signalId ∧
          desk.shadowRuns.insert? (shadowRunRecord call plan signalId) = some shadowRuns ∧
          (runTestnetShadowOnce service desk call).1 =
            { desk with db := db, shadowRuns := shadowRuns }) := by
  unfold runTestnetShadowOnce
  split
  · exact .inl rfl
  rename_i setup hSetup
  simp only [strategyRequiresLiveMarketFeed, Bool.false_eq_true, if_false]
  refine .inr ⟨setup, none, (shadowFeedBlockReason desk.db call.exchange setup.symbol).map
    optionalMarketFeedWarning, _, hSetup, rfl, ?_⟩
  split
  · exact .inl rfl
  rename_i evidence hEvidence
  split
  · exact .inl rfl
  rename_i plan hPlan
  unfold persistShadowResult
  split
  · exact .inl rfl
  rename_i signalId hStable
  split
  · exact .inl rfl
  rename_i shadowRuns hRuns
  exact .inr ⟨evidence, plan, signalId, shadowRuns, hEvidence, hPlan, hStable, hRuns, rfl⟩

end Specifications

end AegisQuant.Testnet
