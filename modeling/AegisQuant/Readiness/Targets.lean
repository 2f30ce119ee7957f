import AegisQuant.Analytics.SummaryUnion
import AegisQuant.Exchange.Repairs
import AegisQuant.Readiness.Report
import AegisQuant.Strategy.Config
import AegisQuant.Testnet.ShadowRunner

/-! The readiness run for each of its targets, from what its queries return:
the steps that every target has in common, those of the target, and the two
that close the run. -/
namespace AegisQuant.Readiness
open AegisQuant.Analytics AegisQuant.Exchange AegisQuant.Paper AegisQuant.Risk AegisQuant.Testnet

structure ExecutionReadinessRequest where
  target : ExecutionReadinessTarget
  symbol : Option String
  strategyId : Option String
  timeframe : Option String
  promotionId : Option Uuid
  riskDecisionId : Option Uuid
  startTime : Option DateTime
  endTime : Option DateTime

structure ReadinessContext where
  strategyId : String
  symbol : String
  timeframe : CandleInterval
  windowStart : DateTime
  windowEnd : DateTime
  now : DateTime

inductive ExchangePrivateStreamStatus where
  | connecting
  | connected
  | stale
  | disconnected
  | error
  deriving DecidableEq

structure PrivateStream where
  status : ExchangePrivateStreamStatus
  lastEventAt : Option DateTime

structure TestnetPromotionFunnelSummary where
  shadowWouldSubmitCount : Int
  reconciliationRequiredRatePct : Decimal
  submitRatePct : Decimal

structure ReconciliationRun where
  mismatchedOrders : Int
  unknownOrders : Int
  status : String

structure ShadowPromotion where
  status : String
  expiresAt : DateTime

/-- What the service knows and its queries return, decoded. A query that fails
ends the run without a report. -/
structure ReadinessFacts where
  dbHealthy : Bool
  killSwitchEnabled : Bool
  riskConfig : Option (Except CoreError RiskConfig)
  exchange : String
  feeds : List MarketFeedStatus
  authDisabled : Bool
  environment : String
  latestPriceAt : String → Option DateTime
  strategyConfig : StrategyId → Option StrategyConfig
  defaultSymbols : List Symbol
  defaultTimeframe : CandleInterval
  closedCandles : Nat
  paperAccount : Option PaperAccount
  shadowRunner : Option TestnetShadowRunnerStatus
  promotionFunnel : TestnetPromotionFunnelSummary
  performanceRows : SelectedRows
  testnetConfigured : Bool
  privateStream : Option PrivateStream
  orderStates : List String
  reconciliationRuns : List ReconciliationRun
  repairFailures : Int
  promotion : Uuid → Option ShadowPromotion
  riskDecision : Uuid → Option String
  backtestCount : Int

def resolveContext (facts : ReadinessFacts) (now : DateTime) (request : ExecutionReadinessRequest) :
    Except CoreError ReadinessContext := do
  let strategyId := request.strategyId.getD "momentum_v1"
  let strategyConfig := (StrategyId.fromStr strategyId).toOption.bind facts.strategyConfig
  let symbol := ((request.symbol.or (strategyConfig.bind fun config =>
    config.symbols.head?.map (·.text))).or (facts.defaultSymbols.head?.map (·.text))).getD "BTCUSDT"
  let timeframe ← CandleInterval.fromStr ((request.timeframe.or (strategyConfig.map fun config =>
    config.timeframe.asStr)).getD facts.defaultTimeframe.asStr)
  let windowEnd := request.endTime.getD now
  pure {
    strategyId := strategyId
    symbol := symbol
    timeframe := timeframe
    windowStart := request.startTime.getD (windowEnd - DateTime.seconds (24 * 3600))
    windowEnd := windowEnd
    now := now }

def required (code name : String) (passed : Bool) (passSummary failSummary : String)
    (blocker : ExecutionReadinessBlockingReason)
    (recommendation : ExecutionReadinessRecommendation) : Step :=
  .check {
    code := code
    name := name
    passed := passed
    passSummary := passSummary
    failSummary := failSummary
    blocker := blocker
    recommendation := recommendation }

def warn (code name : String) (severity : ExecutionReadinessCheckSeverity) (summary : String) : Step :=
  .warning ⟨code, name, severity, summary⟩

section Steps
variable (facts : ReadinessFacts) (request : ExecutionReadinessRequest) (context : ReadinessContext)

def ageSeconds (now at' : DateTime) : Int := (now - at').tdiv 1000000000

def feedThresholdSeconds : Int :=
  ((facts.riskConfig.bind Except.toOption).map fun config =>
    (config.staleFeedThresholdSeconds : Int)).getD 10

def marketFeed : Option MarketFeedStatus :=
  facts.feeds.find? fun feed => feed.exchange = facts.exchange && feed.symbol = context.symbol

def priceRecent : Bool :=
  (facts.latestPriceAt context.symbol).any fun receivedAt =>
    ageSeconds context.now receivedAt ≤ feedThresholdSeconds facts

def systemSteps : List Step :=
  [required "db_healthy" "Database health" facts.dbHealthy
    "Database health query succeeded." "Database health query failed."
    .dbUnhealthy .restoreDatabaseHealth,
   required "kill_switch_inactive" "Kill switch inactive" (!facts.killSwitchEnabled)
    "Kill switch is inactive." "Kill switch is active." .killSwitchActive .resumeFromKillSwitch,
   required "validated_risk_config" "Validated risk config" facts.riskConfig.isSome
    "Validated risk config exists." "Validated risk config is missing."
    .missingValidatedRiskConfig .validateRiskConfig] ++
  (if request.target = .paperPipeline ∨ request.target = .testnetShadow then
    [required "risk_config_valid" "Risk config valid"
      (facts.riskConfig.any fun config => config.toOption.isSome)
      "Risk config validation passed." "Risk config validation failed."
      .riskConfigInvalid .validateRiskConfig]
  else [])

def feedSteps : List Step :=
  let threshold := feedThresholdSeconds facts
  [required "market_feed_fresh" "Market feed fresh"
    ((marketFeed facts context).any fun feed => feed.freshnessStatus = .fresh)
    "Market feed is fresh." "Market feed is stale or unavailable."
    .staleMarketFeed .refreshMarketFeed] ++
  (match (marketFeed facts context).bind (·.lastEventAt) with
  | some lastEventAt =>
    let age := ageSeconds context.now lastEventAt
    if (threshold * 4).tdiv 5 ≤ age ∧ age < threshold then
      [warn "feed_age_near_threshold" "Feed age near threshold" .low
        ("Feed age is " ++ toString age ++ "s and approaching the " ++ toString threshold ++
          "s threshold.")]
    else []
  | none => [])

/-- Without authentication only local paper trading is allowed, and it is the
only target that this check does not block. -/
def authSteps : List Step :=
  let allowed := !facts.authDisabled || (request.target = .paperPipeline &&
    eqIgnoreAsciiCase facts.environment "development")
  [.check {
    code := "auth_enabled"
    name := "Auth enabled"
    passed := allowed
    blocking := request.target ≠ .paperPipeline
    passSummary := "Auth is enabled for readiness target."
    failSummary := "Auth is disabled for readiness target."
    blocker := .authDisabled
    recommendation := .enableAuth }] ++
  (if facts.authDisabled ∧ request.target = .paperPipeline then
    [warn "auth_disabled_local_dev" "Auth disabled in local development" .low
      "Auth-disabled local development mode is active."]
  else [])

def priceSteps : List Step :=
  [required "recent_market_price" "Recent market price" (priceRecent facts context)
    "Recent market price is available." "Recent market price is missing or stale."
    .missingRecentMarketPrice .seedRecentMarketPrice]

def strategySteps (strategyConfig : Option StrategyConfig) : List Step :=
  (if request.target ≠ .testnetSubmit then
    [required "strategy_enabled" "Strategy enabled" (strategyConfig.any (·.enabled))
      "Strategy is enabled." "Strategy is disabled or unavailable."
      .strategyDisabled .enableStrategy] ++
    (if request.target = .paperPipeline then
      [required "strategy_config_valid" "Strategy config valid"
        (strategyConfig.any fun config => config.validate.toOption.isSome)
        "Strategy config validation passed." "Strategy config validation failed."
        .strategyConfigInvalid .fixStrategyConfig]
    else [])
  else []) ++
  (if request.target = .paperPipeline ∨ request.target = .testnetShadow then
    let needed := max ((strategyConfig.map Strategy.requiredCandleCount).getD 1) 1
    [required "recent_closed_candles" "Recent closed candles"
      (needed ≤ min needed facts.closedCandles)
      "Recent closed candles are available." "Recent closed candles are missing."
      .missingRecentClosedCandles .backfillClosedCandles]
  else [])

def paperPipelineSteps : List Step :=
  [required "paper_account_present" "Paper account present" facts.paperAccount.isSome
    "Default paper account exists." "Default paper account is missing."
    .paperAccountMissing .createOrRepairPaperAccount,
   required "paper_account_healthy" "Paper account healthy"
    (facts.paperAccount.any (·.status = .active))
    "Paper account is active." "Paper account is unhealthy."
    .paperAccountUnhealthy .createOrRepairPaperAccount] ++
  (if facts.paperAccount.any (fun account => account.realizedPnl + account.unrealizedPnl < 0) then
    [warn "paper_pnl_negative" "Paper PnL negative" .medium
      "Paper account realized plus unrealized PnL is negative.", .recommend .reviewPaperPnl]
  else [])

def testnetShadowSteps : List Step :=
  [required "shadow_runner_not_error" "Shadow runner not error" (facts.shadowRunner ≠ some .error)
    "Shadow runner is not in error state." "Shadow runner is in error state."
    .shadowRunnerError .restartShadowRunner] ++
  (if facts.shadowRunner = some .paused ∨ facts.shadowRunner = some .stopped then
    [warn "shadow_runner_paused" "Shadow runner paused or stopped" .medium
      "Shadow runner is paused or stopped.",
     warn "shadow_runner_not_active" "Shadow runner not actively processing ticks" .medium
      "Shadow runner is not actively processing shadow ticks.",
     .recommend .verifyRunnerState]
  else [])

def performanceRequest : StrategyPerformanceRequest where
  strategyId := some context.strategyId
  symbol := some context.symbol
  timeframe := some context.timeframe.asStr
  mode := .combined
  startTime := some context.windowStart
  endTime := some context.windowEnd

def performance : StrategyPerformanceSummary :=
  getStrategyPerformanceSummary (performanceRequest context) facts.performanceRows

def riskRejectionRateAcceptable : Requirement where
  code := "risk_rejection_rate_acceptable"
  name := "Risk rejection rate acceptable"
  passed := (performance facts context).riskRejectionRate ≤ 50
  passSummary := "Risk rejection rate is acceptable."
  failSummary := "Risk rejection rate is too high."
  blocker := .highRiskRejectionRate
  recommendation := .reduceRiskRejections

def testnetPromotionSteps : List Step :=
  let summary := facts.promotionFunnel
  [required "shadow_would_submit_count_positive" "Shadow would-submit count positive"
    (0 < summary.shadowWouldSubmitCount)
    "Recent shadow would-submit count is positive." "Recent shadow would-submit count is zero."
    .zeroShadowWouldSubmitCount .increaseShadowCoverage] ++
  (if 0 < summary.shadowWouldSubmitCount ∧ summary.shadowWouldSubmitCount < 3 then
    [warn "shadow_would_submit_low" "Shadow would-submit count low" .medium
      "Recent shadow would-submit count is low."]
  else []) ++
  [required "promotion_rejection_rate_acceptable" "Promotion rejection/expiry rate acceptable"
    (summary.reconciliationRequiredRatePct ≤ 50)
    "Promotion rejection/expiry rate is acceptable." "Promotion rejection/expiry rate is too high."
    .promotionFunnelHighRejectionRate .reducePromotionRejections,
   .check (riskRejectionRateAcceptable facts context)] ++
  (if 25 < (performance facts context).riskRejectionRate then
    [warn "risk_rejection_rate_high" "Risk rejection rate high" .medium
      "Risk rejection rate is elevated."]
  else []) ++
  (if summary.submitRatePct < 25 then
    [warn "promotion_submit_rate_low" "Promotion submit rate low" .low
      "Promotion submit rate is low."]
  else []) ++
  [required "local_price_fresh_for_promotion" "Local price fresh" (priceRecent facts context)
    "Local price is fresh for promotion." "Local price is stale for promotion."
    .staleLocalPrice .seedRecentMarketPrice]

def privateStreamSteps : List Step :=
  let threshold := feedThresholdSeconds facts
  let lastEventAt := facts.privateStream.bind (·.lastEventAt)
  let recent := lastEventAt.any fun at' => ageSeconds context.now at' ≤ threshold
  [required "private_stream_connected" "Private stream connected"
    (facts.privateStream.any (·.status = .connected))
    "Private stream is connected." "Private stream is disconnected or unavailable."
    .privateStreamDisconnected .reconnectPrivateStream,
   required "private_stream_recent" "Private stream recent" recent
    "Private stream has recent events." "Private stream is stale."
    .privateStreamStale .reconnectPrivateStream] ++
  (if recent && lastEventAt.any fun at' => (threshold * 4).tdiv 5 ≤ ageSeconds context.now at' then
    [warn "private_stream_quiet" "Private stream quiet" .low
      "Private stream has not produced events recently."]
  else [])

def orderSteps : List Step :=
  let count (state : TestnetExecutionState) := facts.orderStates.countP (· = state.asStr)
  [required "no_reconciliation_required_orders" "No reconciliation-required orders"
    (count .reconciliationRequired = 0)
    "No reconciliation-required orders are present." "Reconciliation-required orders are present."
    .reconciliationRequiredOrdersPresent .reconcileTestnetOrders,
   required "no_unknown_exchange_state_orders" "No unknown exchange-state orders"
    (count .unknownExchangeState = 0)
    "No unknown exchange-state orders are present." "Unknown exchange-state orders are present."
    .unknownExchangeStateOrdersPresent .reconcileTestnetOrders,
   required "reconciliation_runs_clean" "Reconciliation runs clean"
    (!facts.reconciliationRuns.any fun run =>
      0 < run.mismatchedOrders || 0 < run.unknownOrders || eqIgnoreAsciiCase run.status "FAILED")
    "Recent reconciliation runs are clean."
    "Recent reconciliation runs contain unresolved mismatches."
    .unresolvedReconciliationMismatches .reconcileTestnetOrders,
   required "no_recent_repair_failures" "No recent repair failures" (facts.repairFailures = 0)
    "No recent repair failures were observed." "Recent repair failures were observed."
    .recentRepairFailures .resolveRepairFailures]

def promotionSteps : List Step :=
  match request.promotionId with
  | none => []
  | some promotionId =>
    let promotion := facts.promotion promotionId
    [required "promotion_previewed" "Promotion previewed"
      (promotion.any fun record => eqIgnoreAsciiCase record.status "PREVIEWED" ||
        eqIgnoreAsciiCase record.status "SUBMITTED")
      "Promotion has been previewed." "Promotion has not been previewed."
      .promotionNotPreviewed .previewOrRenewPromotion,
     required "promotion_not_expired" "Promotion not expired"
      (promotion.any fun record => context.now ≤ record.expiresAt)
      "Promotion is still valid." "Promotion has expired."
      .promotionExpired .previewOrRenewPromotion]

def testnetSubmitSteps (actor : Option UserRole) : List Step :=
  [required "testnet_adapter_configured" "Testnet adapter configured" facts.testnetConfigured
    "Testnet adapter is configured." "Testnet adapter is not configured."
    .testnetAdapterNotConfigured .configureTestnetAdapter] ++
  privateStreamSteps facts context ++ orderSteps facts ++ promotionSteps facts request context ++
  [required "approved_risk_decision_present" "Approved risk decision present"
    ((request.riskDecisionId.bind facts.riskDecision).any (eqIgnoreAsciiCase · "approved"))
    "Approved risk decision is present." "Approved risk decision is missing."
    .missingApprovedRiskDecision .approveRiskDecision,
   required "owner_actor_present" "Owner actor present" (actor = some .owner)
    "Owner actor is present." "Owner actor is required for submit readiness."
    .nonOwnerActor .useOwnerActor]

def targetSteps (actor : Option UserRole) : List Step :=
  match request.target with
  | .paperPipeline => paperPipelineSteps facts
  | .testnetShadow => testnetShadowSteps facts
  | .testnetPromotion => testnetPromotionSteps facts context
  | .testnetSubmit => testnetSubmitSteps facts request context actor

def closingSteps : List Step :=
  (if facts.backtestCount = 0 then
    [warn "no_recent_backtest" "No recent backtest" .low
      "No recent backtest run was found in the readiness window.", .recommend .runRecentBacktest]
  else []) ++
  (if request.symbol.isNone ∧ request.strategyId.isNone then
    [.push {
      code := "minimal_context_missing"
      name := "Minimal context missing"
      passed := false
      blocking := true
      severity := .critical
      summary := "Symbol and strategy filters were both omitted; " ++
        "target-specific checks are incomplete." }]
  else [])

def readinessSteps (strategyConfig : Option StrategyConfig) (actor : Option UserRole) : List Step :=
  systemSteps facts request ++ feedSteps facts context ++ authSteps facts request ++
    priceSteps facts context ++ strategySteps facts request strategyConfig ++
    targetSteps facts request context actor ++ closingSteps facts request

end Steps

def computeExecutionReadiness (facts : ReadinessFacts) (now : DateTime) (actor : Option UserRole)
    (request : ExecutionReadinessRequest) : Except CoreError ExecutionReadinessResult := do
  let context ← resolveContext facts now request
  let strategyId ← StrategyId.fromStr context.strategyId
  if request.target = .paperPipeline ∨ request.target = .testnetShadow then
    let _ ← Symbol.new context.symbol
  pure (finalizeReadinessResult request.target
    (draftOf (readinessSteps facts request context (facts.strategyConfig strategyId) actor)) context.now)

end AegisQuant.Readiness
