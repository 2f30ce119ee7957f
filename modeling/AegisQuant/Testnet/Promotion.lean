import AegisQuant.Testnet.Submission

/-! Promotion of a shadow run to a testnet order. A preview stores a promotion
that expires; a submit reads it, checks it, sends the order and only then
updates it. Each of these is a statement of its own on the tables, so they are
defined one by one and the handlers are put together from them. -/
namespace AegisQuant.Testnet
open Exchange Fallible

structure TestnetShadowPromotionRequest where
  shadowRunId : Uuid
  correlationId : Option Uuid

structure TestnetShadowPromotionSubmitRequest where
  confirmationText : String
  correlationId : Option Uuid

structure TestnetShadowPromotionResult where
  promotionId : Uuid
  shadowRunId : Uuid
  testnetOrderId : Uuid
  clientOrderId : String
  executionState : TestnetExecutionState
  correlationId : Uuid

def expectedTestnetShadowPromotionConfirmation (symbol : String) : String :=
  "PROMOTE TESTNET " ++ toAsciiUppercase (trim symbol)

def isValidTestnetShadowPromotionConfirmation (symbol confirmationText : String) : Bool :=
  confirmationText = expectedTestnetShadowPromotionConfirmation symbol

def stillApproved : String := "risk_decision_id must still reference an APPROVED risk decision."

section Preview

/-- There is at most one, so the order of the query does not matter. -/
def getActiveTestnetShadowPromotionForShadowRun (promotions : PromotionTable) (shadowRunId : Uuid) :
    Option TestnetShadowPromotionRecord :=
  promotions.rows.find? fun promotion =>
    promotion.shadowRunId = shadowRunId && promotion.isActive

def requireNoActivePromotion (promotions : PromotionTable) (shadowRunId : Uuid) :
    Except RequestError Unit :=
  match getActiveTestnetShadowPromotionForShadowRun promotions shadowRunId with
  | none => .ok ()
  | some existing => .error (.rejected
      (if existing.status = TestnetShadowPromotionStatus.submitted.asStr then "already_promoted"
        else "promotion_already_previewed")
      "A non-terminal shadow promotion already exists for this shadow run.")

def ensureShadowPromotionPriceFresh (service : Service) (scope : RequestScope)
    (symbolText : String) : Except RequestError Unit := do
  let symbol ← (Symbol.new symbolText).mapError fun _ =>
    .rejected "invalid_symbol" "Persisted shadow run symbol is invalid."
  let freshTick := (scope.latestTick symbol).any fun tick =>
    0 < tick.price &&
      !isTestnetPipelinePriceStale tick.receivedAt scope.now service.staleThreshold
  let freshCandle := (scope.latestCandle symbol).any fun candle =>
    candle.isClosed && 0 < candle.close &&
      !isTestnetPipelinePriceStale candle.closeTime scope.now service.staleThreshold
  require (freshTick || freshCandle) (.rejected "stale_price"
    "A fresh local testnet reference price is required before shadow promotion.")

def previewedPromotion (service : Service) (scope : RequestScope) (correlationId : Uuid)
    (run : TestnetShadowRunRecord) (riskDecisionId : Uuid) (payload : TestnetShadowIntent) :
    TestnetShadowPromotionRecord where
  id := scope.newId
  shadowRunId := run.id
  status := TestnetShadowPromotionStatus.previewed.asStr
  strategyId := some run.strategyId
  symbol := some run.symbol
  timeframe := some run.timeframe
  signalId := run.signalId
  riskDecisionId := some riskDecisionId
  wouldSubmitPayload := payload
  resolvedPrice := run.resolvedPrice
  priceSource := run.priceSource
  rejectionReasons := []
  testnetOrderId := none
  clientOrderId := none
  expiresAt := scope.now + service.testnetShadowPromotionTtl
  createdBy := scope.actorId
  submittedBy := none
  createdAt := scope.now
  submittedAt := none
  correlationId := some correlationId

def checkPromotionPreview (service : Service) (desk : Desk) (scope : RequestScope)
    (strategyConfig : StrategyId → Except Fault StrategyConfig)
    (request : TestnetShadowPromotionRequest) :
    Except RequestError TestnetShadowPromotionRecord := do
  requireTestnet service
  let run ← ofOption (desk.shadowRuns.find? request.shadowRunId)
    (.rejected "testnet_shadow_run_not_found" "Testnet shadow run was not found.")
  requireNoActivePromotion desk.promotions run.id
  require (run.decision = "WOULD_SUBMIT")
    (.rejected "shadow_decision_not_would_submit"
      "Only persisted WOULD_SUBMIT shadow runs can be promoted.")
  let riskDecisionId ← ofOption run.riskDecisionId
    (.rejected "missing_risk_decision_id" "Shadow run is missing a persisted risk_decision_id.")
  let payload ← ofOption run.wouldSubmitPayload
    (.rejected "missing_would_submit_payload"
      "Shadow run is missing a persisted would-submit payload.")
  requireKillSwitchOff desk.db
  let _ ← requireApproved service desk.db riskDecisionId stillApproved
  let strategyId ← (StrategyId.fromStr run.strategyId).mapError (.invalid "invalid_strategy_id")
  let config ← (strategyConfig strategyId).mapError (.failed "failed_to_load_strategy_config")
  require config.enabled (.rejected "strategy_disabled"
    "Strategy config is disabled and cannot be promoted to testnet.")
  ensureShadowPromotionPriceFresh service scope run.symbol
  return previewedPromotion service scope (request.correlationId.getD scope.correlationId) run
    riskDecisionId payload

def insertTestnetShadowPromotion (desk : Desk) (promotion : TestnetShadowPromotionRecord) :
    Option Desk :=
  (desk.promotions.insert? promotion).map fun promotions => { desk with promotions := promotions }

def previewExchangeTestnetShadowPromotion (service : Service) (desk : Desk) (scope : RequestScope)
    (strategyConfig : StrategyId → Except Fault StrategyConfig)
    (request : TestnetShadowPromotionRequest) :
    Desk × Except RequestError TestnetShadowPromotionRecord :=
  match checkPromotionPreview service desk scope strategyConfig request with
  | .error err => (desk, .error err)
  | .ok promotion =>
    match insertTestnetShadowPromotion desk promotion with
    | none => (desk, .error (.rejected "failed_to_persist_shadow_promotion"
        "Shadow promotion preview could not be persisted."))
    | some stored => (stored, .ok promotion)

theorem checkPromotionPreview_ok {service : Service} {desk : Desk} {scope : RequestScope}
    {strategyConfig : StrategyId → Except Fault StrategyConfig}
    {request : TestnetShadowPromotionRequest} {promotion : TestnetShadowPromotionRecord}
    (hChecked : checkPromotionPreview service desk scope strategyConfig request = .ok promotion) :
    ∃ run riskDecisionId payload, desk.shadowRuns.find? request.shadowRunId = some run ∧
      run.riskDecisionId = some riskDecisionId ∧ run.wouldSubmitPayload = some payload ∧
      promotion = previewedPromotion service scope
        (request.correlationId.getD scope.correlationId) run riskDecisionId payload := by
  simp only [checkPromotionPreview, bind_eq_ok, pure_eq_ok, ofOption_eq_ok] at hChecked
  obtain ⟨_, -, run, hRun, _, -, _, -, riskDecisionId, hDecision, payload, hPayload, _, -, _, -, _, -,
    _, -, _, -, _, -, rfl⟩ := hChecked
  exact ⟨run, riskDecisionId, payload, hRun, hDecision, hPayload, rfl⟩

end Preview

section Submit

structure ClearedPromotion where
  promotion : TestnetShadowPromotionRecord
  correlationId : Uuid
  order : ExchangeOrderRequest

inductive PromotionCheck where
  | refused (error : RequestError)
  | expired (promotion : TestnetShadowPromotionRecord)
  | cleared (submission : ClearedPromotion)

def readPromotion (promotions : PromotionTable) (promotionId : Uuid)
    (request : TestnetShadowPromotionSubmitRequest) :
    Except RequestError TestnetShadowPromotionRecord := do
  let promotion ← ofOption (promotions.toTable.find? promotionId)
    (.rejected "testnet_shadow_promotion_not_found" "Testnet shadow promotion was not found.")
  let symbol := promotion.symbol.getD ""
  require (isValidTestnetShadowPromotionConfirmation symbol request.confirmationText)
    (.rejected "invalid_confirmation_text"
      ("Shadow promotion submit requires confirmation_text exactly equal to \"" ++
        expectedTestnetShadowPromotionConfirmation symbol ++ "\"."))
  require (promotion.status = TestnetShadowPromotionStatus.previewed.asStr)
    (.rejected "duplicate_submit" "Only PREVIEWED promotions can be submitted.")
  return promotion

def promotionOrder (intent : TestnetShadowIntent) (symbol : Symbol)
    (correlationId riskDecisionId : Uuid) : ExchangeOrderRequest where
  exchange := .binance
  environment := .testnet
  symbol := symbol
  side := intent.side
  orderType := intent.orderType
  timeInForce := intent.timeInForce
  quantity := intent.quantity
  quoteNotional := intent.quoteNotional
  limitPrice := intent.limitPrice
  clientOrderId := generateTestnetClientOrderId correlationId
  recvWindowMs := none
  riskDecisionId := some riskDecisionId

def clearPromotion (service : Service) (db : Database) (promotion : TestnetShadowPromotionRecord)
    (correlationId : Uuid) : Except RequestError ClearedPromotion := do
  requireKillSwitchOff db
  let riskDecisionId ← ofOption promotion.riskDecisionId
    (.rejected "missing_risk_decision_id" "Promotion is missing risk_decision_id.")
  let _ ← requireApproved service db riskDecisionId stillApproved
  let symbol ← (Symbol.new promotion.wouldSubmitPayload.symbol.text).mapError fun _ =>
    .rejected "invalid_symbol" "Persisted would-submit payload contains an invalid symbol."
  let order := promotionOrder promotion.wouldSubmitPayload symbol correlationId riskDecisionId
  order.validate.mapError (.invalid "invalid_exchange_order_request")
  return ⟨promotion, correlationId, order⟩

def checkPromotionSubmit (service : Service) (desk : Desk) (scope : RequestScope)
    (promotionId : Uuid) (request : TestnetShadowPromotionSubmitRequest) : PromotionCheck :=
  match readPromotion desk.promotions promotionId request with
  | .error err => .refused err
  | .ok promotion =>
    if promotion.expiresAt ≤ scope.now then .expired promotion
    else match clearPromotion service desk.db promotion
        (request.correlationId.getD scope.correlationId) with
      | .error err => .refused err
      | .ok submission => .cleared submission

def submissionUpdate (status : TestnetShadowPromotionStatus) (rejectionReasons : List String)
    (testnetOrderId : Option Uuid) (clientOrderId : Option String) (submittedBy : Option Uuid)
    (submittedAt : Option DateTime) (promotion : TestnetShadowPromotionRecord) :
    TestnetShadowPromotionRecord :=
  { promotion with
    status := status.asStr
    rejectionReasons := rejectionReasons
    testnetOrderId := testnetOrderId.or promotion.testnetOrderId
    clientOrderId := clientOrderId.or promotion.clientOrderId
    submittedBy := submittedBy.or promotion.submittedBy
    submittedAt := submittedAt.or promotion.submittedAt }

def updateTestnetShadowPromotionSubmission (promotions : PromotionTable) (promotionId : Uuid)
    (status : TestnetShadowPromotionStatus) (rejectionReasons : List String)
    (testnetOrderId : Option Uuid) (clientOrderId : Option String) (submittedBy : Option Uuid)
    (submittedAt : Option DateTime) : Option PromotionTable :=
  promotions.update? promotionId
    (submissionUpdate status rejectionReasons testnetOrderId clientOrderId submittedBy submittedAt)
    fun _ => rfl

/-- Every promotion is one that was there, with its decision and payload. -/
def PromotionTable.Keeps (promotions next : PromotionTable) : Prop :=
  ∀ promotion ∈ next.rows, ∃ earlier ∈ promotions.rows,
    promotion.riskDecisionId = earlier.riskDecisionId ∧
      promotion.wouldSubmitPayload = earlier.wouldSubmitPayload

theorem PromotionTable.Keeps.refl (promotions : PromotionTable) : promotions.Keeps promotions :=
  fun promotion hPromotion => ⟨promotion, hPromotion, rfl, rfl⟩

variable {promotions : PromotionTable}

theorem PromotionTable.Keeps.getD {written : Option PromotionTable}
    (hWritten : ∀ next, written = some next → promotions.Keeps next) :
    promotions.Keeps (written.getD promotions) := by
  cases written with
  | none => exact .refl promotions
  | some next => exact hWritten next rfl

variable {promotionId : Uuid}

theorem PromotionTable.keeps_of_update? {next : PromotionTable}
    {status : TestnetShadowPromotionStatus} {reasons : List String} {testnetOrderId : Option Uuid}
    {clientOrderId : Option String} {submittedBy : Option Uuid} {submittedAt : Option DateTime}
    (hUpdate : updateTestnetShadowPromotionSubmission promotions promotionId status reasons
      testnetOrderId clientOrderId submittedBy submittedAt = some next) :
    promotions.Keeps next := by
  intro promotion hPromotion
  rw [toTable_of_ofTable? hUpdate] at hPromotion
  obtain ⟨earlier, hEarlier, rfl⟩ := List.mem_map.mp hPromotion
  refine ⟨earlier, hEarlier, ?_⟩
  split
  · exact ⟨rfl, rfl⟩
  · exact ⟨rfl, rfl⟩

def expirePromotion (promotions : PromotionTable) (scope : RequestScope) (promotionId : Uuid) :
    Option PromotionTable :=
  updateTestnetShadowPromotionSubmission promotions promotionId .expired ["promotion_expired"] none
    none scope.actorId (some scope.now)

def ClearedPromotion.row (submission : ClearedPromotion) (scope : RequestScope) :
    ExchangeTestnetOrderRecord :=
  submittedRow scope submission.correlationId submission.order

/-- Persists the row of the order and hands the order to the exchange. -/
def sendPromotionOrder (desk : Desk) (scope : RequestScope) (submission : ClearedPromotion) :
    Option Desk :=
  (persistSubmittedRow desk.exchange scope submission.correlationId (submission.row scope)).map
    fun tables => { desk with exchange := tables, sent := desk.sent ++ [submission.order] }

/-- The promotion after the exchange has answered; any error counts as a
rejection. -/
def settlePromotion (promotions : PromotionTable) (scope : RequestScope)
    (submission : ClearedPromotion) : Option PromotionTable :=
  let row := submission.row scope
  match scope.answer with
  | .ok _ => updateTestnetShadowPromotionSubmission promotions submission.promotion.id .submitted []
      (some row.id) (some row.clientOrderId) scope.actorId (some scope.now)
  | .error _ => updateTestnetShadowPromotionSubmission promotions submission.promotion.id .rejected
      ["submit_failed"] (some row.id) (some row.clientOrderId) scope.actorId (some scope.now)

variable {submission : ClearedPromotion}

theorem keeps_of_settlePromotion {next : PromotionTable} {scope : RequestScope}
    (hSettle : settlePromotion promotions scope submission = some next) :
    promotions.Keeps next := by
  unfold settlePromotion at hSettle
  split at hSettle
  · exact PromotionTable.keeps_of_update? hSettle
  · exact PromotionTable.keeps_of_update? hSettle

def acknowledgePromotion (tables : ExchangeTables) (scope : RequestScope)
    (submission : ClearedPromotion) : ExchangeTables :=
  match scope.answer with
  | .ok ack => submitExchangeTestnetOrderSuccess tables (scope.origin submission.correlationId)
      (submission.row scope) ack
  | .error _ => tables

def promotionResult (scope : RequestScope) (submission : ClearedPromotion) :
    Except RequestError TestnetShadowPromotionResult :=
  match scope.answer with
  | .error err => .error (.adapter err)
  | .ok ack => .ok {
      promotionId := submission.promotion.id
      shadowRunId := submission.promotion.shadowRunId
      testnetOrderId := (submission.row scope).id
      clientOrderId := (submission.row scope).clientOrderId
      executionState := (mapExchangeAckToTransition ack).1
      correlationId := submission.correlationId }

/-- The updates of the promotion are made without looking at their result. -/
def submitExchangeTestnetShadowPromotion (service : Service) (desk : Desk) (scope : RequestScope)
    (promotionId : Uuid) (request : TestnetShadowPromotionSubmitRequest) :
    Desk × Except RequestError TestnetShadowPromotionResult :=
  match checkPromotionSubmit service desk scope promotionId request with
  | .refused err => (desk, .error err)
  | .expired promotion =>
    ({ desk with promotions :=
        (expirePromotion desk.promotions scope promotion.id).getD desk.promotions },
      .error (.rejected "promotion_expired"
        "Shadow promotion has expired and must be previewed again."))
  | .cleared submission =>
    match sendPromotionOrder desk scope submission with
    | none => (desk, .error failedToPersistOrder)
    | some sent =>
      ({ sent with
        exchange := acknowledgePromotion sent.exchange scope submission
        promotions := (settlePromotion sent.promotions scope submission).getD sent.promotions },
        promotionResult scope submission)

variable {request : TestnetShadowPromotionSubmitRequest} {promotion : TestnetShadowPromotionRecord}

theorem readPromotion_ok (hRead : readPromotion promotions promotionId request = .ok promotion) :
    promotions.toTable.find? promotionId = some promotion ∧ promotion.status = "PREVIEWED" := by
  simp only [readPromotion, bind_eq_ok, pure_eq_ok, ofOption_eq_ok, require_eq_ok] at hRead
  obtain ⟨found, hFound, _, -, _, hStatus, rfl⟩ := hRead
  exact ⟨hFound, of_decide_eq_true hStatus⟩

theorem clearPromotion_ok {service : Service} {db : Database} {correlationId : Uuid}
    (hCleared : clearPromotion service db promotion correlationId = .ok submission) :
    db.systemState.killSwitchEnabled = false ∧ ∃ riskDecisionId symbol,
      promotion.riskDecisionId = some riskDecisionId ∧
      Symbol.new promotion.wouldSubmitPayload.symbol.text = .ok symbol ∧
      submission = ⟨promotion, correlationId,
        promotionOrder promotion.wouldSubmitPayload symbol correlationId riskDecisionId⟩ := by
  simp only [clearPromotion, bind_eq_ok, pure_eq_ok, ofOption_eq_ok, mapError_eq_ok,
    requireKillSwitchOff_eq_ok] at hCleared
  obtain ⟨_, hSwitch, riskDecisionId, hDecision, _, -, symbol, hSymbol, _, -, rfl⟩ := hCleared
  exact ⟨hSwitch, riskDecisionId, symbol, hDecision, hSymbol, rfl⟩

theorem checkPromotionSubmit_cleared {service : Service} {desk : Desk} {scope : RequestScope}
    (hCheck : checkPromotionSubmit service desk scope promotionId request = .cleared submission) :
    readPromotion desk.promotions promotionId request = .ok submission.promotion ∧
      clearPromotion service desk.db submission.promotion
        (request.correlationId.getD scope.correlationId) = .ok submission := by
  unfold checkPromotionSubmit at hCheck
  split at hCheck
  · cases hCheck
  rename_i promotion hRead
  split at hCheck
  · cases hCheck
  split at hCheck
  · cases hCheck
  rename_i submission' hCleared
  cases hCheck
  obtain ⟨-, _, _, -, -, rfl⟩ := clearPromotion_ok hCleared
  exact ⟨hRead, hCleared⟩

end Submit

end AegisQuant.Testnet
