import AegisQuant.Testnet.Desk

/-! Manual submission and pipeline submission of a testnet order. Both build
an order from a stored risk decision, persist its row and hand it to the
exchange; a row that cannot be persisted stops the order. -/
namespace AegisQuant.Testnet
open Exchange Paper Fallible Option

structure SubmitExchangeTestnetOrderRequest where
  symbol : String
  side : ExchangeOrderSide
  orderType : ExchangeOrderType
  timeInForce : Option ExchangeOrderTimeInForce
  quantity : Option String
  quoteNotional : Option String
  limitPrice : Option String
  riskDecisionId : Option Uuid
  confirmationText : String
  recvWindowMs : Option Nat
  correlationId : Option Uuid

structure ExchangeTestnetPipelineSubmitRequest where
  riskDecisionId : Uuid
  confirmationText : String
  correlationId : Option Uuid

structure ExchangeTestnetPipelinePreview where
  strategyId : Option String
  signalId : Option Uuid
  riskDecisionId : Uuid
  symbol : String
  side : ExchangeOrderSide
  orderType : ExchangeOrderType
  quantity : Decimal
  quoteNotional : Decimal
  referencePrice : Decimal
  referencePriceReceivedAt : DateTime
  confirmationText : String
  executionStatePreview : TestnetExecutionState
  correlationId : Uuid
  previewedAt : DateTime

structure PreparedExchangeTestnetPipelinePreview where
  preview : ExchangeTestnetPipelinePreview
  order : ExchangeOrderRequest

section Sending

def generateTestnetClientOrderId (correlationId : Uuid) : String :=
  "aegis-testnet-" ++ correlationId.simple

def submittedRow (scope : RequestScope) (correlationId : Uuid) (order : ExchangeOrderRequest) :
    ExchangeTestnetOrderRecord where
  id := scope.newId
  exchange := ExchangeName.binance.asStr
  environment := ExchangeEnvironment.testnet.asStr
  clientOrderId := generateTestnetClientOrderId correlationId
  exchangeOrderId := none
  symbol := order.symbol.text
  side := order.side.asStr
  orderType := order.orderType.asStr
  timeInForce := order.timeInForce.map (·.asStr)
  requestedQty := order.quantity
  requestedNotional := order.quoteNotional
  limitPrice := order.limitPrice
  status := "SUBMIT_REQUESTED"
  executionState := TestnetExecutionState.orderSubmitRequested.asStr
  ackPayload := none
  latestStatusPayload := none
  riskDecisionId := order.riskDecisionId
  createdBy := scope.actorId
  lastTransitionAt := some scope.now
  createdAt := scope.now
  updatedAt := scope.now

/-- Row ids and client order ids are both unique. -/
def insertExchangeTestnetOrder (tables : ExchangeTables) (row : ExchangeTestnetOrderRecord) :
    Option ExchangeTables :=
  if tables.orders.rows.any fun other => other.id = row.id then none
  else (tables.orders.insert? row).map fun orders => { tables with orders := orders }

def submitRequestedEvent (scope : RequestScope) (correlationId : Uuid)
    (row : ExchangeTestnetOrderRecord) : ExchangeTestnetOrderLifecycleEventRecord where
  orderId := some row.id
  clientOrderId := row.clientOrderId
  previousState := none
  nextState := TestnetExecutionState.orderSubmitRequested.asStr
  transitionSource := TestnetExecutionTransitionSource.apiSubmit.asStr
  reason := some "submit_requested"
  payload := none
  createdBy := scope.actorId
  createdAt := scope.now
  correlationId := some correlationId

/-- The row of an order and its first lifecycle event. -/
def persistSubmittedRow (tables : ExchangeTables) (scope : RequestScope) (correlationId : Uuid)
    (row : ExchangeTestnetOrderRecord) : Option ExchangeTables :=
  (insertExchangeTestnetOrder tables row).map fun stored =>
    appendExchangeTestnetLifecycleEventAndUpdateOrder stored
      (submitRequestedEvent scope correlationId row) {
        exchangeOrderId := none
        status := some "SUBMIT_REQUESTED"
        executionState := .orderSubmitRequested
        latestStatusPayload := none
        ackPayload := none }

def RequestScope.origin (scope : RequestScope) (correlationId : Uuid) : Origin where
  actorId := scope.actorId
  correlationId := some correlationId
  now := scope.now

def failedToPersistOrder : RequestError :=
  .rejected "failed_to_persist_exchange_testnet_order"
    "Exchange testnet order could not be persisted."

def submitExchangeTestnetOrderRequest (desk : Desk) (scope : RequestScope) (correlationId : Uuid)
    (order : ExchangeOrderRequest) : Desk × Except RequestError ExchangeTestnetOrderRecord :=
  let row := submittedRow scope correlationId order
  match persistSubmittedRow desk.exchange scope correlationId row with
  | none => (desk, .error failedToPersistOrder)
  | some tables =>
    let sent := desk.sent ++ [{ order with clientOrderId := row.clientOrderId }]
    match scope.answer with
    | .error err => ({ desk with exchange := tables, sent := sent }, .error (.adapter err))
    | .ok ack =>
      let acked := submitExchangeTestnetOrderSuccess tables (scope.origin correlationId) row ack
      ({ desk with exchange := acked, sent := sent },
        .ok ((acked.orders.find? row.clientOrderId).getD row))

/-- No stored order has the id or the client order id of the row. -/
structure Persistable (tables : ExchangeTables) (row : ExchangeTestnetOrderRecord) : Prop where
  idUnused : ∀ other ∈ tables.orders.rows, other.id ≠ row.id
  clientOrderIdUnused : tables.orders.find? row.clientOrderId = none

theorem persistSubmittedRow_isSome {tables : ExchangeTables} (scope : RequestScope)
    (correlationId : Uuid) {row : ExchangeTestnetOrderRecord} :
    (persistSubmittedRow tables scope correlationId row).isSome ↔ Persistable tables row := by
  unfold persistSubmittedRow insertExchangeTestnetOrder
  by_cases hId : tables.orders.rows.any fun other => other.id = row.id
  · simp only [hId, if_true, map_none, isSome_none, Bool.false_eq_true, false_iff]
    rintro ⟨hUnused, -⟩
    obtain ⟨other, hMember, hSame⟩ := List.any_eq_true.mp hId
    exact hUnused other hMember (of_decide_eq_true hSame)
  · have hUnused : ∀ other ∈ tables.orders.rows, other.id ≠ row.id := by simpa using hId
    simp only [hId, Bool.false_eq_true, if_false, isSome_map]
    constructor
    · intro hInserted
      obtain ⟨orders, hOrders⟩ := isSome_iff_exists.mp hInserted
      exact ⟨hUnused, (Table.insert?_eq_some.mp hOrders).1⟩
    · rintro ⟨-, hClient⟩
      obtain ⟨orders, hOrders⟩ := Table.insert?_of_unused hClient
      simp [hOrders]

theorem submitExchangeTestnetOrderRequest_sent (desk : Desk) (scope : RequestScope)
    (correlationId : Uuid) (order : ExchangeOrderRequest) :
    ∃ exchange, (submitExchangeTestnetOrderRequest desk scope correlationId order).1 =
      { desk with exchange := exchange, sent := desk.sent } ∧
        ¬Persistable desk.exchange (submittedRow scope correlationId order) ∨
      (submitExchangeTestnetOrderRequest desk scope correlationId order).1 =
      { desk with
        exchange := exchange
        sent := desk.sent ++
          [{ order with clientOrderId := generateTestnetClientOrderId correlationId }] } ∧
        Persistable desk.exchange (submittedRow scope correlationId order) := by
  rw [← persistSubmittedRow_isSome scope correlationId]
  unfold submitExchangeTestnetOrderRequest
  simp only
  cases persistSubmittedRow desk.exchange scope correlationId
      (submittedRow scope correlationId order) with
  | none => exact ⟨desk.exchange, .inl ⟨rfl, by simp⟩⟩
  | some tables =>
    cases scope.answer with
    | error err => exact ⟨tables, .inr ⟨rfl, rfl⟩⟩
    | ok ack => exact ⟨_, .inr ⟨rfl, rfl⟩⟩

/-- The handlers send the order that has passed their checks. -/
def submitPreparedOrder (desk : Desk) (scope : RequestScope) (correlationId : Uuid)
    (prepared : Except RequestError ExchangeOrderRequest) :
    Desk × Except RequestError ExchangeTestnetOrderRecord :=
  match prepared with
  | .error err => (desk, .error err)
  | .ok order => submitExchangeTestnetOrderRequest desk scope correlationId order

section
variable (desk : Desk) (scope : RequestScope) (correlationId : Uuid)
  (prepared : Except RequestError ExchangeOrderRequest)

theorem submitPreparedOrder_cases :
    (∃ exchange, (submitPreparedOrder desk scope correlationId prepared).1 =
        { desk with exchange := exchange } ∧
      ∀ order, prepared = .ok order →
        ¬Persistable desk.exchange (submittedRow scope correlationId order)) ∨
    ∃ exchange order, prepared = .ok order ∧
      Persistable desk.exchange (submittedRow scope correlationId order) ∧
      (submitPreparedOrder desk scope correlationId prepared).1 = { desk with
        exchange := exchange
        sent := desk.sent ++
          [{ order with clientOrderId := generateTestnetClientOrderId correlationId }] } := by
  cases prepared with
  | error err => exact .inl ⟨desk.exchange, rfl, by simp⟩
  | ok order =>
    obtain ⟨exchange, ⟨hDesk, hBlocked⟩ | ⟨hDesk, hFree⟩⟩ :=
      submitExchangeTestnetOrderRequest_sent desk scope correlationId order
    · exact .inl ⟨exchange, hDesk, by simpa using hBlocked⟩
    · exact .inr ⟨exchange, order, rfl, hFree, hDesk⟩

theorem submitPreparedOrder_frame :
    (submitPreparedOrder desk scope correlationId prepared).1.db = desk.db ∧
      (submitPreparedOrder desk scope correlationId prepared).1.shadowRuns = desk.shadowRuns ∧
      (submitPreparedOrder desk scope correlationId prepared).1.promotions = desk.promotions := by
  rcases submitPreparedOrder_cases desk scope correlationId prepared with
    ⟨_, hDesk, -⟩ | ⟨_, _, -, -, hDesk⟩
  · rw [hDesk]
    exact ⟨rfl, rfl, rfl⟩
  · rw [hDesk]
    exact ⟨rfl, rfl, rfl⟩

end

end Sending

section Manual

def testnetOrderConfirmationText : String := "TESTNET ORDER"

def isValidTestnetOrderConfirmation (value : String) : Bool :=
  trim value = testnetOrderConfirmationText

def riskDecisionNotApproved : String := "risk_decision_id must reference an APPROVED risk decision."

def ensureTestnetSubmissionAllowed (service : Service) (db : Database) (riskDecisionId : Uuid) :
    Except RequestError Unit := do
  requireTestnet service
  requireKillSwitchOff db
  let _ ← requireApproved service db riskDecisionId riskDecisionNotApproved
  return ()

def parseOptionalDecimal (service : Service) (text : Option String) (error message : String) :
    Except RequestError (Option Decimal) :=
  match text with
  | none => .ok none
  | some raw => match service.decimalFromStrExact raw with
      | none => .error (.rejected error message)
      | some value => .ok (some value)

def requestedOrder (service : Service) (request : SubmitExchangeTestnetOrderRequest)
    (correlationId riskDecisionId : Uuid) : Except RequestError ExchangeOrderRequest := do
  let symbol ← (Symbol.new request.symbol).mapError fun _ =>
    .rejected "invalid_symbol" "symbol must be a non-empty market symbol."
  let quantity ← parseOptionalDecimal service request.quantity
    "invalid_quantity" "quantity must be a valid decimal."
  let quoteNotional ← parseOptionalDecimal service request.quoteNotional
    "invalid_quote_notional" "quote_notional must be a valid decimal."
  let limitPrice ← parseOptionalDecimal service request.limitPrice
    "invalid_limit_price" "limit_price must be a valid decimal."
  return {
    exchange := .binance
    environment := .testnet
    symbol := symbol
    side := request.side
    orderType := request.orderType
    timeInForce := request.timeInForce
    quantity := quantity
    quoteNotional := quoteNotional
    limitPrice := limitPrice
    clientOrderId := generateTestnetClientOrderId correlationId
    recvWindowMs := request.recvWindowMs
    riskDecisionId := some riskDecisionId }

def prepareManualOrder (service : Service) (db : Database)
    (request : SubmitExchangeTestnetOrderRequest) (correlationId : Uuid) :
    Except RequestError ExchangeOrderRequest := do
  require (isValidTestnetOrderConfirmation request.confirmationText)
    (.rejected "invalid_testnet_confirmation"
      "Testnet submit requires confirmation_text exactly equal to \"TESTNET ORDER\".")
  match request.riskDecisionId with
  | none => .error (.rejected "missing_risk_decision_id"
      "A preapproved risk_decision_id is required for testnet submission.")
  | some riskDecisionId =>
    ensureTestnetSubmissionAllowed service db riskDecisionId
    let order ← requestedOrder service request correlationId riskDecisionId
    order.validate.mapError (.invalid "invalid_exchange_order_request")
    return order

def submitExchangeTestnetOrder (service : Service) (desk : Desk) (scope : RequestScope)
    (request : SubmitExchangeTestnetOrderRequest) :
    Desk × Except RequestError ExchangeTestnetOrderRecord :=
  let correlationId := request.correlationId.getD scope.correlationId
  submitPreparedOrder desk scope correlationId
    (prepareManualOrder service desk.db request correlationId)

theorem prepareManualOrder_ok {service : Service} {db : Database}
    {request : SubmitExchangeTestnetOrderRequest} {correlationId : Uuid}
    {order : ExchangeOrderRequest}
    (hPrepared : prepareManualOrder service db request correlationId = .ok order) :
    db.systemState.killSwitchEnabled = false ∧
      ∃ riskDecisionId, request.riskDecisionId = some riskDecisionId ∧
        requestedOrder service request correlationId riskDecisionId = .ok order := by
  unfold prepareManualOrder at hPrepared
  obtain ⟨_, -, hPrepared⟩ := bind_eq_ok.mp hPrepared
  split at hPrepared
  · cases hPrepared
  rename_i riskDecisionId hId
  simp only [ensureTestnetSubmissionAllowed, bind_eq_ok, pure_eq_ok, requireKillSwitchOff_eq_ok]
    at hPrepared
  obtain ⟨_, ⟨_, -, _, hSwitch, -⟩, order', hOrder, _, -, rfl⟩ := hPrepared
  exact ⟨hSwitch, riskDecisionId, hId, hOrder⟩

end Manual

section Pipeline

def isTestnetPipelinePriceStale (pricedAt now staleThreshold : Int) : Bool :=
  0 ≤ now - pricedAt && now - pricedAt > staleThreshold

def stalePriceMessage : String :=
  "Latest local market price is stale; a fresh tick or candle is required before testnet " ++
    "pipeline preview."

/-- The price of a closed candle, when no tick is fresh. -/
def fallbackReferencePrice (service : Service) (scope : RequestScope) (symbol : Symbol)
    (hadTick : Bool) : Except RequestError (Decimal × DateTime) :=
  match (scope.latestCandle symbol).filter (·.isClosed) with
  | none =>
    if hadTick then .error (.rejected "stale_market_price" stalePriceMessage)
    else .error (.rejected "market_price_missing"
      ("A fresh local market tick or closed candle is required before testnet pipeline " ++
        "preview."))
  | some candle =>
    if candle.close ≤ 0 then .error (.rejected "invalid_market_candle"
      "Latest closed candle price must be positive.")
    else if isTestnetPipelinePriceStale candle.closeTime scope.now service.staleThreshold then
      .error (.rejected "stale_market_price" stalePriceMessage)
    else .ok (candle.close, candle.closeTime)

def loadTestnetPipelineReferencePrice (service : Service) (scope : RequestScope) (symbol : Symbol) :
    Except RequestError (Decimal × DateTime) :=
  match scope.latestTick symbol with
  | none => fallbackReferencePrice service scope symbol false
  | some tick =>
    if tick.price ≤ 0 then .error (.rejected "invalid_market_tick"
      "Latest market tick price must be positive.")
    else if isTestnetPipelinePriceStale tick.receivedAt scope.now service.staleThreshold then
      fallbackReferencePrice service scope symbol true
    else .ok (tick.price, tick.receivedAt)

def parseSideToExchangeOrderSide (value : String) : Option ExchangeOrderSide :=
  match toAsciiLowercase (trim value) with
  | "buy" => some .buy
  | "sell" => some .sell
  | _ => none

def expectedTestnetPipelineConfirmation (symbol : String) : String :=
  "SUBMIT TESTNET " ++ toAsciiUppercase (trim symbol)

def isValidTestnetPipelineConfirmation (symbol confirmationText : String) : Bool :=
  confirmationText = expectedTestnetPipelineConfirmation symbol

/-- The symbol, side and notional a preview takes from a decision: the symbol
of the signal, unless it is blank, but the side of the rationale. -/
def decisionContext (service : Service) (record : RiskDecisionRecord) :
    Except RequestError (String × ExchangeOrderSide × Decimal) := do
  let symbol ← ofOption ((record.symbol.filter fun text => trim text ≠ "").or
      (rationaleText record.rationale "symbol"))
    (.rejected "invalid_risk_decision_context" "risk_decision_id is missing symbol context.")
  let side ← ofOption ((rationaleText record.rationale "side").bind parseSideToExchangeOrderSide)
    (.rejected "invalid_risk_decision_context" "risk_decision_id is missing side context.")
  let notional ← ofOption (record.approvedNotional.or
      (decimalFromJsonField service.decimalFromStrExact record.rationale "suggested_notional"))
    (.rejected "invalid_risk_decision_context"
      "risk_decision_id is missing approved notional context.")
  return (symbol, side, notional)

def previewOrder (symbol : Symbol) (side : ExchangeOrderSide) (quantity notional : Decimal)
    (correlationId riskDecisionId : Uuid) : ExchangeOrderRequest where
  exchange := .binance
  environment := .testnet
  symbol := symbol
  side := side
  orderType := .market
  timeInForce := none
  quantity := some quantity
  quoteNotional := some notional
  limitPrice := none
  clientOrderId := generateTestnetClientOrderId correlationId
  recvWindowMs := none
  riskDecisionId := some riskDecisionId

def buildExchangeTestnetPipelinePreview (service : Service) (db : Database) (scope : RequestScope)
    (riskDecisionId correlationId : Uuid) :
    Except RequestError PreparedExchangeTestnetPipelinePreview := do
  requireTestnet service
  requireKillSwitchOff db
  let decision ← requireApproved service db riskDecisionId riskDecisionNotApproved
  let (symbol, side, notional) ← decisionContext service decision
  let symbolModel ← (Symbol.new symbol).mapError fun _ =>
    .rejected "invalid_symbol" "risk_decision_id resolved to an invalid symbol."
  let (price, pricedAt) ← loadTestnetPipelineReferencePrice service scope symbolModel
  let quantity := roundDp 8 (notional / price)
  require (0 < quantity)
    (.rejected "invalid_preview_quantity" "Derived preview quantity must be positive.")
  let order := previewOrder symbolModel side quantity notional correlationId riskDecisionId
  order.validate.mapError (.invalid "invalid_exchange_order_request")
  return {
    preview := {
      strategyId := decision.strategyId
      signalId := decision.signalId
      riskDecisionId := riskDecisionId
      symbol := symbol
      side := side
      orderType := .market
      quantity := quantity
      quoteNotional := notional
      referencePrice := price
      referencePriceReceivedAt := pricedAt
      confirmationText := expectedTestnetPipelineConfirmation symbol
      executionStatePreview := .orderPrepared
      correlationId := correlationId
      previewedAt := scope.now }
    order := order }

def preparePipelineOrder (service : Service) (db : Database) (scope : RequestScope)
    (request : ExchangeTestnetPipelineSubmitRequest) (correlationId : Uuid) :
    Except RequestError ExchangeOrderRequest := do
  let prepared ← buildExchangeTestnetPipelinePreview service db scope request.riskDecisionId
    correlationId
  require (isValidTestnetPipelineConfirmation prepared.preview.symbol request.confirmationText)
    (.rejected "invalid_testnet_pipeline_confirmation"
      ("Testnet pipeline submit requires confirmation_text exactly equal to \"" ++
        expectedTestnetPipelineConfirmation prepared.preview.symbol ++ "\"."))
  return prepared.order

def submitExchangeTestnetPipeline (service : Service) (desk : Desk) (scope : RequestScope)
    (request : ExchangeTestnetPipelineSubmitRequest) :
    Desk × Except RequestError ExchangeTestnetOrderRecord :=
  let correlationId := request.correlationId.getD scope.correlationId
  submitPreparedOrder desk scope correlationId
    (preparePipelineOrder service desk.db scope request correlationId)

theorem preparePipelineOrder_ok {service : Service} {db : Database} {scope : RequestScope}
    {request : ExchangeTestnetPipelineSubmitRequest} {correlationId : Uuid}
    {order : ExchangeOrderRequest}
    (hPrepared : preparePipelineOrder service db scope request correlationId = .ok order) :
    db.systemState.killSwitchEnabled = false ∧ ∃ decision symbol side notional symbolModel quantity,
        db.riskDecisions.find? request.riskDecisionId = some decision ∧
        decisionContext service (mapRiskDecision service db decision) =
          .ok (symbol, side, notional) ∧
        Symbol.new symbol = .ok symbolModel ∧
        order = previewOrder symbolModel side quantity notional correlationId
          request.riskDecisionId := by
  simp only [preparePipelineOrder, buildExchangeTestnetPipelinePreview, bind_eq_ok, pure_eq_ok,
    requireKillSwitchOff_eq_ok, mapError_eq_ok] at hPrepared
  obtain ⟨prepared, ⟨_, -, _, hSwitch, record, hRecord, ⟨symbol, side, notional⟩, hContext,
    symbolModel, hSymbol, ⟨price, pricedAt⟩, -, _, -, _, -, rfl⟩, _, -, rfl⟩ := hPrepared
  obtain ⟨decision, hFind, -, rfl⟩ := requireApproved_ok hRecord
  exact ⟨hSwitch, decision, symbol, side, notional, symbolModel, _, hFind, hContext, hSymbol, rfl⟩

end Pipeline

end AegisQuant.Testnet
