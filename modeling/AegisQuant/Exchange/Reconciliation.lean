import AegisQuant.Exchange.Lifecycle
import AegisQuant.Library.Table
import Mathlib.Data.List.Infix

/-! The handlers that write the state of a testnet order: exchange and cancel
acknowledgements, private execution reports, and REST reconciliation passes.
Each of them reads a row, asks the validator and appends a lifecycle event. -/
namespace AegisQuant.Exchange

abbrev OrderTable := Table ExchangeTestnetOrderRecord.clientOrderId

structure ExchangeTestnetOrderLifecycleEventRecord where
  orderId : Option Uuid
  clientOrderId : String
  previousState : Option String
  nextState : String
  transitionSource : String
  reason : Option String
  payload : Option Value
  createdBy : Option Uuid
  createdAt : DateTime
  correlationId : Option Uuid

inductive ExchangeReconciliationMismatchKind where
  | statusMismatch
  | exchangeOrderMissing
  | localOrderMissing
  | ackWithoutStatus
  | cancelNotConfirmed
  | unknownExchangeState
  deriving DecidableEq, Repr

inductive ExchangeReconciliationAction where
  | none
  | updateLocalStatus
  | alert
  deriving DecidableEq, Repr

structure ExchangeReconciliationMismatch where
  runId : Uuid
  clientOrderId : String
  localStatus : Option String
  exchangeStatus : Option String
  mismatchKind : ExchangeReconciliationMismatchKind
  action : ExchangeReconciliationAction
  payload : Value
  createdAt : DateTime

structure ExchangeTables where
  orders : OrderTable
  lifecycleEvents : List ExchangeTestnetOrderLifecycleEventRecord
  mismatches : List ExchangeReconciliationMismatch

def ExchangeTables.executionState? (tables : ExchangeTables) (clientOrderId : String) :
    Option String :=
  (tables.orders.find? clientOrderId).map (·.executionState)

/-- What a lifecycle write changes besides appending its event. -/
structure OrderUpdate where
  exchangeOrderId : Option String
  status : Option String
  executionState : TestnetExecutionState
  latestStatusPayload : Option Value
  ackPayload : Option Value

def OrderUpdate.apply (update : OrderUpdate) (transitionAt : DateTime)
    (order : ExchangeTestnetOrderRecord) : ExchangeTestnetOrderRecord :=
  { order with
    exchangeOrderId := update.exchangeOrderId.or order.exchangeOrderId
    status := update.status.getD order.status
    executionState := update.executionState.asStr
    latestStatusPayload := update.latestStatusPayload.or order.latestStatusPayload
    ackPayload := update.ackPayload.or order.ackPayload
    lastTransitionAt := some transitionAt
    updatedAt := transitionAt }

theorem OrderUpdate.apply_clientOrderId (update : OrderUpdate) (transitionAt : DateTime)
    (order : ExchangeTestnetOrderRecord) :
    (update.apply transitionAt order).clientOrderId = order.clientOrderId := rfl

def appendExchangeTestnetLifecycleEventAndUpdateOrder (tables : ExchangeTables)
    (event : ExchangeTestnetOrderLifecycleEventRecord) (update : OrderUpdate) :
    ExchangeTables :=
  { tables with
    lifecycleEvents := tables.lifecycleEvents ++ [event]
    orders := tables.orders.modify event.clientOrderId (update.apply event.createdAt)
      (update.apply_clientOrderId event.createdAt) }

def lifecycleSnapshot (order : ExchangeTestnetOrderRecord) : TestnetOrderLifecycleSnapshot where
  orderId := some order.id
  clientOrderId := order.clientOrderId
  exchangeOrderId := order.exchangeOrderId
  currentState := parseTestnetExecutionState order.executionState
  lastTransitionAt := order.lastTransitionAt

/-- Who caused a write, and when. -/
structure Origin where
  actorId : Option Uuid
  correlationId : Option Uuid
  now : DateTime

def acceptedEvent (origin : Origin) (order : ExchangeTestnetOrderRecord)
    (transition : TestnetExecutionTransition) : ExchangeTestnetOrderLifecycleEventRecord where
  orderId := some order.id
  clientOrderId := order.clientOrderId
  previousState := transition.previousState.map (·.asStr)
  nextState := transition.nextState.asStr
  transitionSource := transition.source.asStr
  reason := transition.reason
  payload := transition.payload
  createdBy := origin.actorId
  createdAt := origin.now
  correlationId := origin.correlationId

def refusedEvent (origin : Origin) (order : ExchangeTestnetOrderRecord)
    (source : TestnetExecutionTransitionSource) (reason : String) (payload : Value) :
    ExchangeTestnetOrderLifecycleEventRecord where
  orderId := some order.id
  clientOrderId := order.clientOrderId
  previousState := some order.executionState
  nextState := TestnetExecutionState.reconciliationRequired.asStr
  transitionSource := source.asStr
  reason := some reason
  payload := some payload
  createdBy := origin.actorId
  createdAt := origin.now
  correlationId := origin.correlationId

/-- The transition is checked against the record the caller holds, not
against the row as it is stored. -/
def appendTestnetLifecycleTransition (tables : ExchangeTables) (origin : Origin)
    (order : ExchangeTestnetOrderRecord) (nextState : TestnetExecutionState)
    (source : TestnetExecutionTransitionSource) (status exchangeOrderId reason : Option String)
    (payload : Option Value) (isAckPayload : Bool) :
    Except TestnetExecutionStateError ExchangeTables := do
  let transition ← applyTestnetTransition (lifecycleSnapshot order) nextState source reason payload
  return appendExchangeTestnetLifecycleEventAndUpdateOrder tables
    (acceptedEvent origin order transition) {
      exchangeOrderId := exchangeOrderId
      status := status
      executionState := transition.nextState
      latestStatusPayload := if isAckPayload then none else payload
      ackPayload := if isAckPayload then payload else none }

def localTestnetStatusFromExchangeState : ExchangeOrderState → Option String
  | .new => some "NEW"
  | .partiallyFilled => some "PARTIALLY_FILLED"
  | .filled => some "FILLED"
  | .canceled => some "CANCELLED"
  | .rejected => some "REJECTED"
  | .expired => some "EXPIRED"
  | .pendingCancel => none

/-- A refused transition leaves the tables as they are; the handler answers
with the record it holds. -/
def orUnchanged (tables : ExchangeTables) :
    Except TestnetExecutionStateError ExchangeTables → ExchangeTables
  | .ok updated => updated
  | .error _ => tables

def submitExchangeTestnetOrderSuccess (tables : ExchangeTables) (origin : Origin)
    (fallbackRecord : ExchangeTestnetOrderRecord) (ack : ExchangeOrderAck) : ExchangeTables :=
  let localStatus := (localTestnetStatusFromExchangeState ack.status).getD ack.status.asStr
  let (nextState, reason) := mapExchangeAckToTransition ack
  orUnchanged tables (appendTestnetLifecycleTransition tables origin fallbackRecord nextState
    .exchangeAck (some localStatus) ack.exchangeOrderId reason (some ack.rawPayload) true)

def cancelExchangeTestnetOrderSuccess (tables : ExchangeTables) (origin : Origin)
    (fallbackRecord : ExchangeTestnetOrderRecord) (ack : ExchangeCancelAck) : ExchangeTables :=
  let localStatus := (localTestnetStatusFromExchangeState ack.status).getD ack.status.asStr
  let (nextState, reason) := mapCancelAckToTransition ack
  orUnchanged tables (appendTestnetLifecycleTransition tables origin fallbackRecord nextState
    .exchangeCancelAck (some localStatus) ack.exchangeOrderId reason (some ack.rawPayload) false)

/-- The lifecycle event of a private execution report about `order`. -/
def executionReportEvent (now : DateTime) (order : ExchangeTestnetOrderRecord)
    (report : ExchangeExecutionReport) : ExchangeTestnetOrderLifecycleEventRecord :=
  let origin : Origin := { actorId := none, correlationId := none, now := now }
  let (nextState, reason) := mapPrivateExecutionReportToTransition report
  match applyTestnetTransition (lifecycleSnapshot order) nextState .privateStream reason
      (some report.rawPayload) with
  | .ok transition => acceptedEvent origin order transition
  | .error _ => refusedEvent origin order .privateStream "invalid_private_stream_transition"
      report.rawPayload

/-- The part of the private stream's `handle_message` that concerns a parsed
execution report. A report about an order that is not stored writes nothing. -/
def handleExecutionReport (tables : ExchangeTables) (now : DateTime)
    (report : ExchangeExecutionReport) : ExchangeTables :=
  match tables.orders.find? report.clientOrderId with
  | none => tables
  | some order =>
    let event := executionReportEvent now order report
    let lifecycleState := match TestnetExecutionState.fromStr event.nextState with
      | .ok state => state
      | .error _ => .reconciliationRequired
    appendExchangeTestnetLifecycleEventAndUpdateOrder tables event {
      exchangeOrderId := report.exchangeOrderId
      status := some report.orderStatus.asStr
      executionState := lifecycleState
      latestStatusPayload := some report.rawPayload
      ackPayload := none }

inductive NormalizedLocalStatus where
  | new
  | partiallyFilled
  | filled
  | cancelled
  | rejected
  | expired
  deriving DecidableEq, Repr

def normalizeLocalStatus (value : String) : Option NormalizedLocalStatus :=
  match toAsciiUppercase (trim value) with
  | "ACKED" | "NEW" => some .new
  | "PARTIALLY_FILLED" => some .partiallyFilled
  | "FILLED" => some .filled
  | "CANCELED" | "CANCELLED" => some .cancelled
  | "REJECTED" => some .rejected
  | "EXPIRED" => some .expired
  | _ => none

structure EvaluatedOrderReconciliation where
  canonicalLocalStatus : Option String
  mismatch : Option (ExchangeReconciliationMismatchKind × ExchangeReconciliationAction × Value)

def optionalText (text : Option String) : Value :=
  match text with
  | some text => .string text
  | none => .null

def mismatchPayload (localOrder : ExchangeTestnetOrderRecord)
    (exchangeStatus : ExchangeOrderStatus) (reason : String) : Value :=
  .object [
    ("reason", .string reason),
    ("symbol", .string localOrder.symbol),
    ("exchange_order_id", optionalText exchangeStatus.exchangeOrderId),
    ("local_status", .string localOrder.status),
    ("exchange_status", .string exchangeStatus.status.asStr),
    ("ack_payload_present", .bool localOrder.ackPayload.isSome),
    ("latest_status_payload_present", .bool localOrder.latestStatusPayload.isSome),
    ("exchange_payload", exchangeStatus.rawPayload)]

def evaluateOrderReconciliation (localOrder : ExchangeTestnetOrderRecord)
    (exchangeStatus : ExchangeOrderStatus) : EvaluatedOrderReconciliation :=
  let localNormalized := normalizeLocalStatus localOrder.status
  match localTestnetStatusFromExchangeState exchangeStatus.status with
  | none => {
      canonicalLocalStatus := none
      mismatch := some (.unknownExchangeState, .alert, mismatchPayload localOrder exchangeStatus
        "exchange status could not be mapped safely") }
  | some exchangeLocalStatus =>
    let exchangeNormalized := normalizeLocalStatus exchangeLocalStatus
    if localOrder.status = "SUBMIT_REQUESTED" ∧ localOrder.ackPayload.isSome then {
      canonicalLocalStatus := some exchangeLocalStatus
      mismatch := some (.ackWithoutStatus, .updateLocalStatus,
        mismatchPayload localOrder exchangeStatus
          "ack payload exists but local status was not refreshed") }
    else if localNormalized = some .cancelled ∧ exchangeNormalized ≠ some .cancelled then {
      canonicalLocalStatus := some exchangeLocalStatus
      mismatch := some (.cancelNotConfirmed, .alert, mismatchPayload localOrder exchangeStatus
        "local cancel was not confirmed by exchange") }
    else if localNormalized = exchangeNormalized then {
      canonicalLocalStatus := some exchangeLocalStatus
      mismatch := none }
    else {
      canonicalLocalStatus := some exchangeLocalStatus
      mismatch := some (.statusMismatch, .updateLocalStatus,
        mismatchPayload localOrder exchangeStatus "local and exchange statuses differ") }

def contains (text pattern : String) : Bool := pattern.toList <:+: text.toList

def isExchangeOrderMissing : ExchangeError → Bool
  | .api message =>
    let message := toAsciiLowercase message
    contains message "order does not exist" || contains message "-2013"
  | _ => false

structure ExchangeReconciliationRequest where
  exchange : ExchangeName
  environment : ExchangeEnvironment
  limit : Int
  statusFilter : List String
  correlationId : Option Uuid

def ExchangeReconciliationRequest.maxLimit : Int := 200

def ExchangeReconciliationRequest.validate (request : ExchangeReconciliationRequest) :
    Except CoreError Unit :=
  if request.environment = .live then .error .liveExchangeEnvironmentRejected
  else if request.limit ≤ 0 then .error (.invalidExchangeReconciliationLimit request.limit)
  else if request.limit > maxLimit then
    .error (.exchangeReconciliationLimitTooHigh request.limit)
  else if request.statusFilter.any fun status => trim status = "" then
    .error .invalidExchangeReconciliationStatusFilter
  else .ok ()

structure ExchangeReconciliationSummary where
  checkedOrders : Nat
  matchedOrders : Nat
  mismatchedOrders : Nat
  unknownOrders : Nat
  deriving DecidableEq

/-- `ORDER BY updated_at DESC`. -/
def newestFirst (first second : ExchangeTestnetOrderRecord) : Prop :=
  second.updatedAt ≤ first.updatedAt

instance : DecidableRel newestFirst :=
  fun first second => inferInstanceAs (Decidable (second.updatedAt ≤ first.updatedAt))

instance : Std.Total newestFirst := ⟨fun first second => le_total second.updatedAt first.updatedAt⟩

instance : IsTrans ExchangeTestnetOrderRecord newestFirst :=
  ⟨fun _ _ _ hFirst hSecond => le_trans hSecond hFirst⟩

def listExchangeTestnetOrdersForReconciliation (order : RowOrder newestFirst)
    (orders : OrderTable) (limit : Int) (statusFilter : List String) :
    List ExchangeTestnetOrderRecord :=
  (order.arrange (orders.rows.filter fun row =>
    statusFilter.isEmpty || row.status ∈ statusFilter)).take limit.toNat

abbrev StatusAdapter := String → Except ExchangeError ExchangeOrderStatus

structure ReconciliationProgress where
  tables : ExchangeTables
  summary : ExchangeReconciliationSummary

/-- Everything a pass knows besides its progress. -/
structure ReconciliationPass where
  runId : Uuid
  origin : Origin
  adapter : StatusAdapter

/-- The exchange knows the order: its state is written, then the mismatch, if
the statuses differ. -/
def ReconciliationPass.recordStatus (pass : ReconciliationPass) (tables : ExchangeTables)
    (order : ExchangeTestnetOrderRecord) (exchangeStatus : ExchangeOrderStatus) :
    ExchangeTables :=
  let evaluation := evaluateOrderReconciliation order exchangeStatus
  let persistedStatus := evaluation.canonicalLocalStatus.getD order.status
  let (nextState, reason) := mapRestReconciliationStatusToTransition exchangeStatus
  let update (state : TestnetExecutionState) : OrderUpdate := {
    exchangeOrderId := exchangeStatus.exchangeOrderId
    status := some persistedStatus
    executionState := state
    latestStatusPayload := some exchangeStatus.rawPayload
    ackPayload := none }
  match applyTestnetTransition (lifecycleSnapshot order) nextState .restReconciliation reason
      (some exchangeStatus.rawPayload) with
  | .ok transition => appendExchangeTestnetLifecycleEventAndUpdateOrder tables
      (acceptedEvent pass.origin order transition) (update transition.nextState)
  | .error _ => appendExchangeTestnetLifecycleEventAndUpdateOrder tables
      (refusedEvent pass.origin order .restReconciliation
        "invalid_rest_reconciliation_transition" exchangeStatus.rawPayload)
      (update .reconciliationRequired)

def ReconciliationPass.reconciled (pass : ReconciliationPass) (progress : ReconciliationProgress)
    (order : ExchangeTestnetOrderRecord) (exchangeStatus : ExchangeOrderStatus) :
    ReconciliationProgress :=
  let tables := pass.recordStatus progress.tables order exchangeStatus
  let summary := { progress.summary with checkedOrders := progress.summary.checkedOrders + 1 }
  match (evaluateOrderReconciliation order exchangeStatus).mismatch with
  | none => ⟨tables, { summary with matchedOrders := summary.matchedOrders + 1 }⟩
  | some (kind, action, payload) =>
    ⟨{ tables with mismatches := tables.mismatches ++ [{
        runId := pass.runId
        clientOrderId := order.clientOrderId
        localStatus := some order.status
        exchangeStatus := some exchangeStatus.status.asStr
        mismatchKind := kind
        action := action
        payload := payload
        createdAt := pass.origin.now }] },
      { summary with
        mismatchedOrders := summary.mismatchedOrders + 1
        unknownOrders := summary.unknownOrders +
          if kind = .exchangeOrderMissing ∨ kind = .unknownExchangeState then 1 else 0 }⟩

/-- The exchange does not know the order: only a mismatch is written. -/
def ReconciliationPass.missing (pass : ReconciliationPass) (progress : ReconciliationProgress)
    (order : ExchangeTestnetOrderRecord) (err : ExchangeError) : ReconciliationProgress where
  tables := { progress.tables with mismatches := progress.tables.mismatches ++ [{
    runId := pass.runId
    clientOrderId := order.clientOrderId
    localStatus := some order.status
    exchangeStatus := none
    mismatchKind := .exchangeOrderMissing
    action := .alert
    payload := .object [("symbol", .string order.symbol), ("reason", .string err.toString)]
    createdAt := pass.origin.now }] }
  summary := { progress.summary with
    checkedOrders := progress.summary.checkedOrders + 1
    mismatchedOrders := progress.summary.mismatchedOrders + 1
    unknownOrders := progress.summary.unknownOrders + 1 }

/-- The loop over the selected orders. Any other answer of the exchange ends
the run with its reason. -/
def ReconciliationPass.loop (pass : ReconciliationPass) :
    ReconciliationProgress → List ExchangeTestnetOrderRecord →
      ReconciliationProgress × Option String
  | progress, [] => (progress, none)
  | progress, order :: rest =>
    match pass.adapter order.clientOrderId with
    | .ok status => pass.loop (pass.reconciled progress order status) rest
    | .error err =>
      if isExchangeOrderMissing err then pass.loop (pass.missing progress order err) rest
      else (progress, some ("failed to fetch testnet order status: " ++ err.toString))

inductive ReconcileTestnetOrdersError where
  | validation (error : CoreError)
  | failed (runId : Uuid) (correlationId : Uuid) (reason : String)

/-- One REST reconciliation pass; `freshIds` are the run and correlation ids
drawn for it. What the loop wrote before it failed stays written. -/
def reconcileTestnetOrders (tables : ExchangeTables) (now : DateTime) (freshIds : Uuid × Uuid)
    (actorId : Option Uuid) (order : RowOrder newestFirst)
    (request : ExchangeReconciliationRequest) (adapter : StatusAdapter) :
    ExchangeTables × Except ReconcileTestnetOrdersError ExchangeReconciliationSummary :=
  match request.validate with
  | .error err => (tables, .error (.validation err))
  | .ok () =>
    let correlationId := request.correlationId.getD freshIds.2
    let pass : ReconciliationPass := {
      runId := freshIds.1
      origin := { actorId := actorId, correlationId := some correlationId, now := now }
      adapter := adapter }
    let selected := listExchangeTestnetOrdersForReconciliation order tables.orders
      request.limit request.statusFilter
    match pass.loop ⟨tables, ⟨0, 0, 0, 0⟩⟩ selected with
    | (progress, none) => (progress.tables, .ok progress.summary)
    | (progress, some reason) =>
      (progress.tables, .error (.failed freshIds.1 correlationId reason))

end AegisQuant.Exchange
