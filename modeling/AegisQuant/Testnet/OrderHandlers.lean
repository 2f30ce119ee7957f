import AegisQuant.Exchange.Agreement
import AegisQuant.Exchange.Repairs
import AegisQuant.Testnet.Submission

/-! Everything that writes a testnet order while other handlers do the same:
its submission, cancel requests, private execution reports, reconciliation
passes, status queries and repairs. A handler works on a copy of the row that it
has read before, so reading and writing are separate steps. -/
namespace AegisQuant.Testnet
open Exchange

/-- A lifecycle event with what it changes in the row. -/
structure LifecycleWrite where
  event : ExchangeTestnetOrderLifecycleEventRecord
  update : OrderUpdate

def LifecycleWrite.storeIn (write : LifecycleWrite) (tables : ExchangeTables) : ExchangeTables :=
  appendExchangeTestnetLifecycleEventAndUpdateOrder tables write.event write.update

section Writes
variable (origin : Origin) (order : ExchangeTestnetOrderRecord)

/-- The write of `append_testnet_lifecycle_transition`, if the validator
accepts the transition. -/
def transitionWrite (nextState : TestnetExecutionState) (source : TestnetExecutionTransitionSource)
    (status exchangeOrderId reason : Option String) (payload : Option Value)
    (isAckPayload : Bool) : Option LifecycleWrite :=
  match applyTestnetTransition (lifecycleSnapshot order) nextState source reason payload with
  | .error _ => none
  | .ok transition => some {
      event := acceptedEvent origin order transition
      update := {
        exchangeOrderId := exchangeOrderId
        status := status
        executionState := transition.nextState
        latestStatusPayload := if isAckPayload then none else payload
        ackPayload := if isAckPayload then payload else none } }

/-- A refused transition is written as a request for reconciliation. -/
def reviewedWrite (nextState : TestnetExecutionState) (source : TestnetExecutionTransitionSource)
    (status : String) (exchangeOrderId reason : Option String) (refusal : String)
    (payload : Value) : LifecycleWrite :=
  let update (state : TestnetExecutionState) : OrderUpdate := {
    exchangeOrderId := exchangeOrderId
    status := some status
    executionState := state
    latestStatusPayload := some payload
    ackPayload := none }
  match applyTestnetTransition (lifecycleSnapshot order) nextState source reason (some payload) with
  | .ok transition => ⟨acceptedEvent origin order transition, update transition.nextState⟩
  | .error _ => ⟨refusedEvent origin order source refusal payload, update .reconciliationRequired⟩

def submitRequestedWrite (scope : RequestScope) (correlationId : Uuid) : LifecycleWrite where
  event := submitRequestedEvent scope correlationId order
  update := {
    exchangeOrderId := none
    status := some "SUBMIT_REQUESTED"
    executionState := .orderSubmitRequested
    latestStatusPayload := none
    ackPayload := none }

def submitAckWrite (ack : ExchangeOrderAck) : Option LifecycleWrite :=
  transitionWrite origin order (mapExchangeAckToTransition ack).1 .exchangeAck
    (some ((localTestnetStatusFromExchangeState ack.status).getD ack.status.asStr))
    ack.exchangeOrderId (mapExchangeAckToTransition ack).2 (some ack.rawPayload) true

def cancelRequestWrite : Option LifecycleWrite :=
  transitionWrite origin order .cancelRequested .apiCancel none order.exchangeOrderId
    (some "cancel_requested") none false

/-- The answer to a cancel request, of the cancel handler or of a repair. -/
def cancelAckWrite (ack : ExchangeCancelAck) (reason : Option String) : Option LifecycleWrite :=
  transitionWrite origin order (mapCancelAckToTransition ack).1 .exchangeCancelAck
    (some ((localTestnetStatusFromExchangeState ack.status).getD ack.status.asStr))
    ack.exchangeOrderId (reason.or (mapCancelAckToTransition ack).2) (some ack.rawPayload) false

def executionReportWrite (report : ExchangeExecutionReport) : LifecycleWrite :=
  reviewedWrite { actorId := none, correlationId := none, now := origin.now } order
    (mapPrivateExecutionReportToTransition report).1 .privateStream report.orderStatus.asStr
    report.exchangeOrderId (mapPrivateExecutionReportToTransition report).2
    "invalid_private_stream_transition" report.rawPayload

def reconciliationWrite (status : ExchangeOrderStatus) : LifecycleWrite :=
  reviewedWrite origin order (mapRestReconciliationStatusToTransition status).1 .restReconciliation
    ((evaluateOrderReconciliation order status).canonicalLocalStatus.getD order.status)
    status.exchangeOrderId (mapRestReconciliationStatusToTransition status).2
    "invalid_rest_reconciliation_transition" status.rawPayload

/-- The write of `get_exchange_testnet_order`. -/
def orderStatusWrite (status : ExchangeOrderStatus) : Option LifecycleWrite :=
  transitionWrite { origin with actorId := none } order (mapRestReconciliationStatusToTransition status).1
    .restReconciliation (some status.status.asStr) status.exchangeOrderId
    (mapRestReconciliationStatusToTransition status).2 (some status.rawPayload) false

/-- The write of `append_explicit_testnet_repair_transition`. -/
def explicitRepairWrite (request : TestnetRepairRequest) (nextState : TestnetExecutionState)
    (source : TestnetExecutionTransitionSource) (status : Option String) (reason : String)
    (payload : Option Value) : Option LifecycleWrite :=
  let previousState := parseTestnetExecutionState order.executionState
  match validateTestnetRepairTransition request.action previousState (some nextState)
      request.force with
  | .error _ => none
  | .ok () => some {
      event := {
        orderId := some order.id
        clientOrderId := order.clientOrderId
        previousState := some previousState.asStr
        nextState := nextState.asStr
        transitionSource := source.asStr
        reason := request.reason.or (some reason)
        payload := payload
        createdBy := origin.actorId
        createdAt := origin.now
        correlationId := origin.correlationId }
      update := {
        exchangeOrderId := order.exchangeOrderId
        status := status
        executionState := nextState
        latestStatusPayload := payload
        ackPayload := none } }

/-- A repair that asks for a state by name carries the force flag. -/
def markWrite (request : TestnetRepairRequest) (nextState : TestnetExecutionState)
    (status : Option String) (reason : String) : Option LifecycleWrite :=
  explicitRepairWrite origin order request nextState .restReconciliation status reason
    (some (.object [("force", .bool request.force)]))

end Writes

inductive ExchangeAnswer where
  | order (ack : ExchangeOrderAck)
  | cancel (ack : ExchangeCancelAck)
  | status (status : ExchangeOrderStatus)
  | failure (err : ExchangeError)

def repairWrite (origin : Origin) (order : ExchangeTestnetOrderRecord)
    (request : TestnetRepairRequest) (answer : ExchangeAnswer) : Option LifecycleWrite :=
  match request.action with
  | .markReconciliationRequired =>
    explicitRepairWrite origin order request .reconciliationRequired
      .operatorMarkReconciliationRequired none "operator_marked_reconciliation_required" none
  | .manualRecheck => match answer with
      | .status status =>
        transitionWrite origin order (mapRestReconciliationStatusToTransition status).1
          .restReconciliation (localTestnetStatusFromExchangeState status.status)
          status.exchangeOrderId
          (request.reason.or (mapRestReconciliationStatusToTransition status).2)
          (some status.rawPayload) false
      | _ => none
  | .markAcked =>
    markWrite origin order request .exchangeAcked (some "ACKED") "operator_marked_acked"
  | .markCancelled =>
    if !request.force && !orderHasCancelledExchangeEvidence order then none
    else markWrite origin order request .cancelled (some "CANCELLED") "operator_marked_cancelled"
  | .markRejected =>
    markWrite origin order request .rejected (some "REJECTED") "operator_marked_rejected"
  | .markFailed => markWrite origin order request .failed (some "FAILED") "operator_marked_failed"
  | .safeCancelRequest =>
    explicitRepairWrite origin order request .cancelRequested .apiCancel none
      "safe_cancel_requested" (some (.object [("force", .bool request.force)]))

/-- The row as a handler has read it; `readAt` counts the lifecycle events of
the order that were stored by then. -/
structure OrderCopy where
  order : ExchangeTestnetOrderRecord
  readAt : Nat

inductive OrderHandler where
  | persisted (scope : RequestScope) (correlationId : Uuid) (copy : OrderCopy)
  | submitting (copy : OrderCopy)
  | cancelling (copy : OrderCopy)
  | cancelRequested (copy : OrderCopy)
  | reporting (copy : OrderCopy) (report : ExchangeExecutionReport)
  | reconciling (copy : OrderCopy)
  | querying (copy : OrderCopy)
  | repairing (copy : OrderCopy) (request : TestnetRepairRequest)
  | repairCancelling (copy : OrderCopy) (request : TestnetRepairRequest)

namespace OrderHandler

def copy : OrderHandler → OrderCopy
  | persisted _ _ copy | submitting copy | cancelling copy | cancelRequested copy
  | reporting copy _ | reconciling copy | querying copy | repairing copy _
  | repairCancelling copy _ => copy

/-- What the handler writes once the exchange has answered. A failed request,
or an answer to another one, ends the handler without a write. -/
def write? (handler : OrderHandler) (origin : Origin) (answer : ExchangeAnswer) :
    Option LifecycleWrite :=
  match handler with
  | persisted scope correlationId copy => some (submitRequestedWrite copy.order scope correlationId)
  | submitting copy => match answer with
      | .order ack => submitAckWrite origin copy.order ack
      | _ => none
  | cancelling copy => cancelRequestWrite origin copy.order
  | cancelRequested copy => match answer with
      | .cancel ack => cancelAckWrite origin copy.order ack none
      | _ => none
  | reporting copy report => some (executionReportWrite origin copy.order report)
  | reconciling copy => match answer with
      | .status status => some (reconciliationWrite origin copy.order status)
      | _ => none
  | querying copy => match answer with
      | .status status => orderStatusWrite origin copy.order status
      | _ => none
  | repairing copy request => repairWrite origin copy.order request answer
  | repairCancelling copy request => match answer with
      | .cancel ack => cancelAckWrite origin copy.order ack request.reason
      | _ => none

/-- What is left to do. `renewed` is the row that the write has returned, if it
was stored; a cancel request goes on without it. -/
def next (handler : OrderHandler) (renewed : Option OrderCopy) : Option OrderHandler :=
  match handler with
  | persisted _ _ copy => some (submitting copy)
  | cancelling copy => some (cancelRequested (renewed.getD copy))
  | repairing copy request =>
    if request.action = .safeCancelRequest ∧ (Symbol.new copy.order.symbol).toBool then
      renewed.map fun renewed => repairCancelling renewed request
    else none
  | _ => none

end OrderHandler

/-- What a handler reads the order for. -/
inductive Purpose where
  | cancel (confirmationText : String)
  | executionReport (report : ExchangeExecutionReport)
  | reconcile (statusFilter : List String)
  | query
  | repair (role : UserRole) (request : TestnetRepairRequest)

/-- The handler that a request starts with the row it has read. -/
def Purpose.handler? (purpose : Purpose) (copy : OrderCopy) : Option OrderHandler :=
  match purpose with
  | .cancel confirmationText =>
    if isValidTestnetOrderConfirmation confirmationText ∧
      (Symbol.new copy.order.symbol).toBool then some (.cancelling copy)
    else none
  | .executionReport report =>
    if report.clientOrderId = copy.order.clientOrderId then some (.reporting copy report)
    else none
  | .reconcile statusFilter =>
    if statusFilter.isEmpty || copy.order.status ∈ statusFilter then some (.reconciling copy)
    else none
  | .query => some (.querying copy)
  | .repair role request =>
    if isTestnetRepairAuthorized role request.action request.force ∧
      (request.validateConfirmation copy.order.clientOrderId).toBool then
      some (.repairing copy request)
    else none

def eventsOf (tables : ExchangeTables) (clientOrderId : String) :
    List ExchangeTestnetOrderLifecycleEventRecord :=
  tables.lifecycleEvents.filter (·.clientOrderId = clientOrderId)

def readOrder (tables : ExchangeTables) (clientOrderId : String) : Option OrderCopy :=
  (tables.orders.find? clientOrderId).map fun order =>
    ⟨order, (eventsOf tables clientOrderId).length⟩

structure OrderSystem where
  tables : ExchangeTables
  handlers : Nat → Option OrderHandler

def OrderSystem.start (tables : ExchangeTables) : OrderSystem := ⟨tables, fun _ => none⟩

def OrderSystem.setHandler (system : OrderSystem) (id : Nat) (handler : Option OrderHandler) :
    OrderSystem :=
  { system with handlers := Function.update system.handlers id handler }

/-- The steps of the handlers, each known by a number. `stored` is false when the
database refuses the write. -/
inductive OrderStep where
  | persist (id : Nat) (scope : RequestScope) (correlationId : Uuid)
      (order : ExchangeOrderRequest)
  | read (id : Nat) (clientOrderId : String) (purpose : Purpose)
  | proceed (id : Nat) (origin : Origin) (answer : ExchangeAnswer) (stored : Bool)

/-- The handler that a step moves, with what it writes. -/
def OrderSystem.pending? (system : OrderSystem) : OrderStep → Option (OrderHandler × LifecycleWrite)
  | .proceed id origin answer true =>
    (system.handlers id).bind fun handler =>
      (handler.write? origin answer).map fun write => (handler, write)
  | _ => none

/-- A number that is in use starts no second handler. -/
def orderStep (system : OrderSystem) : OrderStep → OrderSystem
  | .persist id scope correlationId order =>
    let row := submittedRow scope correlationId order
    match system.handlers id, insertExchangeTestnetOrder system.tables row with
    | none, some tables =>
      ({ system with tables := tables } : OrderSystem).setHandler id
        (some (.persisted scope correlationId ⟨row, 0⟩))
    | _, _ => system
  | .read id clientOrderId purpose =>
    match system.handlers id, readOrder system.tables clientOrderId with
    | none, some copy => system.setHandler id (purpose.handler? copy)
    | _, _ => system
  | .proceed id origin answer stored =>
    match system.handlers id with
    | none => system
    | some handler =>
      match system.pending? (.proceed id origin answer stored) with
      | none => system.setHandler id (handler.next none)
      | some (_, write) =>
        let tables := write.storeIn system.tables
        ({ system with tables := tables } : OrderSystem).setHandler id
          (handler.next (readOrder tables handler.copy.order.clientOrderId))

end AegisQuant.Testnet
