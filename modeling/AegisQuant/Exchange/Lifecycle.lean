import AegisQuant.Exchange.Orders

/-! The lifecycle of a testnet order: its states, the transitions the
validator accepts, and the tables that turn an answer of the exchange into
the state it asks for. -/
namespace AegisQuant.Exchange

inductive TestnetExecutionState where
  | intentCreated
  | riskApproved
  | orderPrepared
  | orderSubmitRequested
  | exchangeAcked
  | new
  | partiallyFilled
  | filled
  | cancelRequested
  | cancelled
  | rejected
  | expired
  | reconciliationRequired
  | unknownExchangeState
  | failed
  deriving DecidableEq, Repr

namespace TestnetExecutionState

def asStr : TestnetExecutionState → String
  | .intentCreated => "INTENT_CREATED"
  | .riskApproved => "RISK_APPROVED"
  | .orderPrepared => "ORDER_PREPARED"
  | .orderSubmitRequested => "ORDER_SUBMIT_REQUESTED"
  | .exchangeAcked => "EXCHANGE_ACKED"
  | .new => "NEW"
  | .partiallyFilled => "PARTIALLY_FILLED"
  | .filled => "FILLED"
  | .cancelRequested => "CANCEL_REQUESTED"
  | .cancelled => "CANCELLED"
  | .rejected => "REJECTED"
  | .expired => "EXPIRED"
  | .reconciliationRequired => "RECONCILIATION_REQUIRED"
  | .unknownExchangeState => "UNKNOWN_EXCHANGE_STATE"
  | .failed => "FAILED"

def fromStr (value : String) : Except CoreError TestnetExecutionState :=
  match toAsciiUppercase (trim value) with
  | "INTENT_CREATED" => .ok .intentCreated
  | "RISK_APPROVED" => .ok .riskApproved
  | "ORDER_PREPARED" => .ok .orderPrepared
  | "ORDER_SUBMIT_REQUESTED" => .ok .orderSubmitRequested
  | "EXCHANGE_ACKED" => .ok .exchangeAcked
  | "NEW" => .ok .new
  | "PARTIALLY_FILLED" => .ok .partiallyFilled
  | "FILLED" => .ok .filled
  | "CANCEL_REQUESTED" => .ok .cancelRequested
  | "CANCELLED" => .ok .cancelled
  | "REJECTED" => .ok .rejected
  | "EXPIRED" => .ok .expired
  | "RECONCILIATION_REQUIRED" => .ok .reconciliationRequired
  | "UNKNOWN_EXCHANGE_STATE" => .ok .unknownExchangeState
  | "FAILED" => .ok .failed
  | other => .error (.unsupportedTestnetExecutionState other)

def isTerminal (state : TestnetExecutionState) : Bool :=
  state ∈ [filled, cancelled, rejected, expired, failed]

theorem fromStr_asStr (state : TestnetExecutionState) : fromStr state.asStr = .ok state := by
  cases state <;> rfl

/-- The text of a state determines it. -/
theorem asStr_injective : Function.Injective asStr := by
  intro first second hText
  have hParsed := fromStr_asStr first
  rw [hText, fromStr_asStr] at hParsed
  exact (Except.ok.inj hParsed).symm

end TestnetExecutionState

open TestnetExecutionState

/-- Text that does not parse counts as a failed order. -/
def parseTestnetExecutionState (value : String) : TestnetExecutionState :=
  match fromStr value with
  | .ok state => state
  | .error _ => .failed

@[simp] theorem parseTestnetExecutionState_asStr (state : TestnetExecutionState) :
    parseTestnetExecutionState state.asStr = state := by
  rw [parseTestnetExecutionState, fromStr_asStr]

inductive TestnetExecutionTransitionSource where
  | apiSubmit
  | exchangeAck
  | privateStream
  | restReconciliation
  | apiCancel
  | exchangeCancelAck
  | operatorMarkReconciliationRequired
  deriving DecidableEq, Repr

def TestnetExecutionTransitionSource.asStr : TestnetExecutionTransitionSource → String
  | .apiSubmit => "API_SUBMIT"
  | .exchangeAck => "EXCHANGE_ACK"
  | .privateStream => "PRIVATE_STREAM"
  | .restReconciliation => "REST_RECONCILIATION"
  | .apiCancel => "API_CANCEL"
  | .exchangeCancelAck => "EXCHANGE_CANCEL_ACK"
  | .operatorMarkReconciliationRequired => "OPERATOR_MARK_RECONCILIATION_REQUIRED"

structure TestnetOrderLifecycleSnapshot where
  orderId : Option Uuid
  clientOrderId : String
  exchangeOrderId : Option String
  currentState : TestnetExecutionState
  lastTransitionAt : Option DateTime

structure TestnetExecutionTransition where
  previousState : Option TestnetExecutionState
  nextState : TestnetExecutionState
  source : TestnetExecutionTransitionSource
  reason : Option String
  payload : Option Value

structure TestnetExecutionTransitionResult where
  previousState : Option TestnetExecutionState
  nextState : TestnetExecutionState
  source : TestnetExecutionTransitionSource
  accepted : Bool
  terminal : Bool
  requiresReconciliation : Bool
  deriving DecidableEq

inductive TestnetExecutionStateError where
  | invalidTransition (previousState : Option TestnetExecutionState)
      (nextState : TestnetExecutionState) (transitionSource : TestnetExecutionTransitionSource)
  deriving DecidableEq

/-- The states the validator accepts after `previous`. A terminal state has
no successors. -/
def successors : Option TestnetExecutionState → List TestnetExecutionState
  | none => [.intentCreated, .riskApproved, .orderPrepared, .orderSubmitRequested,
      .reconciliationRequired, .unknownExchangeState, .failed]
  | some .intentCreated => [.riskApproved, .orderPrepared, .orderSubmitRequested, .rejected,
      .failed, .reconciliationRequired]
  | some .riskApproved => [.orderPrepared, .orderSubmitRequested, .rejected, .failed,
      .reconciliationRequired]
  | some .orderPrepared => [.orderSubmitRequested, .rejected, .failed, .reconciliationRequired]
  | some .orderSubmitRequested => [.exchangeAcked, .new, .partiallyFilled, .filled, .rejected,
      .expired, .cancelRequested, .reconciliationRequired, .failed]
  | some .exchangeAcked => [.new, .partiallyFilled, .filled, .cancelRequested, .cancelled,
      .rejected, .expired, .reconciliationRequired, .failed]
  | some .new => [.partiallyFilled, .filled, .cancelRequested, .cancelled, .rejected, .expired,
      .reconciliationRequired, .failed]
  | some .partiallyFilled => [.partiallyFilled, .filled, .cancelRequested, .cancelled, .expired,
      .reconciliationRequired, .failed]
  | some .cancelRequested => [.cancelled, .filled, .partiallyFilled, .reconciliationRequired,
      .failed]
  | some .reconciliationRequired => [.exchangeAcked, .new, .partiallyFilled, .filled,
      .cancelRequested, .cancelled, .rejected, .expired, .unknownExchangeState, .failed,
      .reconciliationRequired]
  | some .unknownExchangeState => [.reconciliationRequired, .unknownExchangeState, .failed]
  | some .filled | some .cancelled | some .rejected | some .expired | some .failed => []

/-- An unknown exchange state is accepted before the previous state is
looked at. -/
def validateTestnetTransition (previous : Option TestnetExecutionState)
    (next : TestnetExecutionState) (source : TestnetExecutionTransitionSource) :
    Except TestnetExecutionStateError TestnetExecutionTransitionResult :=
  if next = .unknownExchangeState then
    .ok {
      previousState := previous
      nextState := next
      source := source
      accepted := true
      terminal := false
      requiresReconciliation := true }
  else if next ∈ successors previous then
    .ok {
      previousState := previous
      nextState := next
      source := source
      accepted := true
      terminal := next.isTerminal
      requiresReconciliation := next ∈ [reconciliationRequired, unknownExchangeState] }
  else .error (.invalidTransition previous next source)

def applyTestnetTransition (snapshot : TestnetOrderLifecycleSnapshot)
    (nextState : TestnetExecutionState) (source : TestnetExecutionTransitionSource)
    (reason : Option String) (payload : Option Value) :
    Except TestnetExecutionStateError TestnetExecutionTransition := do
  let _ ← validateTestnetTransition (some snapshot.currentState) nextState source
  return {
    previousState := some snapshot.currentState
    nextState := nextState
    source := source
    reason := reason
    payload := payload }

def mapExchangeAckToTransition (ack : ExchangeOrderAck) : TestnetExecutionState × Option String :=
  let next := match ack.status with
    | .new => .exchangeAcked
    | .partiallyFilled => .partiallyFilled
    | .filled => .filled
    | .canceled | .pendingCancel => .reconciliationRequired
    | .rejected => .rejected
    | .expired => .expired
  (next, some "exchange_ack")

def mapPrivateExecutionReportToTransition (report : ExchangeExecutionReport) :
    TestnetExecutionState × Option String :=
  let next := match report.orderStatus with
    | .new => .new
    | .partiallyFilled => .partiallyFilled
    | .filled => .filled
    | .canceled => .cancelled
    | .pendingCancel => .cancelRequested
    | .rejected => .rejected
    | .expired | .expiredInMatch => .expired
    | .unknown => .unknownExchangeState
  let reason := match report.executionType with
    | .new => "execution_report_new"
    | .canceled => "execution_report_canceled"
    | .rejected => "execution_report_rejected"
    | .trade => "execution_report_trade"
    | .expired => "execution_report_expired"
    | .tradePrevention => "execution_report_trade_prevention"
    | .replaced => "execution_report_replaced"
    | .unknown => "execution_report_unknown"
  (next, some reason)

def mapRestReconciliationStatusToTransition (status : ExchangeOrderStatus) :
    TestnetExecutionState × Option String :=
  let next := match status.status with
    | .new => .new
    | .partiallyFilled => .partiallyFilled
    | .filled => .filled
    | .canceled => .cancelled
    | .pendingCancel => .cancelRequested
    | .rejected => .rejected
    | .expired => .expired
  (next, some "rest_reconciliation_status")

def mapCancelAckToTransition (ack : ExchangeCancelAck) : TestnetExecutionState × Option String :=
  let next := match ack.status with
    | .canceled => .cancelled
    | .pendingCancel => .cancelRequested
    | .partiallyFilled => .partiallyFilled
    | .filled => .filled
    | .new => .reconciliationRequired
    | .rejected => .reconciliationRequired
    | .expired => .expired
  (next, some "exchange_cancel_ack")

section Specifications
variable {previous next : TestnetExecutionState} {source : TestnetExecutionTransitionSource}

theorem successors_terminal (hTerminal : previous.isTerminal) :
    successors (some previous) = [] := by
  cases previous <;> first | rfl | cases hTerminal

/-- An unknown exchange state is accepted anywhere, and any other only from the
states it may follow. -/
theorem applyTestnetTransition_eq (snapshot : TestnetOrderLifecycleSnapshot)
    (reason : Option String) (payload : Option Value) :
    applyTestnetTransition snapshot next source reason payload =
      if next = .unknownExchangeState ∨ next ∈ successors (some snapshot.currentState) then .ok {
        previousState := some snapshot.currentState
        nextState := next
        source := source
        reason := reason
        payload := payload }
      else .error (.invalidTransition (some snapshot.currentState) next source) := by
  unfold applyTestnetTransition validateTestnetTransition
  by_cases hUnknown : next = .unknownExchangeState
  · rw [if_pos hUnknown, if_pos (.inl hUnknown)]
    rfl
  · rw [if_neg hUnknown]
    by_cases hNext : next ∈ successors (some snapshot.currentState)
    · rw [if_pos hNext, if_pos (.inr hNext)]
      rfl
    · rw [if_neg hNext, if_neg (not_or.mpr ⟨hUnknown, hNext⟩)]
      rfl

/-- A snapshot in a terminal state accepts nothing but an unknown exchange
state. -/
theorem applyTestnetTransition_terminal {snapshot : TestnetOrderLifecycleSnapshot}
    (hTerminal : snapshot.currentState.isTerminal) (reason : Option String)
    (payload : Option Value) :
    applyTestnetTransition snapshot next source reason payload =
      if next = .unknownExchangeState then
        .ok {
          previousState := some snapshot.currentState
          nextState := next
          source := source
          reason := reason
          payload := payload }
      else .error (.invalidTransition (some snapshot.currentState) next source) := by
  rw [applyTestnetTransition_eq, successors_terminal hTerminal]
  simp only [List.not_mem_nil, or_false]

theorem exchangeAck_known (ack : ExchangeOrderAck) :
    (mapExchangeAckToTransition ack).1 ≠ .unknownExchangeState := by
  unfold mapExchangeAckToTransition
  cases ack.status <;> simp

theorem cancelAck_known (ack : ExchangeCancelAck) :
    (mapCancelAckToTransition ack).1 ≠ .unknownExchangeState := by
  unfold mapCancelAckToTransition
  cases ack.status <;> simp

theorem restStatus_known (status : ExchangeOrderStatus) :
    (mapRestReconciliationStatusToTransition status).1 ≠ .unknownExchangeState := by
  unfold mapRestReconciliationStatusToTransition
  cases status.status <;> simp

end Specifications

end AegisQuant.Exchange
