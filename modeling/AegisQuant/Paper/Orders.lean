import AegisQuant.Store.Database

/-! Paper orders: the intent and its check, the execution states an order
passes through, and `create_paper_order` with the risk decision it requires
and the keys it must not repeat. -/
namespace AegisQuant.Paper

structure OrderIntent where
  orderId : Uuid
  correlationId : Uuid
  riskDecisionId : Uuid
  idempotencyKey : String
  symbol : Symbol
  side : Side
  quantity : Decimal
  limitPrice : Option Decimal
  createdAt : DateTime
  expiresAt : Option DateTime
  deriving DecidableEq

def OrderIntent.validate (intent : OrderIntent) : Except CoreError Unit :=
  if trim intent.idempotencyKey = "" then .error .emptyIdempotencyKey
  else if intent.quantity ≤ 0 then .error .invalidOrderQuantity
  else match intent.limitPrice with
    | some limitPrice => if limitPrice ≤ 0 then .error .invalidLimitPrice else .ok ()
    | none => .ok ()

inductive OrderStatus where
  | open
  | rejected
  | filled
  | cancelled
  | expired
  deriving DecidableEq, Repr

def OrderStatus.asStr : OrderStatus → String
  | .open => "OPEN"
  | .rejected => "REJECTED"
  | .filled => "FILLED"
  | .cancelled => "CANCELLED"
  | .expired => "EXPIRED"

inductive ExecutionState where
  | intentCreated
  | riskApproved
  | orderPrepared
  | paperSubmitted
  | paperFilled
  | paperCancelled
  | rejected
  | expired
  deriving DecidableEq, Repr

namespace ExecutionState

def asStr : ExecutionState → String
  | .intentCreated => "INTENT_CREATED"
  | .riskApproved => "RISK_APPROVED"
  | .orderPrepared => "ORDER_PREPARED"
  | .paperSubmitted => "PAPER_SUBMITTED"
  | .paperFilled => "PAPER_FILLED"
  | .paperCancelled => "PAPER_CANCELLED"
  | .rejected => "REJECTED"
  | .expired => "EXPIRED"

def canTransitionTo : ExecutionState → ExecutionState → Bool
  | .intentCreated, .riskApproved | .intentCreated, .rejected | .intentCreated, .expired
  | .riskApproved, .orderPrepared | .riskApproved, .rejected | .riskApproved, .expired
  | .orderPrepared, .paperSubmitted | .orderPrepared, .paperCancelled
  | .orderPrepared, .rejected | .orderPrepared, .expired
  | .paperSubmitted, .paperFilled | .paperSubmitted, .paperCancelled
  | .paperSubmitted, .expired => true
  | _, _ => false

end ExecutionState

structure PaperOrder where
  intent : OrderIntent
  status : OrderStatus
  executionState : ExecutionState
  filledPrice : Option Decimal
  submittedAt : Option DateTime
  filledAt : Option DateTime
  expiredAt : Option DateTime
  statusReason : Option String
  updatedAt : DateTime

inductive CreateOrderError where
  | invalidIntent (error : CoreError)
  | invalidTransition (state next : ExecutionState)
  | riskDecisionNotFound
  | riskDecisionNotApproved
  | duplicateIdempotencyKey
  deriving DecidableEq

def PaperOrder.new (intent : OrderIntent) (now : DateTime) : Except CreateOrderError PaperOrder := do
  intent.validate.mapError .invalidIntent
  return {
    intent := intent
    status := .open
    executionState := .intentCreated
    filledPrice := none
    submittedAt := none
    filledAt := none
    expiredAt := none
    statusReason := none
    updatedAt := now }

/-- Cancellation and rejection times are not kept: no paper order is
cancelled or rejected after it is stored. -/
def PaperOrder.transitionTo (order : PaperOrder) (next : ExecutionState) (occurredAt : DateTime)
    (statusReason : Option String) : Except CreateOrderError PaperOrder :=
  if order.executionState.canTransitionTo next then
    let moved := { order with
      executionState := next
      updatedAt := occurredAt
      statusReason := statusReason }
    .ok (match next with
      | .intentCreated | .riskApproved | .orderPrepared => { moved with status := .open }
      | .paperSubmitted => { moved with status := .open, submittedAt := some occurredAt }
      | .paperFilled => { moved with status := .filled, filledAt := some occurredAt }
      | .paperCancelled => { moved with status := .cancelled }
      | .rejected => { moved with status := .rejected }
      | .expired => { moved with status := .expired, expiredAt := some occurredAt })
  else .error (.invalidTransition order.executionState next)

def PaperOrder.toRow (order : PaperOrder) : OrderRow where
  id := order.intent.orderId
  correlationId := order.intent.correlationId
  riskDecisionId := order.intent.riskDecisionId
  idempotencyKey := order.intent.idempotencyKey
  symbol := order.intent.symbol.text
  side := order.intent.side.asStr
  quantity := order.intent.quantity
  limitPrice := order.intent.limitPrice
  status := order.status.asStr
  executionState := order.executionState.asStr
  statusReason := order.statusReason
  filledPrice := order.filledPrice
  submittedAt := order.submittedAt
  filledAt := order.filledAt
  expiredAt := order.expiredAt
  expiresAt := order.intent.expiresAt
  createdAt := order.intent.createdAt
  updatedAt := order.updatedAt

def OrderIntent.expired (intent : OrderIntent) (now : DateTime) : Bool :=
  intent.expiresAt.any (· ≤ now)

/-- The transitions `create_paper_order` takes an order through inside its
transaction; the row keeps the last of them. -/
def executePaperOrder (order : PaperOrder) (now : DateTime) :
    Except CreateOrderError (PaperOrder × List ExecutionState) := do
  let approved ← order.transitionTo .riskApproved now none
  let prepared ← approved.transitionTo .orderPrepared now none
  if order.intent.expired now then
    let expired ← prepared.transitionTo .expired now
      (some "order intent expired before paper submission")
    return (expired, [.intentCreated, .riskApproved, .orderPrepared, .expired])
  else
    let submitted ← prepared.transitionTo .paperSubmitted now none
    let filled ← { submitted with filledPrice := order.intent.limitPrice }.transitionTo
      .paperFilled now none
    return (filled, [.intentCreated, .riskApproved, .orderPrepared, .paperSubmitted, .paperFilled])

/-- An order as it is read back, joined with the signal of its risk decision. -/
structure OrderRecord extends OrderRow where
  signalId : Option Uuid
  strategyId : Option String
  filledQty : Decimal
  avgFillPrice : Option Decimal

def decisionSignal (db : Database) (row : RiskDecisionRow) : Option SignalRecord :=
  row.signalId.bind fun signalId => db.signals.rows.find? fun signal => signal.id = signalId

def rationaleText (rationale : Value) (key : String) : Option String :=
  match rationale.get? key with
  | some (.string text) => some text
  | _ => none

def mapOrder (db : Database) (row : OrderRow) : OrderRecord :=
  let decision := db.riskDecisions.find? row.riskDecisionId
  { row with
    signalId := decision.bind (·.signalId)
    strategyId := decision.bind fun decision =>
      ((decisionSignal db decision).map (·.strategyId)).or
        (rationaleText decision.rationale "strategy_id")
    filledQty := if row.status = "FILLED" then row.quantity else 0
    avgFillPrice := row.filledPrice }

structure OrderCreateOutcome where
  order : OrderRecord
  transitions : List ExecutionState

def checkRiskDecision (db : Database) (riskDecisionId : Uuid) : Except CreateOrderError Unit :=
  match db.riskDecisions.find? riskDecisionId with
  | none => .error .riskDecisionNotFound
  | some decision =>
    if decision.decision ≠ "APPROVED" then .error .riskDecisionNotApproved else .ok ()

/-- Order ids and idempotency keys are both unique. -/
def insertOrder (db : Database) (row : OrderRow) : Except CreateOrderError Database :=
  if db.orders.rows.any fun other => other.id = row.id then .error .duplicateIdempotencyKey
  else match db.orders.insert? row with
    | none => .error .duplicateIdempotencyKey
    | some orders => .ok { db with orders := orders }

open PaperOrder

def createPaperOrder (db : Database) (now : DateTime) (intent : OrderIntent) :
    Except CreateOrderError (Database × OrderCreateOutcome) := do
  let order ← new intent now
  checkRiskDecision db intent.riskDecisionId
  let (executed, transitions) ← executePaperOrder order now
  let stored ← insertOrder db executed.toRow
  return (stored, { order := mapOrder stored executed.toRow, transitions := transitions })

section Specifications
variable {db stored : Database} {now : DateTime} {intent : OrderIntent}
  {outcome : OrderCreateOutcome}

def intentRow (intent : OrderIntent) (now : DateTime) : OrderRow where
  id := intent.orderId
  correlationId := intent.correlationId
  riskDecisionId := intent.riskDecisionId
  idempotencyKey := intent.idempotencyKey
  symbol := intent.symbol.text
  side := intent.side.asStr
  quantity := intent.quantity
  limitPrice := intent.limitPrice
  status := if intent.expired now then "EXPIRED" else "FILLED"
  executionState := if intent.expired now then "EXPIRED" else "PAPER_FILLED"
  statusReason := if intent.expired now then some "order intent expired before paper submission"
    else none
  filledPrice := if intent.expired now then none else intent.limitPrice
  submittedAt := if intent.expired now then none else some now
  filledAt := if intent.expired now then none else some now
  expiredAt := if intent.expired now then some now else none
  expiresAt := intent.expiresAt
  createdAt := intent.createdAt
  updatedAt := now

/-- What `create_paper_order` requires of the stored rows. -/
structure Acceptable (db : Database) (intent : OrderIntent) : Prop where
  valid : intent.validate = .ok ()
  approved : ∃ decision, db.riskDecisions.find? intent.riskDecisionId = some decision ∧
    decision.decision = "APPROVED"
  keyUnused : db.orders.find? intent.idempotencyKey = none
  idUnused : ∀ row ∈ db.orders.rows, row.id ≠ intent.orderId

theorem checkRiskDecision_eq_ok {riskDecisionId : Uuid} :
    checkRiskDecision db riskDecisionId = .ok () ↔
      ∃ decision, db.riskDecisions.find? riskDecisionId = some decision ∧
        decision.decision = "APPROVED" := by
  unfold checkRiskDecision
  cases db.riskDecisions.find? riskDecisionId with
  | none => simp
  | some decision => by_cases hApproved : decision.decision = "APPROVED" <;> simp [hApproved]

theorem insertOrder_eq_ok {row : OrderRow} : insertOrder db row = .ok stored ↔
      (∀ other ∈ db.orders.rows, other.id ≠ row.id) ∧
        ∃ orders, db.orders.insert? row = some orders ∧ stored = { db with orders := orders } := by
  unfold insertOrder
  by_cases hId : db.orders.rows.any fun other => other.id = row.id
  · simp only [hId, if_true, reduceCtorEq, false_iff, not_and]
    intro hUnused
    obtain ⟨other, hMember, hSame⟩ := List.any_eq_true.mp hId
    exact absurd (of_decide_eq_true hSame) (hUnused other hMember)
  · have hUnused : ∀ other ∈ db.orders.rows, other.id ≠ row.id := by
      simpa using hId
    simp only [hId, Bool.false_eq_true, if_false]
    cases hInsert : db.orders.insert? row with
    | none => simp
    | some orders =>
      constructor
      · intro hStored
        exact ⟨hUnused, orders, rfl, (Except.ok.inj hStored).symm⟩
      · rintro ⟨_, orders', hSame, rfl⟩
        rw [Option.some.inj hSame]

theorem executePaperOrder_new {order : PaperOrder} (hOrder : new intent now = .ok order) :
    ∃ executed transitions, executePaperOrder order now = .ok (executed, transitions) ∧
      executed.toRow = intentRow intent now := by
  unfold new at hOrder
  rw [Fallible.bind_eq_ok] at hOrder
  obtain ⟨_, _, hOrder⟩ := hOrder
  rw [Fallible.pure_eq_ok] at hOrder
  subst hOrder
  unfold executePaperOrder
  by_cases hExpired : intent.expired now
  · refine ⟨{
      intent := intent
      status := .expired
      executionState := .expired
      filledPrice := none
      submittedAt := none
      filledAt := none
      expiredAt := some now
      statusReason := some "order intent expired before paper submission"
      updatedAt := now }, _, by simp only [hExpired, if_true]; rfl, ?_⟩
    simp [toRow, intentRow, hExpired, OrderStatus.asStr, ExecutionState.asStr]
  · refine ⟨{
      intent := intent
      status := .filled
      executionState := .paperFilled
      filledPrice := intent.limitPrice
      submittedAt := some now
      filledAt := some now
      expiredAt := none
      statusReason := none
      updatedAt := now }, _, by simp only [hExpired, Bool.false_eq_true, if_false]; rfl, ?_⟩
    simp [toRow, intentRow, hExpired, OrderStatus.asStr, ExecutionState.asStr]

theorem new_of_valid (now : DateTime) (hValid : intent.validate = .ok ()) :
    ∃ order, new intent now = .ok order := by
  simp [new, hValid, Except.mapError, bind, Except.bind, pure, Except.pure]

theorem valid_of_new {order : PaperOrder} (hOrder : new intent now = .ok order) :
    intent.validate = .ok () := by
  unfold new at hOrder
  rw [Fallible.bind_eq_ok] at hOrder
  obtain ⟨_, hValid, _⟩ := hOrder
  exact Fallible.mapError_eq_ok.mp hValid

/-- `create_paper_order` accepts exactly the acceptable intents and adds
exactly the row of the intent. -/
theorem createPaperOrder_ok (hCreate : createPaperOrder db now intent = .ok (stored, outcome)) :
    Acceptable db intent ∧ (∃ orders, db.orders.insert? (intentRow intent now) = some orders ∧
        stored = { db with orders := orders }) ∧
      outcome.order = mapOrder stored (intentRow intent now) := by
  unfold createPaperOrder at hCreate
  simp only [Fallible.bind_eq_ok, Fallible.pure_eq_ok] at hCreate
  obtain ⟨order, hNew, _, hRisk, ⟨executed, transitions⟩, hExecute, next, hInsert, hResult⟩ :=
    hCreate
  obtain ⟨executed', transitions', hExecute', hRow⟩ := executePaperOrder_new hNew
  rw [hExecute, Except.ok.injEq, Prod.mk.injEq] at hExecute'
  obtain ⟨rfl, rfl⟩ := hExecute'
  rw [Prod.mk.injEq] at hResult
  obtain ⟨rfl, rfl⟩ := hResult
  simp only at hInsert
  rw [hRow] at hInsert ⊢
  obtain ⟨hId, orders, hOrders, hStored⟩ := insertOrder_eq_ok.mp hInsert
  refine ⟨⟨valid_of_new hNew, checkRiskDecision_eq_ok.mp hRisk, ?_, hId⟩,
    ⟨orders, hOrders, hStored⟩, rfl⟩
  exact (Table.insert?_eq_some.mp hOrders).1

theorem createPaperOrder_of_acceptable (now : DateTime) (hAcceptable : Acceptable db intent) :
    ∃ stored outcome, createPaperOrder db now intent = .ok (stored, outcome) := by
  obtain ⟨order, hNew⟩ := new_of_valid now hAcceptable.valid
  obtain ⟨executed, transitions, hExecute, hRow⟩ := executePaperOrder_new hNew
  have hUnused : db.orders.find? (intentRow intent now).idempotencyKey = none :=
    hAcceptable.keyUnused
  obtain ⟨orders, hOrders⟩ := Table.insert?_of_unused hUnused
  have hInsert : insertOrder db executed.toRow = .ok { db with orders := orders } := by
    rw [hRow, insertOrder_eq_ok]
    exact ⟨hAcceptable.idUnused, orders, hOrders, rfl⟩
  refine ⟨{ db with orders := orders },
    { order := mapOrder { db with orders := orders } executed.toRow, transitions := transitions }, ?_⟩
  unfold createPaperOrder
  simp only [Fallible.bind_eq_ok, Fallible.pure_eq_ok]
  exact ⟨order, hNew, (), checkRiskDecision_eq_ok.mpr hAcceptable.approved,
    (executed, transitions), hExecute, _, hInsert, rfl⟩

end Specifications

end AegisQuant.Paper
