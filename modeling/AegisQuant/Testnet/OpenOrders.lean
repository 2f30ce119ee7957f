import AegisQuant.Testnet.LifecycleLog

/-! Which open orders the default reconciliation pass can find. It selects rows
by the text of their status column, and every handler writes its own text there. -/
namespace AegisQuant.Testnet
open Exchange Exchange.TestnetExecutionState Transition Option OrderSystem

def reconcileStatusFilter (statusFilter : Option (List String)) : List String :=
  statusFilter.getD ["ACKED", "NEW", "PARTIALLY_FILLED"]

def Listed (row : ExchangeTestnetOrderRecord) : Prop := row.status ∈ reconcileStatusFilter none

instance (row : ExchangeTestnetOrderRecord) : Decidable (Listed row) :=
  inferInstanceAs (Decidable (_ ∈ _))

/-- The order is closed, or the default pass can find it. -/
def Covered (row : ExchangeTestnetOrderRecord) : Prop :=
  (parseTestnetExecutionState row.executionState).isTerminal ∨ Listed row

def OrderHandler.Submits : OrderHandler → Prop
  | .persisted .. | .submitting .. => True
  | _ => False

def InFlight (clientOrderId : String) (system : OrderSystem) : Prop :=
  ∃ id handler, system.handlers id = some handler ∧ handler.Submits ∧
    handler.copy.order.clientOrderId = clientOrderId

def OpenOrderListed (clientOrderId : String) (system : OrderSystem) : Prop :=
  InFlight clientOrderId system ∨
    ∀ row, system.tables.orders.find? clientOrderId = some row → Covered row

/-- The answers that a handler can write into `row` so that the order is closed
or listed. An open status always does; a closing one does where the validator
accepts it after the state of the copy; a cancellation under way never does,
unless the status column is left as it is. -/
def OrderHandler.Covers (handler : OrderHandler) (answer : ExchangeAnswer)
    (row : ExchangeTestnetOrderRecord) : Prop :=
  match handler with
  | .persisted .. => False
  | .submitting _ => match answer with
      | .order ack => ack.status ≠ .canceled ∧ ack.status ≠ .pendingCancel
      | _ => True
  | .cancelling _ => Listed row
  | .cancelRequested _ | .repairCancelling _ _ => match answer with
      | .cancel ack => ack.status ≠ .rejected ∧ ack.status ≠ .pendingCancel
      | _ => True
  | .reporting copy report => report.orderStatus ∈ [.new, .partiallyFilled] ∨
      (report.orderStatus ≠ .pendingCancel ∧ report.orderStatus ≠ .unknown ∧
        Accepts copy.order (mapPrivateExecutionReportToTransition report).1)
  | .reconciling copy => match answer with
      | .status status => status.status ∈ [.new, .partiallyFilled] ∨
          (status.status ≠ .pendingCancel ∧
            Accepts copy.order (mapRestReconciliationStatusToTransition status).1) ∨
          (status.status = .pendingCancel ∧ Listed copy.order)
      | _ => True
  | .querying _ => match answer with
      | .status status => status.status ≠ .pendingCancel
      | _ => True
  | .repairing _ request => match request.action, answer with
      | .markReconciliationRequired, _ | .safeCancelRequest, _ => Listed row
      | .manualRecheck, .status status => status.status ≠ .pendingCancel ∨ Listed row
      | _, _ => True

section Writes
variable {handler : OrderHandler} {origin : Origin} {answer : ExchangeAnswer}
  {write : LifecycleWrite} {order row : ExchangeTestnetOrderRecord}

variable {state : TestnetExecutionState}

theorem WriteFrom.covered_iff {text : String} (hWrite : WriteFrom order state (some text) write) :
    Covered (write.update.apply write.event.createdAt row) ↔
      state.isTerminal ∨ text ∈ reconcileStatusFilter none := by
  simp only [Covered, Listed, OrderUpdate.apply, hWrite.executionState, hWrite.status,
    parseTestnetExecutionState_asStr, getD_some]

theorem WriteFrom.covered_iff_listed (hWrite : WriteFrom order state none write)
    (hOpen : state.isTerminal = false) :
    Covered (write.update.apply write.event.createdAt row) ↔ Listed row := by
  simp only [Covered, Listed, OrderUpdate.apply, hWrite.executionState, hWrite.status,
    parseTestnetExecutionState_asStr, getD_none, hOpen, Bool.false_eq_true, false_or]

variable {source : TestnetExecutionTransitionSource} {nextState : TestnetExecutionState}

theorem reviewedWrite_covered_iff {text refusal : String} {exchangeOrderId reason : Option String}
    {payload : Value} :
    Covered ((reviewedWrite origin order nextState source text exchangeOrderId reason refusal
        payload).update.apply (reviewedWrite origin order nextState source text exchangeOrderId
          reason refusal payload).event.createdAt row) ↔
      (Accepts order nextState ∧ nextState.isTerminal) ∨ text ∈ reconcileStatusFilter none := by
  rw [(reviewedWrite_spec ..).covered_iff]
  by_cases hAccepts : Accepts order nextState
  · simp only [hAccepts, if_true, true_and]
  · simp [hAccepts, isTerminal]

theorem submitAckWrite_covered_iff {ack : ExchangeOrderAck}
    (hWrite : submitAckWrite origin order ack = some write) :
    Covered (write.update.apply write.event.createdAt row) ↔
      ack.status ≠ .canceled ∧ ack.status ≠ .pendingCancel := by
  rw [(transitionWrite_spec hWrite).2.covered_iff]
  unfold mapExchangeAckToTransition
  cases ack.status <;> decide

theorem cancelAckWrite_covered_iff {ack : ExchangeCancelAck} {reason : Option String}
    (hWrite : cancelAckWrite origin order ack reason = some write) :
    Covered (write.update.apply write.event.createdAt row) ↔
      ack.status ≠ .rejected ∧ ack.status ≠ .pendingCancel := by
  rw [(transitionWrite_spec hWrite).2.covered_iff]
  unfold mapCancelAckToTransition
  cases ack.status <;> decide

variable {status : ExchangeOrderStatus}

theorem orderStatusWrite_covered_iff (hWrite : orderStatusWrite origin order status = some write) :
    Covered (write.update.apply write.event.createdAt row) ↔ status.status ≠ .pendingCancel := by
  rw [(transitionWrite_spec hWrite).2.covered_iff]
  unfold mapRestReconciliationStatusToTransition
  cases status.status <;> decide

theorem executionReportWrite_covered_iff {report : ExchangeExecutionReport} :
    Covered ((executionReportWrite origin order report).update.apply
        (executionReportWrite origin order report).event.createdAt row) ↔
      report.orderStatus ∈ [.new, .partiallyFilled] ∨
        (report.orderStatus ≠ .pendingCancel ∧ report.orderStatus ≠ .unknown ∧
          Accepts order (mapPrivateExecutionReportToTransition report).1) := by
  unfold executionReportWrite
  rw [reviewedWrite_covered_iff]
  unfold mapPrivateExecutionReportToTransition
  cases report.orderStatus <;>
    simp [isTerminal, reconcileStatusFilter, ExchangeExecutionStatus.asStr]

theorem reconciliationWrite_covered_iff :
    Covered ((reconciliationWrite origin order status).update.apply
        (reconciliationWrite origin order status).event.createdAt row) ↔
      status.status ∈ [.new, .partiallyFilled] ∨ (status.status ≠ .pendingCancel ∧
          Accepts order (mapRestReconciliationStatusToTransition status).1) ∨
        (status.status = .pendingCancel ∧ Listed order) := by
  unfold reconciliationWrite
  rw [reviewedWrite_covered_iff, evaluateOrderReconciliation_canonical]
  unfold mapRestReconciliationStatusToTransition
  cases status.status <;>
    simp [isTerminal, reconcileStatusFilter, localTestnetStatusFromExchangeState, Listed]

variable {request : TestnetRepairRequest}

theorem explicitRepairWrite_covered_iff {text reason : String} {payload : Option Value}
    (hWrite : explicitRepairWrite origin order request nextState source (some text) reason payload =
      some write) :
    Covered (write.update.apply write.event.createdAt row) ↔
      nextState.isTerminal ∨ text ∈ reconcileStatusFilter none :=
  (explicitRepairWrite_spec hWrite).covered_iff

theorem repairWrite_covered_iff {copy : OrderCopy}
    (hWrite : repairWrite origin copy.order request answer = some write) :
    Covered (write.update.apply write.event.createdAt row) ↔
      (OrderHandler.repairing copy request).Covers answer row := by
  unfold repairWrite markWrite at hWrite
  cases hAction : request.action with
  | markReconciliationRequired =>
    simp only [hAction, OrderHandler.Covers] at hWrite ⊢
    exact (explicitRepairWrite_spec hWrite).covered_iff_listed rfl
  | safeCancelRequest =>
    simp only [hAction, OrderHandler.Covers] at hWrite ⊢
    exact (explicitRepairWrite_spec hWrite).covered_iff_listed rfl
  | manualRecheck =>
    cases answer with
    | status status =>
      simp only [hAction, OrderHandler.Covers] at hWrite ⊢
      obtain ⟨-, hFrom⟩ := transitionWrite_spec hWrite
      revert hFrom
      unfold mapRestReconciliationStatusToTransition
      cases status.status with
      | pendingCancel =>
        intro hFrom
        simpa using hFrom.covered_iff_listed rfl
      | _ =>
        intro hFrom
        rw [hFrom.covered_iff]
        simp [isTerminal, reconcileStatusFilter]
    | _ =>
      simp only [hAction] at hWrite
      cases hWrite
  | markCancelled =>
    simp only [hAction, OrderHandler.Covers] at hWrite ⊢
    split at hWrite
    · cases hWrite
    · rw [explicitRepairWrite_covered_iff hWrite]
      decide
  | _ =>
    simp only [hAction, OrderHandler.Covers] at hWrite ⊢
    rw [explicitRepairWrite_covered_iff hWrite]
    decide

theorem write?_covered_iff (hWrite : handler.write? origin answer = some write) :
    Covered (write.update.apply write.event.createdAt row) ↔ handler.Covers answer row := by
  cases handler with
  | persisted scope correlationId copy =>
    cases hWrite
    simp only [OrderHandler.Covers, iff_false, Covered, Listed, OrderUpdate.apply,
      submitRequestedWrite, parseTestnetExecutionState_asStr, getD_some]
    decide
  | submitting copy =>
    cases answer with
    | order ack => exact submitAckWrite_covered_iff hWrite
    | _ => cases hWrite
  | cancelling copy =>
    have hRequest : cancelRequestWrite origin copy.order = some write := hWrite
    unfold cancelRequestWrite at hRequest
    exact (transitionWrite_spec hRequest).2.covered_iff_listed rfl
  | cancelRequested copy =>
    cases answer with
    | cancel ack => exact cancelAckWrite_covered_iff hWrite
    | _ => cases hWrite
  | reporting copy report =>
    cases hWrite
    exact executionReportWrite_covered_iff
  | reconciling copy =>
    cases answer with
    | status status =>
      cases hWrite
      exact reconciliationWrite_covered_iff
    | _ => cases hWrite
  | querying copy =>
    cases answer with
    | status status => exact orderStatusWrite_covered_iff hWrite
    | _ => cases hWrite
  | repairing copy request => exact repairWrite_covered_iff hWrite
  | repairCancelling copy request =>
    cases answer with
    | cancel ack => exact cancelAckWrite_covered_iff hWrite
    | _ => cases hWrite

end Writes

/-- While the submission is unanswered nothing is asked of a step. Otherwise a
handler that writes nothing finds the row closed or listed, and one that writes
has an answer that leaves it so. -/
def KeepsListed (clientOrderId : String) (system : OrderSystem) : OrderStep → Prop
  | .proceed id origin answer stored => ∀ handler row, system.handlers id = some handler →
      handler.copy.order.clientOrderId = clientOrderId →
      system.tables.orders.find? clientOrderId = some row →
        InFlight clientOrderId (orderStep system (.proceed id origin answer stored)) ∨
          if (system.pending? (.proceed id origin answer stored)).isSome then
            handler.Covers answer row
          else Covered row
  | _ => True

section Steps
variable {clientOrderId : String} {system : OrderSystem}

theorem InFlight.setHandler (hInFlight : InFlight clientOrderId system) {tables : ExchangeTables}
    {id : Nat} {handler : Option OrderHandler}
    (hOther : ∀ before, system.handlers id = some before →
      before.copy.order.clientOrderId ≠ clientOrderId) :
    InFlight clientOrderId
      (setHandler { system with tables := tables } id handler) := by
  obtain ⟨held, before, hBefore, hSubmits, hHeld⟩ := hInFlight
  have hApart : held ≠ id := by
    rintro rfl
    exact hOther before hBefore hHeld
  exact ⟨held, before, by simp [OrderSystem.setHandler, Function.update_of_ne hApart, hBefore],
    hSubmits, hHeld⟩

theorem OpenOrderListed.persist (hListed : OpenOrderListed clientOrderId system) (id : Nat)
    (scope : RequestScope) (correlationId : Uuid) (order : ExchangeOrderRequest) :
    OpenOrderListed clientOrderId (orderStep system (.persist id scope correlationId order)) := by
  simp only [orderStep]
  split
  · rename_i tables hIdle hInsert
    obtain ⟨-, -, -, hOthers⟩ := insertExchangeTestnetOrder_spec hInsert
    by_cases hId : (submittedRow scope correlationId order).clientOrderId = clientOrderId
    · exact .inl ⟨id, _, Function.update_self .., trivial, hId⟩
    · rcases hListed with hInFlight | hCovered
      · refine .inl (hInFlight.setHandler fun before hBefore => ?_)
        rw [hIdle] at hBefore
        cases hBefore
      · exact .inr fun row hRow => hCovered row ((hOthers _ (Ne.symm hId)).symm.trans hRow)
  · exact hListed

theorem OpenOrderListed.read (hListed : OpenOrderListed clientOrderId system) (id : Nat)
    (other : String) (purpose : Purpose) :
    OpenOrderListed clientOrderId (orderStep system (.read id other purpose)) := by
  simp only [orderStep]
  split
  · rename_i copy hIdle hRead
    refine hListed.imp_left fun hInFlight => hInFlight.setHandler ?_
    intro before hBefore
    rw [hIdle] at hBefore
    cases hBefore
  · exact hListed

theorem openOrderListed_proceed_iff {id : Nat} {origin : Origin} {answer : ExchangeAnswer}
    {stored : Bool} {handler : OrderHandler} (hHandler : system.handlers id = some handler)
    (hHeld : handler.copy.order.clientOrderId = clientOrderId) :
    OpenOrderListed clientOrderId (orderStep system (.proceed id origin answer stored)) ↔
      KeepsListed clientOrderId system (.proceed id origin answer stored) := by
  have hKeeps : KeepsListed clientOrderId system (.proceed id origin answer stored) ↔
      InFlight clientOrderId (orderStep system (.proceed id origin answer stored)) ∨
        ∀ row, system.tables.orders.find? clientOrderId = some row →
          if (system.pending? (.proceed id origin answer stored)).isSome then
            handler.Covers answer row
          else Covered row := by
    unfold KeepsListed
    rw [← forall_or_left]
    constructor
    · intro hAll row
      by_cases hRow : system.tables.orders.find? clientOrderId = some row
      · exact (hAll handler row hHandler hHeld hRow).imp_right fun hRest _ => hRest
      · exact .inr fun hFound => absurd hFound hRow
    · intro hAll held row hHeldHandler _ hRow
      obtain rfl := some.inj (hHandler.symm.trans hHeldHandler)
      exact (hAll row).imp_right fun hRest => hRest hRow
  rw [hKeeps, OpenOrderListed]
  rcases orderStep_proceed system id origin answer stored with
    ⟨hNone, ⟨next, hStep⟩, -⟩ | ⟨found, write, hPending, hStep⟩
  · have hTables : (orderStep system (.proceed id origin answer stored)).tables =
        system.tables := by
      rw [hStep]
      rfl
    rw [hTables, hNone]
    simp only [isSome_none, Bool.false_eq_true, if_false]
  · obtain ⟨-, hFound, hWrite⟩ := pending?_eq_some hPending
    obtain rfl := some.inj (hHandler.symm.trans hFound)
    have hTables : (orderStep system (.proceed id origin answer stored)).tables =
        write.storeIn system.tables := by
      rw [hStep]
      rfl
    rw [hTables, hPending, find?_storeIn_map ((write?_event hWrite).1.trans hHeld)]
    simp only [isSome_some, if_true, map_eq_some_iff, forall_exists_index, and_imp,
      forall_apply_eq_imp_iff₂, write?_covered_iff hWrite]

theorem openOrderListed_step_iff (hListed : OpenOrderListed clientOrderId system)
    (step : OrderStep) :
    OpenOrderListed clientOrderId (orderStep system step) ↔
      KeepsListed clientOrderId system step := by
  cases step with
  | persist id scope correlationId order => exact iff_of_true (hListed.persist ..) trivial
  | read id other purpose => exact iff_of_true (hListed.read ..) trivial
  | proceed id origin answer stored =>
    by_cases hOrder : ∃ handler, system.handlers id = some handler ∧
        handler.copy.order.clientOrderId = clientOrderId
    · obtain ⟨handler, hHandler, hHeld⟩ := hOrder
      exact openOrderListed_proceed_iff hHandler hHeld
    · have hOther (before : OrderHandler) (hBefore : system.handlers id = some before) :
          before.copy.order.clientOrderId ≠ clientOrderId :=
        fun hHeld => hOrder ⟨before, hBefore, hHeld⟩
      refine iff_of_true ?_ fun handler row hHandler hHeld => absurd hHeld (hOther _ hHandler)
      rcases orderStep_proceed system id origin answer stored with
        ⟨-, ⟨next, hStep⟩, -⟩ | ⟨found, write, hPending, hStep⟩
      · rw [hStep]
        exact hListed.imp_left fun hInFlight => hInFlight.setHandler hOther
      · obtain ⟨-, hFound, hWrite⟩ := pending?_eq_some hPending
        rw [hStep]
        have hEvent : write.event.clientOrderId ≠ clientOrderId := by
          rw [(write?_event hWrite).1]
          exact hOther _ hFound
        exact hListed.imp (fun hInFlight => hInFlight.setHandler hOther) fun hCovered row hRow =>
          hCovered row ((find?_storeIn_of_ne hEvent).symm.trans hRow)

end Steps

/-- From the answer to its submission on, an order is closed or listed in every
state of a run exactly if every step of a handler of the order keeps it so. -/
theorem open_orders_listed_iff {tables : ExchangeTables} {clientOrderId : String}
    (hUnused : tables.orders.find? clientOrderId = none) (steps : List OrderStep) :
    Throughout orderStep (OpenOrderListed clientOrderId) (start tables) steps ↔
      Along orderStep (KeepsListed clientOrderId) (start tables) steps := by
  have hStart : OpenOrderListed clientOrderId (start tables) := by
    refine .inr fun row hRow => ?_
    rw [start, hUnused] at hRow
    cases hRow
  rw [throughout_iff_along, ← along_iff_of_invariant (I := OpenOrderListed clientOrderId)
    (fun _ _ hListed => openOrderListed_step_iff hListed _)
    (fun _ step hListed hKeeps => (openOrderListed_step_iff hListed step).mpr hKeeps) steps hStart]
  exact and_iff_right hStart

def OrderStep.handlerId : OrderStep → Nat
  | .persist id .. | .read id .. | .proceed id .. => id

theorem handlers_orderStep_of_ne {system : OrderSystem} {step : OrderStep} {id : Nat}
    (hOther : id ≠ step.handlerId) : (orderStep system step).handlers id = system.handlers id := by
  cases step with
  | persist k scope correlationId order =>
    simp only [orderStep]
    split
    · exact Function.update_of_ne hOther ..
    · rfl
  | read k clientOrderId purpose =>
    simp only [orderStep]
    split
    · exact Function.update_of_ne hOther ..
    · rfl
  | proceed k origin answer stored =>
    rcases orderStep_proceed system k origin answer stored with
      ⟨-, ⟨next, hStep⟩, -⟩ | ⟨handler, write, -, hStep⟩
    · rw [hStep]
      exact Function.update_of_ne hOther ..
    · rw [hStep]
      exact Function.update_of_ne hOther ..

theorem open_orders_listed_sample :
    Throughout orderStep (OpenOrderListed submittedId) (start emptyTables)
      (orderSubmitSteps 0 ++ [ackStep 0 .new]) := by
  refine (open_orders_listed_iff rfl _).mpr ⟨trivial, ?_, ?_, trivial⟩
  · intro handler row hHandler _ _
    exact .inl ⟨0, _, rfl, trivial, rfl⟩
  · intro handler row hHandler _ _
    obtain rfl := some.inj hHandler
    refine .inr ?_
    rw [if_pos (by decide +kernel)]
    exact ⟨by decide, by decide⟩

/-- The request to send the order fails on the way. The order is stored, the
exchange may have it, and no pass that names no statuses selects it. -/
theorem unanswered_order_not_listed : emptyTables.orders.find? submittedId = none ∧
    ((run orderStep (start emptyTables) (orderSubmitSteps 0 ++
        [.proceed 0 handlerOrigin (.failure (.transport "timeout")) true])).tables.orders.find?
          submittedId).map (fun row => (row.status, row.executionState)) =
      some ("SUBMIT_REQUESTED", "ORDER_SUBMIT_REQUESTED") ∧
    ¬Throughout orderStep (OpenOrderListed submittedId) (start emptyTables)
      (orderSubmitSteps 0 ++
        [.proceed 0 handlerOrigin (.failure (.transport "timeout")) true]) := by
  have hRow : ((run orderStep (start emptyTables) (orderSubmitSteps 0 ++
        [.proceed 0 handlerOrigin (.failure (.transport "timeout")) true])).tables.orders.find?
          submittedId).map (fun row => (row.status, row.executionState)) =
      some ("SUBMIT_REQUESTED", "ORDER_SUBMIT_REQUESTED") := by
    decide +kernel
  refine ⟨rfl, hRow, ?_⟩
  rintro ⟨-, -, -, hLast⟩
  obtain ⟨row, hFind, hColumns⟩ := map_eq_some_iff.mp hRow
  obtain ⟨hStatus, hState⟩ := Prod.mk.inj hColumns
  rcases hLast with ⟨id, handler, hHandler, -⟩ | hCovered
  · by_cases hSubmission : id = 0
    · subst hSubmission
      have hDone : ((run orderStep (start emptyTables) (orderSubmitSteps 0 ++
          [.proceed 0 handlerOrigin (.failure (.transport "timeout")) true])).handlers 0).isNone := by
        decide +kernel
      cases (isNone_iff_eq_none.mp hDone).symm.trans hHandler
    · rw [handlers_orderStep_of_ne hSubmission, handlers_orderStep_of_ne hSubmission,
        handlers_orderStep_of_ne hSubmission] at hHandler
      cases hHandler
  · rcases hCovered row hFind with hTerminal | hListed
    · rw [hState] at hTerminal
      revert hTerminal
      decide +kernel
    · rw [Listed, hStatus] at hListed
      revert hListed
      decide

end AegisQuant.Testnet
