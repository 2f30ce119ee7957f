import AegisQuant.Library.TransitionLog
import AegisQuant.Testnet.OrderHandlers

/-! The lifecycle log of a testnet order under handlers that interleave. A
handler writes the transition from the state of its copy, whatever the row holds
by then, so the log is a chain as long as the copies are current. -/
namespace AegisQuant.Testnet
open Exchange Exchange.TestnetExecutionState Transition TransitionLog List Option OrderSystem

section Handlers

section
variable (tables : ExchangeTables) (origin : Origin) (order : ExchangeTestnetOrderRecord)

theorem appendTestnetLifecycleTransition_eq (nextState : TestnetExecutionState)
    (source : TestnetExecutionTransitionSource) (status exchangeOrderId reason : Option String)
    (payload : Option Value) (isAckPayload : Bool) :
    orUnchanged tables (appendTestnetLifecycleTransition tables origin order nextState source
        status exchangeOrderId reason payload isAckPayload) =
      (transitionWrite origin order nextState source status exchangeOrderId reason payload
        isAckPayload).elim tables (·.storeIn tables) := by
  unfold appendTestnetLifecycleTransition transitionWrite
  cases applyTestnetTransition (lifecycleSnapshot order) nextState source reason payload with
  | error err => rfl
  | ok transition => rfl

/-- What each handler writes is what it writes when nothing comes between its
reading and its writing. -/
theorem submitExchangeTestnetOrderSuccess_eq (ack : ExchangeOrderAck) :
    submitExchangeTestnetOrderSuccess tables origin order ack =
      (submitAckWrite origin order ack).elim tables (·.storeIn tables) :=
  appendTestnetLifecycleTransition_eq ..

end

theorem recordStatus_eq (pass : ReconciliationPass) (tables : ExchangeTables)
    (order : ExchangeTestnetOrderRecord) (status : ExchangeOrderStatus) :
    pass.recordStatus tables order status =
      (reconciliationWrite pass.origin order status).storeIn tables := by
  unfold ReconciliationPass.recordStatus reconciliationWrite reviewedWrite
  simp only
  cases applyTestnetTransition (lifecycleSnapshot order)
      (mapRestReconciliationStatusToTransition status).1 .restReconciliation
      (mapRestReconciliationStatusToTransition status).2 (some status.rawPayload) with
  | error err => rfl
  | ok transition => rfl

theorem handleExecutionReport_eq (tables : ExchangeTables) (origin : Origin)
    (report : ExchangeExecutionReport) :
    handleExecutionReport tables origin.now report =
      (tables.orders.find? report.clientOrderId).elim tables fun order =>
        (executionReportWrite origin order report).storeIn tables := by
  unfold handleExecutionReport executionReportWrite reviewedWrite executionReportEvent
  cases tables.orders.find? report.clientOrderId with
  | none => rfl
  | some order =>
    simp only [elim_some]
    cases applyTestnetTransition (lifecycleSnapshot order)
        (mapPrivateExecutionReportToTransition report).1 .privateStream
        (mapPrivateExecutionReportToTransition report).2 (some report.rawPayload) with
    | error err =>
      simp only [refusedEvent, fromStr_asStr]
      rfl
    | ok transition =>
      simp only [acceptedEvent, fromStr_asStr]
      rfl

end Handlers

section SerialCalls

/-- A call whose steps nothing comes between. -/
inductive SerialCall where
  | submit (scope : RequestScope) (correlationId : Uuid) (request : ExchangeOrderRequest)
      (origin : Origin) (ack : ExchangeOrderAck)
  | report (origin : Origin) (report : ExchangeExecutionReport)
  | reconcile (pass : ReconciliationPass) (clientOrderId : String) (status : ExchangeOrderStatus)

namespace SerialCall

def steps : SerialCall → List OrderStep
  | .submit scope correlationId request origin ack =>
    [.persist 0 scope correlationId request, .proceed 0 origin (.order ack) true,
      .proceed 0 origin (.order ack) true]
  | .report origin message => [.read 0 message.clientOrderId (.executionReport message),
      .proceed 0 origin (.failure .authentication) true]
  | .reconcile pass clientOrderId status =>
    [.read 0 clientOrderId (.reconcile []), .proceed 0 pass.origin (.status status) true]

/-- The tables after the code of the call has run from its start to its end. -/
def apply (tables : ExchangeTables) : SerialCall → ExchangeTables
  | .submit scope correlationId request origin ack =>
    let row := submittedRow scope correlationId request
    (insertExchangeTestnetOrder tables row).elim tables fun inserted =>
      submitExchangeTestnetOrderSuccess
        ((submitRequestedWrite row scope correlationId).storeIn inserted) origin row ack
  | .report origin message => handleExecutionReport tables origin.now message
  | .reconcile pass clientOrderId status => (tables.orders.find? clientOrderId).elim tables
      fun order => pass.recordStatus tables order status

theorem run_steps (call : SerialCall) {system : OrderSystem} (hIdle : system.handlers 0 = none) :
    (run orderStep system call.steps).tables = call.apply system.tables ∧
      (run orderStep system call.steps).handlers 0 = none := by
  cases call with
  | submit scope correlationId request origin ack =>
    simp only [steps, apply, run_cons, run_nil, orderStep, hIdle]
    cases insertExchangeTestnetOrder system.tables (submittedRow scope correlationId request) with
    | none => simp [hIdle]
    | some inserted =>
      simp only [elim_some, submitExchangeTestnetOrderSuccess_eq]
      cases hWrite : submitAckWrite origin (submittedRow scope correlationId request) ack
      all_goals simp [setHandler, pending?, OrderHandler.write?, OrderHandler.next, hWrite]
  | report origin message =>
    simp only [steps, apply, run_cons, run_nil, orderStep, hIdle, handleExecutionReport_eq,
      readOrder]
    cases hFind : system.tables.orders.find? message.clientOrderId with
    | none => simp [hIdle]
    | some order =>
      have hKey : message.clientOrderId = order.clientOrderId := (Table.key_of_find? hFind).symm
      simp [setHandler, pending?, Purpose.handler?, OrderHandler.write?, OrderHandler.next, hKey]
  | reconcile pass clientOrderId status =>
    simp only [steps, apply, run_cons, run_nil, orderStep, hIdle, recordStatus_eq, readOrder]
    cases system.tables.orders.find? clientOrderId with
    | none => simp [hIdle]
    | some order =>
      simp [setHandler, pending?, Purpose.handler?, OrderHandler.write?, OrderHandler.next]

end SerialCall

end SerialCalls

/-- The states that the validator lets a handler write from its copy. -/
def Accepts (order : ExchangeTestnetOrderRecord) (nextState : TestnetExecutionState) : Prop :=
  nextState = .unknownExchangeState ∨
    nextState ∈ successors (some (lifecycleSnapshot order).currentState)

instance (order : ExchangeTestnetOrderRecord) (nextState : TestnetExecutionState) :
    Decidable (Accepts order nextState) :=
  inferInstanceAs (Decidable (_ ∨ _))

/-- The state of the row is written as the code writes it. -/
def Canonical (order : ExchangeTestnetOrderRecord) : Prop :=
  (lifecycleSnapshot order).currentState.asStr = order.executionState

/-- A write that continues from the state of `order`. -/
structure WriteFrom (order : ExchangeTestnetOrderRecord) (state : TestnetExecutionState)
    (status : Option String) (write : LifecycleWrite) : Prop where
  clientOrderId : write.event.clientOrderId = order.clientOrderId
  previousState : Canonical order → write.event.previousState = some order.executionState
  nextState : write.event.nextState = state.asStr
  executionState : write.update.executionState = state
  status : write.update.status = status

section Specifications
variable {origin : Origin} {order : ExchangeTestnetOrderRecord}
  {nextState : TestnetExecutionState} {source : TestnetExecutionTransitionSource}
  {status exchangeOrderId reason : Option String} {payload : Option Value} {isAckPayload : Bool}
  {write : LifecycleWrite}

theorem applyTestnetTransition_of_accepts (hAccepts : Accepts order nextState) :
    applyTestnetTransition (lifecycleSnapshot order) nextState source reason payload = .ok {
      previousState := some (lifecycleSnapshot order).currentState
      nextState := nextState
      source := source
      reason := reason
      payload := payload } := by
  rw [applyTestnetTransition_eq]
  exact if_pos hAccepts

theorem applyTestnetTransition_of_not_accepts (hRefuses : ¬Accepts order nextState) :
    applyTestnetTransition (lifecycleSnapshot order) nextState source reason payload =
      .error (.invalidTransition (some (lifecycleSnapshot order).currentState)
        nextState source) := by
  rw [applyTestnetTransition_eq]
  exact if_neg hRefuses

theorem lifecycleSnapshot_currentState (order : ExchangeTestnetOrderRecord) :
    (lifecycleSnapshot order).currentState = parseTestnetExecutionState order.executionState := by
  rw [lifecycleSnapshot]

theorem Canonical.parsed (hOrder : Canonical order) :
    some (parseTestnetExecutionState order.executionState).asStr = some order.executionState := by
  rw [← lifecycleSnapshot_currentState, hOrder]

theorem acceptedEvent_from (hOrder : Canonical order) {transition : TestnetExecutionTransition}
    (hPrevious : transition.previousState = some (lifecycleSnapshot order).currentState) :
    (acceptedEvent origin order transition).previousState = some order.executionState := by
  rw [acceptedEvent, hPrevious, map_some, hOrder]

theorem transitionWrite_of_not_accepts (hRefuses : ¬Accepts order nextState) :
    transitionWrite origin order nextState source status exchangeOrderId reason payload
      isAckPayload = none := by
  rw [transitionWrite, applyTestnetTransition_of_not_accepts hRefuses]

theorem transitionWrite_spec
    (hWrite : transitionWrite origin order nextState source status exchangeOrderId reason payload
      isAckPayload = some write) :
    Accepts order nextState ∧ WriteFrom order nextState status write := by
  by_cases hAccepts : Accepts order nextState
  · rw [transitionWrite, applyTestnetTransition_of_accepts hAccepts, some.injEq] at hWrite
    subst hWrite
    exact ⟨hAccepts, rfl, fun hOrder => acceptedEvent_from hOrder rfl, rfl, rfl, rfl⟩
  · rw [transitionWrite_of_not_accepts hAccepts] at hWrite
    cases hWrite

theorem reviewedWrite_spec (status refusal : String) (payload : Value) :
    WriteFrom order (if Accepts order nextState then nextState else .reconciliationRequired)
      (some status) (reviewedWrite origin order nextState source status exchangeOrderId reason
        refusal payload) := by
  unfold reviewedWrite
  by_cases hAccepts : Accepts order nextState
  · rw [applyTestnetTransition_of_accepts hAccepts, if_pos hAccepts]
    exact ⟨rfl, fun hOrder => acceptedEvent_from hOrder rfl, rfl, rfl, rfl⟩
  · rw [applyTestnetTransition_of_not_accepts hAccepts, if_neg hAccepts]
    exact ⟨rfl, fun _ => rfl, rfl, rfl, rfl⟩

variable {request : TestnetRepairRequest}

theorem explicitRepairWrite_spec {reason : String}
    (hWrite : explicitRepairWrite origin order request nextState source status reason payload =
      some write) : WriteFrom order nextState status write := by
  unfold explicitRepairWrite at hWrite
  simp only at hWrite
  split at hWrite
  · cases hWrite
  · cases hWrite
    exact ⟨rfl, Canonical.parsed, rfl, rfl, rfl⟩

theorem repairWrite_from {answer : ExchangeAnswer}
    (hWrite : repairWrite origin order request answer = some write) :
    ∃ state status, WriteFrom order state status write := by
  unfold repairWrite markWrite at hWrite
  split at hWrite
  · exact ⟨_, _, explicitRepairWrite_spec hWrite⟩
  · split at hWrite
    · exact ⟨_, _, (transitionWrite_spec hWrite).2⟩
    · cases hWrite
  · exact ⟨_, _, explicitRepairWrite_spec hWrite⟩
  · split at hWrite
    · cases hWrite
    · exact ⟨_, _, explicitRepairWrite_spec hWrite⟩
  · exact ⟨_, _, explicitRepairWrite_spec hWrite⟩
  · exact ⟨_, _, explicitRepairWrite_spec hWrite⟩
  · exact ⟨_, _, explicitRepairWrite_spec hWrite⟩

end Specifications

def OrderHandler.WritesFirst : OrderHandler → Prop
  | .persisted .. => True
  | _ => False

section Handlers
variable {handler : OrderHandler} {origin : Origin} {answer : ExchangeAnswer}
  {write : LifecycleWrite}

theorem write?_first (hFirst : handler.WritesFirst)
    (hWrite : handler.write? origin answer = some write) :
    write.event.clientOrderId = handler.copy.order.clientOrderId ∧
      write.event.previousState = none ∧
      write.event.nextState = write.update.executionState.asStr := by
  cases handler with
  | persisted scope correlationId copy =>
    cases hWrite
    exact ⟨rfl, rfl, rfl⟩
  | _ => cases hFirst

/-- Every other handler continues from the state of its copy. -/
theorem write?_from (hLater : ¬handler.WritesFirst)
    (hWrite : handler.write? origin answer = some write) :
    ∃ state status, WriteFrom handler.copy.order state status write := by
  cases handler with
  | persisted scope correlationId copy => exact absurd trivial hLater
  | submitting copy =>
    cases answer with
    | order ack => exact ⟨_, _, (transitionWrite_spec hWrite).2⟩
    | _ => cases hWrite
  | cancelling copy =>
    have hRequest : cancelRequestWrite origin copy.order = some write := hWrite
    unfold cancelRequestWrite at hRequest
    exact ⟨_, _, (transitionWrite_spec hRequest).2⟩
  | cancelRequested copy =>
    cases answer with
    | cancel ack => exact ⟨_, _, (transitionWrite_spec hWrite).2⟩
    | _ => cases hWrite
  | reporting copy report =>
    cases hWrite
    exact ⟨_, _, reviewedWrite_spec ..⟩
  | reconciling copy =>
    cases answer with
    | status status =>
      cases hWrite
      exact ⟨_, _, reviewedWrite_spec ..⟩
    | _ => cases hWrite
  | querying copy =>
    cases answer with
    | status status => exact ⟨_, _, (transitionWrite_spec hWrite).2⟩
    | _ => cases hWrite
  | repairing copy request => exact repairWrite_from hWrite
  | repairCancelling copy request =>
    cases answer with
    | cancel ack => exact ⟨_, _, (transitionWrite_spec hWrite).2⟩
    | _ => cases hWrite

theorem write?_event (hWrite : handler.write? origin answer = some write) :
    write.event.clientOrderId = handler.copy.order.clientOrderId ∧
      write.event.nextState = write.update.executionState.asStr := by
  by_cases hFirst : handler.WritesFirst
  · obtain ⟨hId, -, hNext⟩ := write?_first hFirst hWrite
    exact ⟨hId, hNext⟩
  · obtain ⟨state, status, hFrom⟩ := write?_from hFirst hWrite
    exact ⟨hFrom.clientOrderId, hFrom.executionState ▸ hFrom.nextState⟩

theorem copy_of_next {renewed : Option OrderCopy} {after : OrderHandler}
    (hNext : handler.next renewed = some after) :
    after.copy = handler.copy ∨ renewed = some after.copy := by
  cases handler with
  | persisted scope correlationId copy =>
    cases hNext
    exact .inl rfl
  | cancelling copy =>
    cases hNext
    cases renewed with
    | none => exact .inl rfl
    | some renewed => exact .inr rfl
  | repairing copy request =>
    simp only [OrderHandler.next] at hNext
    split at hNext
    · obtain ⟨read, rfl, rfl⟩ := map_eq_some_iff.mp hNext
      exact .inr rfl
    · cases hNext
  | _ => cases hNext

theorem copy_of_handler? {purpose : Purpose} {copy : OrderCopy}
    (hHandler : purpose.handler? copy = some handler) : handler.copy = copy := by
  cases purpose with
  | query =>
    cases hHandler
    rfl
  | _ =>
    simp only [Purpose.handler?] at hHandler
    split at hHandler
    · cases hHandler
      rfl
    · cases hHandler

end Handlers

section Tables
variable {tables after : ExchangeTables} {clientOrderId : String} {write : LifecycleWrite}

theorem eventsOf_storeIn_self (tables : ExchangeTables)
    (hSame : write.event.clientOrderId = clientOrderId) :
    eventsOf (write.storeIn tables) clientOrderId =
      eventsOf tables clientOrderId ++ [write.event] := by
  simp [eventsOf, LifecycleWrite.storeIn, appendExchangeTestnetLifecycleEventAndUpdateOrder, hSame]

theorem eventsOf_storeIn_of_ne (hOther : write.event.clientOrderId ≠ clientOrderId) :
    eventsOf (write.storeIn tables) clientOrderId = eventsOf tables clientOrderId := by
  simp [eventsOf, LifecycleWrite.storeIn, appendExchangeTestnetLifecycleEventAndUpdateOrder, hOther]

theorem find?_storeIn_map (hSame : write.event.clientOrderId = clientOrderId) :
    (write.storeIn tables).orders.find? clientOrderId =
      (tables.orders.find? clientOrderId).map (write.update.apply write.event.createdAt) := by
  subst hSame
  simp only [LifecycleWrite.storeIn, appendExchangeTestnetLifecycleEventAndUpdateOrder,
    Table.find?_modify_self]

variable {row : ExchangeTestnetOrderRecord}

theorem find?_storeIn_self (hSame : write.event.clientOrderId = clientOrderId)
    (hFind : tables.orders.find? clientOrderId = some row) :
    (write.storeIn tables).orders.find? clientOrderId =
      some (write.update.apply write.event.createdAt row) := by
  rw [find?_storeIn_map hSame, hFind, map_some]

theorem find?_storeIn_of_ne (hOther : write.event.clientOrderId ≠ clientOrderId) :
    (write.storeIn tables).orders.find? clientOrderId = tables.orders.find? clientOrderId :=
  find?_append_of_ne hOther

theorem insertExchangeTestnetOrder_spec
    (hInsert : insertExchangeTestnetOrder tables row = some after) :
    tables.orders.find? row.clientOrderId = none ∧ after.lifecycleEvents = tables.lifecycleEvents ∧
      after.orders.find? row.clientOrderId = some row ∧
      ∀ other ≠ row.clientOrderId, after.orders.find? other = tables.orders.find? other := by
  unfold insertExchangeTestnetOrder at hInsert
  split at hInsert
  · cases hInsert
  obtain ⟨orders, hOrders, rfl⟩ := map_eq_some_iff.mp hInsert
  obtain ⟨hUnused, hRows⟩ := Table.insert?_eq_some.mp hOrders
  refine ⟨hUnused, rfl, ?_, fun other hOther => ?_⟩
  · rw [Table.find?_eq_some, hRows]
    exact ⟨by simp, rfl⟩
  · simp only [Table.find?, hRows, find?_append, find?_singleton]
    rw [decide_eq_false hOther.symm]
    simp

theorem readOrder_eq_some {copy : OrderCopy} (hRead : readOrder tables clientOrderId = some copy) :
    tables.orders.find? clientOrderId = some copy.order ∧
      copy.readAt = (eventsOf tables clientOrderId).length := by
  obtain ⟨order, hFind, rfl⟩ := map_eq_some_iff.mp hRead
  exact ⟨hFind, rfl⟩

end Tables

/-- The log of an order is a chain that ends in the state of its row. -/
structure LogSettled (tables : ExchangeTables) (clientOrderId : String) : Prop where
  chained : Chained (·.previousState) (·.nextState) (eventsOf tables clientOrderId)
  endsIn : ∀ row, tables.orders.find? clientOrderId = some row →
    EndsIn (·.nextState) (eventsOf tables clientOrderId) row.executionState

/-- A record of the order as it was stored at some time. -/
structure Recorded (tables : ExchangeTables) (clientOrderId : String)
    (order : ExchangeTestnetOrderRecord) : Prop where
  canonical : Canonical order
  unlogged : eventsOf tables clientOrderId = [] → order.executionState = orderSubmitRequested.asStr

structure LogInvariant (clientOrderId : String) (system : OrderSystem) : Prop where
  settled : LogSettled system.tables clientOrderId
  row : ∀ row, system.tables.orders.find? clientOrderId = some row →
    Recorded system.tables clientOrderId row
  copies : ∀ id handler, system.handlers id = some handler →
    handler.copy.order.clientOrderId = clientOrderId →
      Recorded system.tables clientOrderId handler.copy.order ∧
        system.tables.orders.find? clientOrderId ≠ none
  logged : eventsOf system.tables clientOrderId ≠ [] →
    system.tables.orders.find? clientOrderId ≠ none

/-- A write that goes on from the state the row has. Where the row is terminal
and would leave that state, nothing has been stored since the copy was read. -/
def CopyCurrent (clientOrderId : String) (system : OrderSystem) (step : OrderStep) : Prop :=
  ∀ handler write row, system.pending? step = some (handler, write) →
    handler.copy.order.clientOrderId = clientOrderId →
    system.tables.orders.find? clientOrderId = some row →
      (handler.WritesFirst → eventsOf system.tables clientOrderId = []) ∧
      handler.copy.order.executionState = row.executionState ∧
      ((parseTestnetExecutionState row.executionState).isTerminal →
        write.update.executionState.asStr ≠ row.executionState →
          (eventsOf system.tables clientOrderId).length ≤ handler.copy.readAt)

/-- A handler that has read the order before its present state was written does
not replace that state, if it is terminal. -/
def TerminalKept (clientOrderId : String) (system : OrderSystem) : OrderStep → Prop
  | .proceed id origin answer stored => ∀ handler row, system.handlers id = some handler →
      handler.copy.order.clientOrderId = clientOrderId →
      handler.copy.readAt < (eventsOf system.tables clientOrderId).length →
      system.tables.orders.find? clientOrderId = some row →
      (parseTestnetExecutionState row.executionState).isTerminal →
        (orderStep system (.proceed id origin answer stored)).tables.executionState? clientOrderId =
          some row.executionState
  | _ => True

section Invariant
variable {clientOrderId : String} {system : OrderSystem}
variable {id : Nat} {handler : OrderHandler} {origin : Origin} {answer : ExchangeAnswer}
  {stored : Bool} {write : LifecycleWrite}

/-- A step that leaves row and log alone, with handlers that hold what was held
or stored before. -/
theorem LogInvariant.frame (hInvariant : LogInvariant clientOrderId system) {after : OrderSystem}
    (hFind : after.tables.orders.find? clientOrderId = system.tables.orders.find? clientOrderId)
    (hEvents : eventsOf after.tables clientOrderId = eventsOf system.tables clientOrderId)
    (hCopies : ∀ id handler, after.handlers id = some handler →
      handler.copy.order.clientOrderId = clientOrderId →
        (∃ id' before, system.handlers id' = some before ∧ handler.copy = before.copy) ∨
          system.tables.orders.find? clientOrderId = some handler.copy.order) :
    LogInvariant clientOrderId after := by
  have hRecorded {order : ExchangeTestnetOrderRecord}
      (hOrder : Recorded system.tables clientOrderId order) :
      Recorded after.tables clientOrderId order :=
    ⟨hOrder.canonical, fun hNone => hOrder.unlogged (hEvents ▸ hNone)⟩
  constructor
  · constructor
    · rw [hEvents]
      exact hInvariant.settled.chained
    · rw [hFind, hEvents]
      exact hInvariant.settled.endsIn
  · intro row hRow
    exact hRecorded (hInvariant.row row (hFind ▸ hRow))
  · intro id handler hHandler hId
    rw [hFind]
    rcases hCopies id handler hHandler hId with ⟨id', before, hBefore, hCopy⟩ | hStored
    · rw [hCopy] at hId ⊢
      obtain ⟨hOrder, hSome⟩ := hInvariant.copies id' before hBefore hId
      exact ⟨hRecorded hOrder, hSome⟩
    · exact ⟨hRecorded (hInvariant.row _ hStored), by simp [hStored]⟩
  · rw [hFind, hEvents]
    exact hInvariant.logged

theorem LogInvariant.read (hInvariant : LogInvariant clientOrderId system) (id : Nat)
    (other : String) (purpose : Purpose) :
    LogInvariant clientOrderId (orderStep system (.read id other purpose)) := by
  simp only [orderStep]
  split
  · rename_i copy hIdle hRead
    obtain ⟨hFind, -⟩ := readOrder_eq_some hRead
    refine hInvariant.frame rfl rfl fun id' handler hHandler hId => ?_
    by_cases hSame : id' = id
    · subst hSame
      simp only [setHandler, Function.update_self] at hHandler
      rw [copy_of_handler? hHandler] at hId ⊢
      rw [← hId, Table.key_of_find? hFind]
      exact .inr hFind
    · simp only [setHandler, Function.update_of_ne hSame] at hHandler
      exact .inl ⟨id', handler, hHandler, rfl⟩
  · exact hInvariant

theorem submittedRow_canonical (scope : RequestScope) (correlationId : Uuid)
    (order : ExchangeOrderRequest) : Canonical (submittedRow scope correlationId order) := by
  rw [Canonical, lifecycleSnapshot_currentState, submittedRow, parseTestnetExecutionState_asStr]

theorem LogInvariant.persist (hInvariant : LogInvariant clientOrderId system) (id : Nat)
    (scope : RequestScope) (correlationId : Uuid) (order : ExchangeOrderRequest) :
    LogInvariant clientOrderId (orderStep system (.persist id scope correlationId order)) := by
  simp only [orderStep]
  split
  · rename_i tables hIdle hInsert
    obtain ⟨hUnused, hEvents, hSelf, hOthers⟩ := insertExchangeTestnetOrder_spec hInsert
    by_cases hId : (submittedRow scope correlationId order).clientOrderId = clientOrderId
    · subst hId
      have hNone : eventsOf system.tables
          (submittedRow scope correlationId order).clientOrderId = [] := by
        by_contra hSome
        exact hInvariant.logged hSome hUnused
      have hNow : eventsOf tables (submittedRow scope correlationId order).clientOrderId = [] := by
        rw [eventsOf, hEvents]
        exact hNone
      have hRow : Recorded tables (submittedRow scope correlationId order).clientOrderId
          (submittedRow scope correlationId order) :=
        ⟨submittedRow_canonical .., fun _ => rfl⟩
      constructor
      · constructor
        · simp only [setHandler, hNow]
          exact isChain_nil
        · simp only [setHandler, hNow]
          intro row hRow last hLast
          cases hLast
      · intro row hFind
        obtain rfl : submittedRow scope correlationId order = row :=
          some.inj (hSelf.symm.trans hFind)
        exact hRow
      · intro id' handler hHandler hId
        refine ⟨?_, by simp [setHandler, hSelf]⟩
        by_cases hSame : id' = id
        · subst hSame
          simp only [setHandler, Function.update_self, some.injEq] at hHandler
          subst hHandler
          exact hRow
        · simp only [setHandler, Function.update_of_ne hSame] at hHandler
          exact absurd hUnused (hInvariant.copies id' handler hHandler hId).2
      · intro hSome
        exact absurd hNow hSome
    · refine hInvariant.frame (hOthers _ (Ne.symm hId)) ?_ fun id' handler hHandler hHeld => ?_
      · simp only [setHandler, eventsOf, hEvents]
      · by_cases hSame : id' = id
        · subst hSame
          simp only [setHandler, Function.update_self, some.injEq] at hHandler
          subst hHandler
          exact absurd hHeld hId
        · simp only [setHandler, Function.update_of_ne hSame] at hHandler
          exact .inl ⟨id', handler, hHandler, rfl⟩
  · exact hInvariant

/-- A handler that goes on holds its copy, or the row as it has written it. -/
theorem held_of_proceed {after : OrderHandler} {renewed : Option OrderCopy}
    {tables : ExchangeTables} {id' : Nat} (hHandler : system.handlers id = some handler)
    (hAfter : (setHandler { system with tables := tables } id
      (handler.next renewed)).handlers id' = some after) :
    (∃ id'' before, system.handlers id'' = some before ∧ after.copy = before.copy) ∨
      renewed = some after.copy := by
  by_cases hSame : id' = id
  · subst hSame
    simp only [setHandler, Function.update_self] at hAfter
    exact (copy_of_next hAfter).imp (fun hCopy => ⟨id', handler, hHandler, hCopy⟩) id
  · simp only [setHandler, Function.update_of_ne hSame] at hAfter
    exact .inl ⟨id', after, hAfter, rfl⟩

theorem pending?_eq_some
    (hPending : system.pending? (.proceed id origin answer stored) = some (handler, write)) :
    stored = true ∧ system.handlers id = some handler ∧
      handler.write? origin answer = some write := by
  cases stored with
  | false => cases hPending
  | true =>
    obtain ⟨held, hHandler, hWrite⟩ := bind_eq_some_iff.mp hPending
    obtain ⟨written, hWritten, hPair⟩ := map_eq_some_iff.mp hWrite
    cases hPair
    exact ⟨rfl, hHandler, hWritten⟩

theorem LogInvariant.store (hInvariant : LogInvariant clientOrderId system)
    (hPending : system.pending? (.proceed id origin answer stored) = some (handler, write))
    (hHeld : handler.copy.order.clientOrderId = clientOrderId)
    (hSettled : LogSettled (write.storeIn system.tables) clientOrderId) :
    LogInvariant clientOrderId
      (setHandler { system with tables := write.storeIn system.tables } id
        (handler.next (readOrder (write.storeIn system.tables) clientOrderId))) := by
  obtain ⟨-, hHandler, hWrite⟩ := pending?_eq_some hPending
  obtain ⟨hId, hNext⟩ := write?_event hWrite
  have hEvents := eventsOf_storeIn_self system.tables (hId.trans hHeld)
  have hLogged : eventsOf (write.storeIn system.tables) clientOrderId ≠ [] := by
    rw [hEvents]
    simp
  obtain ⟨row, hRow⟩ := ne_none_iff_exists'.mp
    (hInvariant.copies id handler hHandler hHeld).2
  have hStored := find?_storeIn_self (hId.trans hHeld) hRow
  have hWritten : Recorded (write.storeIn system.tables) clientOrderId
      (write.update.apply write.event.createdAt row) := by
    refine ⟨?_, fun hNone => absurd hNone hLogged⟩
    rw [Canonical, lifecycleSnapshot_currentState, OrderUpdate.apply,
      parseTestnetExecutionState_asStr]
  refine ⟨hSettled, ?_, ?_, ?_⟩
  · intro found hFound
    obtain rfl := some.inj (hStored.symm.trans hFound)
    exact hWritten
  · intro id' after hAfter hAfterHeld
    refine ⟨?_, by simp [setHandler, hStored]⟩
    rcases held_of_proceed hHandler hAfter with ⟨id'', before, hBefore, hCopy⟩ | hRenewed
    · rw [hCopy] at hAfterHeld ⊢
      exact ⟨(hInvariant.copies id'' before hBefore hAfterHeld).1.canonical,
        fun hNone => absurd hNone hLogged⟩
    · obtain ⟨hFound, -⟩ := readOrder_eq_some hRenewed
      rw [← some.inj (hStored.symm.trans hFound)]
      exact hWritten
  · intro _
    simp [setHandler, hStored]

/-- A handler that has the answer either writes or leaves the tables alone. -/
theorem orderStep_proceed (system : OrderSystem) (id : Nat) (origin : Origin)
    (answer : ExchangeAnswer) (stored : Bool) :
    (system.pending? (.proceed id origin answer stored) = none ∧
      (∃ next, orderStep system (.proceed id origin answer stored) = system.setHandler id next) ∧
      ∀ id' after, (orderStep system (.proceed id origin answer stored)).handlers id' =
        some after → ∃ id'' before, system.handlers id'' = some before ∧ after.copy = before.copy) ∨
    ∃ handler write, system.pending? (.proceed id origin answer stored) = some (handler, write) ∧
      orderStep system (.proceed id origin answer stored) =
        setHandler { system with tables := write.storeIn system.tables } id
          (handler.next (readOrder (write.storeIn system.tables)
            handler.copy.order.clientOrderId)) := by
  simp only [orderStep]
  cases hHandler : system.handlers id with
  | none =>
    refine .inl ⟨?_, ⟨none, ?_⟩, fun id' after hAfter => ⟨id', after, hAfter, rfl⟩⟩
    · cases stored with
      | false => rfl
      | true => simp [pending?, hHandler]
    · rw [setHandler, Function.update_eq_self_iff.mpr hHandler.symm]
  | some handler =>
    cases hPending : system.pending? (.proceed id origin answer stored) with
    | none =>
      refine .inl ⟨rfl, ⟨_, rfl⟩, fun id' after hAfter => ?_⟩
      rcases held_of_proceed hHandler hAfter with hHeld | hNone
      · exact hHeld
      · cases hNone
    | some found =>
      obtain ⟨-, hFound, -⟩ := pending?_eq_some hPending
      obtain rfl := some.inj (hHandler.symm.trans hFound)
      exact .inr ⟨found.1, found.2, rfl, rfl⟩

section
variable (hInvariant : LogInvariant clientOrderId system)
include hInvariant

/-- A write keeps the log a chain exactly if it goes on from the row. -/
theorem settled_storeIn_iff {row : ExchangeTestnetOrderRecord}
    (hPending : system.pending? (.proceed id origin answer stored) = some (handler, write))
    (hHeld : handler.copy.order.clientOrderId = clientOrderId)
    (hRow : system.tables.orders.find? clientOrderId = some row) :
    LogSettled (write.storeIn system.tables) clientOrderId ↔
      (handler.WritesFirst → eventsOf system.tables clientOrderId = []) ∧
        handler.copy.order.executionState = row.executionState := by
  obtain ⟨-, hHandler, hWrite⟩ := pending?_eq_some hPending
  obtain ⟨hId, hNext⟩ := write?_event hWrite
  have hEvents := eventsOf_storeIn_self system.tables (hId.trans hHeld)
  have hCopy := (hInvariant.copies id handler hHandler hHeld).1
  have hEnds := hInvariant.settled.endsIn row hRow
  have hUnlogged (hNone : eventsOf system.tables clientOrderId = []) :
      handler.copy.order.executionState = row.executionState := by
    rw [hCopy.unlogged hNone, (hInvariant.row row hRow).unlogged hNone]
  have hChained : LogSettled (write.storeIn system.tables) clientOrderId ↔
      Chained (·.previousState) (·.nextState)
        (eventsOf system.tables clientOrderId ++ [write.event]) := by
    constructor
    · intro hSettled
      rw [← hEvents]
      exact hSettled.chained
    · intro hChain
      refine ⟨hEvents ▸ hChain, fun found hFound => ?_⟩
      rw [hEvents, endsIn_concat, hNext,
        ← some.inj ((find?_storeIn_self (hId.trans hHeld) hRow).symm.trans hFound)]
      rfl
  rw [hChained]
  constructor
  · intro hChain
    by_cases hNone : eventsOf system.tables clientOrderId = []
    · exact ⟨fun _ => hNone, hUnlogged hNone⟩
    · have hPrevious := previous_eq_of_chained hNone hEnds hChain
      by_cases hFirst : handler.WritesFirst
      · rw [(write?_first hFirst hWrite).2.1] at hPrevious
        cases hPrevious
      · obtain ⟨state, status, hFrom⟩ := write?_from hFirst hWrite
        rw [hFrom.previousState hCopy.canonical, some.injEq] at hPrevious
        exact ⟨fun hAgain => absurd hAgain hFirst, hPrevious⟩
  · rintro ⟨hFirst, hCurrent⟩
    by_cases hWritesFirst : handler.WritesFirst
    · rw [hFirst hWritesFirst]
      exact isChain_singleton _
    · obtain ⟨state, status, hFrom⟩ := write?_from hWritesFirst hWrite
      refine hInvariant.settled.chained.concat hEnds ?_
      rw [hFrom.previousState hCopy.canonical, hCurrent]

/-- A write about another order. -/
theorem LogInvariant.store_of_ne
    (hPending : system.pending? (.proceed id origin answer stored) = some (handler, write))
    (hOther : handler.copy.order.clientOrderId ≠ clientOrderId) :
    LogInvariant clientOrderId
      (setHandler { system with tables := write.storeIn system.tables } id
        (handler.next (readOrder (write.storeIn system.tables)
          handler.copy.order.clientOrderId))) := by
  obtain ⟨-, hHandler, hWrite⟩ := pending?_eq_some hPending
  have hEvent : write.event.clientOrderId ≠ clientOrderId := by
    rw [(write?_event hWrite).1]
    exact hOther
  refine hInvariant.frame (find?_storeIn_of_ne hEvent) (eventsOf_storeIn_of_ne hEvent) ?_
  intro id' after hAfter hHeld
  rcases held_of_proceed hHandler hAfter with hBefore | hRenewed
  · exact .inl hBefore
  · obtain ⟨hFound, -⟩ := readOrder_eq_some hRenewed
    exact absurd ((Table.key_of_find? hFound).symm.trans hHeld) hOther

theorem LogInvariant.step (step : OrderStep) (hCurrent : CopyCurrent clientOrderId system step) :
    LogInvariant clientOrderId (orderStep system step) := by
  cases step with
  | persist id scope correlationId order => exact hInvariant.persist ..
  | read id other purpose => exact hInvariant.read ..
  | proceed id origin answer stored =>
    rcases orderStep_proceed system id origin answer stored with
      ⟨-, ⟨next, hStep⟩, hCopies⟩ | ⟨handler, write, hPending, hStep⟩
    · refine hInvariant.frame (by rw [hStep]; rfl) (by rw [hStep]; rfl) fun id' after hAfter _ => ?_
      exact .inl (hCopies id' after hAfter)
    · rw [hStep]
      by_cases hHeld : handler.copy.order.clientOrderId = clientOrderId
      · obtain ⟨-, hHandler, -⟩ := pending?_eq_some hPending
        obtain ⟨row, hRow⟩ := ne_none_iff_exists'.mp
          (hInvariant.copies id handler hHandler hHeld).2
        obtain ⟨hFirst, hSame, -⟩ := hCurrent handler write row hPending hHeld hRow
        rw [hHeld]
        exact hInvariant.store hPending hHeld
          ((settled_storeIn_iff hInvariant hPending hHeld hRow).mpr ⟨hFirst, hSame⟩)
      · exact hInvariant.store_of_ne hPending hHeld

/-- What the claim says about one step. -/
theorem settled_and_kept_iff (step : OrderStep) :
    LogSettled (orderStep system step).tables clientOrderId ∧
        TerminalKept clientOrderId system step ↔
      CopyCurrent clientOrderId system step := by
  cases step with
  | persist id scope correlationId order =>
    refine iff_of_true ⟨(hInvariant.persist ..).settled, trivial⟩ ?_
    intro handler write row hPending
    cases hPending
  | read id other purpose =>
    refine iff_of_true ⟨(hInvariant.read ..).settled, trivial⟩ ?_
    intro handler write row hPending
    cases hPending
  | proceed id origin answer stored =>
    rcases orderStep_proceed system id origin answer stored with
      ⟨hNone, ⟨next, hStep⟩, -⟩ | ⟨handler, write, hPending, hStep⟩
    · have hTables : (orderStep system (.proceed id origin answer stored)).tables =
          system.tables := by
        rw [hStep]
        rfl
      refine iff_of_true ⟨hTables ▸ hInvariant.settled, ?_⟩ ?_
      · intro handler row _ _ _ hRow _
        rw [hTables, ExchangeTables.executionState?, hRow]
        rfl
      · intro handler write row hPending
        rw [hNone] at hPending
        cases hPending
    obtain ⟨-, hHandler, hWrite⟩ := pending?_eq_some hPending
    have hTables : (orderStep system (.proceed id origin answer stored)).tables =
        write.storeIn system.tables := by
      rw [hStep]
      rfl
    by_cases hHeld : handler.copy.order.clientOrderId = clientOrderId
    · obtain ⟨row, hRow⟩ := ne_none_iff_exists'.mp
        (hInvariant.copies id handler hHandler hHeld).2
      have hAfter : (write.storeIn system.tables).executionState? clientOrderId =
          some write.update.executionState.asStr := by
        rw [ExchangeTables.executionState?,
          find?_storeIn_self ((write?_event hWrite).1.trans hHeld) hRow]
        rfl
      rw [hTables, settled_storeIn_iff hInvariant hPending hHeld hRow]
      constructor
      · rintro ⟨⟨hFirst, hSame⟩, hKept⟩ held written found hPair hHeldSame hFound
        cases hPending.symm.trans hPair
        obtain rfl := some.inj (hRow.symm.trans hFound)
        refine ⟨hFirst, hSame, fun hTerminal hLeaves => ?_⟩
        by_contra hBefore
        have hState := hKept handler row hHandler hHeld (Nat.lt_of_not_le hBefore) hRow hTerminal
        rw [hTables, hAfter, some.injEq] at hState
        exact hLeaves hState
      · intro hCurrent
        obtain ⟨hFirst, hSame, hFresh⟩ := hCurrent handler write row hPending hHeld hRow
        refine ⟨⟨hFirst, hSame⟩, ?_⟩
        intro held found hHeldHandler _ hBefore hFound hTerminal
        obtain rfl := some.inj (hHandler.symm.trans hHeldHandler)
        obtain rfl := some.inj (hRow.symm.trans hFound)
        rw [hTables, hAfter, some.injEq]
        by_contra hLeaves
        exact absurd hBefore (Nat.not_lt_of_le (hFresh hTerminal hLeaves))
    · refine iff_of_true ⟨?_, ?_⟩ ?_
      · rw [hStep]
        exact (hInvariant.store_of_ne hPending hHeld).settled
      · intro held row hHeldHandler hHeldSame
        obtain rfl := some.inj (hHandler.symm.trans hHeldHandler)
        exact absurd hHeldSame hHeld
      · intro held written row hPair hHeldSame
        cases hPending.symm.trans hPair
        exact absurd hHeldSame hHeld

end

end Invariant

/-- No order is stored under the id yet, and no event about one. -/
structure Unused (tables : ExchangeTables) (clientOrderId : String) : Prop where
  order : tables.orders.find? clientOrderId = none
  events : eventsOf tables clientOrderId = []

section
variable {tables : ExchangeTables} {clientOrderId : String} (hUnused : Unused tables clientOrderId)
include hUnused

theorem logInvariant_start : LogInvariant clientOrderId (start tables) where
  settled := by
    refine ⟨?_, fun row hRow => ?_⟩
    · simp only [start, hUnused.events]
      exact isChain_nil
    · rw [start, hUnused.order] at hRow
      cases hRow
  row := by
    intro row hRow
    rw [start, hUnused.order] at hRow
    cases hRow
  copies := by
    intro id handler hHandler
    cases hHandler
  logged := fun hSome => absurd hUnused.events hSome

/-- The log of an order is a chain that ends in the state of the row, in every
state of a run, and no handler replaces a terminal state that was written after
it has read the order, exactly if every write finds the row as its copy shows
it. -/
theorem lifecycle_log_chained_iff (steps : List OrderStep) :
    Throughout orderStep (fun system => LogSettled system.tables clientOrderId)
          (start tables) steps ∧
        Along orderStep (TerminalKept clientOrderId) (start tables) steps ↔
      Along orderStep (CopyCurrent clientOrderId) (start tables) steps := by
  have hStart := logInvariant_start hUnused
  rw [throughout_iff_along, and_assoc, ← along_and,
    ← along_iff_of_invariant (I := LogInvariant clientOrderId) (fun _ _ hInvariant => settled_and_kept_iff hInvariant _)
      (fun _ step hInvariant hCurrent => hInvariant.step step hCurrent) steps hStart]
  exact and_iff_right hStart.settled

end

def emptyTables : ExchangeTables := ⟨Table.empty, [], []⟩

def submitScope : RequestScope where
  actorId := none
  correlationId := ⟨7⟩
  now := 0
  newId := ⟨8⟩
  latestTick := fun _ => none
  latestCandle := fun _ => none
  answer := .error .rateLimited

def submittedOrder : ExchangeOrderRequest where
  exchange := .binance
  environment := .testnet
  symbol := .btcusdt
  side := .buy
  orderType := .market
  timeInForce := none
  quantity := none
  quoteNotional := some 100
  limitPrice := none
  clientOrderId := ""
  recvWindowMs := none
  riskDecisionId := none

def submittedId : String := generateTestnetClientOrderId ⟨7⟩

def handlerOrigin : Origin := ⟨none, none, 1⟩

def reportOf (orderStatus : ExchangeExecutionStatus) : ExchangeExecutionReport :=
  ⟨submittedId, some "42", orderStatus, .trade, .null⟩

def orderSubmitSteps (submission : Nat) : List OrderStep :=
  [.persist submission submitScope ⟨7⟩ submittedOrder,
    .proceed submission handlerOrigin (.failure .rateLimited) true]

def reportSteps (handler : Nat) (orderStatus : ExchangeExecutionStatus) : List OrderStep :=
  [.read handler submittedId (.executionReport (reportOf orderStatus)),
    .proceed handler handlerOrigin (.failure .rateLimited) true]

def ackStep (submission : Nat) (status : ExchangeOrderState) : OrderStep :=
  .proceed submission handlerOrigin (.order ⟨submittedId, some "42", status, .null⟩) true

theorem emptyTables_unused : Unused emptyTables submittedId := ⟨rfl, rfl⟩

theorem copyCurrent_of_decided {clientOrderId : String} {system : OrderSystem} {step : OrderStep}
    (hDecided : ((system.pending? step).all fun (handler, write) =>
      (system.tables.orders.find? clientOrderId).all fun row =>
        (match handler with
          | .persisted .. => (eventsOf system.tables clientOrderId).isEmpty
          | _ => true) &&
        handler.copy.order.executionState = row.executionState &&
        (!(parseTestnetExecutionState row.executionState).isTerminal ||
          write.update.executionState.asStr = row.executionState ||
          (eventsOf system.tables clientOrderId).length ≤ handler.copy.readAt)) = true) :
    CopyCurrent clientOrderId system step := by
  intro handler write row hPending _ hRow
  simp only [hPending, hRow, all_some, Bool.and_eq_true, Bool.or_eq_true,
    Bool.not_eq_true', decide_eq_true_eq] at hDecided
  obtain ⟨⟨hFirst, hSame⟩, hTerminal⟩ := hDecided
  refine ⟨?_, hSame, fun hIs hLeaves => ?_⟩
  · cases handler with
    | persisted scope correlationId copy => exact fun _ => isEmpty_iff.mp hFirst
    | _ => exact False.elim
  · rw [hIs] at hTerminal
    simpa [hLeaves] using hTerminal

/-- An order that is acknowledged before it is reported as filled. -/
theorem lifecycle_log_chained_sample :
    Throughout orderStep (fun system => LogSettled system.tables submittedId)
          (start emptyTables)
          (orderSubmitSteps 0 ++ ackStep 0 .new :: reportSteps 1 .filled) ∧
        Along orderStep (TerminalKept submittedId) (start emptyTables)
          (orderSubmitSteps 0 ++ ackStep 0 .new :: reportSteps 1 .filled) := by
  refine (lifecycle_log_chained_iff emptyTables_unused _).mpr ⟨?_, ?_, ?_, ?_, ?_, trivial⟩
  · exact copyCurrent_of_decided (by decide +kernel)
  · exact copyCurrent_of_decided (by decide +kernel)
  · exact copyCurrent_of_decided (by decide +kernel)
  · exact copyCurrent_of_decided (by decide +kernel)
  · exact copyCurrent_of_decided (by decide +kernel)

/-- The exchange fills an order and reports it before its acknowledgement is
handled. The acknowledgement goes on from the state in which the order was
submitted: the log branches, and the order is no longer filled. -/
theorem late_ack_replaces_fill : Unused emptyTables submittedId ∧
    ((eventsOf (run orderStep (start emptyTables)
        (orderSubmitSteps 0 ++ reportSteps 1 .filled ++ [ackStep 0 .new])).tables submittedId).map
          fun event => (event.previousState, event.nextState)) =
      [(none, "ORDER_SUBMIT_REQUESTED"), (some "ORDER_SUBMIT_REQUESTED", "FILLED"),
        (some "ORDER_SUBMIT_REQUESTED", "EXCHANGE_ACKED")] ∧
    (run orderStep (start emptyTables)
        (orderSubmitSteps 0 ++ reportSteps 1 .filled)).tables.executionState? submittedId =
      some "FILLED" ∧
    (run orderStep (start emptyTables) (orderSubmitSteps 0 ++ reportSteps 1 .filled ++
        [ackStep 0 .new])).tables.executionState? submittedId = some "EXCHANGE_ACKED" ∧
    ¬(Throughout orderStep (fun system => LogSettled system.tables submittedId)
          (start emptyTables)
          (orderSubmitSteps 0 ++ reportSteps 1 .filled ++ [ackStep 0 .new]) ∧
        Along orderStep (TerminalKept submittedId) (start emptyTables)
          (orderSubmitSteps 0 ++ reportSteps 1 .filled ++ [ackStep 0 .new])) := by
  refine ⟨emptyTables_unused, by decide +kernel, by decide +kernel, by decide +kernel, ?_⟩
  rintro ⟨⟨-, -, -, -, -, hLast⟩, -⟩
  have hBroken : ¬Chained (·.previousState) (·.nextState)
      (eventsOf (run orderStep (start emptyTables)
        (orderSubmitSteps 0 ++ reportSteps 1 .filled ++ [ackStep 0 .new])).tables submittedId) := by
    unfold Chained
    decide +kernel
  exact hBroken hLast.chained

end AegisQuant.Testnet
