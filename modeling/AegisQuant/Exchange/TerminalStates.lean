import AegisQuant.Exchange.Reconciliation
import AegisQuant.Library.Run

/-! What later evidence does to an order in a terminal state. Acknowledgements
leave it there; a private execution report, or a REST status, sends it to
reconciliation, and nothing sends it straight back to an active state. -/
namespace AegisQuant.Exchange
open TestnetExecutionState Transition List Option ReconciliationPass

/-- Everything that can reach a stored order from outside. An acknowledgement
carries the record its handler has held since before it called the exchange. -/
inductive ExchangeEvent where
  | exchangeAck (origin : Origin) (held : ExchangeTestnetOrderRecord) (ack : ExchangeOrderAck)
  | cancelAck (origin : Origin) (held : ExchangeTestnetOrderRecord) (ack : ExchangeCancelAck)
  | executionReport (now : DateTime) (report : ExchangeExecutionReport)
  | reconciliation (now : DateTime) (freshIds : Uuid × Uuid) (actorId : Option Uuid)
      (order : RowOrder newestFirst) (request : ExchangeReconciliationRequest)
      (adapter : StatusAdapter)

def handleExchangeEvent (tables : ExchangeTables) : ExchangeEvent → ExchangeTables
  | .exchangeAck origin held ack => submitExchangeTestnetOrderSuccess tables origin held ack
  | .cancelAck origin held ack => cancelExchangeTestnetOrderSuccess tables origin held ack
  | .executionReport now report => handleExecutionReport tables now report
  | .reconciliation now freshIds actorId order request adapter =>
    (reconcileTestnetOrders tables now freshIds actorId order request adapter).1

def statusInPass (adapter : StatusAdapter) (clientOrderId : String) :
    List ExchangeTestnetOrderRecord → Option ExchangeOrderStatus
  | [] => none
  | order :: rest =>
    match adapter order.clientOrderId with
    | .ok status =>
      if order.clientOrderId = clientOrderId then some status
      else statusInPass adapter clientOrderId rest
    | .error err =>
      if isExchangeOrderMissing err then statusInPass adapter clientOrderId rest else none

/-- The state an event says the order is in, if it is evidence about it. -/
def evidence (clientOrderId : String) (tables : ExchangeTables) :
    ExchangeEvent → Option TestnetExecutionState
  | .exchangeAck .. | .cancelAck .. => none
  | .executionReport _ report =>
    if report.clientOrderId = clientOrderId then
      some (mapPrivateExecutionReportToTransition report).1
    else none
  | .reconciliation _ _ _ order request adapter =>
    match request.validate with
    | .error _ => none
    | .ok () =>
      (statusInPass adapter clientOrderId
        (listExchangeTestnetOrdersForReconciliation order tables.orders request.limit
          request.statusFilter)).map fun status =>
            (mapRestReconciliationStatusToTransition status).1

/-- An acknowledgement of the order is handled with a record that has the
state of the row as it is stored. -/
def HeldRecordCurrent (clientOrderId : String) (tables : ExchangeTables) : ExchangeEvent → Prop
  | .exchangeAck _ held _ | .cancelAck _ held _ =>
    held.clientOrderId = clientOrderId →
      tables.executionState? clientOrderId = some held.executionState
  | _ => True

/-- Where evidence that the validator refuses sends an order. -/
def reviewState (asked : TestnetExecutionState) : TestnetExecutionState :=
  if asked = .unknownExchangeState then .unknownExchangeState else .reconciliationRequired

section Writes
variable {tables : ExchangeTables} {clientOrderId : String}

theorem executionState?_append_self (event : ExchangeTestnetOrderLifecycleEventRecord)
    (update : OrderUpdate) :
    (appendExchangeTestnetLifecycleEventAndUpdateOrder tables event update).executionState?
        event.clientOrderId =
      (tables.executionState? event.clientOrderId).map fun _ => update.executionState.asStr := by
  simp only [ExchangeTables.executionState?, appendExchangeTestnetLifecycleEventAndUpdateOrder,
    Table.find?_modify_self, Option.map_map]
  rfl

theorem executionState?_append_of_ne {event : ExchangeTestnetOrderLifecycleEventRecord}
    {update : OrderUpdate} (hOther : event.clientOrderId ≠ clientOrderId) :
    (appendExchangeTestnetLifecycleEventAndUpdateOrder tables event update).executionState?
      clientOrderId = tables.executionState? clientOrderId := by
  simp only [ExchangeTables.executionState?, appendExchangeTestnetLifecycleEventAndUpdateOrder,
    Table.find?_modify_of_ne hOther.symm]

variable {terminal : TestnetExecutionState}

theorem lifecycleSnapshot_terminal {order : ExchangeTestnetOrderRecord}
    (hOrder : order.executionState = terminal.asStr) (hTerminal : terminal.isTerminal) :
    (lifecycleSnapshot order).currentState.isTerminal := by
  simp [lifecycleSnapshot, hOrder, hTerminal]

theorem acknowledgement_keeps_terminal {origin : Origin} {held : ExchangeTestnetOrderRecord}
    {next : TestnetExecutionState} {source : TestnetExecutionTransitionSource}
    {status exchangeOrderId reason : Option String} {payload : Option Value} {isAck : Bool}
    (hTerminal : terminal.isTerminal)
    (hState : tables.executionState? clientOrderId = some terminal.asStr)
    (hHeld : held.clientOrderId = clientOrderId →
      tables.executionState? clientOrderId = some held.executionState)
    (hKnown : next ≠ .unknownExchangeState) :
    (orUnchanged tables (appendTestnetLifecycleTransition tables origin held next source status
      exchangeOrderId reason payload isAck)).executionState? clientOrderId =
        some terminal.asStr := by
  by_cases hSame : held.clientOrderId = clientOrderId
  · have hText : terminal.asStr = held.executionState :=
      some.inj (hState.symm.trans (hHeld hSame))
    have hCurrent := lifecycleSnapshot_terminal hText.symm hTerminal
    rw [appendTestnetLifecycleTransition, applyTestnetTransition_terminal hCurrent, if_neg hKnown]
    exact hState
  · unfold appendTestnetLifecycleTransition
    cases applyTestnetTransition (lifecycleSnapshot held) next source reason payload with
    | error err => exact hState
    | ok transition => exact (executionState?_append_of_ne hSame).trans hState

theorem stored_order (hState : tables.executionState? clientOrderId = some terminal.asStr) :
    ∃ order, tables.orders.find? clientOrderId = some order ∧
      order.executionState = terminal.asStr :=
  map_eq_some_iff.mp hState

theorem executionReportEvent_clientOrderId (now : DateTime) (order : ExchangeTestnetOrderRecord)
    (report : ExchangeExecutionReport) :
    (executionReportEvent now order report).clientOrderId = order.clientOrderId := by
  unfold executionReportEvent
  simp only
  split <;> rfl

section
variable {now : DateTime} {report : ExchangeExecutionReport}

theorem executionReportEvent_terminal {order : ExchangeTestnetOrderRecord}
    (hOrder : order.executionState = terminal.asStr) (hTerminal : terminal.isTerminal) :
    (executionReportEvent now order report).nextState =
      (reviewState (mapPrivateExecutionReportToTransition report).1).asStr := by
  unfold executionReportEvent reviewState
  simp only [applyTestnetTransition_terminal (lifecycleSnapshot_terminal hOrder hTerminal)]
  by_cases hUnknown : (mapPrivateExecutionReportToTransition report).1 = .unknownExchangeState
  · rw [if_pos hUnknown, if_pos hUnknown, ← hUnknown]
    rfl
  · rw [if_neg hUnknown, if_neg hUnknown]
    rfl

theorem handleExecutionReport_of_ne (hOther : report.clientOrderId ≠ clientOrderId) :
    (handleExecutionReport tables now report).executionState? clientOrderId =
      tables.executionState? clientOrderId := by
  unfold handleExecutionReport
  cases hFind : tables.orders.find? report.clientOrderId with
  | none => rfl
  | some order =>
    apply executionState?_append_of_ne
    rw [executionReportEvent_clientOrderId, Table.key_of_find? hFind]
    exact hOther

theorem handleExecutionReport_terminal (hTerminal : terminal.isTerminal)
    (hState : tables.executionState? report.clientOrderId = some terminal.asStr) :
    (handleExecutionReport tables now report).executionState? report.clientOrderId =
      some (reviewState (mapPrivateExecutionReportToTransition report).1).asStr := by
  obtain ⟨order, hFind, hOrder⟩ := stored_order hState
  have hId : (executionReportEvent now order report).clientOrderId = report.clientOrderId := by
    rw [executionReportEvent_clientOrderId, Table.key_of_find? hFind]
  simp only [handleExecutionReport, hFind, executionReportEvent_terminal hOrder hTerminal,
    fromStr_asStr]
  rw [← hId, executionState?_append_self, hId, hState]
  rfl

end

end Writes

section Pass
variable {pass : ReconciliationPass} {clientOrderId : String} {terminal : TestnetExecutionState}
  {tables : ExchangeTables}

section
variable {order : ExchangeTestnetOrderRecord} {status : ExchangeOrderStatus}

theorem recordStatus_of_ne (hOther : order.clientOrderId ≠ clientOrderId) :
    (pass.recordStatus tables order status).executionState? clientOrderId =
      tables.executionState? clientOrderId := by
  unfold recordStatus
  simp only
  split <;> exact executionState?_append_of_ne hOther

theorem recordStatus_terminal (hOrder : order.executionState = terminal.asStr)
    (hTerminal : terminal.isTerminal)
    (hState : tables.executionState? order.clientOrderId = some terminal.asStr) :
    (pass.recordStatus tables order status).executionState? order.clientOrderId =
      some reconciliationRequired.asStr := by
  unfold recordStatus
  simp only [applyTestnetTransition_terminal (lifecycleSnapshot_terminal hOrder hTerminal),
    if_neg (restStatus_known status)]
  refine (executionState?_append_self (refusedEvent _ order _ _ _) _).trans ?_
  simp only [refusedEvent, hState, map_some]

end

section
variable (progress : ReconciliationProgress) (order : ExchangeTestnetOrderRecord)

theorem reconciled_executionState? (status : ExchangeOrderStatus) :
    (pass.reconciled progress order status).tables.executionState? clientOrderId =
      (pass.recordStatus progress.tables order status).executionState? clientOrderId := by
  unfold reconciled
  simp only
  split <;> rfl

theorem missing_executionState? (err : ExchangeError) :
    (pass.missing progress order err).tables.executionState? clientOrderId =
      progress.tables.executionState? clientOrderId := rfl

end

variable {orders : List ExchangeTestnetOrderRecord}

theorem loop_of_absent (hAbsent : ∀ order ∈ orders, order.clientOrderId ≠ clientOrderId)
    (progress : ReconciliationProgress) :
    (pass.loop progress orders).1.tables.executionState? clientOrderId =
      progress.tables.executionState? clientOrderId := by
  induction orders generalizing progress with
  | nil => rfl
  | cons order rest ih =>
    obtain ⟨hOrder, hRest⟩ := forall_mem_cons.mp hAbsent
    unfold loop
    split
    · rw [ih hRest, reconciled_executionState?, recordStatus_of_ne hOrder]
    · split
      · rw [ih hRest, missing_executionState?]
      · rfl

/-- A pass over distinct orders, one of which is terminal, sends that order
to reconciliation if the exchange gives a status for it, and else leaves it. -/
theorem loop_terminal (pass : ReconciliationPass) (hDistinct : (orders.map (·.clientOrderId)).Nodup)
    (hOrders : ∀ order ∈ orders, order.clientOrderId = clientOrderId →
      order.executionState = terminal.asStr) (hTerminal : terminal.isTerminal)
    (progress : ReconciliationProgress)
    (hState : progress.tables.executionState? clientOrderId = some terminal.asStr) :
    (pass.loop progress orders).1.tables.executionState? clientOrderId =
      some (match statusInPass pass.adapter clientOrderId orders with
        | none => terminal
        | some _ => reconciliationRequired).asStr := by
  induction orders generalizing progress with
  | nil => exact hState
  | cons order rest ih =>
    obtain ⟨hOrder, hRest⟩ := forall_mem_cons.mp hOrders
    obtain ⟨hNotIn, hNodup⟩ := nodup_cons.mp hDistinct
    unfold loop statusInPass
    cases hAnswer : pass.adapter order.clientOrderId with
    | error err =>
      by_cases hMissing : isExchangeOrderMissing err
      · simp only [hMissing, if_true]
        exact ih hNodup hRest _ hState
      · simp only [hMissing, Bool.false_eq_true, if_false]
        exact hState
    | ok status =>
      simp only
      by_cases hSame : order.clientOrderId = clientOrderId
      · have hAbsent : ∀ other ∈ rest, other.clientOrderId ≠ clientOrderId := by
          intro other hOther hEqual
          exact hNotIn (mem_map.mpr ⟨other, hOther, hEqual.trans hSame.symm⟩)
        rw [loop_of_absent hAbsent, reconciled_executionState?, if_pos hSame, ← hSame]
        exact recordStatus_terminal (hOrder hSame) hTerminal (hSame ▸ hState)
      · rw [if_neg hSame]
        apply ih hNodup hRest
        rw [reconciled_executionState?, recordStatus_of_ne hSame, hState]

theorem selected_sublist_keys (order : RowOrder newestFirst) (orders : OrderTable) (limit : Int)
    (statusFilter : List String) :
    ((listExchangeTestnetOrdersForReconciliation order orders limit statusFilter).map
      (·.clientOrderId)).Nodup := by
  unfold listExchangeTestnetOrdersForReconciliation
  apply List.Nodup.sublist ((take_sublist ..).map _)
  apply ((order.perm _).map _).nodup_iff.mpr
  exact List.Nodup.sublist (filter_sublist.map _) orders.unique

theorem mem_of_mem_selected {order : RowOrder newestFirst} {orders : OrderTable} {limit : Int}
    {statusFilter : List String} {row : ExchangeTestnetOrderRecord}
    (hRow : row ∈ listExchangeTestnetOrdersForReconciliation order orders limit statusFilter) :
    row ∈ orders.rows :=
  mem_of_mem_filter (order.mem_arrange.mp (mem_of_mem_take hRow))

end Pass

variable {clientOrderId : String} {terminal : TestnetExecutionState} {tables : ExchangeTables}

theorem handleExchangeEvent_terminal (hTerminal : terminal.isTerminal)
    (hState : tables.executionState? clientOrderId = some terminal.asStr) {event : ExchangeEvent}
    (hHeld : HeldRecordCurrent clientOrderId tables event) :
    (handleExchangeEvent tables event).executionState? clientOrderId =
      some (match evidence clientOrderId tables event with
        | none => terminal
        | some asked => reviewState asked).asStr := by
  cases event with
  | exchangeAck origin held ack =>
    exact acknowledgement_keeps_terminal hTerminal hState hHeld (exchangeAck_known ack)
  | cancelAck origin held ack =>
    exact acknowledgement_keeps_terminal hTerminal hState hHeld (cancelAck_known ack)
  | executionReport now report =>
    by_cases hSame : report.clientOrderId = clientOrderId
    · subst hSame
      simp only [evidence, if_true]
      exact handleExecutionReport_terminal hTerminal hState
    · simp only [evidence, if_neg hSame]
      exact (handleExecutionReport_of_ne hSame).trans hState
  | reconciliation now freshIds actorId order request adapter =>
    simp only [handleExchangeEvent, reconcileTestnetOrders, evidence]
    cases request.validate with
    | error err => exact hState
    | ok _ =>
      obtain ⟨stored, hFind, hStored⟩ := stored_order hState
      have hOrders : ∀ row ∈ listExchangeTestnetOrdersForReconciliation order tables.orders
          request.limit request.statusFilter, row.clientOrderId = clientOrderId →
            row.executionState = terminal.asStr := by
        rintro row hRow rfl
        rw [Table.find?_of_mem (mem_of_mem_selected hRow), some.injEq] at hFind
        rw [hFind, hStored]
      have hLoop := loop_terminal {
          runId := freshIds.1
          origin := {
            actorId := actorId
            correlationId := some (request.correlationId.getD freshIds.2)
            now := now }
          adapter := adapter }
        (selected_sublist_keys ..) hOrders hTerminal ⟨tables, ⟨0, 0, 0, 0⟩⟩ hState
      simp only
      cases hStatus : statusInPass adapter clientOrderId
          (listExchangeTestnetOrdersForReconciliation order tables.orders request.limit
            request.statusFilter) with
      | none =>
        simp only [hStatus, map_none] at hLoop ⊢
        rw [← hLoop]
        split <;> simp_all
      | some status =>
        simp only [hStatus, map_some, reviewState, if_neg (restStatus_known status)] at hLoop ⊢
        rw [← hLoop]
        split <;> simp_all

/-- A terminal order keeps its state up to the first evidence about it. That
evidence sends it to review, unless it repeats the terminal state; in no case
does the order go straight to an active or to another terminal state. -/
theorem terminal_state_left_only_for_review (events : List ExchangeEvent)
    (hTerminal : terminal.isTerminal)
    (hState : tables.executionState? clientOrderId = some terminal.asStr)
    (hHeld : Along handleExchangeEvent (HeldRecordCurrent clientOrderId) tables events) :
    (Along handleExchangeEvent (fun reached event => evidence clientOrderId reached event = none)
        tables events ∧
      (run handleExchangeEvent tables events).executionState? clientOrderId = some terminal.asStr) ∨
    ∃ before event after asked, events = before ++ event :: after ∧
      Along handleExchangeEvent (fun reached event => evidence clientOrderId reached event = none)
        tables before ∧
      (run handleExchangeEvent tables before).executionState? clientOrderId = some terminal.asStr ∧
      evidence clientOrderId (run handleExchangeEvent tables before) event = some asked ∧
      ((run handleExchangeEvent tables (before ++ [event])).executionState? clientOrderId =
          some (reviewState asked).asStr ∨
        asked = terminal ∧
          (run handleExchangeEvent tables (before ++ [event])).executionState? clientOrderId =
            some terminal.asStr) := by
  induction events generalizing tables with
  | nil => exact .inl ⟨trivial, hState⟩
  | cons event rest ih =>
    have hNext := handleExchangeEvent_terminal hTerminal hState hHeld.1
    cases hEvidence : evidence clientOrderId tables event with
    | some asked =>
      simp only [hEvidence] at hNext
      exact .inr ⟨[], event, rest, asked, rfl, trivial, hState, hEvidence, .inl hNext⟩
    | none =>
      simp only [hEvidence] at hNext
      rcases ih hNext hHeld.2 with ⟨hQuiet, hEnd⟩ |
        ⟨before, found, after, asked, rfl, hQuiet, hBefore, hFound, hAfter⟩
      · exact .inl ⟨⟨hEvidence, hQuiet⟩, hEnd⟩
      · exact .inr ⟨event :: before, found, after, asked, rfl, ⟨hEvidence, hQuiet⟩, hBefore,
          hFound, hAfter⟩

def sampleOrder (state : TestnetExecutionState) : ExchangeTestnetOrderRecord where
  id := ⟨1⟩
  exchange := "binance"
  environment := "testnet"
  clientOrderId := "aegis-testnet-1"
  exchangeOrderId := some "42"
  symbol := "BTCUSDT"
  side := "BUY"
  orderType := "MARKET"
  timeInForce := none
  requestedQty := none
  requestedNotional := some 100
  limitPrice := none
  status := state.asStr
  executionState := state.asStr
  ackPayload := none
  latestStatusPayload := none
  riskDecisionId := none
  createdBy := none
  lastTransitionAt := none
  createdAt := 0
  updatedAt := 0

def sampleTables (state : TestnetExecutionState) : ExchangeTables where
  orders := ⟨[sampleOrder state], by simp⟩
  lifecycleEvents := []
  mismatches := []

def sampleRequest : ExchangeReconciliationRequest where
  exchange := .binance
  environment := .testnet
  limit := 20
  statusFilter := ["FILLED"]
  correlationId := none

def sampleAnswer (status : ExchangeOrderState) : StatusAdapter := fun clientOrderId =>
  .ok {
    clientOrderId := clientOrderId
    exchangeOrderId := some "42"
    status := status
    rawPayload := .null }

def sampleReconciliation (status : ExchangeOrderState) : ExchangeEvent :=
  .reconciliation 1 (⟨2⟩, ⟨3⟩) none (RowOrder.stable newestFirst) sampleRequest
    (sampleAnswer status)

def sampleAck (held : TestnetExecutionState) : ExchangeEvent :=
  .exchangeAck ⟨none, none, 1⟩ (sampleOrder held) {
    clientOrderId := "aegis-testnet-1"
    exchangeOrderId := some "42"
    status := .new
    rawPayload := .null }

/-- A filled order that the exchange acknowledges and then reports as new. -/
theorem terminal_state_left_only_for_review_sample : ∃ before event after asked,
      [sampleAck .filled, sampleReconciliation .new] = before ++ event :: after ∧
      evidence "aegis-testnet-1" (run handleExchangeEvent (sampleTables .filled) before) event =
        some asked := by
  have hRun := @terminal_state_left_only_for_review "aegis-testnet-1" .filled (sampleTables .filled)
    [sampleAck .filled, sampleReconciliation .new] rfl rfl ⟨fun _ => rfl, trivial, trivial⟩
  rcases hRun with ⟨⟨_, hQuiet, _⟩, _⟩ | ⟨before, event, after, asked, hEvents, _, _, hFound, _⟩
  · cases hQuiet
  · exact ⟨before, event, after, asked, hEvents, hFound⟩

/-- A filled order does not stay filled: a contradicting REST status sends it
to reconciliation, and an acknowledgement handled with a record read before
the fill puts it back to acknowledged. -/
theorem terminal_state_not_absorbing :
    (sampleTables .filled).executionState? "aegis-testnet-1" = some filled.asStr ∧
      (run handleExchangeEvent (sampleTables .filled)
        [sampleReconciliation .new]).executionState? "aegis-testnet-1" =
          some reconciliationRequired.asStr ∧
      (run handleExchangeEvent (sampleTables .filled)
        [sampleAck .orderSubmitRequested]).executionState? "aegis-testnet-1" =
          some exchangeAcked.asStr := by
  refine ⟨rfl, rfl, rfl⟩

end AegisQuant.Exchange
