import AegisQuant.Exchange.TerminalStates

/-! What reconciliation passes do to the two state columns of an order. A pass
that has an answer about the order writes the status the exchange gives and the
state the validator allows; the two are compared with each other and with what
was there before. -/
namespace AegisQuant.Exchange
open TestnetExecutionState Transition List Option ReconciliationPass

def normalizedState : TestnetExecutionState → Option NormalizedLocalStatus
  | .new => some .new
  | .partiallyFilled => some .partiallyFilled
  | .filled => some .filled
  | .cancelled => some .cancelled
  | .rejected => some .rejected
  | .expired => some .expired
  | _ => none

/-- The status column denotes the exchange state of the execution state, where
that is one. -/
def ColumnsAgree (order : ExchangeTestnetOrderRecord) : Prop :=
  ∀ denoted, normalizedState (parseTestnetExecutionState order.executionState) = some denoted →
    normalizeLocalStatus order.status = some denoted

/-- Status and execution state of the order are those of the answer. -/
def Represents (order : ExchangeTestnetOrderRecord) (exchangeStatus : ExchangeOrderStatus) : Prop :=
  order.executionState = (mapRestReconciliationStatusToTransition exchangeStatus).1.asStr ∧
    ∃ localStatus, localTestnetStatusFromExchangeState exchangeStatus.status = some localStatus ∧
      normalizeLocalStatus order.status = normalizeLocalStatus localStatus

def ReconciliationProgress.start (tables : ExchangeTables) : ReconciliationProgress :=
  ⟨tables, ⟨0, 0, 0, 0⟩⟩

/-- The status and the state that a pass writes for an order. -/
def persistedStatus (order : ExchangeTestnetOrderRecord) (exchangeStatus : ExchangeOrderStatus) :
    String :=
  (localTestnetStatusFromExchangeState exchangeStatus.status).getD order.status

def reconciledState (order : ExchangeTestnetOrderRecord) (exchangeStatus : ExchangeOrderStatus) :
    TestnetExecutionState :=
  if (mapRestReconciliationStatusToTransition exchangeStatus).1 ∈
      successors (some (lifecycleSnapshot order).currentState) then
    (mapRestReconciliationStatusToTransition exchangeStatus).1
  else .reconciliationRequired

section Evaluation
variable (order : ExchangeTestnetOrderRecord) (exchangeStatus : ExchangeOrderStatus)

theorem evaluateOrderReconciliation_canonical :
    (evaluateOrderReconciliation order exchangeStatus).canonicalLocalStatus =
      localTestnetStatusFromExchangeState exchangeStatus.status := by
  unfold evaluateOrderReconciliation
  cases localTestnetStatusFromExchangeState exchangeStatus.status with
  | none => rfl
  | some localStatus =>
    simp only
    split
    · rfl
    · split
      · rfl
      · split
        · rfl
        · rfl

theorem normalize_localStatus {localStatus : String}
    (hLocal : localTestnetStatusFromExchangeState exchangeStatus.status = some localStatus) :
    ∃ denoted, normalizeLocalStatus localStatus = some denoted ∧
      normalizedState (mapRestReconciliationStatusToTransition exchangeStatus).1 = some denoted := by
  revert hLocal
  unfold mapRestReconciliationStatusToTransition
  cases exchangeStatus.status with
  | pendingCancel => intro hLocal; cases hLocal
  | _ => intro hLocal; cases hLocal; exact ⟨_, rfl, rfl⟩

/-- The statuses match when they denote one exchange state. -/
theorem mismatch_eq_none_iff : (evaluateOrderReconciliation order exchangeStatus).mismatch = none ↔
      ∃ localStatus, localTestnetStatusFromExchangeState exchangeStatus.status = some localStatus ∧
        normalizeLocalStatus order.status = normalizeLocalStatus localStatus := by
  unfold evaluateOrderReconciliation
  cases hLocal : localTestnetStatusFromExchangeState exchangeStatus.status with
  | none => simp
  | some localStatus =>
    obtain ⟨denoted, hDenoted, _⟩ := normalize_localStatus exchangeStatus hLocal
    simp only [some.injEq, exists_eq_left', hDenoted]
    split
    · rename_i hSubmit
      have hNone : normalizeLocalStatus order.status = none := by
        rw [hSubmit.1]
        rfl
      simp [hNone]
    · split
      · rename_i hCancel
        rw [hCancel.1]
        refine iff_of_false (by simp) fun hSame => hCancel.2 hSame.symm
      · split
        · rename_i hSame
          simp [hSame]
        · rename_i hDiffers
          simp [hDiffers]

end Evaluation

section Step
variable {pass : ReconciliationPass} {tables : ExchangeTables} {order : ExchangeTestnetOrderRecord}
  {exchangeStatus : ExchangeOrderStatus}
variable {snapshot : TestnetOrderLifecycleSnapshot}

/-- The row that a pass leaves for an order it has an answer about. -/
structure Reconciled (order : ExchangeTestnetOrderRecord) (exchangeStatus : ExchangeOrderStatus)
    (written : ExchangeTestnetOrderRecord) : Prop where
  status : written.status = persistedStatus order exchangeStatus
  executionState : written.executionState = (reconciledState order exchangeStatus).asStr

variable {asked : TestnetExecutionState}

theorem applyTestnetTransition_allowed (hAllowed : asked ∈ successors (some snapshot.currentState))
    (source : TestnetExecutionTransitionSource) (reason : Option String) (payload : Option Value) :
    ∃ transition, applyTestnetTransition snapshot asked source reason payload = .ok transition ∧
      transition.nextState = asked :=
  ⟨_, (applyTestnetTransition_eq ..).trans (if_pos (.inr hAllowed)), rfl⟩

theorem applyTestnetTransition_refused (hKnown : asked ≠ .unknownExchangeState)
    (hRefused : asked ∉ successors (some snapshot.currentState))
    (source : TestnetExecutionTransitionSource) (reason : Option String) (payload : Option Value) :
    ∃ fault, applyTestnetTransition snapshot asked source reason payload = .error fault :=
  ⟨_, (applyTestnetTransition_eq ..).trans (if_neg (not_or.mpr ⟨hKnown, hRefused⟩))⟩

variable {row : ExchangeTestnetOrderRecord}

theorem find?_append_self (event : ExchangeTestnetOrderLifecycleEventRecord) (update : OrderUpdate)
    (hFind : tables.orders.find? event.clientOrderId = some row) :
    (appendExchangeTestnetLifecycleEventAndUpdateOrder tables event update).orders.find?
        event.clientOrderId = some (update.apply event.createdAt row) := by
  simp only [appendExchangeTestnetLifecycleEventAndUpdateOrder, Table.find?_modify_self, hFind,
    map_some]

theorem reconciledState_of_allowed
    (hAllowed : (mapRestReconciliationStatusToTransition exchangeStatus).1 ∈
      successors (some (lifecycleSnapshot order).currentState)) :
    reconciledState order exchangeStatus =
      (mapRestReconciliationStatusToTransition exchangeStatus).1 := by
  rw [reconciledState, if_pos hAllowed]

theorem reconciledState_of_refused
    (hRefused : (mapRestReconciliationStatusToTransition exchangeStatus).1 ∉
      successors (some (lifecycleSnapshot order).currentState)) :
    reconciledState order exchangeStatus = .reconciliationRequired := by
  rw [reconciledState, if_neg hRefused]

theorem recordStatus_row (hFind : tables.orders.find? order.clientOrderId = some row) :
    ∃ written, (pass.recordStatus tables order exchangeStatus).orders.find? order.clientOrderId =
      some written ∧ Reconciled order exchangeStatus written := by
  have hKnown := restStatus_known exchangeStatus
  unfold recordStatus
  simp only [evaluateOrderReconciliation_canonical]
  by_cases hAllowed : (mapRestReconciliationStatusToTransition exchangeStatus).1 ∈
      successors (some (lifecycleSnapshot order).currentState)
  · obtain ⟨transition, hApply, hNext⟩ := applyTestnetTransition_allowed hAllowed
      .restReconciliation (mapRestReconciliationStatusToTransition exchangeStatus).2
      (some exchangeStatus.rawPayload)
    rw [hApply]
    refine ⟨_, find?_append_self (acceptedEvent pass.origin order transition) _ hFind, rfl, ?_⟩
    rw [reconciledState_of_allowed hAllowed, ← hNext]
    rfl
  · obtain ⟨fault, hApply⟩ := applyTestnetTransition_refused hKnown hAllowed
      .restReconciliation (mapRestReconciliationStatusToTransition exchangeStatus).2
      (some exchangeStatus.rawPayload)
    rw [hApply]
    refine ⟨_, find?_append_self (refusedEvent pass.origin order _ _ _) _ hFind, rfl, ?_⟩
    rw [reconciledState_of_refused hAllowed]
    rfl

end Step

section Loop
variable {pass : ReconciliationPass} {clientOrderId : String} {order : ExchangeTestnetOrderRecord}
  {exchangeStatus : ExchangeOrderStatus}
variable {tables : ExchangeTables}

theorem find?_append_of_ne {event : ExchangeTestnetOrderLifecycleEventRecord} {update : OrderUpdate}
    (hOther : event.clientOrderId ≠ clientOrderId) :
    (appendExchangeTestnetLifecycleEventAndUpdateOrder tables event update).orders.find?
      clientOrderId = tables.orders.find? clientOrderId := by
  simp only [appendExchangeTestnetLifecycleEventAndUpdateOrder,
    Table.find?_modify_of_ne hOther.symm]

theorem find?_recordStatus_of_ne (hOther : order.clientOrderId ≠ clientOrderId) :
    (pass.recordStatus tables order exchangeStatus).orders.find? clientOrderId =
      tables.orders.find? clientOrderId := by
  unfold recordStatus
  simp only
  split
  · exact find?_append_of_ne hOther
  · exact find?_append_of_ne hOther

variable (progress : ReconciliationProgress)

theorem orders_reconciled : (pass.reconciled progress order exchangeStatus).tables.orders =
      (pass.recordStatus progress.tables order exchangeStatus).orders := by
  unfold reconciled
  simp only
  split
  · rfl
  · rfl

theorem mismatches_recordStatus (tables : ExchangeTables) :
    (pass.recordStatus tables order exchangeStatus).mismatches = tables.mismatches := by
  unfold recordStatus
  simp only
  split
  · rfl
  · rfl

/-- A step of a pass records a mismatch of its run and order when the statuses
differ. -/
theorem mismatches_reconciled (pass : ReconciliationPass) (order : ExchangeTestnetOrderRecord)
    (exchangeStatus : ExchangeOrderStatus) (progress : ReconciliationProgress) :
    ∃ added, (pass.reconciled progress order exchangeStatus).tables.mismatches =
        progress.tables.mismatches ++ added ∧
      ((evaluateOrderReconciliation order exchangeStatus).mismatch ≠ none →
        ∃ mismatch ∈ added, mismatch.runId = pass.runId ∧
          mismatch.clientOrderId = order.clientOrderId) := by
  unfold reconciled
  simp only
  split
  · rename_i hNone
    exact ⟨[], by simp [mismatches_recordStatus], fun hSome => absurd hNone hSome⟩
  · exact ⟨_, by rw [mismatches_recordStatus], fun _ => ⟨_, mem_singleton_self _, rfl, rfl⟩⟩

theorem find?_loop_of_absent (pass : ReconciliationPass) {orders : List ExchangeTestnetOrderRecord}
    (hAbsent : ∀ order ∈ orders, order.clientOrderId ≠ clientOrderId)
    (progress : ReconciliationProgress) :
    (pass.loop progress orders).1.tables.orders.find? clientOrderId =
      progress.tables.orders.find? clientOrderId := by
  induction orders generalizing progress with
  | nil => rfl
  | cons order rest ih =>
    obtain ⟨hOrder, hRest⟩ := forall_mem_cons.mp hAbsent
    unfold loop
    split
    · rw [ih hRest, orders_reconciled, find?_recordStatus_of_ne hOrder]
    · split
      · rw [ih hRest]
        rfl
      · rfl

theorem mismatches_loop (pass : ReconciliationPass) (progress : ReconciliationProgress)
    (orders : List ExchangeTestnetOrderRecord) :
    ∃ added, (pass.loop progress orders).1.tables.mismatches =
      progress.tables.mismatches ++ added := by
  induction orders generalizing progress with
  | nil => exact ⟨[], (append_nil _).symm⟩
  | cons order rest ih =>
    unfold loop
    split
    · rename_i exchangeStatus _
      obtain ⟨added, hStep, _⟩ := mismatches_reconciled pass order exchangeStatus progress
      obtain ⟨later, hLater⟩ := ih (pass.reconciled progress order exchangeStatus)
      exact ⟨added ++ later, by rw [hLater, hStep, append_assoc]⟩
    · split
      · rename_i err _ _
        obtain ⟨later, hLater⟩ := ih (pass.missing progress order err)
        exact ⟨_, hLater.trans (append_assoc ..)⟩
      · exact ⟨[], (append_nil _).symm⟩

theorem loop_answered {progress : ReconciliationProgress} {rest : List ExchangeTestnetOrderRecord}
    (hAnswer : pass.adapter order.clientOrderId = .ok exchangeStatus) :
    pass.loop progress (order :: rest) =
      pass.loop (pass.reconciled progress order exchangeStatus) rest := by
  rw [loop, hAnswer]

theorem loop_append (before after : List ExchangeTestnetOrderRecord) :
    pass.loop progress (before ++ after) =
      match pass.loop progress before with
      | (reached, none) => pass.loop reached after
      | (reached, some reason) => (reached, some reason) := by
  induction before generalizing progress with
  | nil => rfl
  | cons order rest ih =>
    rw [cons_append]
    cases hAnswer : pass.adapter order.clientOrderId with
    | ok exchangeStatus => rw [loop_answered hAnswer, loop_answered hAnswer, ih]
    | error err =>
      rw [loop, loop.eq_2 pass progress, hAnswer]
      by_cases hMissing : isExchangeOrderMissing err
      · simp only [hMissing, if_true]
        exact ih _
      · simp only [hMissing, Bool.false_eq_true, if_false]

/-- The part of a pass up to and with an order it has an answer about, and what
the rest of it leaves of the row. -/
theorem loop_through {before after : List ExchangeTestnetOrderRecord}
    (hStored : tables.orders.find? order.clientOrderId = some order)
    (hOthers : ∀ other ∈ before ++ after, other.clientOrderId ≠ order.clientOrderId)
    (hReached : (pass.loop (.start tables) before).2 = none)
    (hAnswer : pass.adapter order.clientOrderId = .ok exchangeStatus) :
    pass.loop (.start tables) (before ++ [order]) =
        (pass.reconciled (pass.loop (.start tables) before).1 order exchangeStatus, none) ∧
      ∃ written, (pass.loop (.start tables) (before ++ order :: after)).1.tables.orders.find?
          order.clientOrderId = some written ∧ Reconciled order exchangeStatus written := by
  obtain ⟨hBefore, hAfter⟩ := forall_mem_append.mp hOthers
  have hFind := find?_loop_of_absent pass hBefore (.start tables)
  rw [loop_append, loop_append]
  cases hLoop : pass.loop (.start tables) before with
  | mk reached stopped =>
    rw [hLoop] at hReached hFind
    cases hReached
    dsimp only
    rw [loop_answered hAnswer, loop_answered hAnswer]
    refine ⟨rfl, ?_⟩
    simp only [find?_loop_of_absent pass hAfter, orders_reconciled]
    exact recordStatus_row (hFind.trans hStored)

end Loop

/-- The pass counts the order as matched, records no mismatch and leaves the
execution state. The orders `before` come first. -/
structure KeepsOrder (pass : ReconciliationPass) (tables : ExchangeTables)
    (before : List ExchangeTestnetOrderRecord) (order : ExchangeTestnetOrderRecord)
    (after : List ExchangeTestnetOrderRecord) : Prop where
  matched : (pass.loop (.start tables) (before ++ [order])).1.summary =
    { (pass.loop (.start tables) before).1.summary with
      checkedOrders := (pass.loop (.start tables) before).1.summary.checkedOrders + 1
      matchedOrders := (pass.loop (.start tables) before).1.summary.matchedOrders + 1 }
  noMismatch : (pass.loop (.start tables) (before ++ [order])).1.tables.mismatches =
    (pass.loop (.start tables) before).1.tables.mismatches
  executionState : (pass.loop (.start tables) (before ++ order :: after)).1.tables.executionState?
      order.clientOrderId = some order.executionState

section Agreement
variable {pass : ReconciliationPass} {tables : ExchangeTables}
  {before after : List ExchangeTestnetOrderRecord} {order : ExchangeTestnetOrderRecord}
  {exchangeStatus : ExchangeOrderStatus}

theorem reconciledState_of_represents (hRepresents : Represents order exchangeStatus) :
    (reconciledState order exchangeStatus).asStr = order.executionState ↔
      exchangeStatus.status = .partiallyFilled := by
  obtain ⟨hState, localStatus, hLocal, _⟩ := hRepresents
  have hCurrent : (lifecycleSnapshot order).currentState =
      (mapRestReconciliationStatusToTransition exchangeStatus).1 := by
    rw [lifecycleSnapshot, hState, parseTestnetExecutionState_asStr]
  rw [hState, reconciledState, hCurrent, asStr_injective.eq_iff]
  revert hLocal
  unfold mapRestReconciliationStatusToTransition
  cases exchangeStatus.status <;> simp [successors]

theorem matched_of_represents (hRepresents : Represents order exchangeStatus)
    (progress : ReconciliationProgress) :
    pass.reconciled progress order exchangeStatus =
      ⟨pass.recordStatus progress.tables order exchangeStatus, { progress.summary with
        checkedOrders := progress.summary.checkedOrders + 1
        matchedOrders := progress.summary.matchedOrders + 1 }⟩ := by
  have hMatched := (mismatch_eq_none_iff order exchangeStatus).mpr hRepresents.2
  unfold reconciled
  rw [hMatched]

/-- An order that agrees with the exchange is matched without a mismatch; its
state is kept when it may follow itself. -/
theorem keepsOrder_iff (hStored : tables.orders.find? order.clientOrderId = some order)
    (hOthers : ∀ other ∈ before ++ after, other.clientOrderId ≠ order.clientOrderId)
    (hReached : (pass.loop (.start tables) before).2 = none)
    (hAnswer : pass.adapter order.clientOrderId = .ok exchangeStatus)
    (hRepresents : Represents order exchangeStatus) :
    KeepsOrder pass tables before order after ↔ exchangeStatus.status = .partiallyFilled := by
  obtain ⟨hStep, written, hWritten, reconciled⟩ :=
    loop_through hStored hOthers hReached hAnswer
  rw [matched_of_represents hRepresents] at hStep
  have hState : (pass.loop (.start tables) (before ++ order :: after)).1.tables.executionState?
      order.clientOrderId = some (reconciledState order exchangeStatus).asStr := by
    rw [ExchangeTables.executionState?, hWritten, map_some, reconciled.executionState]
  rw [← reconciledState_of_represents hRepresents]
  constructor
  · intro hKeeps
    exact some.inj (hState.symm.trans hKeeps.executionState)
  · intro hSame
    refine ⟨?_, ?_, hState.trans (congrArg some hSame)⟩
    · rw [hStep]
    · rw [hStep]
      exact mismatches_recordStatus _

theorem represents_again {written : ExchangeTestnetOrderRecord}
    (hRepresents : Represents order exchangeStatus)
    (reconciled : Reconciled order exchangeStatus written)
    (hKept : exchangeStatus.status = .partiallyFilled) : Represents written exchangeStatus := by
  have ⟨hState, localStatus, hLocal, _⟩ := hRepresents
  refine ⟨?_, localStatus, hLocal, ?_⟩
  · rw [reconciled.executionState, ← hState]
    exact (reconciledState_of_represents hRepresents).mpr hKept
  · rw [reconciled.status, persistedStatus, hLocal, getD_some]

end Agreement

/-- A pass over orders of which one agrees with the exchange, and every later
pass with the same answer about it, leave that order alone just when it is
partially filled. -/
theorem agreeing_order_kept_iff (pass : ReconciliationPass) (tables : ExchangeTables)
    (before after : List ExchangeTestnetOrderRecord) (order : ExchangeTestnetOrderRecord)
    (exchangeStatus : ExchangeOrderStatus)
    (hStored : tables.orders.find? order.clientOrderId = some order)
    (hOthers : ∀ other ∈ before ++ after, other.clientOrderId ≠ order.clientOrderId)
    (hReached : (pass.loop (.start tables) before).2 = none)
    (hAnswer : pass.adapter order.clientOrderId = .ok exchangeStatus)
    (hRepresents : Represents order exchangeStatus) :
    (KeepsOrder pass tables before order after ∧
      ∀ (again : ReconciliationPass) (first rest : List ExchangeTestnetOrderRecord)
          (stored : ExchangeTestnetOrderRecord),
        (pass.loop (.start tables) (before ++ order :: after)).1.tables.orders.find?
            order.clientOrderId = some stored →
        (∀ other ∈ first ++ rest, other.clientOrderId ≠ order.clientOrderId) →
        (again.loop (.start (pass.loop (.start tables) (before ++ order :: after)).1.tables)
          first).2 = none →
        again.adapter order.clientOrderId = .ok exchangeStatus →
        stored.executionState = order.executionState ∧
          KeepsOrder again (pass.loop (.start tables) (before ++ order :: after)).1.tables first
            stored rest) ↔
      exchangeStatus.status = .partiallyFilled := by
  have hKeeps := keepsOrder_iff hStored hOthers hReached hAnswer hRepresents
  refine ⟨fun hBoth => hKeeps.mp hBoth.1, fun hPartial => ⟨hKeeps.mpr hPartial, ?_⟩⟩
  intro again first rest stored hFind hOthersAgain hReachedAgain hAnswerAgain
  obtain ⟨_, written, hWritten, reconciled⟩ := loop_through hStored hOthers hReached hAnswer
  obtain rfl : written = stored := some.inj (hWritten.symm.trans hFind)
  have hId : written.clientOrderId = order.clientOrderId := Table.key_of_find? hFind
  have hAgain := represents_again hRepresents reconciled hPartial
  constructor
  · rw [reconciled.executionState]
    exact (reconciledState_of_represents hRepresents).mpr hPartial
  · rw [← hId] at hFind hOthersAgain hAnswerAgain
    exact (keepsOrder_iff hFind hOthersAgain hReachedAgain hAnswerAgain hAgain).mpr hPartial

def samplePass (status : ExchangeOrderState) : ReconciliationPass where
  runId := ⟨2⟩
  origin := ⟨none, none, 1⟩
  adapter := sampleAnswer status

theorem agreeing_order_kept_sample :
    KeepsOrder (samplePass .partiallyFilled) (sampleTables .partiallyFilled) []
      (sampleOrder .partiallyFilled) [] :=
  ((agreeing_order_kept_iff (samplePass .partiallyFilled) (sampleTables .partiallyFilled) [] []
    (sampleOrder .partiallyFilled)
    ⟨"aegis-testnet-1", some "42", .partiallyFilled, .null⟩ rfl (by simp) rfl rfl
    ⟨rfl, _, rfl, rfl⟩).mpr rfl).1

/-- A new order that the exchange reports as new is sent to reconciliation. -/
theorem agreeing_order_not_kept :
    Represents (sampleOrder .new) ⟨"aegis-testnet-1", some "42", .new, .null⟩ ∧
      ¬KeepsOrder (samplePass .new) (sampleTables .new) [] (sampleOrder .new) [] := by
  refine ⟨⟨rfl, _, rfl, rfl⟩, fun hKeeps => ?_⟩
  exact absurd hKeeps.executionState (by decide +kernel)

section Columns
variable {pass : ReconciliationPass} {tables : ExchangeTables}
  {before after : List ExchangeTestnetOrderRecord} {order written : ExchangeTestnetOrderRecord}
  {exchangeStatus : ExchangeOrderStatus}

/-- The mismatches that `later` holds beyond those of `earlier`. -/
def addedMismatches (earlier later : ExchangeTables) : List ExchangeReconciliationMismatch :=
  later.mismatches.drop earlier.mismatches.length

theorem Reconciled.columnsAgree (reconciled : Reconciled order exchangeStatus written) :
    ColumnsAgree written := by
  intro denoted hDenoted
  rw [reconciled.executionState, parseTestnetExecutionState_asStr, reconciledState] at hDenoted
  split at hDenoted
  · rw [reconciled.status, persistedStatus]
    cases hLocal : localTestnetStatusFromExchangeState exchangeStatus.status with
    | none =>
      revert hLocal hDenoted
      unfold mapRestReconciliationStatusToTransition
      cases exchangeStatus.status <;> simp [localTestnetStatusFromExchangeState, normalizedState]
    | some localStatus =>
      obtain ⟨same, hSame, hState⟩ := normalize_localStatus exchangeStatus hLocal
      rw [getD_some, hSame, ← hState, hDenoted]
  · cases hDenoted

theorem Reconciled.normalize_status (reconciled : Reconciled order exchangeStatus written)
    (hMatched : (evaluateOrderReconciliation order exchangeStatus).mismatch = none) :
    normalizeLocalStatus written.status = normalizeLocalStatus order.status := by
  obtain ⟨localStatus, hLocal, hSame⟩ := (mismatch_eq_none_iff order exchangeStatus).mp hMatched
  rw [reconciled.status, persistedStatus, hLocal, getD_some, hSame]

/-- A pass over an order leaves its row, or reconciles it and records where the
statuses differ. -/
theorem loop_row (hStored : tables.orders.find? order.clientOrderId = some order)
    (hOthers : ∀ other ∈ before ++ after, other.clientOrderId ≠ order.clientOrderId) :
    (pass.loop (.start tables) (before ++ order :: after)).1.tables.orders.find?
        order.clientOrderId = some order ∨
    ∃ exchangeStatus written,
      (pass.loop (.start tables) (before ++ order :: after)).1.tables.orders.find?
        order.clientOrderId = some written ∧ Reconciled order exchangeStatus written ∧
      ((evaluateOrderReconciliation order exchangeStatus).mismatch ≠ none →
        ∃ mismatch ∈ addedMismatches tables
            (pass.loop (.start tables) (before ++ order :: after)).1.tables,
          mismatch.runId = pass.runId ∧ mismatch.clientOrderId = order.clientOrderId) := by
  obtain ⟨hBefore, hAfter⟩ := forall_mem_append.mp hOthers
  have hFind := (find?_loop_of_absent pass hBefore (.start tables)).trans hStored
  cases hLoop : pass.loop (.start tables) before with
  | mk reached stopped =>
    rw [hLoop] at hFind
    cases stopped with
    | some reason =>
      left
      rw [loop_append, hLoop]
      exact hFind
    | none =>
      cases hAnswer : pass.adapter order.clientOrderId with
      | error err =>
        left
        rw [loop_append, hLoop]
        dsimp only
        rw [loop, hAnswer]
        by_cases hMissing : isExchangeOrderMissing err
        · simp only [hMissing, if_true, find?_loop_of_absent pass hAfter]
          exact hFind
        · simp only [hMissing, Bool.false_eq_true, if_false]
          exact hFind
      | ok exchangeStatus =>
        right
        have hReached : (pass.loop (.start tables) before).2 = none := by rw [hLoop]
        obtain ⟨hStep, written, hWritten, reconciled⟩ :=
          loop_through hStored hOthers hReached hAnswer
        refine ⟨exchangeStatus, written, hWritten, reconciled, fun hDiffers => ?_⟩
        obtain ⟨earlier, hEarlier⟩ := mismatches_loop pass (.start tables) before
        obtain ⟨added, hAdded, hRecorded⟩ := mismatches_reconciled pass order exchangeStatus
          (pass.loop (.start tables) before).1
        obtain ⟨later, hLater⟩ := mismatches_loop pass (pass.reconciled
          (pass.loop (.start tables) before).1 order exchangeStatus) after
        obtain ⟨mismatch, hMem, hRow⟩ := hRecorded hDiffers
        refine ⟨mismatch, ?_, hRow⟩
        have hWhole : before ++ order :: after = before ++ [order] ++ after := by simp
        rw [addedMismatches, hWhole, loop_append, hStep]
        dsimp only
        rw [hLater, hAdded, hEarlier]
        show mismatch ∈ (tables.mismatches ++ earlier ++ added ++ later).drop
          tables.mismatches.length
        rw [append_assoc, append_assoc, drop_left, mem_append, mem_append]
        exact Or.inr (Or.inl hMem)

end Columns

structure ReconciliationCall where
  now : DateTime
  freshIds : Uuid × Uuid
  actorId : Option Uuid
  order : RowOrder newestFirst
  request : ExchangeReconciliationRequest
  adapter : StatusAdapter

def reconcile (tables : ExchangeTables) (call : ReconciliationCall) : ExchangeTables :=
  (reconcileTestnetOrders tables call.now call.freshIds call.actorId call.order call.request
    call.adapter).1

def ReconciliationCall.pass (call : ReconciliationCall) : ReconciliationPass where
  runId := call.freshIds.1
  origin := ⟨call.actorId, some (call.request.correlationId.getD call.freshIds.2), call.now⟩
  adapter := call.adapter

def ReconciliationCall.selected (call : ReconciliationCall) (tables : ExchangeTables) :
    List ExchangeTestnetOrderRecord :=
  listExchangeTestnetOrdersForReconciliation call.order tables.orders call.request.limit
    call.request.statusFilter

/-- When the status of the order comes to denote another exchange state, the
run records a mismatch of the order. -/
def RecordsStatusChange (clientOrderId : String) (tables : ExchangeTables)
    (call : ReconciliationCall) : Prop :=
  ∀ before after, tables.orders.find? clientOrderId = some before →
    (reconcile tables call).orders.find? clientOrderId = some after →
    normalizeLocalStatus after.status ≠ normalizeLocalStatus before.status →
    ∃ mismatch ∈ addedMismatches tables (reconcile tables call),
      mismatch.runId = call.freshIds.1 ∧ mismatch.clientOrderId = clientOrderId

section Runs
variable {tables : ExchangeTables} {clientOrderId : String}

/-- A run is refused or is a pass over the selected orders. -/
theorem reconcile_cases (tables : ExchangeTables) (call : ReconciliationCall) :
    reconcile tables call = tables ∨
      reconcile tables call = (call.pass.loop (.start tables) (call.selected tables)).1.tables := by
  unfold reconcile reconcileTestnetOrders
  cases call.request.validate with
  | error err => exact Or.inl rfl
  | ok _ =>
    right
    unfold ReconciliationCall.pass ReconciliationCall.selected ReconciliationProgress.start
    dsimp only
    split
    · rename_i hLoop
      rw [hLoop]
    · rename_i hLoop
      rw [hLoop]

theorem reconcile_row {order : ExchangeTestnetOrderRecord}
    (hStored : tables.orders.find? clientOrderId = some order) (call : ReconciliationCall) :
    (reconcile tables call).orders.find? clientOrderId = some order ∨
    ∃ exchangeStatus written, (reconcile tables call).orders.find? clientOrderId = some written ∧
      Reconciled order exchangeStatus written ∧
      ((evaluateOrderReconciliation order exchangeStatus).mismatch ≠ none →
        ∃ mismatch ∈ addedMismatches tables (reconcile tables call),
          mismatch.runId = call.freshIds.1 ∧ mismatch.clientOrderId = clientOrderId) := by
  rcases reconcile_cases tables call with hSame | hPass
  · left
    rw [hSame]
    exact hStored
  · rw [hPass]
    have hId := Table.key_of_find? hStored
    by_cases hSelected : ∃ row ∈ call.selected tables, row.clientOrderId = clientOrderId
    · obtain ⟨row, hRow, hRowId⟩ := hSelected
      have hFind := Table.find?_of_mem (mem_of_mem_selected hRow)
      rw [hRowId, hStored] at hFind
      obtain rfl : order = row := some.inj hFind
      obtain ⟨before, after, hSplit⟩ := append_of_mem hRow
      have hDistinct := selected_sublist_keys call.order tables.orders call.request.limit
        call.request.statusFilter
      have hOthers := forall_mem_append.mpr
        (Table.ne_of_split (show (⟨call.selected tables, hDistinct⟩ : OrderTable).rows =
          before ++ order :: after from hSplit))
      rw [hSplit]
      rw [← hId] at hStored ⊢
      exact loop_row hStored hOthers
    · left
      push Not at hSelected
      rw [find?_loop_of_absent call.pass hSelected]
      exact hStored

theorem reconcile_absent (hAbsent : tables.orders.find? clientOrderId = none)
    (call : ReconciliationCall) : (reconcile tables call).orders.find? clientOrderId = none := by
  rcases reconcile_cases tables call with hSame | hPass
  · rw [hSame]
    exact hAbsent
  · rw [hPass, find?_loop_of_absent call.pass]
    · exact hAbsent
    · intro row hRow
      exact Table.find?_eq_none.mp hAbsent row (mem_of_mem_selected hRow)

end Runs

/-- The two state columns of an order keep denoting one exchange state over any
sequence of runs, and a status that comes to denote another one is recorded. -/
theorem state_columns_stay_consistent (tables : ExchangeTables) (clientOrderId : String)
    (calls : List ReconciliationCall)
    (hStart : ∀ order, tables.orders.find? clientOrderId = some order → ColumnsAgree order) :
    Throughout reconcile (fun reached => ∀ order, reached.orders.find? clientOrderId = some order →
      ColumnsAgree order) tables calls ∧
    Along reconcile (RecordsStatusChange clientOrderId) tables calls := by
  constructor
  · refine throughout_of_invariant ?_ (fun _ hAgree => hAgree) calls hStart
    intro reached call hAgree order hOrder
    cases hBefore : reached.orders.find? clientOrderId with
    | none =>
      rw [reconcile_absent hBefore] at hOrder
      cases hOrder
    | some row =>
      rcases reconcile_row hBefore call with hSame | ⟨_, written, hWritten, reconciled, _⟩
      · rw [hSame] at hOrder
        exact hAgree order (hBefore.trans hOrder)
      · obtain rfl : written = order := some.inj (hWritten.symm.trans hOrder)
        exact reconciled.columnsAgree
  · refine along_of_forall_step tables calls ?_
    intro reached call before after hBefore hAfter hChanged
    rcases reconcile_row hBefore call with hSame | ⟨_, written, hWritten, reconciled, hRecorded⟩
    · obtain rfl : before = after := some.inj (hSame.symm.trans hAfter)
      exact absurd rfl hChanged
    · obtain rfl : written = after := some.inj (hWritten.symm.trans hAfter)
      exact hRecorded fun hMatched => hChanged (reconciled.normalize_status hMatched)

def sampleCall (status : ExchangeOrderState) : ReconciliationCall where
  now := 1
  freshIds := (⟨2⟩, ⟨3⟩)
  actorId := none
  order := RowOrder.stable newestFirst
  request := { sampleRequest with statusFilter := [] }
  adapter := sampleAnswer status

/-- A new order that is reported as filled. -/
theorem state_columns_stay_consistent_sample : ColumnsAgree (sampleOrder .new) ∧
      RecordsStatusChange "aegis-testnet-1" (sampleTables .new) (sampleCall .filled) := by
  have hNew : ColumnsAgree (sampleOrder .new) := fun denoted hDenoted => hDenoted
  refine ⟨hNew, (state_columns_stay_consistent (sampleTables .new) "aegis-testnet-1"
    [sampleCall .filled] ?_).2.1⟩
  intro order hOrder
  rw [← some.inj hOrder]
  exact hNew

def ackedTables : ExchangeTables where
  orders := ⟨[{ sampleOrder .new with status := "ACKED" }], by simp⟩
  lifecycleEvents := []
  mismatches := []

/-- An acknowledged order is respelled as new without a mismatch. -/
theorem respelled_status_not_recorded : (∀ order ∈ ackedTables.orders.rows, ColumnsAgree order) ∧
    (ackedTables.orders.find? "aegis-testnet-1").map (·.status) = some "ACKED" ∧
    ((reconcile ackedTables (sampleCall .new)).orders.find? "aegis-testnet-1").map (·.status) =
      some "NEW" ∧
    addedMismatches ackedTables (reconcile ackedTables (sampleCall .new)) = [] := by
  refine ⟨?_, rfl, rfl, rfl⟩
  intro order hOrder denoted hDenoted
  rw [mem_singleton.mp hOrder] at hDenoted ⊢
  exact hDenoted

end AegisQuant.Exchange
