import AegisQuant.Testnet.LifecycleLog

/-! What a repair by hand does to its order and what it records. A cancellation
through the exchange writes before it asks, so a failure after that leaves a
written order behind a rejected repair. -/
namespace AegisQuant.Testnet
open Exchange Exchange.TestnetExecutionState List Option

inductive TestnetRepairActionStatus where
  | applied
  | rejected
  deriving DecidableEq, Repr

/-- A row of the repair actions. Of an issue it has the code. -/
structure TestnetRepairResult where
  status : TestnetRepairActionStatus
  previousState : Option TestnetExecutionState
  nextState : Option TestnetExecutionState
  issues : List String
  deriving DecidableEq

/-- The state that a repair asks for. Only the recheck needs the exchange for it. -/
def requestedState (action : TestnetRepairAction) (answer : ExchangeAnswer) :
    Option TestnetExecutionState :=
  match action with
  | .markReconciliationRequired => some .reconciliationRequired
  | .manualRecheck => match answer with
      | .status status => some (mapRestReconciliationStatusToTransition status).1
      | _ => none
  | .markAcked => some .exchangeAcked
  | .markCancelled => some .cancelled
  | .markRejected => some .rejected
  | .markFailed => some .failed
  | .safeCancelRequest => some .cancelRequested

/-- The issue of a repair whose first write was not made. -/
def refusalCode (order : ExchangeTestnetOrderRecord) (request : TestnetRepairRequest)
    (answer : ExchangeAnswer) : String :=
  if request.action = .manualRecheck ∧ requestedState request.action answer = none then
    "manual_recheck_failed"
  else if request.action = .markCancelled ∧ !request.force ∧
      !orderHasCancelledExchangeEvidence order then "cancel_evidence_required"
  else "invalid_repair_transition"

/-- A safe cancellation of `order` after its first write. `renewed` is the row
that the write has returned. -/
def finishSafeCancel (tables : ExchangeTables) (origin : Origin)
    (order renewed : ExchangeTestnetOrderRecord) (request : TestnetRepairRequest)
    (answer : ExchangeAnswer) : ExchangeTables × TestnetRepairResult :=
  let previousState := parseTestnetExecutionState order.executionState
  let rejected (nextState : TestnetExecutionState) (issue : String) :=
    (tables, ⟨.rejected, some previousState, some nextState, [issue]⟩)
  if (Symbol.new order.symbol).toBool = false then rejected .cancelRequested "invalid_symbol"
  else match answer with
    | .cancel ack =>
      let nextState := (mapCancelAckToTransition ack).1
      match cancelAckWrite origin renewed ack request.reason with
      | some write => (write.storeIn tables, ⟨.applied, some previousState, some nextState, []⟩)
      | none => rejected nextState "cancel_ack_transition_failed"
    | _ => rejected .cancelRequested "safe_cancel_failed"

def repairOrder (tables : ExchangeTables) (origin : Origin) (clientOrderId : String)
    (order : ExchangeTestnetOrderRecord) (request : TestnetRepairRequest)
    (answer : ExchangeAnswer) : ExchangeTables × TestnetRepairResult :=
  let previousState := parseTestnetExecutionState order.executionState
  let nextState := requestedState request.action answer
  match repairWrite origin order request answer with
  | none =>
    -- the symbol of a safe cancellation is looked at before its write
    let symbolIssue := if request.action = .safeCancelRequest ∧
      (Symbol.new order.symbol).toBool = false then ["invalid_symbol"] else []
    (tables, ⟨.rejected, some previousState, nextState,
      symbolIssue ++ [refusalCode order request answer]⟩)
  | some write =>
    let written := write.storeIn tables
    if request.action = .safeCancelRequest then
      let renewed := (written.orders.find? clientOrderId).getD order
      finishSafeCancel written origin order renewed request answer
    else (written, ⟨.applied, some previousState, nextState, []⟩)

/-- The repair endpoint for a user of the given role, with what it records. An
unknown order leaves no record. -/
def repairExchangeTestnetOrder (tables : ExchangeTables) (origin : Origin) (role : UserRole)
    (clientOrderId : String) (request : TestnetRepairRequest) (answer : ExchangeAnswer) :
    ExchangeTables × Option TestnetRepairResult :=
  if isTestnetRepairAuthorized role request.action request.force = false then
    (tables, some ⟨.rejected, none, none, ["forbidden"]⟩)
  else if (request.validateConfirmation clientOrderId).toBool = false then
    (tables, some ⟨.rejected, none, none, ["invalid_confirmation"]⟩)
  else match tables.orders.find? clientOrderId with
    | none => (tables, none)
    | some order =>
      let (after, result) := repairOrder tables origin clientOrderId order request answer
      (after, some result)

/-- The states that no repair may take an order out of. -/
def finalStates : List TestnetExecutionState := [filled, cancelled, rejected, expired]

def stateOf? (tables : ExchangeTables) (clientOrderId : String) : Option TestnetExecutionState :=
  (tables.orders.find? clientOrderId).map (parseTestnetExecutionState ·.executionState)

/-- The repair keeps final states, and its record tells what it has done. -/
structure RepairSound (before after : ExchangeTables) (clientOrderId : String)
    (result : Option TestnetRepairResult) : Prop where
  keepsFinal : ∀ state ∈ finalStates, stateOf? before clientOrderId = some state →
    stateOf? after clientOrderId = some state ∧
      ∀ event ∈ (eventsOf after clientOrderId).drop (eventsOf before clientOrderId).length,
        event.nextState = state.asStr
  rejected : ∀ recorded ∈ result, recorded.status = .rejected →
    ((after.orders.find? clientOrderId).map fun order => (order.executionState, order.status)) =
        ((before.orders.find? clientOrderId).map fun order =>
          (order.executionState, order.status)) ∧
      eventsOf after clientOrderId = eventsOf before clientOrderId
  applied : ∀ recorded ∈ result, recorded.status = .applied →
    ∀ next ∈ recorded.nextState, after.executionState? clientOrderId = some next.asStr

/-- The repairs of an order that do what they record. A safe cancellation of an
open order needs the exchange to take it. -/
def Repairable (order : ExchangeTestnetOrderRecord) (action : TestnetRepairAction)
    (answer : ExchangeAnswer) : Prop :=
  let state := parseTestnetExecutionState order.executionState
  match action with
  | .markCancelled =>
    state ∈ [rejected, expired] → orderHasCancelledExchangeEvidence order = false
  | .markRejected => state ∉ [cancelled, expired]
  | .markFailed => state ∉ [cancelled, rejected, expired]
  | .safeCancelRequest =>
    state = filled ∨ state ∉ [cancelled, rejected, expired] ∧
      (Symbol.new order.symbol).toBool = true ∧
        ∃ ack, answer = .cancel ack ∧ ack.status ∉ [.pendingCancel, .expired]
  | .markReconciliationRequired | .manualRecheck | .markAcked => True

section Outcomes
variable {tables : ExchangeTables} {clientOrderId : String} {origin : Origin}
  {order renewed : ExchangeTestnetOrderRecord} {request : TestnetRepairRequest}
  {answer : ExchangeAnswer} {state next : TestnetExecutionState} {status : Option String}
  {write : LifecycleWrite} {previousState : Option TestnetExecutionState}
  {issues : List String} {result : Option TestnetRepairResult}

theorem repairSound_unwritten (hRejected : ∀ recorded ∈ result, recorded.status = .rejected) :
    RepairSound tables tables clientOrderId result where
  keepsFinal := by
    intro state _ hState
    exact ⟨hState, by simp⟩
  rejected := fun _ _ _ => ⟨rfl, rfl⟩
  applied := by
    intro recorded hRecorded hApplied
    rw [hRejected recorded hRecorded] at hApplied
    cases hApplied

theorem not_repairSound_written (hSame : write.event.clientOrderId = clientOrderId)
    {recorded : TestnetRepairResult} (hRejected : recorded.status = .rejected) :
    ¬RepairSound tables (write.storeIn tables) clientOrderId (some recorded) := by
  intro hSound
  have hEvents := (hSound.rejected recorded rfl hRejected).2
  rw [eventsOf_storeIn_self tables hSame] at hEvents
  simp at hEvents

theorem stateOf?_eq (hFind : tables.orders.find? clientOrderId = some order) :
    stateOf? tables clientOrderId = some (parseTestnetExecutionState order.executionState) := by
  rw [stateOf?, hFind, map_some]

section
variable (hSame : write.event.clientOrderId = clientOrderId)
  (hFind : tables.orders.find? clientOrderId = some order)
include hSame hFind

theorem executionState?_storeIn : (write.storeIn tables).executionState? clientOrderId =
      some write.update.executionState.asStr := by
  rw [ExchangeTables.executionState?, find?_storeIn_self hSame hFind, map_some]
  rfl

theorem stateOf?_storeIn :
    stateOf? (write.storeIn tables) clientOrderId = some write.update.executionState := by
  rw [stateOf?_eq (find?_storeIn_self hSame hFind)]
  exact congrArg some (parseTestnetExecutionState_asStr _)

end

theorem repairSound_written_iff (hFind : tables.orders.find? clientOrderId = some order)
    (hWrite : WriteFrom order next status write) :
    RepairSound tables (write.storeIn tables) clientOrderId
        (some ⟨.applied, previousState, some next, issues⟩) ↔
      (parseTestnetExecutionState order.executionState ∈ finalStates →
        next = parseTestnetExecutionState order.executionState) := by
  have hSame : write.event.clientOrderId = clientOrderId :=
    hWrite.clientOrderId.trans (Table.find?_eq_some.mp hFind).2
  constructor
  · intro hSound hFinal
    have hKept := (hSound.keepsFinal _ hFinal (stateOf?_eq hFind)).1
    rw [stateOf?_storeIn hSame hFind, hWrite.executionState] at hKept
    exact some.inj hKept
  · intro hStays
    refine ⟨?_, ?_, ?_⟩
    · intro state hFinal hState
      rw [stateOf?_eq hFind, some.injEq] at hState
      subst hState
      rw [stateOf?_storeIn hSame hFind, eventsOf_storeIn_self tables hSame, hWrite.executionState,
        drop_left, hStays hFinal]
      simp [hWrite.nextState, hStays hFinal]
    · intro recorded hRecorded hRejected
      cases hRecorded
      cases hRejected
    · intro recorded hRecorded _ stored hStored
      cases hRecorded
      cases hStored
      rw [executionState?_storeIn hSame hFind, hWrite.executionState]

theorem repairSound_twice_iff (hFind : tables.orders.find? clientOrderId = some order)
    (hFirst : WriteFrom order .cancelRequested status write) {second : LifecycleWrite}
    (hSecond : second.event.clientOrderId = clientOrderId) (hNext : second.update.executionState = next) :
    RepairSound tables (second.storeIn (write.storeIn tables)) clientOrderId
        (some ⟨.applied, previousState, some next, issues⟩) ↔
      parseTestnetExecutionState order.executionState ∉ finalStates := by
  have hSame : write.event.clientOrderId = clientOrderId :=
    hFirst.clientOrderId.trans (Table.find?_eq_some.mp hFind).2
  have hWritten := find?_storeIn_self hSame hFind
  constructor
  · intro hSound hFinal
    have hEvents := (hSound.keepsFinal _ hFinal (stateOf?_eq hFind)).2 write.event (by
      rw [eventsOf_storeIn_self _ hSecond, eventsOf_storeIn_self tables hSame]
      simp)
    rw [hFirst.nextState] at hEvents
    rw [← asStr_injective hEvents] at hFinal
    exact absurd hFinal (by decide)
  · intro hOpen
    refine ⟨?_, ?_, ?_⟩
    · intro state hFinal hState
      rw [stateOf?_eq hFind, some.injEq] at hState
      exact absurd (hState ▸ hFinal) hOpen
    · intro recorded hRecorded hRejected
      cases hRecorded
      cases hRejected
    · intro recorded hRecorded _ stored hStored
      cases hRecorded
      cases hStored
      rw [executionState?_storeIn hSecond hWritten, hNext]

theorem explicitRepairWrite_isSome {source : TestnetExecutionTransitionSource} {reason : String}
    {payload : Option Value} :
    (explicitRepairWrite origin order request next source status reason payload).isSome =
      (validateTestnetRepairTransition request.action
        (parseTestnetExecutionState order.executionState) (some next) request.force).toBool := by
  unfold explicitRepairWrite
  dsimp only
  cases validateTestnetRepairTransition request.action
      (parseTestnetExecutionState order.executionState) (some next) request.force with
  | error err => rfl
  | ok _ => rfl

theorem repairWrite_requested (hWrite : repairWrite origin order request answer = some write) :
    ∃ next status, requestedState request.action answer = some next ∧
      WriteFrom order next status write := by
  unfold repairWrite markWrite at hWrite
  unfold requestedState
  cases hAction : request.action with
  | manualRecheck =>
    simp only [hAction] at hWrite
    cases answer with
    | status status => exact ⟨_, _, rfl, (transitionWrite_spec hWrite).2⟩
    | order ack => cases hWrite
    | cancel ack => cases hWrite
    | failure err => cases hWrite
  | markCancelled =>
    simp only [hAction, ite_none_left_eq_some] at hWrite
    exact ⟨_, _, rfl, explicitRepairWrite_spec hWrite.2⟩
  | markReconciliationRequired | markAcked | markRejected | markFailed | safeCancelRequest =>
    simp only [hAction] at hWrite
    exact ⟨_, _, rfl, explicitRepairWrite_spec hWrite⟩

theorem keeps_iff_repairable (origin : Origin) (hForce : request.force = false)
    (hSingle : request.action ≠ .safeCancelRequest) :
    ((repairWrite origin order request answer).isSome →
      parseTestnetExecutionState order.executionState ∈ finalStates →
        requestedState request.action answer =
          some (parseTestnetExecutionState order.executionState)) ↔
      Repairable order request.action answer := by
  unfold repairWrite markWrite requestedState Repairable
  cases hAction : request.action with
  | manualRecheck =>
    simp only [iff_true]
    intro hSome hFinal
    cases answer with
    | status status =>
      obtain ⟨write, hWrite⟩ := isSome_iff_exists.mp hSome
      have hTerminal : (lifecycleSnapshot order).currentState.isTerminal := by
        rw [lifecycleSnapshot_currentState]
        generalize parseTestnetExecutionState order.executionState = previous at hFinal
        cases previous <;> first | rfl | exact absurd hFinal (by decide)
      rcases (transitionWrite_spec hWrite).1 with hUnknown | hFollows
      · exact absurd hUnknown (restStatus_known status)
      · rw [successors_terminal hTerminal] at hFollows
        cases hFollows
    | order ack => cases hSome
    | cancel ack => cases hSome
    | failure err => cases hSome
  | markCancelled =>
    cases hEvidence : orderHasCancelledExchangeEvidence order with
    | false => simp [hForce]
    | true =>
      simp only [hForce, Bool.not_false, Bool.not_true, Bool.and_false, Bool.false_eq_true,
        if_false, explicitRepairWrite_isSome, hAction]
      generalize parseTestnetExecutionState order.executionState = previous
      cases previous <;> decide
  | safeCancelRequest => exact absurd hAction hSingle
  | markReconciliationRequired | markAcked | markRejected | markFailed =>
    simp only [hForce, explicitRepairWrite_isSome, hAction]
    generalize parseTestnetExecutionState order.executionState = previous
    cases previous <;> decide

/-- A cancellation that the exchange has taken is refused by the validator only
while it is pending, or when the order has expired. -/
theorem cancelAckWrite_isSome_iff {ack : ExchangeCancelAck} {reason : Option String}
    (hRenewed : parseTestnetExecutionState renewed.executionState = .cancelRequested) :
    (cancelAckWrite origin renewed ack reason).isSome ↔
      ack.status ∉ [.pendingCancel, .expired] := by
  have hAccepts : Accepts renewed (mapCancelAckToTransition ack).1 ↔
      ack.status ∉ [.pendingCancel, .expired] := by
    rw [Accepts, lifecycleSnapshot_currentState, hRenewed, mapCancelAckToTransition]
    cases ack.status <;> decide
  rw [← hAccepts]
  constructor
  · intro hSome
    obtain ⟨write, hWrite⟩ := isSome_iff_exists.mp hSome
    exact (transitionWrite_spec hWrite).1
  · intro hTaken
    rw [cancelAckWrite, transitionWrite, applyTestnetTransition_of_accepts hTaken]
    rfl

section
variable (hFind : tables.orders.find? clientOrderId = some order)
include hFind

theorem finishSafeCancel_sound_iff (hFirst : WriteFrom order .cancelRequested status write) :
    RepairSound tables
        (finishSafeCancel (write.storeIn tables) origin order
          (write.update.apply write.event.createdAt order) request answer).1 clientOrderId
        (some (finishSafeCancel (write.storeIn tables) origin order
          (write.update.apply write.event.createdAt order) request answer).2) ↔
      parseTestnetExecutionState order.executionState ∉ finalStates ∧
        (Symbol.new order.symbol).toBool = true ∧
          ∃ ack, answer = .cancel ack ∧ ack.status ∉ [.pendingCancel, .expired] := by
  have hOwn := (Table.find?_eq_some.mp hFind).2
  have hSame : write.event.clientOrderId = clientOrderId := hFirst.clientOrderId.trans hOwn
  have hRenewed : parseTestnetExecutionState
      (write.update.apply write.event.createdAt order).executionState = .cancelRequested := by
    rw [OrderUpdate.apply, hFirst.executionState, parseTestnetExecutionState_asStr]
  unfold finishSafeCancel
  cases hSymbol : (Symbol.new order.symbol).toBool with
  | false => simp [not_repairSound_written hSame]
  | true =>
    simp only [Bool.true_eq_false, if_false, true_and]
    cases answer with
    | cancel ack =>
      have hTaken : (cancelAckWrite origin (write.update.apply write.event.createdAt order) ack
          request.reason).isSome ↔ ack.status ∉ [.pendingCancel, .expired] :=
        cancelAckWrite_isSome_iff hRenewed
      dsimp only
      cases hAck : cancelAckWrite origin (write.update.apply write.event.createdAt order) ack
          request.reason with
      | none =>
        rw [hAck] at hTaken
        have hPending : ¬ack.status ∉ [.pendingCancel, .expired] :=
          fun hOpen => absurd (hTaken.mpr hOpen) (by simp)
        constructor
        · exact fun hSound => absurd hSound (not_repairSound_written hSame rfl)
        · rintro ⟨-, _, ⟨⟩, hOpen⟩
          exact absurd hOpen hPending
      | some second =>
        rw [hAck] at hTaken
        have hSecond := (transitionWrite_spec hAck).2
        dsimp only
        rw [repairSound_twice_iff hFind hFirst (hSecond.clientOrderId.trans hOwn)
          hSecond.executionState]
        have hOpen := hTaken.mp rfl
        constructor
        · intro hState
          exact ⟨hState, ack, rfl, hOpen⟩
        · exact And.left
    | order ack => simp [not_repairSound_written hSame]
    | status status => simp [not_repairSound_written hSame]
    | failure err => simp [not_repairSound_written hSame]

theorem singleWrite_sound_iff (hForce : request.force = false)
    (hSingle : request.action ≠ .safeCancelRequest) :
    RepairSound tables (repairOrder tables origin clientOrderId order request answer).1
        clientOrderId (some (repairOrder tables origin clientOrderId order request answer).2) ↔
      Repairable order request.action answer := by
  rw [← keeps_iff_repairable origin hForce hSingle]
  unfold repairOrder
  cases hWrite : repairWrite origin order request answer with
  | none => simp [repairSound_unwritten]
  | some write =>
    obtain ⟨next, status, hNext, hFrom⟩ := repairWrite_requested hWrite
    simp only [if_neg hSingle, hNext, isSome_some, true_imp_iff, some.injEq]
    exact repairSound_written_iff hFind hFrom

theorem safeCancel_sound_iff (hForce : request.force = false)
    (hCancel : request.action = .safeCancelRequest) :
    RepairSound tables (repairOrder tables origin clientOrderId order request answer).1
        clientOrderId (some (repairOrder tables origin clientOrderId order request answer).2) ↔
      Repairable order request.action answer := by
  have hAllowed : (repairWrite origin order request answer).isSome ↔
      parseTestnetExecutionState order.executionState ≠ .filled := by
    simp only [repairWrite, hCancel, explicitRepairWrite_isSome, hForce]
    generalize parseTestnetExecutionState order.executionState = previous
    cases previous <;> decide
  unfold repairOrder
  cases hWrite : repairWrite origin order request answer with
  | none =>
    have hFilled : parseTestnetExecutionState order.executionState = .filled := by
      rw [hWrite] at hAllowed
      simpa using hAllowed
    simp [repairSound_unwritten, hCancel, Repairable, hFilled]
  | some write =>
    obtain ⟨next, status, hNext, hFrom⟩ := repairWrite_requested hWrite
    rw [hCancel] at hNext
    cases hNext
    have hOwn := (Table.find?_eq_some.mp hFind).2
    have hOpen : parseTestnetExecutionState order.executionState ≠ .filled :=
      hAllowed.mp (by rw [hWrite]; rfl)
    simp only [if_pos hCancel, find?_storeIn_self (hFrom.clientOrderId.trans hOwn) hFind, getD_some]
    rw [finishSafeCancel_sound_iff hFind hFrom, hCancel]
    simp [Repairable, finalStates, hOpen]

end

/-- Without force, a repair keeps final states and records what it has done if
and only if it is refused before it starts or its order is repairable by it. -/
theorem testnet_repair_sound_iff (tables : ExchangeTables) (origin : Origin) (role : UserRole)
    (clientOrderId : String) (request : TestnetRepairRequest) (answer : ExchangeAnswer)
    (hForce : request.force = false) :
    RepairSound tables
        (repairExchangeTestnetOrder tables origin role clientOrderId request answer).1 clientOrderId
        (repairExchangeTestnetOrder tables origin role clientOrderId request answer).2 ↔
      (isTestnetRepairAuthorized role request.action request.force = true →
        (request.validateConfirmation clientOrderId).toBool = true →
          ∀ order ∈ tables.orders.find? clientOrderId, Repairable order request.action answer) := by
  unfold repairExchangeTestnetOrder
  cases isTestnetRepairAuthorized role request.action request.force with
  | false => simp [repairSound_unwritten]
  | true =>
    cases (request.validateConfirmation clientOrderId).toBool with
    | false => simp [repairSound_unwritten]
    | true =>
      cases hFind : tables.orders.find? clientOrderId with
      | none => simp [repairSound_unwritten]
      | some order =>
        simp only [Bool.true_eq_false, if_false, true_imp_iff, mem_def, some.injEq, forall_eq']
        by_cases hCancel : request.action = .safeCancelRequest
        · exact safeCancel_sound_iff hFind hForce hCancel
        · exact singleWrite_sound_iff hFind hForce hCancel

end Outcomes

def sampleRepair (action : TestnetRepairAction) : TestnetRepairRequest where
  action := action
  confirmationText := action.requiredConfirmationText "aegis-testnet-1"
  reason := none
  force := false

theorem testnet_repair_sound_sample : RepairSound (sampleTables .new)
      (repairExchangeTestnetOrder (sampleTables .new) ⟨none, none, 1⟩ .owner "aegis-testnet-1"
        (sampleRepair .markFailed) (.failure .authentication)).1 "aegis-testnet-1"
      (repairExchangeTestnetOrder (sampleTables .new) ⟨none, none, 1⟩ .owner "aegis-testnet-1"
        (sampleRepair .markFailed) (.failure .authentication)).2 :=
  (testnet_repair_sound_iff _ _ _ _ _ _ rfl).mpr (by
    intro _ _ order hOrder
    cases hOrder
    exact (by decide : parseTestnetExecutionState new.asStr ∉ [cancelled, rejected, expired]))

/-- A cancelled order is marked as failed. -/
theorem testnet_repair_unsound :
    ¬(∀ tables origin role clientOrderId request answer, request.force = false → RepairSound tables
          (repairExchangeTestnetOrder tables origin role clientOrderId request answer).1
          clientOrderId
          (repairExchangeTestnetOrder tables origin role clientOrderId request answer).2) := by
  intro hSound
  have hKept := ((hSound (sampleTables .cancelled) ⟨none, none, 1⟩ .owner "aegis-testnet-1"
    (sampleRepair .markFailed) (.failure .authentication) rfl).keepsFinal .cancelled (by decide)
      (by decide +kernel)).1
  exact absurd hKept (by decide +kernel)

end AegisQuant.Testnet
