import AegisQuant.Core.Users
import AegisQuant.Exchange.Reconciliation

/-! Repairs of a testnet order by hand: who may ask for one, which states the
repair validator lets it write, and the evidence a cancellation needs. -/
namespace AegisQuant.Exchange
open TestnetExecutionState

inductive TestnetRepairAction where
  | markReconciliationRequired
  | manualRecheck
  | markAcked
  | markCancelled
  | markRejected
  | markFailed
  | safeCancelRequest
  deriving DecidableEq, Repr

namespace TestnetRepairAction

def requiredConfirmationText (action : TestnetRepairAction) (clientOrderId : String) : String :=
  match action with
  | .safeCancelRequest => "CANCEL TESTNET " ++ clientOrderId
  | _ => "REPAIR TESTNET " ++ clientOrderId

def requiresOwner : TestnetRepairAction → Bool
  | .markAcked | .markCancelled | .markRejected | .markFailed | .safeCancelRequest => true
  | .markReconciliationRequired | .manualRecheck => false

def allowsOperator : TestnetRepairAction → Bool
  | .markReconciliationRequired | .manualRecheck => true
  | _ => false

end TestnetRepairAction

structure TestnetRepairRequest where
  action : TestnetRepairAction
  confirmationText : String
  reason : Option String
  force : Bool
  deriving DecidableEq

inductive TestnetRepairError where
  | invalidConfirmation (expected actual : String)
  | invalidTransition (action : TestnetRepairAction) (previousState : TestnetExecutionState)
      (nextState : Option TestnetExecutionState)
  deriving DecidableEq

def TestnetRepairRequest.validateConfirmation (request : TestnetRepairRequest)
    (clientOrderId : String) : Except TestnetRepairError Unit :=
  let expected := request.action.requiredConfirmationText clientOrderId
  if request.confirmationText = expected then .ok ()
  else .error (.invalidConfirmation expected request.confirmationText)

def ownerRequiredForRepair (action : TestnetRepairAction) (force : Bool) : Bool :=
  force || action.requiresOwner

def isTestnetRepairAuthorized (role : UserRole) (action : TestnetRepairAction) (force : Bool) :
    Bool :=
  if ownerRequiredForRepair action force then role = .owner
  else role = .owner || (role = .operator && action.allowsOperator)

/-- A filled order stays filled. Every action has one state it may write, and
only some of them look at the state before. -/
def validateTestnetRepairTransition (action : TestnetRepairAction)
    (previous : TestnetExecutionState) (next : Option TestnetExecutionState) (force : Bool) :
    Except TestnetRepairError Unit :=
  let refused := .error (.invalidTransition action previous next)
  if previous = .filled ∧ next ≠ some .filled ∧ next ≠ none then refused
  else match action with
    | .markReconciliationRequired =>
      if previous.isTerminal ∧ previous ≠ .failed then refused
      else if next ≠ some .reconciliationRequired then refused
      else .ok ()
    | .manualRecheck => if next.isNone then refused else .ok ()
    | .markAcked =>
      if previous ∉ [orderSubmitRequested, new, reconciliationRequired, unknownExchangeState,
        failed] ∨ next ≠ some .exchangeAcked then refused
      else .ok ()
    | .markCancelled =>
      if next ≠ some .cancelled then refused
      else if previous = .filled ∧ !force then refused
      else .ok ()
    | .markRejected => if next ≠ some .rejected then refused else .ok ()
    | .markFailed => if next ≠ some .failed then refused else .ok ()
    | .safeCancelRequest => if next ≠ some .cancelRequested then refused else .ok ()

def eqIgnoreAsciiCase (first second : String) : Bool :=
  toAsciiLowercase first = toAsciiLowercase second

def hasCancelStatus (payload : Value) : Bool :=
  let cancelled (key : String) : Bool :=
    match payload.get? key with
    | some (.string text) =>
      eqIgnoreAsciiCase text "CANCELED" || eqIgnoreAsciiCase text "CANCELLED"
    | _ => false
  cancelled "status" || cancelled "X"

def orderHasCancelledExchangeEvidence (order : ExchangeTestnetOrderRecord) : Bool :=
  eqIgnoreAsciiCase order.status "CANCELLED" ||
    order.latestStatusPayload.any hasCancelStatus || order.ackPayload.any hasCancelStatus

end AegisQuant.Exchange
