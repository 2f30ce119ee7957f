import AegisQuant.Exchange.Lifecycle

/-! The order responses of the Binance adapter and what they are decoded to.
An acknowledgement replaces a status it cannot parse by a default, where the
status query fails, so that an order whose state is unknown to the decoder
enters its lifecycle in a definite one. -/
namespace AegisQuant.Exchange

structure BinanceOrderResponse where
  symbol : String
  clientOrderId : String
  orderId : Option Value
  status : String
  transactTime : Option Int
  executedQty : Option String
  cumulativeQuoteQty : Option String
  workingTime : Option Int

def nullable (value : Option Value) : Value := value.getD .null

/-- The response under its wire names, kept as the raw payload. -/
def BinanceOrderResponse.toValue (response : BinanceOrderResponse) : Value :=
  .object [
    ("symbol", .string response.symbol),
    ("clientOrderId", .string response.clientOrderId),
    ("orderId", nullable response.orderId),
    ("status", .string response.status),
    ("transactTime", nullable (response.transactTime.map fun millis => .number millis)),
    ("executedQty", nullable (response.executedQty.map .string)),
    ("cummulativeQuoteQty", nullable (response.cumulativeQuoteQty.map .string)),
    ("workingTime", nullable (response.workingTime.map fun millis => .number millis))]

/-- The fields of an acknowledgement that the lifecycle of its order does not
read. -/
structure BinanceOrderAck extends ExchangeOrderAck where
  exchange : ExchangeName
  environment : ExchangeEnvironment
  symbol : String
  transactTime : DateTime
  executedQty : Decimal
  cumulativeQuoteQty : Decimal
  isWorking : Option Bool

structure BinanceCancelAck extends ExchangeCancelAck where
  exchange : ExchangeName
  environment : ExchangeEnvironment
  symbol : String
  cancelledAt : DateTime

def parseOrderState (value : String) : Except ExchangeError ExchangeOrderState :=
  match value with
  | "NEW" => .ok .new
  | "PARTIALLY_FILLED" => .ok .partiallyFilled
  | "FILLED" => .ok .filled
  | "CANCELED" => .ok .canceled
  | "PENDING_CANCEL" => .ok .pendingCancel
  | "REJECTED" => .ok .rejected
  | "EXPIRED" => .ok .expired
  | other => .error (.serialization ("unsupported exchange order status: " ++ other))

/-- The readers of the libraries below the adapter, and its clock. -/
structure ResponseReaders where
  parseDecimal : String → Option Decimal
  fromTimestampMillis : Int → Option DateTime
  valueText : Value → String
  now : DateTime

section Decoding
variable (readers : ResponseReaders)

def stringifyJsonScalar : Value → String
  | .string inner => inner
  | other => readers.valueText other

def millisToDatetime (value : Option Int) : Option DateTime :=
  value.bind readers.fromTimestampMillis

def BinanceOrderResponse.intoExchangeAck (response : BinanceOrderResponse) : BinanceOrderAck where
  exchange := .binance
  environment := .testnet
  symbol := response.symbol
  clientOrderId := response.clientOrderId
  exchangeOrderId := response.orderId.map (stringifyJsonScalar readers)
  status := (parseOrderState response.status).toOption.getD .new
  transactTime := (millisToDatetime readers response.transactTime).getD readers.now
  executedQty := (response.executedQty.bind readers.parseDecimal).getD 0
  cumulativeQuoteQty := (response.cumulativeQuoteQty.bind readers.parseDecimal).getD 0
  isWorking := response.workingTime.map fun _ => true
  rawPayload := response.toValue

def BinanceOrderResponse.intoExchangeCancelAck (response : BinanceOrderResponse) :
    BinanceCancelAck where
  exchange := .binance
  environment := .testnet
  symbol := response.symbol
  clientOrderId := response.clientOrderId
  exchangeOrderId := response.orderId.map (stringifyJsonScalar readers)
  status := (parseOrderState response.status).toOption.getD .canceled
  cancelledAt := (millisToDatetime readers response.transactTime).getD readers.now
  rawPayload := response.toValue

end Decoding

/-- None of the statuses `parseOrderState` knows. -/
def Unrecognised (status : String) : Prop := ∀ state : ExchangeOrderState, status ≠ state.asStr

/-- The states that leave open what the exchange did with the order. -/
def Undecided (state : TestnetExecutionState) : Prop :=
  state = .unknownExchangeState ∨ state = .reconciliationRequired

instance (state : TestnetExecutionState) : Decidable (Undecided state) :=
  inferInstanceAs (Decidable (_ ∨ _))

theorem parseOrderState_of_unrecognised {status : String} (hUnknown : Unrecognised status) :
    parseOrderState status =
      .error (.serialization ("unsupported exchange order status: " ++ status)) := by
  unfold parseOrderState
  split
  · exact absurd rfl (hUnknown .new)
  · exact absurd rfl (hUnknown .partiallyFilled)
  · exact absurd rfl (hUnknown .filled)
  · exact absurd rfl (hUnknown .canceled)
  · exact absurd rfl (hUnknown .pendingCancel)
  · exact absurd rfl (hUnknown .rejected)
  · exact absurd rfl (hUnknown .expired)
  · rfl

section UnrecognisedStatuses
variable (readers : ResponseReaders) {response : BinanceOrderResponse}

section
variable (hUnknown : Unrecognised response.status)
include hUnknown

theorem intoExchangeAck_unrecognised : (response.intoExchangeAck readers).status = .new := by
  show (parseOrderState response.status).toOption.getD .new = .new
  rw [parseOrderState_of_unrecognised hUnknown]
  rfl

theorem intoExchangeCancelAck_unrecognised :
    (response.intoExchangeCancelAck readers).status = .canceled := by
  show (parseOrderState response.status).toOption.getD .canceled = .canceled
  rw [parseOrderState_of_unrecognised hUnknown]
  rfl

/-- Whatever the unparsed status says, the acknowledgement of an order counts
it as acknowledged and that of a cancellation as cancelled. -/
theorem unrecognised_status_taken_for_success :
    mapExchangeAckToTransition (response.intoExchangeAck readers).toExchangeOrderAck =
      (.exchangeAcked, some "exchange_ack") ∧
    mapCancelAckToTransition (response.intoExchangeCancelAck readers).toExchangeCancelAck =
      (.cancelled, some "exchange_cancel_ack") ∧
    ¬ Undecided (mapExchangeAckToTransition
      (response.intoExchangeAck readers).toExchangeOrderAck).1 ∧
    ¬ Undecided (mapCancelAckToTransition
      (response.intoExchangeCancelAck readers).toExchangeCancelAck).1 := by
  have hAck : mapExchangeAckToTransition (response.intoExchangeAck readers).toExchangeOrderAck =
      (.exchangeAcked, some "exchange_ack") := by
    rw [mapExchangeAckToTransition, intoExchangeAck_unrecognised readers hUnknown]
  have hCancel : mapCancelAckToTransition
      (response.intoExchangeCancelAck readers).toExchangeCancelAck =
        (.cancelled, some "exchange_cancel_ack") := by
    rw [mapCancelAckToTransition, intoExchangeCancelAck_unrecognised readers hUnknown]
  rw [hAck, hCancel]
  exact ⟨rfl, rfl, by decide, by decide⟩

end

end UnrecognisedStatuses

def sampleReaders : ResponseReaders where
  parseDecimal := fun _ => some 0
  fromTimestampMillis := fun millis => some (DateTime.milliseconds millis)
  valueText := fun _ => "null"
  now := 0

def sampleResponse (status : String) : BinanceOrderResponse where
  symbol := "BTCUSDT"
  clientOrderId := "aegis-testnet-1"
  orderId := some (.string "42")
  status := status
  transactTime := some 1700000000000
  executedQty := some "0"
  cumulativeQuoteQty := some "0"
  workingTime := none

theorem unrecognised_expiredInMatch : Unrecognised "EXPIRED_IN_MATCH" := by
  intro state
  cases state <;> decide

theorem unrecognised_status_taken_for_success_sample : Unrecognised "EXPIRED_IN_MATCH" ∧
    mapCancelAckToTransition
      ((sampleResponse "EXPIRED_IN_MATCH").intoExchangeCancelAck sampleReaders).toExchangeCancelAck =
        (.cancelled, some "exchange_cancel_ack") := by
  have hTaken := @unrecognised_status_taken_for_success sampleReaders
    (sampleResponse "EXPIRED_IN_MATCH") unrecognised_expiredInMatch
  exact ⟨unrecognised_expiredInMatch, hTaken.2.1⟩

/-- An order that expired in a match is acknowledged as working. -/
theorem unrecognised_status_not_undecided :
    ¬ ∀ response : BinanceOrderResponse, Unrecognised response.status →
      Undecided (mapExchangeAckToTransition
        (response.intoExchangeAck sampleReaders).toExchangeOrderAck).1 ∧
      Undecided (mapCancelAckToTransition
        (response.intoExchangeCancelAck sampleReaders).toExchangeCancelAck).1 := by
  intro hUndecided
  have hSample := hUndecided (sampleResponse "EXPIRED_IN_MATCH") unrecognised_expiredInMatch
  exact absurd hSample.2 (by decide)

end AegisQuant.Exchange
