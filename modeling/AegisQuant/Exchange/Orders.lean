import AegisQuant.Core.Basic

/-! Orders as the exchange crate exchanges them with the testnet adapter, and
the row each of them has in `exchange_testnet_orders`. -/
namespace AegisQuant

/-- A JSON document. Only its shape is inspected. -/
inductive Value where
  | null
  | bool (value : Bool)
  | number (value : Decimal)
  | string (value : String)
  | array (items : List Value)
  | object (fields : List (String × Value))

def Value.get? (value : Value) (key : String) : Option Value :=
  match value with
  | .object fields => fields.lookup key
  | _ => none

namespace Exchange

inductive ExchangeName where
  | binance
  deriving DecidableEq, Repr

def ExchangeName.asStr : ExchangeName → String
  | .binance => "binance"

inductive ExchangeEnvironment where
  | testnet
  | live
  deriving DecidableEq, Repr

def ExchangeEnvironment.asStr : ExchangeEnvironment → String
  | .testnet => "testnet"
  | .live => "live"

inductive ExchangeOrderSide where
  | buy
  | sell
  deriving DecidableEq, Repr

def ExchangeOrderSide.asStr : ExchangeOrderSide → String
  | .buy => "BUY"
  | .sell => "SELL"

inductive ExchangeOrderType where
  | market
  | limit
  deriving DecidableEq, Repr

def ExchangeOrderType.asStr : ExchangeOrderType → String
  | .market => "MARKET"
  | .limit => "LIMIT"

inductive ExchangeOrderTimeInForce where
  | gtc
  | ioc
  | fok
  deriving DecidableEq, Repr

def ExchangeOrderTimeInForce.asStr : ExchangeOrderTimeInForce → String
  | .gtc => "GTC"
  | .ioc => "IOC"
  | .fok => "FOK"

inductive ExchangeOrderState where
  | new
  | partiallyFilled
  | filled
  | canceled
  | pendingCancel
  | rejected
  | expired
  deriving DecidableEq, Repr

def ExchangeOrderState.asStr : ExchangeOrderState → String
  | .new => "NEW"
  | .partiallyFilled => "PARTIALLY_FILLED"
  | .filled => "FILLED"
  | .canceled => "CANCELED"
  | .pendingCancel => "PENDING_CANCEL"
  | .rejected => "REJECTED"
  | .expired => "EXPIRED"

inductive ExchangeExecutionReportType where
  | new
  | canceled
  | replaced
  | rejected
  | trade
  | expired
  | tradePrevention
  | unknown
  deriving DecidableEq, Repr

inductive ExchangeExecutionStatus where
  | new
  | partiallyFilled
  | filled
  | canceled
  | pendingCancel
  | rejected
  | expired
  | expiredInMatch
  | unknown
  deriving DecidableEq, Repr

def ExchangeExecutionStatus.asStr : ExchangeExecutionStatus → String
  | .new => "NEW"
  | .partiallyFilled => "PARTIALLY_FILLED"
  | .filled => "FILLED"
  | .canceled => "CANCELED"
  | .pendingCancel => "PENDING_CANCEL"
  | .rejected => "REJECTED"
  | .expired => "EXPIRED"
  | .expiredInMatch => "EXPIRED_IN_MATCH"
  | .unknown => "UNKNOWN"

structure ExchangeOrderRequest where
  exchange : ExchangeName
  environment : ExchangeEnvironment
  symbol : Symbol
  side : ExchangeOrderSide
  orderType : ExchangeOrderType
  timeInForce : Option ExchangeOrderTimeInForce
  quantity : Option Decimal
  quoteNotional : Option Decimal
  limitPrice : Option Decimal
  clientOrderId : String
  recvWindowMs : Option Nat
  riskDecisionId : Option Uuid
  deriving DecidableEq

def validateQuantity (quantity quoteNotional : Option Decimal) : Except CoreError Unit :=
  match quantity, quoteNotional with
  | some quantity, none => if quantity ≤ 0 then .error .invalidExchangeQuantity else .ok ()
  | none, some notional => if notional ≤ 0 then .error .invalidExchangeNotional else .ok ()
  | some quantity, some notional =>
    if quantity ≤ 0 then .error .invalidExchangeQuantity
    else if notional ≤ 0 then .error .invalidExchangeNotional
    else .ok ()
  | none, none => .error .missingExchangeQuantityOrNotional

def validateLimit (orderType : ExchangeOrderType) (timeInForce : Option ExchangeOrderTimeInForce)
    (limitPrice : Option Decimal) : Except CoreError Unit :=
  match orderType, limitPrice with
  | .limit, none => .error .missingExchangeLimitPrice
  | .limit, some price =>
    if price ≤ 0 then .error .invalidExchangeLimitPrice
    else if timeInForce.isNone then .error .missingExchangeTimeInForce
    else .ok ()
  | .market, some price => if price ≤ 0 then .error .invalidExchangeLimitPrice else .ok ()
  | .market, none => .ok ()

def ExchangeOrderRequest.validate (request : ExchangeOrderRequest) : Except CoreError Unit :=
  if trim request.clientOrderId = "" then .error .emptyClientOrderId
  else if request.environment = .live then .error .liveExchangeEnvironmentRejected
  else do
    validateQuantity request.quantity request.quoteNotional
    validateLimit request.orderType request.timeInForce request.limitPrice

structure ExchangeOrderAck where
  clientOrderId : String
  exchangeOrderId : Option String
  status : ExchangeOrderState
  rawPayload : Value

structure ExchangeCancelAck where
  clientOrderId : String
  exchangeOrderId : Option String
  status : ExchangeOrderState
  rawPayload : Value

structure ExchangeOrderStatus where
  clientOrderId : String
  exchangeOrderId : Option String
  status : ExchangeOrderState
  rawPayload : Value

structure ExchangeExecutionReport where
  clientOrderId : String
  exchangeOrderId : Option String
  orderStatus : ExchangeExecutionStatus
  executionType : ExchangeExecutionReportType
  rawPayload : Value

inductive ExchangeError where
  | configuration (detail : String)
  | liveEnvironmentDisabled
  | validation (detail : String)
  | authentication
  | rateLimited
  | api (detail : String)
  | transport (detail : String)
  | serialization (detail : String)
  deriving DecidableEq, Repr

def ExchangeError.toString : ExchangeError → String
  | .configuration detail => "exchange adapter configuration is missing: " ++ detail
  | .liveEnvironmentDisabled => "live exchange environment is disabled"
  | .validation detail => "exchange request validation failed: " ++ detail
  | .authentication => "exchange authentication failed"
  | .rateLimited => "exchange request was rate limited"
  | .api detail => "exchange returned an API error: " ++ detail
  | .transport detail => "exchange transport error: " ++ detail
  | .serialization detail => "exchange response could not be decoded: " ++ detail

/-- A row of `exchange_testnet_orders`; its states are stored as text. -/
structure ExchangeTestnetOrderRecord where
  id : Uuid
  exchange : String
  environment : String
  clientOrderId : String
  exchangeOrderId : Option String
  symbol : String
  side : String
  orderType : String
  timeInForce : Option String
  requestedQty : Option Decimal
  requestedNotional : Option Decimal
  limitPrice : Option Decimal
  status : String
  executionState : String
  ackPayload : Option Value
  latestStatusPayload : Option Value
  riskDecisionId : Option Uuid
  createdBy : Option Uuid
  lastTransitionAt : Option DateTime
  createdAt : DateTime
  updatedAt : DateTime

end Exchange

end AegisQuant
