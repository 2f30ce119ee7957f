import AegisQuant.Core.Strategy
import AegisQuant.Exchange.Orders
import AegisQuant.Library.Table
import AegisQuant.Paper.Accounting

/-! The tables the paper path reads and writes. Enumerations are stored as
text, exactly as the writers encode them, and numeric columns hold the
decimals they are given. -/
namespace AegisQuant

structure SignalRecord where
  id : Uuid
  strategyId : String
  symbol : String
  side : String
  confidence : Decimal
  timeframe : String
  reason : String
  suggestedNotional : Decimal
  stopLossPct : Option Decimal
  takeProfitPct : Option Decimal
  sourceCandleOpenTime : DateTime
  correlationId : Uuid
  createdAt : DateTime
  deriving DecidableEq

structure SignalKey where
  strategyId : String
  symbol : String
  timeframe : String
  sourceCandleOpenTime : DateTime
  side : String
  reason : String
  deriving DecidableEq

def SignalRecord.key (signal : SignalRecord) : SignalKey where
  strategyId := signal.strategyId
  symbol := signal.symbol
  timeframe := signal.timeframe
  sourceCandleOpenTime := signal.sourceCandleOpenTime
  side := signal.side
  reason := signal.reason

structure RiskDecisionRow where
  id : Uuid
  correlationId : Uuid
  signalId : Option Uuid
  decision : String
  rationale : Value
  decidedAt : DateTime

structure OrderRow where
  id : Uuid
  correlationId : Uuid
  riskDecisionId : Uuid
  idempotencyKey : String
  symbol : String
  side : String
  quantity : Decimal
  limitPrice : Option Decimal
  status : String
  executionState : String
  statusReason : Option String
  filledPrice : Option Decimal
  submittedAt : Option DateTime
  filledAt : Option DateTime
  expiredAt : Option DateTime
  expiresAt : Option DateTime
  createdAt : DateTime
  updatedAt : DateTime
  deriving DecidableEq

structure PaperPositionRecord where
  id : Uuid
  accountId : Uuid
  symbol : String
  side : String
  quantity : Decimal
  entryPrice : Decimal
  markPrice : Option Decimal
  priceStatus : Paper.PaperPriceStatus
  notional : Decimal
  realizedPnl : Decimal
  unrealizedPnl : Decimal
  status : String
  openedAt : DateTime
  closedAt : Option DateTime
  strategyId : Option String
  signalId : Option Uuid
  riskDecisionId : Option Uuid
  orderId : Option Uuid
  updatedAt : DateTime
  deriving DecidableEq

inductive DataFreshnessStatus where
  | fresh
  | stale
  | unknown
  deriving DecidableEq, Repr

structure MarketFeedStatus where
  exchange : String
  symbol : String
  status : String
  freshnessStatus : DataFreshnessStatus
  lastEventAt : Option DateTime
  deriving DecidableEq

structure SystemState where
  killSwitchEnabled : Bool
  killSwitchReason : Option String
  deriving DecidableEq

/-- The default paper account is the only one that is ever created. -/
structure Database where
  systemState : SystemState
  marketFeeds : List MarketFeedStatus
  signals : Table SignalRecord.key
  riskDecisions : Table RiskDecisionRow.id
  orders : Table OrderRow.idempotencyKey
  paperAccount : Option Paper.PaperAccount
  paperPositions : Table PaperPositionRecord.id
  paperFills : Table Paper.PaperFill.orderId
  paperTradeJournal : List Paper.PaperTradeJournalEntry
  paperEquitySnapshots : List Paper.PaperEquitySnapshot

def Database.empty : Database where
  systemState := ⟨false, none⟩
  marketFeeds := []
  signals := .empty
  riskDecisions := .empty
  orders := .empty
  paperAccount := none
  paperPositions := .empty
  paperFills := .empty
  paperTradeJournal := []
  paperEquitySnapshots := []

namespace Paper
open Fallible

def PaperPosition.toRecord (position : PaperPosition) : PaperPositionRecord where
  id := position.id
  accountId := position.accountId
  symbol := position.symbol
  side := position.side.asStr
  quantity := position.quantity
  entryPrice := position.entryPrice
  markPrice := position.markPrice
  priceStatus := position.priceStatus
  notional := position.notional
  realizedPnl := position.realizedPnl
  unrealizedPnl := position.unrealizedPnl
  status := position.status.asStr
  openedAt := position.openedAt
  closedAt := position.closedAt
  strategyId := position.strategyId
  signalId := position.signalId
  riskDecisionId := position.riskDecisionId
  orderId := position.orderId
  updatedAt := position.updatedAt

def paperPositionFromRecord (record : PaperPositionRecord) : Except CoreError PaperPosition := do
  let side ← PositionSide.fromStr record.side
  let status ← PositionStatus.fromStr record.status
  return {
    id := record.id
    accountId := record.accountId
    symbol := record.symbol
    side := side
    quantity := record.quantity
    entryPrice := record.entryPrice
    markPrice := record.markPrice
    priceStatus := record.priceStatus
    notional := record.notional
    realizedPnl := record.realizedPnl
    unrealizedPnl := record.unrealizedPnl
    status := status
    openedAt := record.openedAt
    closedAt := record.closedAt
    strategyId := record.strategyId
    signalId := record.signalId
    riskDecisionId := record.riskDecisionId
    orderId := record.orderId
    updatedAt := record.updatedAt }

theorem paperPositionFromRecord_toRecord (position : PaperPosition) :
    paperPositionFromRecord position.toRecord = .ok position := by
  simp only [paperPositionFromRecord, PaperPosition.toRecord, PositionSide.fromStr_asStr,
    PositionStatus.fromStr_asStr]
  rfl

theorem paperPositionFromRecord_id {record : PaperPositionRecord} {position : PaperPosition}
    (hRead : paperPositionFromRecord record = .ok position) : position.id = record.id := by
  simp only [paperPositionFromRecord, bind_eq_ok, pure_eq_ok] at hRead
  obtain ⟨side, -, status, -, rfl⟩ := hRead
  rfl

theorem PositionStatus.asStr_ne_upper (status : PositionStatus) : status.asStr ≠ "OPEN" := by
  cases status <;> decide

theorem PositionStatus.asStr_eq_open {status : PositionStatus} :
    status.asStr = "open" ↔ status = .open := by
  cases status <;> decide

end Paper

end AegisQuant
