import AegisQuant.Core.Basic
import AegisQuant.Library.Fallible

/-! The paper accounting crate: buy fills averaged into one long position,
full and partial closes, and the journal entries each of them writes. Every
account summary is rebuilt from the one position an operation touches. -/
namespace AegisQuant.Paper
open Fallible

inductive PaperAccountStatus where
  | active
  | disabled
  deriving DecidableEq, Repr

inductive PositionSide where
  | long
  deriving DecidableEq, Repr

def PositionSide.asStr : PositionSide → String
  | .long => "long"

def PositionSide.fromStr (value : String) : Except CoreError PositionSide :=
  match toAsciiLowercase (trim value) with
  | "long" => .ok .long
  | other => .error (.unsupportedPositionSide other)

inductive PositionStatus where
  | open
  | closed
  deriving DecidableEq, Repr

def PositionStatus.asStr : PositionStatus → String
  | .open => "open"
  | .closed => "closed"

def PositionStatus.fromStr (value : String) : Except CoreError PositionStatus :=
  match toAsciiLowercase (trim value) with
  | "open" => .ok .open
  | "closed" => .ok .closed
  | other => .error (.unsupportedPositionStatus other)

theorem PositionSide.fromStr_asStr (side : PositionSide) :
    PositionSide.fromStr side.asStr = .ok side := by
  cases side
  rfl

theorem PositionStatus.fromStr_asStr (status : PositionStatus) :
    PositionStatus.fromStr status.asStr = .ok status := by
  cases status <;> rfl

inductive PaperPriceStatus where
  | live
  | stale
  | missing
  deriving DecidableEq, Repr

structure PaperAccount where
  id : Uuid
  initialEquity : Decimal
  currentEquity : Decimal
  realizedPnl : Decimal
  unrealizedPnl : Decimal
  status : PaperAccountStatus
  createdAt : DateTime
  updatedAt : DateTime
  deriving DecidableEq

structure PaperPosition where
  id : Uuid
  accountId : Uuid
  symbol : String
  side : PositionSide
  quantity : Decimal
  entryPrice : Decimal
  markPrice : Option Decimal
  priceStatus : PaperPriceStatus
  notional : Decimal
  realizedPnl : Decimal
  unrealizedPnl : Decimal
  status : PositionStatus
  openedAt : DateTime
  closedAt : Option DateTime
  strategyId : Option String
  signalId : Option Uuid
  riskDecisionId : Option Uuid
  orderId : Option Uuid
  updatedAt : DateTime
  deriving DecidableEq

structure PaperFill where
  id : Uuid
  accountId : Uuid
  orderId : Uuid
  positionId : Option Uuid
  symbol : String
  side : PositionSide
  price : Decimal
  quantity : Decimal
  notional : Decimal
  fee : Decimal
  slippageCost : Decimal
  filledAt : DateTime
  strategyId : Option String
  signalId : Option Uuid
  riskDecisionId : Option Uuid
  deriving DecidableEq

/-- The costs a fill charges on top of its notional. -/
def PaperFill.tradeCost (fill : PaperFill) : Decimal := fill.fee + fill.slippageCost

structure PaperTradeJournalEntry where
  accountId : Uuid
  positionId : Option Uuid
  orderId : Option Uuid
  eventType : String
  symbol : Option String
  pnl : Option Decimal
  createdAt : DateTime
  deriving DecidableEq

structure PaperPnlSummary where
  realizedPnl : Decimal
  unrealizedPnl : Decimal
  equity : Decimal
  drawdownPct : Decimal
  priceStatus : PaperPriceStatus
  peakEquity : Decimal
  deriving DecidableEq

structure PaperEquitySnapshot where
  accountId : Uuid
  equity : Decimal
  realizedPnl : Decimal
  unrealizedPnl : Decimal
  drawdownPct : Decimal
  snapshotAt : DateTime
  deriving DecidableEq

structure FillApplication where
  account : PaperAccount
  position : PaperPosition
  fill : PaperFill
  journalEntries : List PaperTradeJournalEntry
  summary : PaperPnlSummary

structure PaperClosePositionResult where
  positionId : Uuid
  accountId : Uuid
  symbol : String
  quantity : Decimal
  entryPrice : Decimal
  exitPrice : Decimal
  realizedPnl : Decimal
  fee : Decimal
  slippageCost : Decimal
  closedAt : DateTime
  closeFillId : Uuid

structure ClosePositionApplication where
  account : PaperAccount
  position : PaperPosition
  fill : PaperFill
  snapshot : PaperEquitySnapshot
  journalEntries : List PaperTradeJournalEntry
  summary : PaperPnlSummary
  closeResult : PaperClosePositionResult

def computeUnrealizedPnl (side : PositionSide) (entryPrice : Decimal)
    (markPrice : Option Decimal) (quantity : Decimal) : Decimal :=
  match markPrice with
  | none => 0
  | some mark => match side with
    | .long => (mark - entryPrice) * quantity

def computeRealizedPnl (side : PositionSide) (entryPrice exitPrice quantity
    feesAndSlippage : Decimal) : Decimal :=
  (match side with
    | .long => (exitPrice - entryPrice) * quantity) - feesAndSlippage

def computeDrawdown (currentEquity peakEquity : Decimal) : Decimal :=
  if peakEquity ≤ 0 ∨ currentEquity ≥ peakEquity then 0
  else (peakEquity - currentEquity) / peakEquity

def rebuildAccountSummary (initialEquity realizedPnl unrealizedPnl : Decimal) :
    PaperPnlSummary :=
  let equity := initialEquity + realizedPnl + unrealizedPnl
  let peakEquity := if equity > initialEquity then equity else initialEquity
  { realizedPnl := realizedPnl
    unrealizedPnl := unrealizedPnl
    equity := equity
    drawdownPct := computeDrawdown equity peakEquity
    priceStatus := if unrealizedPnl = 0 then .missing else .live
    peakEquity := peakEquity }

/-- The account after an operation that computed `summary`. -/
def PaperAccount.withSummary (account : PaperAccount) (summary : PaperPnlSummary)
    (now : DateTime) : PaperAccount :=
  { account with
    currentEquity := summary.equity
    realizedPnl := summary.realizedPnl
    unrealizedPnl := summary.unrealizedPnl
    updatedAt := now }

def averagedPosition (current : PaperPosition) (fill : PaperFill) : PaperPosition :=
  let newQuantity := current.quantity + fill.quantity
  let grossCost := current.entryPrice * current.quantity + fill.notional + fill.tradeCost
  let entryPrice := grossCost / newQuantity
  { current with
    quantity := newQuantity
    entryPrice := entryPrice
    notional := entryPrice * newQuantity
    unrealizedPnl := computeUnrealizedPnl current.side entryPrice current.markPrice newQuantity
    status := .open
    closedAt := none
    strategyId := fill.strategyId
    signalId := fill.signalId
    riskDecisionId := fill.riskDecisionId
    orderId := some fill.orderId
    updatedAt := fill.filledAt }

/-- The position a buy fill opens; `freshId` is drawn if the fill names none. -/
def openedPosition (freshId : Uuid) (account : PaperAccount) (fill : PaperFill) :
    PaperPosition where
  id := fill.positionId.getD freshId
  accountId := account.id
  symbol := fill.symbol
  side := fill.side
  quantity := fill.quantity
  entryPrice := (fill.notional + fill.tradeCost) / fill.quantity
  markPrice := none
  priceStatus := .missing
  notional := fill.notional + fill.tradeCost
  realizedPnl := 0
  unrealizedPnl := 0
  status := .open
  openedAt := fill.filledAt
  closedAt := none
  strategyId := fill.strategyId
  signalId := fill.signalId
  riskDecisionId := fill.riskDecisionId
  orderId := some fill.orderId
  updatedAt := fill.filledAt

def buyJournalEntries (account : PaperAccount) (existing : Bool) (position : PaperPosition)
    (fill : PaperFill) (summary : PaperPnlSummary) : List PaperTradeJournalEntry :=
  let entry (eventType : String) (pnl : Option Decimal) : PaperTradeJournalEntry := {
    accountId := account.id
    positionId := some position.id
    orderId := some fill.orderId
    eventType := eventType
    symbol := some fill.symbol
    pnl := pnl
    createdAt := fill.filledAt }
  [entry "paper.fill.created" none,
   entry (if existing then "paper.position.updated" else "paper.position.opened")
     (some position.realizedPnl),
   entry "paper.equity.updated" (some summary.equity)]

/-- The position part of `open_position_from_buy`. -/
def nextPosition (freshId : Uuid) (account : PaperAccount)
    (existingPosition : Option PaperPosition) (fill : PaperFill) : Except Fault PaperPosition :=
  match existingPosition with
  | some current =>
    if current.quantity + fill.quantity ≤ 0 then
      .error (.message "paper position quantity must remain positive")
    else .ok (averagedPosition current fill)
  | none => .ok (openedPosition freshId account fill)

def openPositionFromBuy (freshId : Uuid) (account : PaperAccount)
    (existingPosition : Option PaperPosition) (fill : PaperFill) :
    Except Fault FillApplication :=
  if fill.quantity ≤ 0 then
    .error (.message "paper fill quantity must be greater than zero")
  else do
    let position ← nextPosition freshId account existingPosition fill
    let summary := rebuildAccountSummary account.initialEquity
      (account.realizedPnl - fill.tradeCost) position.unrealizedPnl
    let updated := account.withSummary summary fill.filledAt
    return {
      account := updated
      position := position
      fill := fill
      journalEntries := buyJournalEntries updated existingPosition.isSome position fill summary
      summary := summary }

def applyPaperOrderFill (freshId : Uuid) (account : PaperAccount)
    (existingPosition : Option PaperPosition) (fill : PaperFill) :
    Except Fault FillApplication :=
  match fill.side with
  | .long => openPositionFromBuy freshId account existingPosition fill

def closePosition (account : PaperAccount) (position : PaperPosition)
    (exitPrice quantity : Decimal) (closedAt : DateTime) (feesAndSlippage : Decimal) :
    Except Fault (PaperAccount × PaperPosition × PaperPnlSummary) :=
  if quantity ≤ 0 ∨ quantity > position.quantity then
    .error (.message "close quantity must be positive and no larger than open quantity")
  else
    let realizedPnl := computeRealizedPnl position.side position.entryPrice exitPrice quantity
      feesAndSlippage
    let remainingQuantity := position.quantity - quantity
    let updatedPosition := { position with
      quantity := remainingQuantity
      markPrice := some exitPrice
      priceStatus := .live
      realizedPnl := position.realizedPnl + realizedPnl
      unrealizedPnl := if remainingQuantity = 0 then 0 else
        computeUnrealizedPnl position.side position.entryPrice (some exitPrice) remainingQuantity
      status := if remainingQuantity = 0 then .closed else .open
      closedAt := if remainingQuantity = 0 then some closedAt else none
      updatedAt := closedAt }
    let summary := rebuildAccountSummary account.initialEquity
      (account.realizedPnl + realizedPnl) updatedPosition.unrealizedPnl
    .ok (account.withSummary summary closedAt, updatedPosition, summary)

def computeRealizedPnlForClose (position : PaperPosition) (exitPrice quantity fee
    slippageCost : Decimal) : Except Fault Decimal :=
  if position.status ≠ .open then .error (.message "paper position must be open to close")
  else if quantity ≤ 0 ∨ quantity ≠ position.quantity then
    .error (.message "paper position close quantity must exactly match the open quantity in MVP")
  else if exitPrice ≤ 0 then
    .error (.message "paper close exit price must be greater than zero")
  else if fee < 0 ∨ slippageCost < 0 then
    .error (.message "paper close fee and slippage must be non-negative")
  else .ok (computeRealizedPnl position.side position.entryPrice exitPrice quantity
    (fee + slippageCost))

/-- What the caller of a market close supplies besides account and position. -/
structure MarketClose where
  orderId : Uuid
  closeFillId : Uuid
  exitPrice : Decimal
  fee : Decimal
  slippageCost : Decimal
  closedAt : DateTime

def createClosingPaperFill (account : PaperAccount) (position : PaperPosition)
    (close : MarketClose) : Except Fault PaperFill :=
  if position.status ≠ .open then
    .error (.message "paper position must be open to create a closing fill")
  else .ok {
    id := close.closeFillId
    accountId := account.id
    orderId := close.orderId
    positionId := some position.id
    symbol := position.symbol
    side := position.side
    price := close.exitPrice
    quantity := position.quantity
    notional := close.exitPrice * position.quantity
    fee := close.fee
    slippageCost := close.slippageCost
    filledAt := close.closedAt
    strategyId := position.strategyId
    signalId := position.signalId
    riskDecisionId := position.riskDecisionId }

def closeJournalEntries (account : PaperAccount) (position : PaperPosition) (close : MarketClose)
    (realizedPnl : Decimal) (summary : PaperPnlSummary) : List PaperTradeJournalEntry :=
  let entry (eventType : String) (pnl : Decimal) : PaperTradeJournalEntry := {
    accountId := account.id
    positionId := some position.id
    orderId := some close.orderId
    eventType := eventType
    symbol := some position.symbol
    pnl := some pnl
    createdAt := close.closedAt }
  [entry "paper.fill.created" realizedPnl, entry "paper.position.closed" realizedPnl,
   entry "paper.equity.updated" summary.equity]

def closePositionMarketSimulated (account : PaperAccount) (position : PaperPosition)
    (close : MarketClose) : Except Fault ClosePositionApplication := do
  let fill ← createClosingPaperFill account position close
  let realizedPnl ← computeRealizedPnlForClose position close.exitPrice position.quantity
    close.fee close.slippageCost
  let (updatedAccount, updatedPosition, summary) ← closePosition account position
    close.exitPrice position.quantity close.closedAt (close.fee + close.slippageCost)
  return {
    account := updatedAccount
    position := updatedPosition
    fill := fill
    snapshot := {
      accountId := account.id
      equity := summary.equity
      realizedPnl := summary.realizedPnl
      unrealizedPnl := summary.unrealizedPnl
      drawdownPct := summary.drawdownPct
      snapshotAt := close.closedAt }
    journalEntries := closeJournalEntries account position close realizedPnl summary
    summary := summary
    closeResult := {
      positionId := position.id
      accountId := account.id
      symbol := position.symbol
      quantity := position.quantity
      entryPrice := position.entryPrice
      exitPrice := close.exitPrice
      realizedPnl := realizedPnl
      fee := close.fee
      slippageCost := close.slippageCost
      closedAt := close.closedAt
      closeFillId := close.closeFillId } }

structure PaperMarkPriceInput where
  symbol : String
  markPrice : Option Decimal
  priceStatus : PaperPriceStatus

structure PaperMarkToMarketResult where
  positions : List PaperPosition
  summary : PaperPnlSummary
  snapshot : PaperEquitySnapshot
  missingSymbols : List String

def markedPosition (prices : List PaperMarkPriceInput) (snapshotAt : DateTime)
    (position : PaperPosition) : PaperPosition :=
  match prices.find? fun item => item.symbol = position.symbol with
  | some price => { position with
      markPrice := price.markPrice
      priceStatus := price.priceStatus
      unrealizedPnl := computeUnrealizedPnl position.side position.entryPrice price.markPrice
        position.quantity
      updatedAt := snapshotAt }
  | none => { position with
      markPrice := none
      priceStatus := .missing
      unrealizedPnl := 0
      updatedAt := snapshotAt }

def isUnpriced (prices : List PaperMarkPriceInput) (position : PaperPosition) : Bool :=
  match prices.find? fun item => item.symbol = position.symbol with
  | some price => price.markPrice.isNone
  | none => true

def markPositionsToMarket (account : PaperAccount) (positions : List PaperPosition)
    (prices : List PaperMarkPriceInput) (snapshotAt : DateTime) : PaperMarkToMarketResult :=
  let updatedPositions := positions.map (markedPosition prices snapshotAt)
  let summary := rebuildAccountSummary account.initialEquity account.realizedPnl
    (updatedPositions.map (·.unrealizedPnl)).sum
  { positions := updatedPositions
    summary := summary
    snapshot := {
      accountId := account.id
      equity := summary.equity
      realizedPnl := summary.realizedPnl
      unrealizedPnl := summary.unrealizedPnl
      drawdownPct := computeDrawdown summary.equity summary.peakEquity
      snapshotAt := snapshotAt }
    missingSymbols := (positions.filter (isUnpriced prices)).map (·.symbol) }

theorem markedPosition_symbol (prices : List PaperMarkPriceInput) (snapshotAt : DateTime)
    (position : PaperPosition) :
    (markedPosition prices snapshotAt position).symbol = position.symbol := by
  unfold markedPosition
  split
  · rfl
  · rfl

section Specifications
variable {freshId : Uuid} {account : PaperAccount} {position : PaperPosition}
  {existing : Option PaperPosition} {fill : PaperFill} {close : MarketClose}

/-- The position after a buy fill that is accepted. -/
def boughtPosition (freshId : Uuid) (account : PaperAccount) (existing : Option PaperPosition)
    (fill : PaperFill) : PaperPosition :=
  match existing with
  | some current => averagedPosition current fill
  | none => openedPosition freshId account fill

def buySummary (freshId : Uuid) (account : PaperAccount) (existing : Option PaperPosition)
    (fill : PaperFill) : PaperPnlSummary :=
  rebuildAccountSummary account.initialEquity (account.realizedPnl - fill.tradeCost)
    (boughtPosition freshId account existing fill).unrealizedPnl

/-- Everything an accepted buy fill produces. -/
def buyApplication (freshId : Uuid) (account : PaperAccount) (existing : Option PaperPosition)
    (fill : PaperFill) : FillApplication :=
  let summary := buySummary freshId account existing fill
  let updated := account.withSummary summary fill.filledAt
  { account := updated
    position := boughtPosition freshId account existing fill
    fill := fill
    journalEntries := buyJournalEntries updated existing.isSome
      (boughtPosition freshId account existing fill) fill summary
    summary := summary }

theorem openPositionFromBuy_eq_ok {application : FillApplication} :
    openPositionFromBuy freshId account existing fill = .ok application ↔ 0 < fill.quantity ∧
        (∀ current, existing = some current → 0 < current.quantity + fill.quantity) ∧
        application = buyApplication freshId account existing fill := by
  unfold openPositionFromBuy
  by_cases hQuantity : fill.quantity ≤ 0
  · simp [hQuantity, not_lt.mpr hQuantity]
  rw [if_neg hQuantity, bind_eq_ok]
  unfold nextPosition
  cases existing with
  | none =>
    simp only [Except.ok.injEq, pure_eq_ok, exists_eq_left', not_le.mp hQuantity,
      reduceCtorEq, IsEmpty.forall_iff, implies_true, true_and]
    exact eq_comm
  | some current =>
    by_cases hTotal : current.quantity + fill.quantity ≤ 0
    · simp [hTotal, not_lt.mpr hTotal]
    · simp only [if_neg hTotal, Except.ok.injEq, pure_eq_ok, exists_eq_left',
        not_le.mp hQuantity, Option.some.injEq, forall_eq', not_le.mp hTotal, true_and]
      exact eq_comm

theorem applyPaperOrderFill_eq : applyPaperOrderFill freshId account existing fill =
    openPositionFromBuy freshId account existing fill := by
  unfold applyPaperOrderFill
  cases fill.side
  rfl

/-- The realized profit of closing the whole position. -/
def realizedOnClose (position : PaperPosition) (close : MarketClose) : Decimal :=
  (close.exitPrice - position.entryPrice) * position.quantity - (close.fee + close.slippageCost)

def closedPosition (position : PaperPosition) (close : MarketClose) : PaperPosition :=
  { position with
    quantity := 0
    markPrice := some close.exitPrice
    priceStatus := .live
    realizedPnl := position.realizedPnl + realizedOnClose position close
    unrealizedPnl := 0
    status := .closed
    closedAt := some close.closedAt
    updatedAt := close.closedAt }

def closeSummary (account : PaperAccount) (position : PaperPosition) (close : MarketClose) :
    PaperPnlSummary :=
  rebuildAccountSummary account.initialEquity
    (account.realizedPnl + realizedOnClose position close) 0

variable {application : ClosePositionApplication}

theorem closePositionMarketSimulated_ok
    (hClose : closePositionMarketSimulated account position close = .ok application) :
    position.status = .open ∧ 0 < position.quantity ∧ application.account =
        account.withSummary (closeSummary account position close) close.closedAt ∧
      application.position = closedPosition position close ∧
      application.journalEntries = closeJournalEntries account position close
        (realizedOnClose position close) (closeSummary account position close) ∧
      application.summary = closeSummary account position close ∧
      application.closeResult.realizedPnl = realizedOnClose position close := by
  simp only [closePositionMarketSimulated, bind_eq_ok, pure_eq_ok,
    createClosingPaperFill, computeRealizedPnlForClose, closePosition] at hClose
  obtain ⟨fill, hFill, realized, hRealized, ⟨updated, remaining, summary⟩, hUpdated, rfl⟩ := hClose
  split at hFill
  · cases hFill
  rename_i hOpen
  have hQuantity : ¬(position.quantity ≤ 0) := by
    intro hZero
    simp [hZero] at hUpdated
  rw [if_neg (by simpa using hQuantity)] at hUpdated
  split at hRealized
  · cases hRealized
  split at hRealized
  · cases hRealized
  split at hRealized
  · cases hRealized
  split at hRealized
  · cases hRealized
  have hGain : realized = realizedOnClose position close := by
    rw [← Except.ok.inj hRealized]
    cases position.side
    rfl
  have hLong (value : Decimal) : computeRealizedPnl position.side position.entryPrice
      close.exitPrice position.quantity value =
        (close.exitPrice - position.entryPrice) * position.quantity - value := by
    cases position.side
    rfl
  simp only [sub_self, if_true, hLong, Except.ok.injEq, Prod.mk.injEq] at hUpdated
  obtain ⟨rfl, rfl, rfl⟩ := hUpdated
  exact ⟨not_not.mp hOpen, not_le.mp hQuantity, rfl, rfl, by rw [hGain]; rfl, rfl, hGain⟩

theorem closePositionMarketSimulated_of_same_id {other : PaperAccount}
    (hSame : other.id = account.id)
    (hClose : closePositionMarketSimulated account position close = .ok application) :
    ∃ moved, closePositionMarketSimulated other position close = .ok moved ∧
      moved.fill = application.fill ∧
      moved.closeResult.closedAt = application.closeResult.closedAt := by
  simp only [closePositionMarketSimulated, bind_eq_ok, pure_eq_ok,
    createClosingPaperFill, closePosition] at hClose
  obtain ⟨fill, hFill, realized, hRealized, ⟨updated, remaining, summary⟩, hUpdated, rfl⟩ := hClose
  have hQuantity : ¬(position.quantity ≤ 0 ∨ position.quantity > position.quantity) := by
    intro hRefused
    rw [if_pos hRefused] at hUpdated
    cases hUpdated
  simp only [closePositionMarketSimulated, bind_eq_ok, pure_eq_ok,
    createClosingPaperFill, closePosition, if_neg hQuantity, hSame]
  exact ⟨_, ⟨fill, hFill, realized, hRealized, _, rfl, rfl⟩, rfl, rfl⟩

theorem closePositionMarketSimulated_succeeds (account : PaperAccount)
    (hOpen : position.status = .open)
    (hQuantity : 0 < position.quantity) (hExit : 0 < close.exitPrice) (hFee : 0 ≤ close.fee)
    (hSlippage : 0 ≤ close.slippageCost) :
    ∃ application, closePositionMarketSimulated account position close = .ok application := by
  simp [closePositionMarketSimulated, createClosingPaperFill, computeRealizedPnlForClose,
    closePosition, hOpen, not_le.mpr hQuantity, not_le.mpr hExit,
    not_lt.mpr hFee, not_lt.mpr hSlippage, bind, Except.bind, pure, Except.pure]

end Specifications

end AegisQuant.Paper
