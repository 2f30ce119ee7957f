import AegisQuant.Core.Identifiers
import AegisQuant.Paper.Orders

/-! The paper books in the database: fills of stored orders applied to the
open position of their symbol, and the transaction that closes a position. -/
namespace AegisQuant.Paper
open Fallible

def defaultPaperAccountInitialEquity : Decimal := 1000000

def createDefaultPaperAccountIfMissing (existing : Option PaperAccount) (freshId : Uuid)
    (now : DateTime) : PaperAccount :=
  match existing with
  | some account => account
  | none => {
      id := freshId
      initialEquity := defaultPaperAccountInitialEquity
      currentEquity := defaultPaperAccountInitialEquity
      realizedPnl := 0
      unrealizedPnl := 0
      status := .active
      createdAt := now
      updatedAt := now }

/-- The identifiers drawn while a fill is accounted. -/
structure FillIds where
  account : Uuid
  fill : Uuid
  position : Uuid

def ensureDefaultPaperAccount (db : Database) (freshId : Uuid) (now : DateTime) :
    Database × PaperAccount :=
  let account := createDefaultPaperAccountIfMissing db.paperAccount freshId now
  ({ db with paperAccount := some account }, account)

def isOpenPositionOf (accountId : Uuid) (symbol : String) (side : PositionSide)
    (record : PaperPositionRecord) : Bool :=
  record.accountId = accountId && record.symbol = symbol && record.side = side.asStr &&
    record.status = "open"

def getOpenPaperPosition (db : Database) (accountId : Uuid) (symbol : String)
    (side : PositionSide) : Option PaperPositionRecord :=
  db.paperPositions.rows.find? (isOpenPositionOf accountId symbol side)

def openPaperPosition (db : Database) (accountId : Uuid) (symbol : String) :
    Except CoreError (Option PaperPosition) :=
  match getOpenPaperPosition db accountId symbol .long with
  | none => .ok none
  | some record => (paperPositionFromRecord record).map some

/-- A conflicting row keeps its account, symbol, side and opening time. -/
def mergePosition (record current : PaperPositionRecord) : PaperPositionRecord :=
  { record with
    id := current.id
    accountId := current.accountId
    symbol := current.symbol
    side := current.side
    openedAt := current.openedAt }

theorem mergePosition_id (record current : PaperPositionRecord) :
    (mergePosition record current).id = current.id := rfl

def upsertPaperPosition (positions : Table PaperPositionRecord.id) (position : PaperPosition) :
    Table PaperPositionRecord.id :=
  positions.upsert position.toRecord (mergePosition position.toRecord)
    (mergePosition_id position.toRecord)

/-- A second fill of the same order only refreshes its position. -/
def mergeFill (fill current : PaperFill) : PaperFill :=
  { current with positionId := fill.positionId }

theorem mergeFill_orderId (fill current : PaperFill) :
    (mergeFill fill current).orderId = current.orderId := rfl

def insertPaperFill (fills : Table PaperFill.orderId) (fill : PaperFill) :
    Table PaperFill.orderId :=
  fills.upsert fill (mergeFill fill) (mergeFill_orderId fill)

def recordFillApplication (db : Database) (application : FillApplication) : Database :=
  { db with
    paperPositions := upsertPaperPosition db.paperPositions application.position
    paperFills := insertPaperFill db.paperFills
      { application.fill with positionId := some application.position.id }
    paperAccount := some application.account
    paperTradeJournal := db.paperTradeJournal ++ application.journalEntries
    paperEquitySnapshots := db.paperEquitySnapshots ++ [{
      accountId := application.account.id
      equity := application.summary.equity
      realizedPnl := application.summary.realizedPnl
      unrealizedPnl := application.summary.unrealizedPnl
      drawdownPct := application.summary.drawdownPct
      snapshotAt := application.fill.filledAt }] }

/-- The price falls back from the fill to the limit and at last to the
quantity of the order. -/
def fillPrice (order : OrderRecord) : Decimal :=
  ((order.filledPrice.or order.avgFillPrice).or order.limitPrice).getD order.quantity

def paperFillOf (ids : FillIds) (now : DateTime) (account : PaperAccount)
    (existing : Option PaperPosition) (order : OrderRecord) : PaperFill where
  id := ids.fill
  accountId := account.id
  orderId := order.id
  positionId := existing.map (·.id)
  symbol := order.symbol
  side := .long
  price := fillPrice order
  quantity := order.filledQty
  notional := fillPrice order * order.filledQty
  fee := 0
  slippageCost := 0
  filledAt := order.filledAt.getD now
  strategyId := order.strategyId
  signalId := order.signalId
  riskDecisionId := some order.riskDecisionId

def persistPaperFillAccounting (db : Database) (ids : FillIds) (now : DateTime)
    (order : OrderRecord) : Database × Except Fault (Option PaperAccount) :=
  if order.executionState ≠ "PAPER_FILLED" then (db, .ok none)
  else
    let (db, account) := ensureDefaultPaperAccount db ids.account now
    match openPaperPosition db account.id order.symbol with
    | .error err => (db, .error (.core err))
    | .ok existing =>
      match applyPaperOrderFill ids.position account existing
          (paperFillOf ids now account existing order) with
      | .error fault => (db, .error fault)
      | .ok application =>
        (recordFillApplication db application, .ok (some application.account))

variable (db : Database)

theorem persistPaperFillAccounting_frame (ids : FillIds) (now : DateTime) (order : OrderRecord) :
    ∃ account positions fills journal snapshots,
      (persistPaperFillAccounting db ids now order).1 = { db with
        paperAccount := account
        paperPositions := positions
        paperFills := fills
        paperTradeJournal := journal
        paperEquitySnapshots := snapshots } := by
  unfold persistPaperFillAccounting
  by_cases hState : order.executionState ≠ "PAPER_FILLED"
  · rw [if_pos hState]
    exact ⟨_, _, _, _, _, rfl⟩
  · rw [if_neg hState]
    simp only
    split
    · exact ⟨_, _, _, _, _, rfl⟩
    · split
      · exact ⟨_, _, _, _, _, rfl⟩
      · exact ⟨_, _, _, _, _, rfl⟩

/-- A filled order opens a position if the account has none open in its
symbol, and is else averaged into the one found, if it is booked at all. -/
theorem persistPaperFillAccounting_positions (ids : FillIds) (now : DateTime) {order : OrderRecord}
    (hState : order.executionState = "PAPER_FILLED") (hQuantity : 0 < order.filledQty) :
    (getOpenPaperPosition db (ensureDefaultPaperAccount db ids.account now).2.id order.symbol .long =
        none ∧
      ∃ position, position.status = .open ∧ position.id = ids.position ∧
        (persistPaperFillAccounting db ids now order).1.paperPositions =
          upsertPaperPosition db.paperPositions position) ∨
    ∃ record, getOpenPaperPosition db (ensureDefaultPaperAccount db ids.account now).2.id
        order.symbol .long = some record ∧
      ((persistPaperFillAccounting db ids now order).1.paperPositions = db.paperPositions ∨
        ∃ position, position.status = .open ∧ position.id = record.id ∧
          (persistPaperFillAccounting db ids now order).1.paperPositions =
            upsertPaperPosition db.paperPositions position) := by
  have hFound : getOpenPaperPosition (ensureDefaultPaperAccount db ids.account now).1
      (ensureDefaultPaperAccount db ids.account now).2.id order.symbol .long =
        getOpenPaperPosition db (ensureDefaultPaperAccount db ids.account now).2.id order.symbol
          .long := rfl
  simp only [persistPaperFillAccounting, hState, ne_eq, not_true_eq_false, if_false,
    openPaperPosition, hFound, applyPaperOrderFill_eq]
  cases getOpenPaperPosition db (ensureDefaultPaperAccount db ids.account now).2.id order.symbol
      .long with
  | none =>
    have hBuy (account : PaperAccount) :
        openPositionFromBuy ids.position account none (paperFillOf ids now account none order) =
          .ok (buyApplication ids.position account none (paperFillOf ids now account none order)) :=
      openPositionFromBuy_eq_ok.mpr ⟨hQuantity, by simp, rfl⟩
    simp only [hBuy]
    exact .inl ⟨trivial, openedPosition ids.position _ _, rfl, rfl, rfl⟩
  | some record =>
    refine .inr ⟨record, rfl, ?_⟩
    cases hRead : paperPositionFromRecord record with
    | error err =>
      simp only [hRead, Except.map]
      exact .inl rfl
    | ok current =>
      simp only [hRead, Except.map]
      split
      · exact .inl rfl
      · rename_i application hApply
        obtain ⟨-, -, rfl⟩ := openPositionFromBuy_eq_ok.mp hApply
        have hId : current.id = record.id := paperPositionFromRecord_id hRead
        exact .inr ⟨averagedPosition current _, rfl, hId, rfl⟩

/-- The handler of a direct paper order, from the parsed intent on. -/
def createOrder (db : Database) (ids : FillIds) (now : DateTime) (intent : OrderIntent) :
    Database × Except CreateOrderError OrderRecord :=
  match createPaperOrder db now intent with
  | .error err => (db, .error err)
  | .ok (stored, outcome) =>
    ((persistPaperFillAccounting stored ids now outcome.order).1, .ok outcome.order)

inductive PaperCloseValidationIssue where
  | positionNotFound
  | wrongConfirmationText
  | positionNotOpen
  | alreadyClosed
  | missingMarketPrice
  | staleMarketPrice
  deriving DecidableEq, Repr

inductive ClosePaperPositionError where
  | validation (issue : PaperCloseValidationIssue)
  | unexpected (fault : Fault)
  | order (error : CreateOrderError)

structure PaperClosePositionRequest where
  positionId : Uuid
  confirmationText : String
  allowStalePrice : Bool

structure MarkTick where
  price : Decimal
  receivedAt : DateTime

def expectedPaperCloseConfirmation (symbol : String) : String :=
  "CLOSE " ++ toAsciiUppercase (trim symbol)

def markPriceStale (receivedAt now staleThreshold : Int) : Bool := now - receivedAt > staleThreshold

structure CloseIds where
  account : Uuid
  order : Uuid
  closeFill : Uuid
  correlation : Uuid

def closeOrderRow (ids : CloseIds) (position : PaperPosition) (fill : PaperFill)
    (closedAt : DateTime) : OrderRow where
  id := fill.orderId
  correlationId := ids.correlation
  riskDecisionId := ids.closeFill
  idempotencyKey := "paper-close:" ++ position.id.toString
  symbol := position.symbol
  side := "SELL"
  quantity := position.quantity
  limitPrice := some fill.price
  status := "FILLED"
  executionState := "PAPER_FILLED"
  statusReason := none
  filledPrice := some fill.price
  submittedAt := some closedAt
  filledAt := some closedAt
  expiredAt := none
  expiresAt := none
  createdAt := closedAt
  updatedAt := closedAt

def optionalString : Option String → Value
  | some text => .string text
  | none => .null

def closeRiskDecision (ids : CloseIds) (position : PaperPosition) (fill : PaperFill)
    (closedAt : DateTime) : RiskDecisionRow where
  id := ids.closeFill
  correlationId := ids.correlation
  signalId := position.signalId
  decision := "APPROVED"
  rationale := .object [
    ("strategy_id", optionalString position.strategyId),
    ("symbol", .string position.symbol),
    ("side", .string "SELL"),
    ("reason", .string "paper_position_close"),
    ("approved_notional", .number fill.notional),
    ("close_position_id", .string position.id.toString)]
  decidedAt := closedAt

def closeUpdate (updated : PaperPosition) (orderId : Uuid) (current : PaperPositionRecord) :
    PaperPositionRecord :=
  { current with
    quantity := updated.quantity
    markPrice := updated.markPrice
    priceStatus := updated.priceStatus
    notional := updated.notional
    realizedPnl := updated.realizedPnl
    unrealizedPnl := updated.unrealizedPnl
    status := updated.status.asStr
    closedAt := updated.closedAt
    orderId := some orderId
    updatedAt := updated.updatedAt }

theorem closeUpdate_id (updated : PaperPosition) (orderId : Uuid) (current : PaperPositionRecord) :
    (closeUpdate updated orderId current).id = current.id := rfl

def insertRiskDecision (db : Database) (row : RiskDecisionRow) : Except Fault Database :=
  match db.riskDecisions.insert? row with
  | none => .error (.message "duplicate risk decision id")
  | some riskDecisions => .ok { db with riskDecisions := riskDecisions }

theorem insertRiskDecision_eq_ok {db decided : Database} {row : RiskDecisionRow} :
    insertRiskDecision db row = .ok decided ↔
      ∃ riskDecisions, db.riskDecisions.insert? row = some riskDecisions ∧
        decided = { db with riskDecisions := riskDecisions } := by
  unfold insertRiskDecision
  cases db.riskDecisions.insert? row with
  | none => simp
  | some riskDecisions => simp [eq_comm]

def closePaperPositionTransactional (db : Database) (ids : CloseIds) (position : PaperPosition)
    (application : ClosePositionApplication) : Except ClosePaperPositionError Database := do
  let closedAt := application.closeResult.closedAt
  let decided ← (insertRiskDecision db
    (closeRiskDecision ids position application.fill closedAt)).mapError .unexpected
  let ordered ← (insertOrder decided
    (closeOrderRow ids position application.fill closedAt)).mapError .order
  let fills ← match ordered.paperFills.insert?
      { application.fill with riskDecisionId := some ids.closeFill } with
    | none => .error (.unexpected (.message "duplicate paper fill order id"))
    | some fills => .ok fills
  return { ordered with
    paperPositions := ordered.paperPositions.modify application.position.id
      (closeUpdate application.position application.fill.orderId)
      (closeUpdate_id application.position application.fill.orderId)
    paperAccount := some application.account
    paperFills := fills
    paperTradeJournal := ordered.paperTradeJournal ++ application.journalEntries
    paperEquitySnapshots := ordered.paperEquitySnapshots ++ [application.snapshot] }

section
variable {db closed : Database} {ids : CloseIds} {position : PaperPosition}
  {application : ClosePositionApplication}

/-- What an accepted close writes: its decision, its order, and the books. -/
theorem closePaperPositionTransactional_eq_ok :
    closePaperPositionTransactional db ids position application = .ok closed ↔
      ∃ riskDecisions orders fills,
        db.riskDecisions.insert? (closeRiskDecision ids position application.fill
          application.closeResult.closedAt) = some riskDecisions ∧
        (∀ other ∈ db.orders.rows, other.id ≠ application.fill.orderId) ∧
        db.orders.insert? (closeOrderRow ids position application.fill
          application.closeResult.closedAt) = some orders ∧
        db.paperFills.insert? { application.fill with riskDecisionId := some ids.closeFill } =
          some fills ∧
        closed = { db with
          riskDecisions := riskDecisions
          orders := orders
          paperPositions := db.paperPositions.modify application.position.id
            (closeUpdate application.position application.fill.orderId)
            (closeUpdate_id application.position application.fill.orderId)
          paperAccount := some application.account
          paperFills := fills
          paperTradeJournal := db.paperTradeJournal ++ application.journalEntries
          paperEquitySnapshots := db.paperEquitySnapshots ++ [application.snapshot] } := by
  simp only [closePaperPositionTransactional, bind_eq_ok, mapError_eq_ok]
  constructor
  · rintro ⟨decided, hDecided, ordered, hOrdered, hWrite⟩
    obtain ⟨riskDecisions, hInsert, rfl⟩ := insertRiskDecision_eq_ok.mp hDecided
    obtain ⟨hId, orders, hOrders, rfl⟩ := insertOrder_eq_ok.mp hOrdered
    split at hWrite
    · cases hWrite
    · rename_i fills hFills
      cases hWrite
      exact ⟨riskDecisions, orders, fills, hInsert, hId, hOrders, hFills, rfl⟩
  · rintro ⟨riskDecisions, orders, fills, hInsert, hId, hOrders, hFills, rfl⟩
    refine ⟨_, insertRiskDecision_eq_ok.mpr ⟨riskDecisions, hInsert, rfl⟩, _,
      insertOrder_eq_ok.mpr ⟨hId, orders, hOrders, rfl⟩, ?_⟩
    simp only [hFills]
    rfl

theorem closePaperPositionTransactional_ok
    (hClose : closePaperPositionTransactional db ids position application = .ok closed) :
    ∃ riskDecisions orders fills,
      db.riskDecisions.insert? (closeRiskDecision ids position application.fill
        application.closeResult.closedAt) = some riskDecisions ∧
      db.orders.insert? (closeOrderRow ids position application.fill
        application.closeResult.closedAt) = some orders ∧
      closed = { db with
        riskDecisions := riskDecisions
        orders := orders
        paperPositions := db.paperPositions.modify application.position.id
          (closeUpdate application.position application.fill.orderId)
          (closeUpdate_id application.position application.fill.orderId)
        paperAccount := some application.account
        paperFills := fills
        paperTradeJournal := db.paperTradeJournal ++ application.journalEntries
        paperEquitySnapshots := db.paperEquitySnapshots ++ [application.snapshot] } := by
  obtain ⟨riskDecisions, orders, fills, hInsert, -, hOrders, -, hClosed⟩ :=
    closePaperPositionTransactional_eq_ok.mp hClose
  exact ⟨riskDecisions, orders, fills, hInsert, hOrders, hClosed⟩

end

def closeOpenPosition (db : Database) (ids : CloseIds) (now : DateTime) (account : PaperAccount)
    (position : PaperPosition) (markPrice : Decimal) :
    Except ClosePaperPositionError (Database × PaperClosePositionResult) := do
  let application ← (closePositionMarketSimulated account position {
    orderId := ids.order
    closeFillId := ids.closeFill
    exitPrice := markPrice
    fee := 0
    slippageCost := 0
    closedAt := now }).mapError .unexpected
  let closed ← closePaperPositionTransactional db ids position application
  return (closed, application.closeResult)

def validateClose (now staleThreshold : Int) (mark : Option MarkTick)
    (request : PaperClosePositionRequest) (position : PaperPosition) :
    Except PaperCloseValidationIssue MarkTick :=
  if request.confirmationText ≠ expectedPaperCloseConfirmation position.symbol then
    .error .wrongConfirmationText
  else if position.status = .closed then .error .alreadyClosed
  else match mark with
    | none => .error .missingMarketPrice
    | some tick =>
      if markPriceStale tick.receivedAt now staleThreshold && !request.allowStalePrice then
        .error .staleMarketPrice
      else .ok tick

/-- `mark` is the latest tick of the symbol. A close that is refused, or that
finds the position already closed, writes nothing but the default account. -/
def closePaperPosition (db : Database) (ids : CloseIds) (now staleThreshold : Int)
    (mark : String → Option MarkTick) (request : PaperClosePositionRequest) :
    Database × Except ClosePaperPositionError PaperClosePositionResult :=
  let (db, account) := ensureDefaultPaperAccount db ids.account now
  match db.paperPositions.find? request.positionId with
  | none => (db, .error (.validation .positionNotFound))
  | some record =>
    if record.accountId ≠ account.id then (db, .error (.validation .positionNotFound))
    else match paperPositionFromRecord record with
      | .error err => (db, .error (.unexpected (.core err)))
      | .ok position =>
        match validateClose now staleThreshold (mark position.symbol) request position with
        | .error issue => (db, .error (.validation issue))
        | .ok tick =>
          match closeOpenPosition db ids now account position tick.price with
          | .error err => (db, .error err)
          | .ok (closed, result) => (closed, .ok result)

theorem closePaperPosition_cases (ids : CloseIds) (now staleThreshold : Int)
    (mark : String → Option MarkTick) (request : PaperClosePositionRequest) :
    (closePaperPosition db ids now staleThreshold mark request).1 =
      (ensureDefaultPaperAccount db ids.account now).1 ∨
    ∃ position application closed, application.position.status = .closed ∧
      closePaperPositionTransactional (ensureDefaultPaperAccount db ids.account now).1 ids position
        application = .ok closed ∧
      (closePaperPosition db ids now staleThreshold mark request).1 = closed := by
  unfold closePaperPosition
  simp only
  split
  · exact .inl rfl
  split
  · exact .inl rfl
  split
  · exact .inl rfl
  split
  · exact .inl rfl
  split
  · exact .inl rfl
  rename_i closed result hClose
  simp only [closeOpenPosition, bind_eq_ok, mapError_eq_ok, pure_eq_ok, Prod.mk.injEq] at hClose
  obtain ⟨application, hApply, written, hWrite, rfl, -⟩ := hClose
  obtain ⟨-, -, -, hClosed, -⟩ := closePositionMarketSimulated_ok hApply
  exact .inr ⟨_, application, written, by rw [hClosed]; rfl, hWrite, rfl⟩

end AegisQuant.Paper
