import AegisQuant.Paper.Books

/-! The two calls on the paper books as the database statements they consist
of. A fill reads the account and its position and writes them back with
absolute values, one statement at a time; a close reads in the same way and
writes in one transaction. -/
namespace AegisQuant.Paper
open Fallible

structure FillCall where
  ids : FillIds
  now : DateTime
  order : OrderRecord

structure CloseCall where
  ids : CloseIds
  now : DateTime
  staleThreshold : Int
  mark : String → Option MarkTick
  request : PaperClosePositionRequest

inductive BooksCall where
  | fill (call : FillCall)
  | close (call : CloseCall)

structure ComputedClose where
  account : PaperAccount
  record : PaperPositionRecord
  position : PaperPosition
  application : ClosePositionApplication

inductive CallPhase where
  | waiting
  | accountRead (call : BooksCall) (account : PaperAccount)
  | accountEnsured (call : BooksCall) (account : PaperAccount)
  | fillComputed (call : FillCall) (account : PaperAccount) (existing : Option PaperPosition)
      (application : FillApplication)
  | positionWritten (call : FillCall) (account : PaperAccount) (application : FillApplication)
  | fillWritten (call : FillCall) (account : PaperAccount) (application : FillApplication)
  | accountWritten (call : FillCall) (application : FillApplication)
      (pendingEntries : List PaperTradeJournalEntry)
  | closeComputed (call : CloseCall) (computed : ComputedClose)
  | succeeded (call : BooksCall)
  | failed

/-- `INSERT … ON CONFLICT (id) DO UPDATE`, which keeps `created_at`; the name
of the account is unique too. -/
def insertPaperAccount (stored : Option PaperAccount) (account : PaperAccount) :
    Option PaperAccount :=
  match stored with
  | none => some account
  | some current =>
    if current.id = account.id then some { account with createdAt := current.createdAt } else none

/-- The value of a position in `idx_paper_positions_open_unique`. -/
def openKey (record : PaperPositionRecord) : Option (Uuid × String × String) :=
  if record.status = "open" then some (record.accountId, record.symbol, record.side) else none

def upsertPaperPosition? (positions : Table PaperPositionRecord.id) (position : PaperPosition) :
    Option (Table PaperPositionRecord.id) :=
  if Table.Indexed openKey (upsertPaperPosition positions position).rows then
    some (upsertPaperPosition positions position)
  else none

def marketClose (call : CloseCall) (tick : MarkTick) : MarketClose where
  orderId := call.ids.order
  closeFillId := call.ids.closeFill
  exitPrice := tick.price
  fee := 0
  slippageCost := 0
  closedAt := call.now

def computeFill (db : Database) (account : PaperAccount) (call : FillCall) :
    Except Fault (Option PaperPosition × FillApplication) := do
  let existing ← (openPaperPosition db account.id call.order.symbol).mapError .core
  let application ← applyPaperOrderFill call.ids.position account existing
    (paperFillOf call.ids call.now account existing call.order)
  return (existing, application)

def computeClose (db : Database) (account : PaperAccount) (call : CloseCall) :
    Except ClosePaperPositionError ComputedClose := do
  let record ← ofOption (db.paperPositions.find? call.request.positionId)
    (.validation .positionNotFound)
  require (record.accountId = account.id) (.validation .positionNotFound)
  let position ← (paperPositionFromRecord record).mapError fun err => .unexpected (.core err)
  let tick ← (validateClose call.now call.staleThreshold (call.mark position.symbol) call.request
    position).mapError .validation
  let application ← (closePositionMarketSimulated account position
    (marketClose call tick)).mapError .unexpected
  return ⟨account, record, position, application⟩

def BooksCall.accountId : BooksCall → Uuid
  | .fill call => call.ids.account
  | .close call => call.ids.account

def BooksCall.now : BooksCall → DateTime
  | .fill call => call.now
  | .close call => call.now

/-- The first read. An order that is not filled needs no accounting. -/
def beginCall (db : Database) (call : BooksCall) : CallPhase :=
  let started := CallPhase.accountRead call
    (createDefaultPaperAccountIfMissing db.paperAccount call.accountId call.now)
  match call with
  | .fill fill => if fill.order.executionState ≠ "PAPER_FILLED" then .succeeded call else started
  | .close _ => started

def nextStatement (db : Database) : CallPhase → Database × CallPhase
  | .accountRead call account => match insertPaperAccount db.paperAccount account with
      | none => (db, .failed)
      | some stored => ({ db with paperAccount := some stored }, .accountEnsured call stored)
  | .accountEnsured (.fill call) account => match computeFill db account call with
      | .error _ => (db, .failed)
      | .ok (existing, application) => (db, .fillComputed call account existing application)
  | .accountEnsured (.close call) account => match computeClose db account call with
      | .error _ => (db, .failed)
      | .ok computed => (db, .closeComputed call computed)
  | .fillComputed call account _ application =>
    match upsertPaperPosition? db.paperPositions application.position with
    | none => (db, .failed)
    | some positions =>
      ({ db with paperPositions := positions }, .positionWritten call account application)
  | .positionWritten call account application =>
    let fill : PaperFill := { application.fill with positionId := some application.position.id }
    ({ db with paperFills := insertPaperFill db.paperFills fill },
      .fillWritten call account application)
  | .fillWritten call _ application =>
    match insertPaperAccount db.paperAccount application.account with
    | none => (db, .failed)
    | some stored =>
      ({ db with paperAccount := some stored },
        .accountWritten call application application.journalEntries)
  | .accountWritten call application (entry :: pending) =>
    ({ db with paperTradeJournal := db.paperTradeJournal ++ [entry] },
      .accountWritten call application pending)
  | .accountWritten call application [] =>
    let snapshot : PaperEquitySnapshot := {
      accountId := application.account.id
      equity := application.summary.equity
      realizedPnl := application.summary.realizedPnl
      unrealizedPnl := application.summary.unrealizedPnl
      drawdownPct := application.summary.drawdownPct
      snapshotAt := application.fill.filledAt }
    ({ db with paperEquitySnapshots := db.paperEquitySnapshots ++ [snapshot] },
      .succeeded (.fill call))
  | .closeComputed call computed =>
    match closePaperPositionTransactional db call.ids computed.position computed.application with
    | .error _ => (db, .failed)
    | .ok closed => (closed, .succeeded (.close call))
  | phase => (db, phase)

/-- The call alone, stopped after `count` statements. -/
def afterStatements (db : Database) (call : BooksCall) : Nat → Database × CallPhase
  | 0 => (db, beginCall db call)
  | count + 1 =>
    nextStatement (afterStatements db call count).1 (afterStatements db call count).2

/-- The tables a call leaves when it runs alone. -/
def runCall (db : Database) : BooksCall → Database
  | .fill call => (persistPaperFillAccounting db call.ids call.now call.order).1
  | .close call =>
    (closePaperPosition db call.ids call.now call.staleThreshold call.mark call.request).1

section Specifications
variable {db : Database} {account : PaperAccount}

variable {existing : Option PaperPosition} {application : FillApplication}

theorem computeFill_eq_ok {call : FillCall} :
    computeFill db account call = .ok (existing, application) ↔
      openPaperPosition db account.id call.order.symbol = .ok existing ∧ 0 < call.order.filledQty ∧
        (∀ current, existing = some current → 0 < current.quantity + call.order.filledQty) ∧
        application = buyApplication call.ids.position account existing
          (paperFillOf call.ids call.now account existing call.order) := by
  simp only [computeFill, bind_eq_ok, mapError_eq_ok, pure_eq_ok,
    applyPaperOrderFill_eq, openPositionFromBuy_eq_ok, Prod.mk.injEq]
  constructor
  · rintro ⟨_, hExisting, _, ⟨hQuantity, hTotal, rfl⟩, rfl, rfl⟩
    exact ⟨hExisting, hQuantity, hTotal, rfl⟩
  · rintro ⟨hExisting, hQuantity, hTotal, rfl⟩
    exact ⟨existing, hExisting, _, ⟨hQuantity, hTotal, rfl⟩, rfl, rfl⟩

theorem computeClose_eq_ok {call : CloseCall} {computed : ComputedClose} :
    computeClose db account call = .ok computed ↔
      db.paperPositions.find? call.request.positionId = some computed.record ∧
        computed.record.accountId = account.id ∧
        paperPositionFromRecord computed.record = .ok computed.position ∧
        computed.account = account ∧
        ∃ tick, validateClose call.now call.staleThreshold (call.mark computed.position.symbol)
            call.request computed.position = .ok tick ∧
          closePositionMarketSimulated account computed.position (marketClose call tick) =
            .ok computed.application := by
  simp only [computeClose, bind_eq_ok, mapError_eq_ok, pure_eq_ok,
    ofOption_eq_ok, require_eq_ok, decide_eq_true_eq]
  constructor
  · rintro ⟨record, hRecord, _, hAccount, position, hPosition, tick, hTick, application, hClose,
      rfl⟩
    exact ⟨hRecord, hAccount, hPosition, rfl, tick, hTick, hClose⟩
  · rintro ⟨hRecord, hAccount, hPosition, rfl, tick, hTick, hClose⟩
    exact ⟨computed.record, hRecord, (), hAccount, computed.position, hPosition, tick, hTick,
      computed.application, hClose, rfl⟩

theorem persistPaperFillAccounting_of_computeFill {call : FillCall}
    (hFilled : call.order.executionState = "PAPER_FILLED")
    (hAccount : db.paperAccount = some account)
    (hCompute : computeFill db account call = .ok (existing, application)) :
    persistPaperFillAccounting db call.ids call.now call.order =
      (recordFillApplication db application, .ok (some application.account)) := by
  obtain ⟨hExisting, hQuantity, hTotal, rfl⟩ := computeFill_eq_ok.mp hCompute
  have hApply := openPositionFromBuy_eq_ok.mpr (⟨hQuantity, hTotal, rfl⟩ :
    0 < (paperFillOf call.ids call.now account existing call.order).quantity ∧ _ ∧
      buyApplication call.ids.position account existing _ = _)
  have hEnsure : ensureDefaultPaperAccount db call.ids.account call.now = (db, account) := by
    simp only [ensureDefaultPaperAccount, createDefaultPaperAccountIfMissing, hAccount]
    rw [← hAccount]
  simp only [persistPaperFillAccounting, hFilled, ne_eq, not_true_eq_false, if_false, hEnsure,
    hExisting, applyPaperOrderFill_eq, hApply]

theorem closePaperPosition_of_computeClose {call : CloseCall} {computed : ComputedClose}
    {closed : Database} (hAccount : db.paperAccount = some account)
    (hCompute : computeClose db account call = .ok computed)
    (hClose : closePaperPositionTransactional db call.ids computed.position computed.application =
      .ok closed) :
    closePaperPosition db call.ids call.now call.staleThreshold call.mark call.request =
      (closed, .ok computed.application.closeResult) := by
  obtain ⟨hRecord, hOwner, hPosition, rfl, tick, hTick, hApply⟩ := computeClose_eq_ok.mp hCompute
  have hEnsure : ensureDefaultPaperAccount db call.ids.account call.now =
      (db, computed.account) := by
    simp only [ensureDefaultPaperAccount, createDefaultPaperAccountIfMissing, hAccount]
    rw [← hAccount]
  have hOpen : closeOpenPosition db call.ids call.now computed.account computed.position tick.price =
      .ok (closed, computed.application.closeResult) := by
    simp only [closeOpenPosition, bind_eq_ok, mapError_eq_ok, pure_eq_ok]
    exact ⟨computed.application, hApply, closed, hClose, rfl⟩
  simp only [closePaperPosition, hEnsure, hRecord, hOwner, ne_eq, not_true_eq_false, if_false,
    hPosition, hTick, hOpen]

end Specifications

end AegisQuant.Paper
