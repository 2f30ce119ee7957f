import AegisQuant.Library.Run
import AegisQuant.Paper.Books
import AegisQuant.Risk.Snapshot
import Mathlib.Algebra.Order.BigOperators.Group.List
import Mathlib.Tactic.Linarith

/-! The loss figures of the snapshot against the closes they stand for. Each
close writes its realized profit twice, and every fill and close writes the
account equity into the same column, so the figures are the real ones
precisely while nothing negative is written at all. -/
namespace AegisQuant.Risk
open Paper Transition List Option

/-- A fill or a full close, with everything its caller supplies. -/
inductive BookStep where
  | fill (freshId : Uuid) (booked : PaperFill)
  | close (correlationId positionId : Uuid) (market : MarketClose)

def BookStep.time : BookStep → DateTime
  | .fill _ booked => booked.filledAt
  | .close _ _ market => market.closedAt

/-- The books, and the realized profit of each close in close order. -/
structure BookRun where
  db : Database
  closes : List Decimal

def bookFill (db : Database) (freshId : Uuid) (fill : PaperFill) : Option FillApplication := do
  let account ← db.paperAccount
  let existing ← (openPaperPosition db account.id fill.symbol).toOption
  (applyPaperOrderFill freshId account existing fill).toOption

def bookClose (db : Database) (correlationId positionId : Uuid) (close : MarketClose) :
    Option (Database × ClosePositionApplication) := do
  let account ← db.paperAccount
  let record ← db.paperPositions.find? positionId
  let position ← (paperPositionFromRecord record).toOption
  let application ← (closePositionMarketSimulated account position close).toOption
  let closed ← (closePaperPositionTransactional db {
    account := account.id
    order := close.orderId
    closeFill := close.closeFillId
    correlation := correlationId } position application).toOption
  return (closed, application)

def handleBookStep (books : BookRun) : BookStep → BookRun
  | .fill freshId booked =>
    match bookFill books.db freshId booked with
    | none => books
    | some application => { books with db := recordFillApplication books.db application }
  | .close correlationId positionId market =>
    match bookClose books.db correlationId positionId market with
    | none => books
    | some (closed, application) =>
      ⟨closed, books.closes ++ [application.closeResult.realizedPnl]⟩

/-- The steps of the day of `now`. -/
abbrev DayStep (now : DateTime) := { step : BookStep // dateTruncDay step.time = dateTruncDay now }

def handleDayStep {now : DateTime} (books : BookRun) (step : DayStep now) : BookRun :=
  handleBookStep books step.1

/-- The sum of the losses among some profits. -/
def totalLoss (profits : List Decimal) : Decimal := (profits.map fun profit => profit⁻).sum

/-- The number of losses since the last close without one, capped at twenty. -/
def trailingLosses (closes : List Decimal) : Nat := min 20 (closes.reverse.takeWhile (· < 0)).length

def LossFiguresReal (order : RowOrder newestEntryFirst) (now : DateTime) (books : BookRun) : Prop :=
  dailyRealizedLoss books.db now = totalLoss books.closes ∧
    consecutiveLosses order books.db = trailingLosses books.closes

/-- The step, if it is accepted, is no close at a loss and costs no more than
the account has. -/
def WritesNoLoss (books : BookRun) : BookStep → Prop
  | .fill freshId booked => (bookFill books.db freshId booked).isSome →
      ∀ account, books.db.paperAccount = some account →
        booked.tradeCost ≤ account.initialEquity + account.realizedPnl
  | .close correlationId positionId market =>
    (bookClose books.db correlationId positionId market).isSome →
    ∀ account record, books.db.paperAccount = some account →
      books.db.paperPositions.find? positionId = some record →
      market.fee + market.slippageCost ≤ (market.exitPrice - record.entryPrice) * record.quantity ∧
        market.fee + market.slippageCost ≤ account.initialEquity + account.realizedPnl +
          (market.exitPrice - record.entryPrice) * record.quantity

section Journal
variable {journal : List PaperTradeJournalEntry} {start : DateTime}

/-- The losses among the `pnl` values of the journal. -/
def journalLoss (journal : List PaperTradeJournalEntry) : Decimal :=
  totalLoss (journal.filterMap (·.pnl))

theorem totalLoss_append (first second : List Decimal) :
    totalLoss (first ++ second) = totalLoss first + totalLoss second := by
  simp [totalLoss]

theorem totalLoss_nonneg (profits : List Decimal) : 0 ≤ totalLoss profits := by
  apply sum_nonneg
  intro loss hLoss
  obtain ⟨profit, _, rfl⟩ := mem_map.mp hLoss
  exact negPart_nonneg profit

theorem totalLoss_eq_zero_iff (profits : List Decimal) :
    totalLoss profits = 0 ↔ ∀ profit ∈ profits, 0 ≤ profit := by
  induction profits with
  | nil => simp [totalLoss]
  | cons profit rest ih =>
    have hRest : totalLoss (profit :: rest) = profit⁻ + totalLoss rest := by simp [totalLoss]
    rw [hRest, add_eq_zero_iff_of_nonneg (negPart_nonneg profit) (totalLoss_nonneg rest), ih,
      negPart_eq_zero, forall_mem_cons]

theorem journalLoss_append (first second : List PaperTradeJournalEntry) :
    journalLoss (first ++ second) = journalLoss first + journalLoss second := by
  simp [journalLoss, totalLoss_append]

theorem realizedLossSince_eq (hSince : ∀ entry ∈ journal, start ≤ entry.createdAt) :
    realizedLossSince journal start = journalLoss journal := by
  have hSum : ((journal.filter fun entry => entry.pnl.any (· < 0) && start ≤ entry.createdAt).filterMap
      (·.pnl)).sum = -journalLoss journal := by
    induction journal with
    | nil => simp [journalLoss, totalLoss]
    | cons entry rest ih =>
      obtain ⟨hEntry, hRest⟩ := forall_mem_cons.mp hSince
      have hSplit : journalLoss (entry :: rest) = journalLoss [entry] + journalLoss rest :=
        journalLoss_append [entry] rest
      rw [hSplit, neg_add]
      cases hPnl : entry.pnl with
      | none => simpa [filter_cons, hPnl, journalLoss, totalLoss] using ih hRest
      | some pnl =>
        by_cases hLoss : pnl < 0
        · have hPart : pnl⁻ = -pnl := negPart_of_nonpos hLoss.le
          simpa [filter_cons, hPnl, hLoss, hEntry, journalLoss, totalLoss, hPart] using
            ih hRest
        · have hPart : pnl⁻ = 0 := negPart_eq_zero.mpr (not_lt.mp hLoss)
          simpa [filter_cons, hPnl, hLoss, journalLoss, totalLoss, hPart] using ih hRest
  rw [realizedLossSince, hSum, abs_neg, abs_of_nonneg]
  exact totalLoss_nonneg _

theorem streak_eq_zero {profits : List Decimal} (hProfits : ∀ profit ∈ profits, 0 ≤ profit) :
    (profits.takeWhile (· < 0)).length = 0 := by
  cases profits with
  | nil => rfl
  | cons newest older => simp [not_lt.mpr (hProfits newest (mem_cons_self ..))]

theorem consecutiveLosses_eq_zero {db : Database} (order : RowOrder newestEntryFirst)
    (hLoss : journalLoss db.paperTradeJournal = 0) : consecutiveLosses order db = 0 := by
  have hPnls : ∀ pnl ∈ recentPnls order db, 0 ≤ pnl := by
    intro pnl hPnl
    obtain ⟨entry, hEntry, hValue⟩ := mem_filterMap.mp hPnl
    have hStored := order.mem_arrange.mp (mem_of_mem_take hEntry)
    exact (totalLoss_eq_zero_iff _).mp hLoss pnl
      (mem_filterMap.mpr ⟨entry, mem_of_mem_filter hStored, hValue⟩)
  exact streak_eq_zero hPnls

end Journal

section Step
variable {books : BookRun} {db closed : Database} {freshId correlationId positionId : Uuid}
  {booked : PaperFill} {market : MarketClose}

/-- The stored positions read back, and an open one has realized nothing and
has no mark price yet. -/
def FreshPositions (db : Database) : Prop :=
  ∀ record ∈ db.paperPositions.rows, ∃ (position : PaperPosition), record = position.toRecord ∧
    (position.status = .open → position.realizedPnl = 0 ∧ position.markPrice = none)

/-- An accepted fill books what `apply_paper_order_fill` computes on the open
position of its symbol. -/
theorem bookFill_eq_some {application : FillApplication}
    (hBook : bookFill db freshId booked = some application) :
    ∃ account existing, db.paperAccount = some account ∧
      openPaperPosition db account.id booked.symbol = .ok existing ∧
      application = buyApplication freshId account existing booked := by
  simp only [bookFill, bind_eq_bind, bind_eq_some_iff] at hBook
  obtain ⟨account, hAccount, existing, hExisting, hApply⟩ := hBook
  rw [Fallible.toOption_eq_some] at hExisting hApply
  rw [applyPaperOrderFill_eq, openPositionFromBuy_eq_ok] at hApply
  exact ⟨account, existing, hAccount, hExisting, hApply.2.2⟩

variable {application : ClosePositionApplication}

/-- An accepted close books what `close_position_market_simulated` computes
on the position stored under its id. -/
theorem bookClose_eq_some
    (hBook : bookClose db correlationId positionId market = some (closed, application)) :
    ∃ account record position, db.paperAccount = some account ∧
      db.paperPositions.find? positionId = some record ∧
      paperPositionFromRecord record = .ok position ∧
      closePositionMarketSimulated account position market = .ok application ∧
      closePaperPositionTransactional db ⟨account.id, market.orderId, market.closeFillId,
        correlationId⟩ position application = .ok closed := by
  simp only [bookClose, Option.bind_eq_bind, Option.bind_eq_some_iff, Option.pure_def,
    some.injEq, Prod.mk.injEq, Fallible.toOption_eq_some] at hBook
  obtain ⟨account, hAccount, record, hRecord, position, hPosition, applied, hApplied, written,
    hWritten, rfl, rfl⟩ := hBook
  exact ⟨account, record, position, hAccount, hRecord, hPosition, hApplied, hWritten⟩

theorem FreshPositions.existing (fresh : FreshPositions db) {account : PaperAccount}
    {symbol : String} {existing : Option PaperPosition}
    (hExisting : openPaperPosition db account.id symbol = .ok existing) :
    ∀ position, existing = some position →
      position.realizedPnl = 0 ∧ position.markPrice = none := by
  intro position hPosition
  subst hPosition
  unfold openPaperPosition at hExisting
  split at hExisting
  · cases hExisting
  · rename_i record hFound
    obtain ⟨stored, rfl, hOpen⟩ := fresh record (mem_of_find?_eq_some hFound)
    have hMatch := find?_some hFound
    simp only [isOpenPositionOf, PaperPosition.toRecord, Bool.and_eq_true, decide_eq_true_eq,
      PositionStatus.asStr_eq_open] at hMatch
    rw [paperPositionFromRecord_toRecord] at hExisting
    cases hExisting
    exact hOpen hMatch.2

theorem boughtPosition_unrealized (freshId : Uuid) (account : PaperAccount) (booked : PaperFill)
    {existing : Option PaperPosition}
    (hExisting : ∀ position, existing = some position →
      position.realizedPnl = 0 ∧ position.markPrice = none) :
    (boughtPosition freshId account existing booked).realizedPnl = 0 ∧
      (boughtPosition freshId account existing booked).markPrice = none ∧
      (boughtPosition freshId account existing booked).unrealizedPnl = 0 := by
  cases existing with
  | none => exact ⟨rfl, rfl, rfl⟩
  | some position =>
    obtain ⟨hRealized, hMark⟩ := hExisting position rfl
    refine ⟨hRealized, hMark, ?_⟩
    simp [boughtPosition, averagedPosition, computeUnrealizedPnl, hMark]

theorem FreshPositions.recordFill (fresh : FreshPositions db) {application : FillApplication}
    (hBought : application.position.realizedPnl = 0 ∧ application.position.markPrice = none) :
    FreshPositions (recordFillApplication db application) := by
  apply Table.forall_mem_upsert (mergePosition_id application.position.toRecord) fresh
  · exact ⟨application.position, rfl, fun _ => hBought⟩
  · intro current hCurrent
    obtain ⟨stored, rfl, -⟩ := fresh current hCurrent
    exact ⟨{ application.position with
      id := stored.id
      accountId := stored.accountId
      symbol := stored.symbol
      side := stored.side
      openedAt := stored.openedAt }, rfl, fun _ => hBought⟩

theorem FreshPositions.close (fresh : FreshPositions db) {ids : CloseIds} {position : PaperPosition}
    (hClosed : application.position.status = .closed)
    (hClose : closePaperPositionTransactional db ids position application = .ok closed) :
    FreshPositions closed := by
  obtain ⟨riskDecisions, orders, fills, -, -, rfl⟩ := closePaperPositionTransactional_ok hClose
  refine Table.forall_mem_modify (closeUpdate_id _ _) fresh fun current hCurrent => ?_
  obtain ⟨stored, rfl, -⟩ := fresh current hCurrent
  refine ⟨{ stored with
    quantity := application.position.quantity
    markPrice := application.position.markPrice
    priceStatus := application.position.priceStatus
    notional := application.position.notional
    realizedPnl := application.position.realizedPnl
    unrealizedPnl := application.position.unrealizedPnl
    status := application.position.status
    closedAt := application.position.closedAt
    orderId := some application.fill.orderId
    updatedAt := application.position.updatedAt }, rfl, fun hOpen => ?_⟩
  rw [hClosed] at hOpen
  cases hOpen

/-- What an accepted step writes to the journal and to the closes. It writes
more loss than it closes, unless it does neither. -/
theorem handleBookStep_cases (fresh : FreshPositions books.db) (step : BookStep) :
    (handleBookStep books step = books ∧ WritesNoLoss books step) ∨
    ∃ (db : Database) (entries : List PaperTradeJournalEntry) (closes : List Decimal),
      handleBookStep books step = ⟨db, books.closes ++ closes⟩ ∧ FreshPositions db ∧
      db.paperTradeJournal = books.db.paperTradeJournal ++ entries ∧
      (∀ entry ∈ entries, entry.createdAt = step.time) ∧
      totalLoss closes ≤ journalLoss entries ∧
      (journalLoss entries = totalLoss closes ↔ WritesNoLoss books step) ∧
      (journalLoss entries = totalLoss closes → totalLoss closes = 0) := by
  cases step with
  | fill freshId booked =>
    cases hBook : bookFill books.db freshId booked with
    | none => exact .inl ⟨by simp [handleBookStep, hBook], by simp [WritesNoLoss, hBook]⟩
    | some application =>
      right
      obtain ⟨account, existing, hAccount, hExisting, rfl⟩ := bookFill_eq_some hBook
      have hBought := boughtPosition_unrealized freshId account booked (fresh.existing hExisting)
      refine ⟨_, (buyApplication freshId account existing booked).journalEntries, [],
        by simp [handleBookStep, hBook], fresh.recordFill ⟨hBought.1, hBought.2.1⟩, rfl, ?_, ?_⟩
      · simp [buyApplication, buyJournalEntries, BookStep.time]
      have hLoss : journalLoss (buyApplication freshId account existing booked).journalEntries =
          (account.initialEquity + account.realizedPnl - booked.tradeCost)⁻ := by
        simp [buyApplication, buyJournalEntries, journalLoss, totalLoss, hBought.1, buySummary,
          rebuildAccountSummary, hBought.2.2, add_sub_assoc]
      rw [hLoss]
      refine ⟨negPart_nonneg _, ?_, fun _ => rfl⟩
      simp [totalLoss, WritesNoLoss, hBook, hAccount]
  | close correlationId positionId market =>
    cases hBook : bookClose books.db correlationId positionId market with
    | none => exact .inl ⟨by simp [handleBookStep, hBook], by simp [WritesNoLoss, hBook]⟩
    | some result =>
      right
      obtain ⟨closed, application⟩ := result
      obtain ⟨account, record, position, hAccount, hRecord, hPosition, hApply, hWrite⟩ :=
        bookClose_eq_some hBook
      obtain ⟨-, -, -, hClosed, hEntries, -, hRealized⟩ :=
        closePositionMarketSimulated_ok hApply
      obtain ⟨stored, rfl, -⟩ := fresh record (Table.mem_of_find? hRecord)
      rw [paperPositionFromRecord_toRecord, Except.ok.injEq] at hPosition
      subst hPosition
      refine ⟨closed, application.journalEntries, [realizedOnClose stored market],
        by simp [handleBookStep, hBook, hRealized], fresh.close (by rw [hClosed]; rfl) hWrite,
        ?_, ?_, ?_⟩
      · obtain ⟨riskDecisions, orders, fills, -, -, rfl⟩ :=
          closePaperPositionTransactional_ok hWrite
        rfl
      · simp [hEntries, closeJournalEntries, BookStep.time]
      have hLoss : journalLoss application.journalEntries =
          totalLoss [realizedOnClose stored market] + ((realizedOnClose stored market)⁻ +
            (account.initialEquity + account.realizedPnl + realizedOnClose stored market)⁻) := by
        simp [hEntries, closeJournalEntries, journalLoss, totalLoss, closeSummary,
          rebuildAccountSummary, add_assoc]
      have hExtra := add_nonneg (negPart_nonneg (realizedOnClose stored market)) (negPart_nonneg
        (account.initialEquity + account.realizedPnl + realizedOnClose stored market))
      rw [hLoss, add_eq_left, add_eq_zero_iff_of_nonneg (negPart_nonneg _) (negPart_nonneg _),
        negPart_eq_zero, negPart_eq_zero]
      refine ⟨le_add_of_nonneg_right hExtra, ?_, fun hGain => ?_⟩
      · simp only [WritesNoLoss, hBook, hAccount, hRecord, isSome_some, forall_true_left,
          some.injEq, realizedOnClose, sub_nonneg, ← add_sub_assoc]
        constructor
        · rintro hGain _ _ rfl rfl
          exact hGain
        · intro hGain
          exact hGain account stored.toRecord rfl rfl
      · simpa [totalLoss] using hGain.1

end Step

section Day
variable {now : DateTime} {books : BookRun}

/-- How much more loss the journal shows than was closed. -/
def excessLoss (books : BookRun) : Decimal :=
  journalLoss books.db.paperTradeJournal - totalLoss books.closes

structure WithinDay (now : DateTime) (books : BookRun) : Prop where
  fresh : FreshPositions books.db
  since : ∀ entry ∈ books.db.paperTradeJournal, dateTruncDay now ≤ entry.createdAt

theorem dateTruncDay_le (time : DateTime) : dateTruncDay time ≤ time := by
  have hRest : 0 ≤ time % DateTime.seconds 86400 := Int.emod_nonneg time (by decide)
  exact sub_le_self time hRest

theorem WithinDay.handleDayStep (within : WithinDay now books) (step : DayStep now) :
    WithinDay now (handleDayStep books step) ∧
      excessLoss books ≤ excessLoss (handleDayStep books step) ∧
      (excessLoss (handleDayStep books step) = excessLoss books ↔ WritesNoLoss books step.1) := by
  unfold Risk.handleDayStep
  rcases handleBookStep_cases within.fresh step.1 with ⟨hSame, hNone⟩ |
    ⟨db, entries, closes, hStep, fresh, hJournal, hTime, hLoss, hExact, -⟩
  · rw [hSame]
    exact ⟨within, le_rfl, fun _ => hNone, fun _ => rfl⟩
  have hGrowth : excessLoss ⟨db, books.closes ++ closes⟩ =
      excessLoss books + (journalLoss entries - totalLoss closes) := by
    simp only [excessLoss, hJournal, journalLoss_append, totalLoss_append]
    exact add_sub_add_comm ..
  rw [hStep, hGrowth, add_eq_left, sub_eq_zero]
  refine ⟨⟨fresh, ?_⟩, le_add_of_nonneg_right (sub_nonneg.mpr hLoss), hExact⟩
  rw [hJournal, forall_mem_append]
  refine ⟨within.since, fun entry hEntry => ?_⟩
  rw [hTime entry hEntry]
  exact step.2.symm.le.trans (dateTruncDay_le step.1.time)

theorem WithinDay.lossFree_handleDayStep (within : WithinDay now books)
    (hFree : journalLoss books.db.paperTradeJournal = 0 ∧ totalLoss books.closes = 0)
    {step : DayStep now} (hNone : WritesNoLoss books step.1) :
    journalLoss (Risk.handleDayStep books step).db.paperTradeJournal = 0 ∧
      totalLoss (Risk.handleDayStep books step).closes = 0 := by
  unfold Risk.handleDayStep
  rcases handleBookStep_cases within.fresh step.1 with ⟨hSame, -⟩ |
    ⟨db, entries, closes, hStep, -, hJournal, -, -, hExact, hZero⟩
  · rw [hSame]
    exact hFree
  have hEqual := hExact.mpr hNone
  have hClosed := hZero hEqual
  rw [hStep, hJournal, journalLoss_append, totalLoss_append, hFree.1, hFree.2, hEqual, hClosed,
    add_zero]
  exact ⟨rfl, rfl⟩

end Day

/-- After a day of fills and closes from empty books, the daily loss and the
streak are the real ones exactly if no step of the day closed at a loss or
cost more than the account had. -/
theorem loss_figures_real_iff (order : RowOrder newestEntryFirst) (now : DateTime) (db : Database)
    (steps : List (DayStep now)) (hPositions : db.paperPositions.rows = [])
    (hJournal : db.paperTradeJournal = []) :
    LossFiguresReal order now (run handleDayStep ⟨db, []⟩ steps) ↔
      Along handleDayStep (fun books step => WritesNoLoss books step.1) ⟨db, []⟩ steps := by
  have hStart : WithinDay now ⟨db, []⟩ := ⟨by simp [FreshPositions, hPositions], by simp [hJournal]⟩
  have hFree : journalLoss db.paperTradeJournal = 0 ∧ totalLoss ([] : List Decimal) = 0 := by
    simp [hJournal, journalLoss, totalLoss]
  have hWithin : WithinDay now (run handleDayStep ⟨db, []⟩ steps) :=
    run_invariant (fun _ step within => (within.handleDayStep step).1) steps hStart
  have hDaily : dailyRealizedLoss (run handleDayStep ⟨db, []⟩ steps).db now =
      journalLoss (run handleDayStep ⟨db, []⟩ steps).db.paperTradeJournal :=
    realizedLossSince_eq hWithin.since
  have hExcess : excessLoss (run handleDayStep ⟨db, []⟩ steps) = excessLoss ⟨db, []⟩ ↔
      Along handleDayStep (fun books step => excessLoss (handleDayStep books step) =
        excessLoss books) ⟨db, []⟩ steps := potential_run_eq_iff (I := WithinDay now)
    (fun _ step within => (WithinDay.handleDayStep within step).1)
    (fun _ step within => (WithinDay.handleDayStep within step).2.1) steps hStart
  have hExact : Along handleDayStep (fun books step => excessLoss (handleDayStep books step) =
        excessLoss books) ⟨db, []⟩ steps ↔
      Along handleDayStep (fun books step => WritesNoLoss books step.1) ⟨db, []⟩ steps :=
    along_iff_of_invariant
    (fun _ step within => (WithinDay.handleDayStep within step).2.2)
    (fun _ step within _ => (WithinDay.handleDayStep within step).1) steps hStart
  constructor
  · rintro ⟨hLoss, -⟩
    rw [← hExact, ← hExcess, excessLoss, ← hDaily, hLoss, excessLoss, hFree.1, hFree.2, sub_self,
      sub_zero]
  · intro hNone
    have hEnd := (run_invariant_of_along
      (I := fun books => WithinDay now books ∧ journalLoss books.db.paperTradeJournal = 0 ∧
        totalLoss books.closes = 0)
      (fun books step hBooks hStep => ⟨(hBooks.1.handleDayStep step).1,
        hBooks.1.lossFree_handleDayStep hBooks.2 hStep⟩) ⟨hStart, hFree⟩ hNone).2
    refine ⟨by rw [hDaily, hEnd.1, hEnd.2], ?_⟩
    rw [consecutiveLosses_eq_zero order hEnd.1]
    have hStreak := streak_eq_zero fun profit hProfit =>
      (totalLoss_eq_zero_iff _).mp hEnd.2 profit (mem_reverse.mp hProfit)
    rw [trailingLosses, hStreak, Nat.min_zero]

/-- A default account and nothing else. -/
def fundedBooks : Database :=
  (ensureDefaultPaperAccount Database.empty ⟨1⟩ 0).1

def purchase : DayStep 0 :=
  ⟨.fill ⟨2⟩ {
    id := ⟨3⟩
    accountId := ⟨1⟩
    orderId := ⟨4⟩
    positionId := none
    symbol := "BTCUSDT"
    side := .long
    price := 100000
    quantity := 1
    notional := 100000
    fee := 0
    slippageCost := 0
    filledAt := 0
    strategyId := none
    signalId := none
    riskDecisionId := none }, rfl⟩

def closeAt (exitPrice : Decimal) : DayStep 0 :=
  ⟨.close ⟨5⟩ ⟨2⟩ {
    orderId := ⟨6⟩
    closeFillId := ⟨7⟩
    exitPrice := exitPrice
    fee := 0
    slippageCost := 0
    closedAt := 1 }, rfl⟩

/-- A purchase closed at a profit leaves the real figures. -/
theorem loss_figures_real_after_profit : LossFiguresReal (RowOrder.stable newestEntryFirst) 0
      (run handleDayStep ⟨fundedBooks, []⟩ [purchase, closeAt 101000]) := by
  apply (loss_figures_real_iff (RowOrder.stable newestEntryFirst) 0 fundedBooks
    [purchase, closeAt 101000] rfl rfl).mpr
  have hFunds : fundedBooks.paperAccount.map (fun account =>
      (account.initialEquity, account.realizedPnl)) = some (1000000, 0) := by decide +kernel
  have hBought : (handleDayStep ⟨fundedBooks, []⟩ purchase).db.paperAccount.map (fun account =>
      (account.initialEquity, account.realizedPnl)) = some (1000000, 0) := by decide +kernel
  have hStored : ((handleDayStep ⟨fundedBooks, []⟩ purchase).db.paperPositions.find? ⟨2⟩).map
      (fun record => (record.entryPrice, record.quantity)) = some (100000, 1) := by decide +kernel
  refine ⟨?_, ?_, trivial⟩
  · intro _ account hAccount
    rw [hAccount, map_some, some.injEq, Prod.mk.injEq] at hFunds
    rw [hFunds.1, hFunds.2]
    decide +kernel
  · intro _ account record hAccount hRecord
    rw [hAccount, map_some, some.injEq, Prod.mk.injEq] at hBought
    rw [hRecord, map_some, some.injEq, Prod.mk.injEq] at hStored
    rw [hBought.1, hBought.2, hStored.1, hStored.2]
    decide +kernel

/-- A loss of 1000 is shown as a daily loss of 2000 and as two losses in a
row. -/
theorem loss_figures_doubled :
    dailyRealizedLoss (run handleDayStep ⟨fundedBooks, []⟩ [purchase, closeAt 99000]).db 0 = 2000 ∧
      consecutiveLosses (RowOrder.stable newestEntryFirst)
        (run handleDayStep ⟨fundedBooks, []⟩ [purchase, closeAt 99000]).db = 2 ∧
      totalLoss (run handleDayStep ⟨fundedBooks, []⟩ [purchase, closeAt 99000]).closes = 1000 ∧
      trailingLosses (run handleDayStep ⟨fundedBooks, []⟩ [purchase, closeAt 99000]).closes = 1 ∧
      ¬LossFiguresReal (RowOrder.stable newestEntryFirst) 0
        (run handleDayStep ⟨fundedBooks, []⟩ [purchase, closeAt 99000]) := by
  have hDaily : dailyRealizedLoss
      (run handleDayStep ⟨fundedBooks, []⟩ [purchase, closeAt 99000]).db 0 = 2000 := by
    decide +kernel
  have hClosed : totalLoss
      (run handleDayStep ⟨fundedBooks, []⟩ [purchase, closeAt 99000]).closes = 1000 := by
    decide +kernel
  refine ⟨hDaily, by decide +kernel, hClosed, by decide +kernel, ?_⟩
  rintro ⟨hSame, -⟩
  rw [hDaily, hClosed] at hSame
  norm_num at hSame

end AegisQuant.Risk
