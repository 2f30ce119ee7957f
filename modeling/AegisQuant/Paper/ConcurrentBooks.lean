import AegisQuant.Library.Run
import AegisQuant.Paper.BookStatements
import Mathlib.Data.List.Permutation

/-! Calls on the paper books whose statements interleave. A call writes
absolute values computed from what it has read, so the books follow some
serial order of the calls only while no write replaces a value that has
changed since. -/
namespace AegisQuant.Paper
open Transition List

/-- The tables, and how far each numbered call has come. -/
structure BooksSystem where
  db : Database
  phases : Nat → CallPhase

inductive BooksStep where
  | begin (number : Nat) (call : BooksCall)
  | next (number : Nat)

/-- The row of a fill references its order, so the order is stored before the
fill is accounted. -/
def Startable (db : Database) : BooksCall → Prop
  | .fill call => ∃ row ∈ db.orders.rows, row.id = call.order.id
  | .close _ => True

instance (db : Database) (call : BooksCall) : Decidable (Startable db call) := by
  cases call with
  | fill call => exact inferInstanceAs (Decidable (∃ row ∈ db.orders.rows, row.id = call.order.id))
  | close _ => exact inferInstanceAs (Decidable True)

def BooksSystem.idle (db : Database) : BooksSystem := ⟨db, fun _ => .waiting⟩

/-- Any call may start at any time, and any started call may take its next
statement. -/
def stepBooks (system : BooksSystem) : BooksStep → BooksSystem
  | .begin number call =>
    match system.phases number with
    | .waiting =>
      if Startable system.db call then
        ⟨system.db, Function.update system.phases number (beginCall system.db call)⟩
      else system
    | _ => system
  | .next number =>
    let (db, phase) := nextStatement system.db (system.phases number)
    ⟨db, Function.update system.phases number phase⟩

def BooksStep.number : BooksStep → Nat
  | .begin number _ => number
  | .next number => number

variable {number : Nat}

theorem phases_stepBooks_of_ne {system : BooksSystem} {step : BooksStep}
    (hOther : step.number ≠ number)
    : (stepBooks system step).phases number = system.phases number := by
  cases step with
  | begin stepped call =>
    simp only [stepBooks]
    split
    · split
      · exact Function.update_of_ne hOther.symm _ _
      · rfl
    · rfl
  | next stepped => exact Function.update_of_ne hOther.symm _ _

theorem phases_run_of_untouched {system : BooksSystem} {steps : List BooksStep}
    (hSteps : ∀ step ∈ steps, step.number ≠ number) :
    (run stepBooks system steps).phases number = system.phases number :=
  run_invariant_of_along (I := fun reached => reached.phases number = system.phases number)
    (fun _ _ hSame hOther => (phases_stepBooks_of_ne hOther).trans hSame) rfl
    (along_of_forall hSteps system)

/-- No call is under way. -/
def BooksSystem.Finished (system : BooksSystem) : Prop :=
  ∀ number, match system.phases number with
    | .waiting | .succeeded _ | .failed => True
    | _ => False

/-- The realized profit, the position quantities and the closed positions are
the same. -/
structure SameBooks (db other : Database) : Prop where
  realizedPnl : db.paperAccount.map (·.realizedPnl) = other.paperAccount.map (·.realizedPnl)
  quantities : ∀ id, (db.paperPositions.find? id).map (·.quantity) =
    (other.paperPositions.find? id).map (·.quantity)
  closed : ∀ id, (∃ record, db.paperPositions.find? id = some record ∧ record.status = "closed") ↔
    ∃ record, other.paperPositions.find? id = some record ∧ record.status = "closed"

/-- The books are those that the calls that succeeded leave one after the
other, in some order. -/
def Serializable (start : Database) (system : BooksSystem) : Prop :=
  ∃ order : List (Nat × BooksCall), (order.map Prod.fst).Nodup ∧
    (∀ number call, (number, call) ∈ order ↔ system.phases number = .succeeded call) ∧
    SameBooks system.db ((order.map Prod.snd).foldl runCall start)

def RealizedUnchanged (db : Database) (account : PaperAccount) : Prop :=
  ∀ current, db.paperAccount = some current → current.realizedPnl = account.realizedPnl

/-- The values that the next statement of a call replaces are those that the
call has read. A fill that has found no open position draws a new id, and the
index of open positions refuses it if there is one by now; a close whose order
key is taken is refused too. -/
def CallPhase.ReadsCurrent (db : Database) : CallPhase → Prop
  | .accountRead _ account => RealizedUnchanged db account
  | .fillComputed call _ none _ => db.paperPositions.find? call.ids.position = none
  | .fillComputed call account (some existing) _ =>
    openPaperPosition db account.id call.order.symbol = .ok (some existing)
  | .fillWritten _ account _ => RealizedUnchanged db account
  | .closeComputed _ computed =>
    db.orders.find? ("paper-close:" ++ computed.position.id.toString) = none →
      db.paperPositions.find? computed.record.id = some computed.record ∧
        RealizedUnchanged db computed.account
  | _ => True

instance (db : Database) (phase : CallPhase) : Decidable (phase.ReadsCurrent db) :=
  match phase with
  | .accountRead _ account | .fillWritten _ account _ =>
    inferInstanceAs (Decidable (∀ current ∈ db.paperAccount, _ = account.realizedPnl))
  | .fillComputed _ _ none _ => inferInstanceAs (Decidable (_ = none))
  | .fillComputed _ _ (some _) _ => inferInstanceAs (Decidable (_ = Except.ok _))
  | .closeComputed _ computed =>
    inferInstanceAs (Decidable (_ = none → _ = some _ ∧
      ∀ current ∈ db.paperAccount, _ = computed.account.realizedPnl))
  | .waiting | .accountEnsured _ _ | .positionWritten _ _ _ | .accountWritten _ _ _ |
    .succeeded _ | .failed => inferInstanceAs (Decidable True)

def ReadsCurrent (system : BooksSystem) : BooksStep → Prop
  | .begin _ _ => True
  | .next number => (system.phases number).ReadsCurrent system.db

instance (system : BooksSystem) (step : BooksStep) : Decidable (ReadsCurrent system step) :=
  match step with
  | .begin _ _ => inferInstanceAs (Decidable True)
  | .next number => inferInstanceAs (Decidable ((system.phases number).ReadsCurrent system.db))

section Following
variable {accountId : Uuid} {db serial : Database}
variable {positions : Table PaperPositionRecord.id} {account : PaperAccount}

/-- The tables `db` agree with those of a serial run in all that the calls read
or check. -/
structure Follows (accountId : Uuid) (db serial : Database) : Prop where
  account : ∃ current copy, db.paperAccount = some current ∧ serial.paperAccount = some copy ∧
    current.id = accountId ∧ copy.id = accountId ∧ copy.realizedPnl = current.realizedPnl
  positions : serial.paperPositions = db.paperPositions
  riskDecisions : serial.riskDecisions = db.riskDecisions
  orders : serial.orders = db.orders
  fills : ∀ fill ∈ serial.paperFills.rows, ∃ row ∈ db.orders.rows, row.id = fill.orderId

theorem Follows.sameBooks (hFollows : Follows accountId db serial) : SameBooks db serial := by
  obtain ⟨current, copy, hCurrent, hCopy, -, -, hRealized⟩ := hFollows.account
  refine ⟨?_, fun id => ?_, fun id => ?_⟩
  · simp only [hCurrent, hCopy, Option.map_some, hRealized]
  · rw [hFollows.positions]
  · rw [hFollows.positions]

theorem openPaperPosition_of_added (position : PaperPosition) (hOpen : position.status = .open)
    (hSide : position.side = .long) (hNew : db.paperPositions.find? position.id = none)
    (hUpsert : upsertPaperPosition? db.paperPositions position = some positions) :
    openPaperPosition db position.accountId position.symbol = .ok none := by
  unfold upsertPaperPosition? at hUpsert
  split at hUpsert
  · rename_i hIndexed
    rw [upsertPaperPosition, Table.rows_upsert_of_fresh hNew, Table.Indexed, filterMap_append,
      nodup_append] at hIndexed
    obtain ⟨-, -, hDistinct⟩ := hIndexed
    have hNone : getOpenPaperPosition db position.accountId position.symbol .long = none := by
      rw [getOpenPaperPosition, find?_eq_none]
      intro record hRecord hFound
      simp only [isOpenPositionOf, Bool.and_eq_true, decide_eq_true_eq] at hFound
      obtain ⟨⟨⟨hAccount, hSymbol⟩, hLong⟩, hStatus⟩ := hFound
      have hKey : openKey record = some (position.accountId, position.symbol, record.side) := by
        rw [openKey, if_pos hStatus, hAccount, hSymbol]
      have hAdded : openKey position.toRecord =
          some (position.accountId, position.symbol, record.side) := by
        have hStored : position.toRecord.status = "open" := PositionStatus.asStr_eq_open.mpr hOpen
        rw [openKey, if_pos hStored, hLong, ← hSide]
        rfl
      exact hDistinct _ (mem_filterMap.mpr ⟨record, hRecord, hKey⟩) _
        (mem_filterMap.mpr ⟨_, mem_singleton_self _, hAdded⟩) rfl
    rw [openPaperPosition, hNone]
  · cases hUpsert

theorem boughtPosition_of_same_id {other : PaperAccount} (hSame : other.id = account.id)
    (freshId : Uuid) (existing : Option PaperPosition) (ids : FillIds) (now : DateTime)
    (order : OrderRecord) :
    boughtPosition freshId other existing (paperFillOf ids now other existing order) =
      boughtPosition freshId account existing (paperFillOf ids now account existing order) := by
  have hFill : paperFillOf ids now other existing order = paperFillOf ids now account existing order := by
    simp only [paperFillOf, hSame]
  rw [hFill]
  cases existing with
  | some current => rfl
  | none => simp only [boughtPosition, openedPosition, hSame]

section
variable (hFollows : Follows accountId db serial)
include hFollows

/-- The position write of a fill is the point at which the fill takes effect:
the serial run accounts it as a whole. -/
theorem Follows.fill {call : FillCall} {existing : Option PaperPosition}
    {application : FillApplication} {seen : Database}
    (hFilled : call.order.executionState = "PAPER_FILLED") (hId : account.id = accountId)
    (hStored : ∃ row ∈ db.orders.rows, row.id = call.order.id)
    (hCompute : computeFill seen account call = .ok (existing, application))
    (hCurrent : openPaperPosition db account.id call.order.symbol = .ok existing)
    (hUpsert : upsertPaperPosition? db.paperPositions application.position = some positions) :
    Follows accountId { db with paperPositions := positions } (runCall serial (.fill call)) := by
  obtain ⟨current, copy, hAccount, hCopy, hCurrentId, hCopyId, hRealized⟩ := hFollows.account
  obtain ⟨-, hQuantity, hTotal, rfl⟩ := computeFill_eq_ok.mp hCompute
  have hSame : copy.id = account.id := hCopyId.trans hId.symm
  have hRead : openPaperPosition serial copy.id call.order.symbol = .ok existing := by
    rw [hSame, ← hCurrent, openPaperPosition, openPaperPosition, getOpenPaperPosition,
      getOpenPaperPosition, hFollows.positions]
  have hSerial := computeFill_eq_ok.mpr ⟨hRead, hQuantity, hTotal, rfl⟩
  have hRun : runCall serial (.fill call) = _ :=
    congrArg Prod.fst (persistPaperFillAccounting_of_computeFill hFilled hCopy hSerial)
  have hPositions : positions = upsertPaperPosition db.paperPositions (boughtPosition
      call.ids.position account existing
        (paperFillOf call.ids call.now account existing call.order)) := by
    unfold upsertPaperPosition? at hUpsert
    split at hUpsert
    · exact (Option.some.inj hUpsert).symm
    · cases hUpsert
  rw [hRun]
  refine ⟨⟨current, _, hAccount, rfl, hCurrentId, hCopyId, ?_⟩, ?_, hFollows.riskDecisions,
    hFollows.orders, ?_⟩
  · simp only [buyApplication, PaperAccount.withSummary, buySummary, rebuildAccountSummary,
      paperFillOf, PaperFill.tradeCost, add_zero, sub_zero, hRealized]
  · simp only [recordFillApplication, buyApplication, hFollows.positions, hPositions,
      boughtPosition_of_same_id hSame]
  · exact Table.forall_mem_upsert _ hFollows.fills hStored hFollows.fills

theorem Follows.close {call : CloseCall}
    {computed : ComputedClose} {seen closed : Database} (hId : computed.account.id = accountId)
    (hCompute : computeClose seen computed.account call = .ok computed)
    (hRecord : db.paperPositions.find? computed.record.id = some computed.record)
    (hUnchanged : RealizedUnchanged db computed.account)
    (hClose : closePaperPositionTransactional db call.ids computed.position computed.application =
      .ok closed) :
    Follows accountId closed (runCall serial (.close call)) := by
  obtain ⟨current, copy, hAccount, hCopy, hCurrentId, hCopyId, hRealized⟩ := hFollows.account
  obtain ⟨hSeen, hOwner, hPosition, -, tick, hTick, hApply⟩ := computeClose_eq_ok.mp hCompute
  have hSame : copy.id = computed.account.id := hCopyId.trans hId.symm
  have hRead : serial.paperPositions.find? call.request.positionId = some computed.record := by
    rw [hFollows.positions, ← hRecord, Table.key_of_find? hSeen]
  obtain ⟨moved, hMoved, hFill, hClosedAt⟩ := closePositionMarketSimulated_of_same_id hSame hApply
  obtain ⟨-, -, hMovedAccount, hMovedPosition, -⟩ := closePositionMarketSimulated_ok hMoved
  obtain ⟨-, -, hAppliedAccount, hAppliedPosition, -⟩ := closePositionMarketSimulated_ok hApply
  let serialComputed : ComputedClose := ⟨copy, computed.record, computed.position, moved⟩
  have hSerial : computeClose serial copy call = .ok serialComputed :=
    computeClose_eq_ok.mpr ⟨hRead, hOwner.trans hSame.symm, hPosition, rfl, tick, hTick, hMoved⟩
  obtain ⟨riskDecisions, orders, fills, hDecision, hFresh, hOrder, hFills, rfl⟩ :=
    closePaperPositionTransactional_eq_ok.mp hClose
  have hUnused : serial.paperFills.find? moved.fill.orderId = none := by
    rw [Table.find?_eq_none]
    intro fill hMember hUsed
    obtain ⟨row, hRow, hReferenced⟩ := hFollows.fills fill hMember
    exact hFresh row hRow (hReferenced.trans (hUsed.trans (congrArg PaperFill.orderId hFill)))
  let closingFill : PaperFill := { moved.fill with riskDecisionId := some call.ids.closeFill }
  obtain ⟨serialFills, hSerialFills⟩ : ∃ fills, serial.paperFills.insert? closingFill = some fills :=
    Table.insert?_of_unused hUnused
  have hTransaction := closePaperPositionTransactional_eq_ok.mpr
    ⟨riskDecisions, orders, serialFills, by
      rw [hFollows.riskDecisions, hFill, hClosedAt, hDecision], by
      rw [hFollows.orders, hFill]
      exact hFresh, by
      rw [hFollows.orders, hFill, hClosedAt, hOrder], hSerialFills, rfl⟩
  have hRun : runCall serial (.close call) = _ :=
    congrArg Prod.fst (closePaperPosition_of_computeClose hCopy hSerial hTransaction)
  rw [hRun]
  refine ⟨⟨_, _, rfl, rfl, ?_, ?_, ?_⟩, ?_, rfl, rfl, ?_⟩
  · rw [hAppliedAccount]
    exact hId
  · rw [hMovedAccount]
    exact hCopyId
  · simp only [hMovedAccount, hAppliedAccount, PaperAccount.withSummary, closeSummary,
      rebuildAccountSummary, hRealized, hUnchanged current hAccount]
  · simp only [hFollows.positions, hMovedPosition, hAppliedPosition, hFill]
  · have hKept (id : Uuid) : (∃ row ∈ db.orders.rows, row.id = id) →
        ∃ row ∈ orders.rows, row.id = id := by
      rintro ⟨row, hRow, rfl⟩
      refine ⟨row, ?_, rfl⟩
      rw [(Table.insert?_eq_some.mp hOrder).2]
      exact mem_append_left _ hRow
    rw [(Table.insert?_eq_some.mp hSerialFills).2, forall_mem_append]
    refine ⟨fun fill hMember => hKept _ (hFollows.fills fill hMember), ?_⟩
    rw [forall_mem_singleton]
    refine ⟨closeOrderRow call.ids computed.position computed.application.fill
      computed.application.closeResult.closedAt, ?_, (congrArg PaperFill.orderId hFill).symm⟩
    rw [(Table.insert?_eq_some.mp hOrder).2]
    exact mem_append_right _ (mem_singleton_self _)

theorem Follows.writeAccount (hId : account.id = accountId)
    (hUnchanged : RealizedUnchanged db account) :
    ∃ stored, insertPaperAccount db.paperAccount account = some stored ∧ stored.id = accountId ∧
      Follows accountId { db with paperAccount := some stored } serial := by
  obtain ⟨current, copy, hAccount, hCopy, hCurrentId, hCopyId, hRealized⟩ := hFollows.account
  refine ⟨{ account with createdAt := current.createdAt }, ?_, hId, ?_⟩
  · rw [hAccount, insertPaperAccount, if_pos (hCurrentId.trans hId.symm)]
  · exact ⟨⟨_, copy, rfl, hCopy, hId, hCopyId, hRealized.trans (hUnchanged current hAccount)⟩,
      hFollows.positions, hFollows.riskDecisions, hFollows.orders, hFollows.fills⟩

end

end Following

section Linearization
variable {accountId : Uuid} {start : Database} {order : List (Nat × BooksCall)}
  {system : BooksSystem} {number : Nat}

/-- A fill under way is one of a filled order that is stored. -/
def Accountable (db : Database) : BooksCall → Prop
  | .fill call => call.order.executionState = "PAPER_FILLED" ∧
      ∃ row ∈ db.orders.rows, row.id = call.order.id
  | .close _ => True

/-- The call has not taken effect. -/
def Pending (order : List (Nat × BooksCall)) (number : Nat) : Prop :=
  ∀ call, (number, call) ∉ order

/-- What a call has computed is what it computes from some tables, and it has
taken effect precisely from its position write, its transaction, or its end
on. -/
def PhaseFits (accountId : Uuid) (db : Database) (order : List (Nat × BooksCall)) (number : Nat) :
    CallPhase → Prop
  | .waiting | .failed => Pending order number
  | .accountRead call account | .accountEnsured call account =>
    Pending order number ∧ account.id = accountId ∧ Accountable db call
  | .fillComputed call account existing application =>
    Pending order number ∧ account.id = accountId ∧ Accountable db (.fill call) ∧
      ∃ seen, computeFill seen account call = .ok (existing, application)
  | .positionWritten call account application | .fillWritten call account application =>
    (number, .fill call) ∈ order ∧ application.account.id = accountId ∧
      application.account.realizedPnl = account.realizedPnl
  | .accountWritten call _ _ => (number, .fill call) ∈ order
  | .closeComputed call computed =>
    Pending order number ∧ computed.account.id = accountId ∧
      ∃ seen, computeClose seen computed.account call = .ok computed
  | .succeeded call => (number, call) ∈ order

/-- The calls that have taken effect, in `order`, explain the books. -/
structure Linearized (accountId : Uuid) (start : Database) (order : List (Nat × BooksCall))
    (system : BooksSystem) : Prop where
  numbers : (order.map Prod.fst).Nodup
  follows : Follows accountId system.db ((order.map Prod.snd).foldl runCall start)
  fits : ∀ number, PhaseFits accountId system.db order number (system.phases number)

variable {phase : CallPhase}

theorem PhaseFits.kept {db next : Database} {extended : List (Nat × BooksCall)}
    (hRows : ∀ row ∈ db.orders.rows, row ∈ next.orders.rows)
    (hSame : ∀ call, (number, call) ∈ extended ↔ (number, call) ∈ order)
    (hFits : PhaseFits accountId db order number phase) :
    PhaseFits accountId next extended number phase := by
  have hPending : Pending order number → Pending extended number :=
    fun hNone call hMember => hNone call ((hSame call).mp hMember)
  have hAccountable (call : BooksCall) (hCall : Accountable db call) : Accountable next call := by
    cases call with
    | close _ => trivial
    | fill fill =>
      obtain ⟨hFilled, row, hRow, hId⟩ := hCall
      exact ⟨hFilled, row, hRows row hRow, hId⟩
  cases phase with
  | waiting | failed => exact hPending hFits
  | accountRead call _ | accountEnsured call _ =>
    exact ⟨hPending hFits.1, hFits.2.1, hAccountable call hFits.2.2⟩
  | fillComputed call _ _ _ =>
    exact ⟨hPending hFits.1, hFits.2.1, hAccountable _ hFits.2.2.1, hFits.2.2.2⟩
  | positionWritten call _ _ | fillWritten call _ _ => exact ⟨(hSame _).mpr hFits.1, hFits.2⟩
  | accountWritten call _ _ => exact (hSame _).mpr hFits
  | closeComputed _ _ => exact ⟨hPending hFits.1, hFits.2⟩
  | succeeded call => exact (hSame _).mpr hFits

theorem Linearized.kept (hLinear : Linearized accountId start order system) {next : Database}
    (hOrders : next.orders = system.db.orders)
    (hFollows : Follows accountId next ((order.map Prod.snd).foldl runCall start))
    (hFits : PhaseFits accountId next order number phase) :
    Linearized accountId start order ⟨next, Function.update system.phases number phase⟩ := by
  refine ⟨hLinear.numbers, hFollows, fun other => ?_⟩
  change PhaseFits accountId next order other (Function.update system.phases number phase other)
  by_cases hOther : other = number
  · subst hOther
    rw [Function.update_self]
    exact hFits
  · rw [Function.update_of_ne hOther]
    exact (hLinear.fits other).kept (fun row hRow => hOrders ▸ hRow) fun _ => Iff.rfl

theorem Linearized.takesEffect (hLinear : Linearized accountId start order system) {next : Database}
    {call : BooksCall} (hPending : Pending order number)
    (hRows : ∀ row ∈ system.db.orders.rows, row ∈ next.orders.rows)
    (hFollows : Follows accountId next (runCall ((order.map Prod.snd).foldl runCall start) call))
    (hFits : (number, call) ∈ order ++ [(number, call)] →
      PhaseFits accountId next (order ++ [(number, call)]) number phase) :
    Linearized accountId start (order ++ [(number, call)])
      ⟨next, Function.update system.phases number phase⟩ := by
  refine ⟨?_, ?_, fun other => ?_⟩
  · rw [map_append, nodup_append]
    refine ⟨hLinear.numbers, by simp, ?_⟩
    intro first hFirst second hSecond hEqual
    obtain ⟨⟨_, earlier⟩, hMember, rfl⟩ := mem_map.mp hFirst
    simp only [map_cons, map_nil, mem_singleton] at hSecond
    exact hPending earlier (hSecond ▸ hEqual ▸ hMember)
  · rw [map_append, foldl_append]
    exact hFollows
  · change PhaseFits accountId next _ other (Function.update system.phases number phase other)
    by_cases hOther : other = number
    · subst hOther
      rw [Function.update_self]
      exact hFits (mem_append_right _ (mem_singleton_self _))
    · rw [Function.update_of_ne hOther]
      refine (hLinear.fits other).kept hRows fun _ => ?_
      simp [hOther]

theorem openPaperPosition_of_readsCurrent {db seen : Database} {call : FillCall}
    {account : PaperAccount} {existing : Option PaperPosition} {application : FillApplication}
    {positions : Table PaperPositionRecord.id}
    (hCurrent : (CallPhase.fillComputed call account existing application).ReadsCurrent db)
    (hCompute : computeFill seen account call = .ok (existing, application))
    (hUpsert : upsertPaperPosition? db.paperPositions application.position = some positions) :
    openPaperPosition db account.id call.order.symbol = .ok existing := by
  cases existing with
  | some existing => exact hCurrent
  | none =>
    obtain ⟨-, -, -, rfl⟩ := computeFill_eq_ok.mp hCompute
    exact openPaperPosition_of_added (openedPosition call.ids.position account
      (paperFillOf call.ids call.now account none call.order)) rfl rfl hCurrent hUpsert

section
variable (hLinear : Linearized accountId start order system)
include hLinear

/-- One statement keeps the calls in a serial order, if it replaces what its
call has read. -/
theorem Linearized.next (hCurrent : (system.phases number).ReadsCurrent system.db) :
    ∃ extended, Linearized accountId start extended (stepBooks system (.next number)) := by
  have hFits := hLinear.fits number
  have hFollows := hLinear.follows
  simp only [stepBooks]
  cases hPhase : system.phases number with
  | waiting | failed | succeeded call =>
    rw [hPhase] at hFits
    exact ⟨order, hLinear.kept rfl hFollows hFits⟩
  | accountRead call account =>
    rw [hPhase] at hFits hCurrent
    obtain ⟨hPending, hId, hCall⟩ := hFits
    obtain ⟨stored, hInsert, hStoredId, hNext⟩ := hFollows.writeAccount hId hCurrent
    simp only [nextStatement, hInsert]
    exact ⟨order, hLinear.kept rfl hNext ⟨hPending, hStoredId, hCall⟩⟩
  | accountEnsured call account =>
    rw [hPhase] at hFits
    obtain ⟨hPending, hId, hCall⟩ := hFits
    cases call with
    | fill fill =>
      simp only [nextStatement]
      cases hCompute : computeFill system.db account fill with
      | error fault => exact ⟨order, hLinear.kept rfl hFollows hPending⟩
      | ok result => exact ⟨order, hLinear.kept rfl hFollows ⟨hPending, hId, hCall, _, hCompute⟩⟩
    | close close =>
      simp only [nextStatement]
      cases hCompute : computeClose system.db account close with
      | error fault => exact ⟨order, hLinear.kept rfl hFollows hPending⟩
      | ok computed =>
        obtain ⟨-, -, -, rfl, -⟩ := computeClose_eq_ok.mp hCompute
        exact ⟨order, hLinear.kept rfl hFollows ⟨hPending, hId, _, hCompute⟩⟩
  | fillComputed call account existing application =>
    rw [hPhase] at hFits hCurrent
    obtain ⟨hPending, hId, ⟨hFilled, hStored⟩, seen, hCompute⟩ := hFits
    simp only [nextStatement]
    cases hUpsert : upsertPaperPosition? system.db.paperPositions application.position with
    | none => exact ⟨order, hLinear.kept rfl hFollows hPending⟩
    | some positions =>
      have hRead := openPaperPosition_of_readsCurrent hCurrent hCompute hUpsert
      have hNext := hFollows.fill hFilled hId hStored hCompute hRead hUpsert
      obtain ⟨-, -, -, hApplication⟩ := computeFill_eq_ok.mp hCompute
      refine ⟨_, hLinear.takesEffect hPending (fun _ hRow => hRow) hNext fun hMember =>
        ⟨hMember, ?_, ?_⟩⟩
      · rw [hApplication]
        exact hId
      · simp only [hApplication, buyApplication, PaperAccount.withSummary, buySummary,
          rebuildAccountSummary, paperFillOf, PaperFill.tradeCost, add_zero, sub_zero]
  | positionWritten call account application =>
    rw [hPhase] at hFits
    refine ⟨order, hLinear.kept rfl ?_ hFits⟩
    exact ⟨hFollows.account, hFollows.positions, hFollows.riskDecisions, hFollows.orders,
      hFollows.fills⟩
  | fillWritten call account application =>
    rw [hPhase] at hFits hCurrent
    obtain ⟨hMember, hId, hRealized⟩ := hFits
    obtain ⟨stored, hInsert, -, hNext⟩ := hFollows.writeAccount hId fun current hAccount =>
      (hCurrent current hAccount).trans hRealized.symm
    simp only [nextStatement, hInsert]
    exact ⟨order, hLinear.kept rfl hNext hMember⟩
  | accountWritten call application pending =>
    rw [hPhase] at hFits
    cases pending with
    | nil | cons entry rest =>
      refine ⟨order, hLinear.kept rfl ?_ hFits⟩
      exact ⟨hFollows.account, hFollows.positions, hFollows.riskDecisions, hFollows.orders,
        hFollows.fills⟩
  | closeComputed call computed =>
    rw [hPhase] at hFits hCurrent
    obtain ⟨hPending, hId, seen, hCompute⟩ := hFits
    simp only [nextStatement]
    cases hClose : closePaperPositionTransactional system.db call.ids computed.position
        computed.application with
    | error err => exact ⟨order, hLinear.kept rfl hFollows hPending⟩
    | ok closed =>
      obtain ⟨_, orders, _, _, _, hOrder, _, hClosed⟩ :=
        closePaperPositionTransactional_eq_ok.mp hClose
      obtain ⟨hRecord, hUnchanged⟩ := hCurrent (Table.insert?_eq_some.mp hOrder).1
      have hNext := hFollows.close hId hCompute hRecord hUnchanged hClose
      refine ⟨_, hLinear.takesEffect hPending (fun row hRow => ?_) hNext id⟩
      rw [hClosed, (Table.insert?_eq_some.mp hOrder).2]
      exact mem_append_left _ hRow

theorem Linearized.begin (call : BooksCall) :
    ∃ extended, Linearized accountId start extended (stepBooks system (.begin number call)) := by
  have hFits := hLinear.fits number
  have hFollows := hLinear.follows
  simp only [stepBooks]
  split
  · rename_i hPhase
    rw [hPhase] at hFits
    split
    · rename_i hStartable
      obtain ⟨current, copy, hAccount, hCopy, hCurrentId, -⟩ := hFollows.account
      have hRead (hCall : Accountable system.db call) :
          PhaseFits accountId system.db order number (.accountRead call
            (createDefaultPaperAccountIfMissing system.db.paperAccount call.accountId call.now)) := by
        rw [hAccount]
        exact ⟨hFits, hCurrentId, hCall⟩
      cases call with
      | close close => exact ⟨order, hLinear.kept rfl hFollows (hRead trivial)⟩
      | fill fill =>
        simp only [beginCall]
        by_cases hFilled : fill.order.executionState = "PAPER_FILLED"
        · rw [if_neg (not_not.mpr hFilled)]
          exact ⟨order, hLinear.kept rfl hFollows (hRead ⟨hFilled, hStartable⟩)⟩
        · rw [if_pos hFilled]
          refine ⟨_, hLinear.takesEffect hFits (fun _ hRow => hRow) ?_ id⟩
          rw [runCall, persistPaperFillAccounting, if_pos hFilled]
          exact hFollows
    · exact ⟨order, hLinear⟩
  · exact ⟨order, hLinear⟩

theorem Linearized.serializable (hFinished : system.Finished) : Serializable start system := by
  refine ⟨order, hLinear.numbers, fun number call => ?_, hLinear.follows.sameBooks⟩
  have hFits := hLinear.fits number
  have hEnded := hFinished number
  cases hPhase : system.phases number with
  | succeeded taken =>
    rw [hPhase] at hFits
    constructor
    · intro hMember
      have hSame := inj_on_of_nodup_map hLinear.numbers hMember hFits rfl
      rw [(Prod.mk.inj hSame).2]
    · intro hSucceeded
      rw [← CallPhase.succeeded.inj hSucceeded]
      exact hFits
  | waiting | failed =>
    rw [hPhase] at hFits
    simp only [reduceCtorEq, iff_false]
    exact hFits call
  | _ => simp [hPhase] at hEnded

end

end Linearization

/-- Calls that never write over a value that has changed since they read it
lose no update: whenever all have ended, the books are those of some serial
order of the calls that succeeded. -/
theorem books_serializable {start : Database} {steps : List BooksStep}
    (hAccount : ∃ account, start.paperAccount = some account)
    (hReferences : ∀ fill ∈ start.paperFills.rows, ∃ row ∈ start.orders.rows, row.id = fill.orderId)
    (hCurrent : Along stepBooks ReadsCurrent (.idle start) steps) :
    Throughout stepBooks (fun system => system.Finished → Serializable start system) (.idle start)
      steps := by
  obtain ⟨account, hAccount⟩ := hAccount
  have hStart : ∃ order, Linearized account.id start order (.idle start) :=
    ⟨[], nodup_nil, ⟨⟨account, account, hAccount, hAccount, rfl, rfl, rfl⟩, rfl, rfl, rfl,
      hReferences⟩, fun _ _ => not_mem_nil⟩
  refine throughout_of_along
    (I := fun system => ∃ order, Linearized account.id start order system) ?_ ?_ hStart hCurrent
  · rintro system (⟨number, call⟩ | number) ⟨order, hLinear⟩ hStep
    · exact hLinear.begin call
    · exact hLinear.next hStep
  · rintro system ⟨order, hLinear⟩ hFinished
    exact hLinear.serializable hFinished

def filledOrder (id : Uuid) (idempotencyKey symbol : String) (quantity : Decimal) : OrderRow where
  id := id
  correlationId := ⟨0⟩
  riskDecisionId := ⟨0⟩
  idempotencyKey := idempotencyKey
  symbol := symbol
  side := "BUY"
  quantity := quantity
  limitPrice := some 100
  status := "FILLED"
  executionState := "PAPER_FILLED"
  statusReason := none
  filledPrice := some 100
  submittedAt := some 0
  filledAt := some 0
  expiredAt := none
  expiresAt := none
  createdAt := 0
  updatedAt := 0

def fillOf (positionId : Uuid) (row : OrderRow) : BooksCall :=
  .fill { ids := ⟨⟨0⟩, row.id, positionId⟩, now := 0, order := mapOrder .empty row }

def firstBitcoin : OrderRow := filledOrder ⟨1⟩ "first bitcoin" "BTCUSDT" 1

def secondBitcoin : OrderRow := filledOrder ⟨2⟩ "second bitcoin" "BTCUSDT" 1

def thirdBitcoin : OrderRow := filledOrder ⟨3⟩ "third bitcoin" "BTCUSDT" 2

def firstEther : OrderRow := filledOrder ⟨4⟩ "first ether" "ETHUSDT" 1

/-- Four filled orders, of which the first is accounted. -/
def openBooks : Database :=
  runCall { Database.empty with
    paperAccount := some (createDefaultPaperAccountIfMissing none ⟨1⟩ 0)
    orders := ⟨[firstBitcoin, secondBitcoin, thirdBitcoin, firstEther], by decide⟩ }
    (fillOf ⟨10⟩ firstBitcoin)

/-- Two fills that both read before either writes. -/
def overlapping (first second : BooksCall) : List BooksStep :=
  [.begin 0 first, .begin 1 second, .next 0, .next 1, .next 0, .next 1] ++
    replicate 7 (.next 0) ++ replicate 7 (.next 1)

theorem phases_overlapping_of_two_le {db : Database} {first second : BooksCall}
    (hNumber : 2 ≤ number) :
    (run stepBooks (.idle db) (overlapping first second)).phases number = .waiting := by
  apply phases_run_of_untouched
  intro step hStep
  simp only [overlapping, cons_append, nil_append, mem_cons, mem_append, mem_replicate] at hStep
  rcases hStep with rfl | rfl | rfl | rfl | rfl | rfl | ⟨_, rfl⟩ | ⟨_, rfl⟩ <;>
    simp only [BooksStep.number] <;> omega

/-- Overlapping fills of two symbols are as good as serial ones. -/
theorem overlapping_symbols_serializable :
    Throughout stepBooks (fun system => system.Finished → Serializable openBooks system)
      (.idle openBooks)
      (overlapping (fillOf ⟨11⟩ secondBitcoin) (fillOf ⟨12⟩ firstEther)) :=
  books_serializable ⟨_, rfl⟩ (by decide +kernel) (by decide +kernel)

/-- The end of two overlapping fills of one symbol. -/
def overwritten : BooksSystem :=
  run stepBooks (.idle openBooks) (overlapping (fillOf ⟨11⟩ secondBitcoin) (fillOf ⟨12⟩ thirdBitcoin))

theorem overwritten_first : overwritten.phases 0 = .succeeded (fillOf ⟨11⟩ secondBitcoin) := by
  with_unfolding_all rfl

theorem overwritten_second : overwritten.phases 1 = .succeeded (fillOf ⟨12⟩ thirdBitcoin) := by
  with_unfolding_all rfl

theorem overwritten_others (number : Nat) : overwritten.phases (number + 2) = .waiting :=
  phases_overlapping_of_two_le (by omega)

theorem overwritten_finished : overwritten.Finished := by
  intro number
  match number with
  | 0 => simp only [overwritten_first]
  | 1 => simp only [overwritten_second]
  | number + 2 => simp only [overwritten_others]

/-- Both fills add to the quantity they have read, so that the second write
loses the first. -/
theorem overlapping_fills_lose_update : (∃ account, openBooks.paperAccount = some account) ∧
      (∀ fill ∈ openBooks.paperFills.rows, ∃ row ∈ openBooks.orders.rows, row.id = fill.orderId) ∧
      overwritten.Finished ∧ ¬Serializable openBooks overwritten := by
  refine ⟨⟨_, rfl⟩, by decide +kernel, overwritten_finished, ?_⟩
  rintro ⟨order, hNumbers, hMembers, hBooks⟩
  have hPerm : order.Perm [(0, fillOf ⟨11⟩ secondBitcoin), (1, fillOf ⟨12⟩ thirdBitcoin)] := by
    rw [perm_ext_iff_of_nodup (List.Nodup.of_map _ hNumbers) (by simp)]
    rintro ⟨number, call⟩
    rw [hMembers]
    match number with
    | 0 => simp [overwritten_first, eq_comm]
    | 1 => simp [overwritten_second, eq_comm]
    | number + 2 => simp [overwritten_others]
  have hQuantity := hBooks.quantities ⟨10⟩
  rcases perm_pair.mp hPerm with rfl | rfl
  · exact absurd hQuantity (by decide +kernel)
  · exact absurd hQuantity (by decide +kernel)

end AegisQuant.Paper
