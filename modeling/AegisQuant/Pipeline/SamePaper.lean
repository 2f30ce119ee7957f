import AegisQuant.Library.Twins
import AegisQuant.Pipeline.SignalOrders
import AegisQuant.Risk.Limits

/-! Two databases in the same paper state: the same account, positions and
orders up to the signals they refer to, whatever signals and decisions are
stored besides. A pipeline call that evaluates a stored signal of the same
verdict on both answers alike and leaves them in the same paper state. -/
namespace AegisQuant.Pipeline
open Paper Risk List Paper

def SamePosition (first second : PaperPositionRecord) : Prop :=
  ∃ signalId, second = { first with signalId := signalId }

/-- The idempotency key contains the identifier of the signal. -/
def SameOrder (first second : OrderRow) : Prop :=
  ∃ key, second = { first with idempotencyKey := key }

structure SamePaper (first second : Database) : Prop where
  systemState : first.systemState = second.systemState
  marketFeeds : first.marketFeeds = second.marketFeeds
  paperAccount : first.paperAccount = second.paperAccount
  paperTradeJournal : first.paperTradeJournal = second.paperTradeJournal
  paperPositions : List.Forall₂ SamePosition first.paperPositions.rows second.paperPositions.rows
  orders : List.Forall₂ SameOrder first.orders.rows second.orders.rows

section State
variable {first second : Database}

theorem SamePosition.refl (record : PaperPositionRecord) : SamePosition record record :=
  ⟨record.signalId, rfl⟩

theorem SameOrder.refl (row : OrderRow) : SameOrder row row := ⟨row.idempotencyKey, rfl⟩

theorem SamePaper.refl (db : Database) : SamePaper db db where
  systemState := rfl
  marketFeeds := rfl
  paperAccount := rfl
  paperTradeJournal := rfl
  paperPositions := forall₂_same.mpr fun record _ => SamePosition.refl record
  orders := forall₂_same.mpr fun row _ => SameOrder.refl row

section
variable (same : SamePaper first second)
include same

theorem SamePaper.tables (signals signals' : Table SignalRecord.key)
    (riskDecisions riskDecisions' : Table RiskDecisionRow.id) :
    SamePaper { first with signals := signals, riskDecisions := riskDecisions }
      { second with signals := signals', riskDecisions := riskDecisions' } :=
  ⟨same.systemState, same.marketFeeds, same.paperAccount, same.paperTradeJournal,
    same.paperPositions, same.orders⟩

theorem SamePaper.openPositionsCount :
    Risk.openPositionsCount first = Risk.openPositionsCount second := by
  have hCount : (first.paperPositions.rows.countP fun record => record.status = "OPEN") =
      second.paperPositions.rows.countP fun record => record.status = "OPEN" := by
    refine same.paperPositions.countP_eq fun record other hSame => ?_
    obtain ⟨signalId, rfl⟩ := hSame
    rfl
  rw [Risk.openPositionsCount, Risk.openPositionsCount, hCount]

theorem SamePaper.lastTradeAt : Risk.lastTradeAt first = Risk.lastTradeAt second := by
  unfold Risk.lastTradeAt
  rw [← filterMap_eq_map, filterMap_filter, filterMap_filter]
  refine congrArg max? (same.orders.filterMap_eq fun row other hSame => ?_)
  obtain ⟨key, rfl⟩ := hSame
  rfl

theorem SamePaper.snapshot (order : RowOrder newestEntryFirst) (now : DateTime) :
    loadRiskStateSnapshot order first now = loadRiskStateSnapshot order second now := by
  simp only [loadRiskStateSnapshot, same.openPositionsCount, same.lastTradeAt, same.systemState,
    same.marketFeeds, same.paperAccount, dailyRealizedLoss, weeklyRealizedLoss, consecutiveLosses,
    recentPnls, same.paperTradeJournal]

theorem SamePaper.evaluateStage (call : PipelineCall) :
    Pipeline.evaluateStage first call = Pipeline.evaluateStage second call := by
  simp only [Pipeline.evaluateStage, feedStopReason, same.marketFeeds]

end

end State

section Accounting
variable {first second : Database} {ids : FillIds} {now : DateTime} {order : OrderRecord}

/-- The order as it is read back beside another stored signal. -/
def withSignal (order : OrderRecord) (key : String) (signalId : Option Uuid) : OrderRecord :=
  { order with idempotencyKey := key, signalId := signalId }

theorem paperPositionFromRecord_signal (record : PaperPositionRecord) (signalId : Option Uuid) :
    paperPositionFromRecord { record with signalId := signalId } =
      (paperPositionFromRecord record).map fun position =>
        { position with signalId := signalId } := by
  unfold paperPositionFromRecord
  cases PositionSide.fromStr record.side with
  | error err => rfl
  | ok side =>
    cases PositionStatus.fromStr record.status with
    | error err => rfl
    | ok status => rfl

theorem SamePaper.openPaperPosition (same : SamePaper first second) (accountId : Uuid)
    (symbol : String) :
    ∃ signalId, openPaperPosition second accountId symbol =
      (openPaperPosition first accountId symbol).map fun existing =>
        existing.map fun position => { position with signalId := signalId } := by
  unfold Paper.openPaperPosition getOpenPaperPosition
  rcases same.paperPositions.find?_cases (p := isOpenPositionOf accountId symbol .long)
      (q := isOpenPositionOf accountId symbol .long) (by
        rintro record _ ⟨signalId, rfl⟩
        rfl) with ⟨hNone, hNone'⟩ | ⟨record, other, hSome, hSome', signalId, rfl⟩
  · rw [hNone, hNone']
    exact ⟨none, rfl⟩
  · rw [hSome, hSome']
    refine ⟨signalId, ?_⟩
    simp only [paperPositionFromRecord_signal]
    cases paperPositionFromRecord record with
    | error err => rfl
    | ok position => rfl

theorem applyPaperOrderFill_signal (freshId : Uuid) (account : PaperAccount)
    (existing : Option PaperPosition) (fill : PaperFill) (stored signalId : Option Uuid) :
    applyPaperOrderFill freshId account
        (existing.map fun position => { position with signalId := stored })
        { fill with signalId := signalId } =
      (applyPaperOrderFill freshId account existing fill).map fun application =>
        { application with
          position := { application.position with signalId := signalId }
          fill := { application.fill with signalId := signalId } } := by
  simp only [applyPaperOrderFill_eq, openPositionFromBuy]
  by_cases hQuantity : fill.quantity ≤ 0
  · rw [if_pos hQuantity, if_pos hQuantity]
    rfl
  rw [if_neg hQuantity, if_neg hQuantity]
  cases existing with
  | none => rfl
  | some current =>
    simp only [Option.map_some, nextPosition]
    by_cases hTotal : current.quantity + fill.quantity ≤ 0
    · rw [if_pos hTotal, if_pos hTotal]
      rfl
    · rw [if_neg hTotal, if_neg hTotal]
      rfl

theorem SamePaper.recordFillApplication (same : SamePaper first second)
    (application : FillApplication) (signalId : Option Uuid) :
    SamePaper (recordFillApplication first application)
      (recordFillApplication second { application with
        position := { application.position with signalId := signalId }
        fill := { application.fill with signalId := signalId } }) :=
  { same with
    paperAccount := rfl
    paperTradeJournal := congrArg (· ++ application.journalEntries) same.paperTradeJournal
    paperPositions := by
      refine Table.forall₂_upsert same.paperPositions ?_ ⟨signalId, rfl⟩ ?_
      · rintro record _ ⟨_, rfl⟩
        rfl
      · rintro record _ ⟨_, rfl⟩
        exact ⟨signalId, rfl⟩ }

theorem SamePaper.persistPaperFillAccounting (same : SamePaper first second) (ids : FillIds)
    (now : DateTime) (order : OrderRecord) (key : String) (signalId : Option Uuid) :
    SamePaper (persistPaperFillAccounting first ids now order).1
        (persistPaperFillAccounting second ids now (withSignal order key signalId)).1 ∧
      (persistPaperFillAccounting first ids now order).2.isOk =
        (persistPaperFillAccounting second ids now (withSignal order key signalId)).2.isOk := by
  unfold Paper.persistPaperFillAccounting
  by_cases hState : order.executionState ≠ "PAPER_FILLED"
  · rw [if_pos hState, if_pos (show (withSignal order key signalId).executionState ≠ _ from hState)]
    exact ⟨same, rfl⟩
  rw [if_neg hState, if_neg (show ¬(withSignal order key signalId).executionState ≠ _ from hState)]
  have ensured : SamePaper (ensureDefaultPaperAccount first ids.account now).1
      (ensureDefaultPaperAccount second ids.account now).1 :=
    { same with
      paperAccount := by simp only [ensureDefaultPaperAccount, same.paperAccount] }
  have hAccount : (ensureDefaultPaperAccount second ids.account now).2 =
      (ensureDefaultPaperAccount first ids.account now).2 := by
    simp only [ensureDefaultPaperAccount, same.paperAccount]
  simp only [hAccount]
  generalize (ensureDefaultPaperAccount first ids.account now).2 = account at *
  generalize (ensureDefaultPaperAccount first ids.account now).1 = first at *
  generalize (ensureDefaultPaperAccount second ids.account now).1 = second at *
  obtain ⟨stored, hOpen⟩ := ensured.openPaperPosition account.id order.symbol
  rw [show (withSignal order key signalId).symbol = order.symbol from rfl, hOpen]
  cases hExisting : Paper.openPaperPosition first account.id order.symbol with
  | error err => exact ⟨ensured, rfl⟩
  | ok existing =>
    have hFill : paperFillOf ids now account
          (existing.map fun position => { position with signalId := stored })
          (withSignal order key signalId) =
        { paperFillOf ids now account existing order with signalId := signalId } := by
      cases existing with
      | none => rfl
      | some position => rfl
    simp only [Except.map, hFill, applyPaperOrderFill_signal]
    cases applyPaperOrderFill ids.position account existing
        (paperFillOf ids now account existing order) with
    | error fault => exact ⟨ensured, rfl⟩
    | ok application => exact ⟨ensured.recordFillApplication application signalId, rfl⟩

end Accounting

def decisionOf (answer : Except PipelineError PaperTradingPipelineResult) :
    Option PipelineDecision :=
  answer.toOption.map (·.pipelineDecision)

section Order
variable {db first second : Database} {call : PipelineCall} {symbol : Symbol} {side : Side}
  {outcome outcome' : InsertSignalOutcome} {intent : OrderIntent}

theorem orderStage_of_unused {notional : Option Decimal}
    (hUnused : db.orders.find? (pipelineKey call outcome.signal side) = none)
    (hIntent : approvedIntent call symbol outcome.signal side notional = .ok intent) :
    (¬Acceptable db intent ∧
      ∃ err, orderStage db call symbol outcome side notional = (db, .error err)) ∨
    ∃ orders, Acceptable db intent ∧ db.orders.insert? (intentRow intent call.now) = some orders ∧
      (orderStage db call symbol outcome side notional).1 =
        (persistPaperFillAccounting { db with orders := orders } call.ids.fill call.now
          (mapOrder { db with orders := orders } (intentRow intent call.now))).1 ∧
      decisionOf (orderStage db call symbol outcome side notional).2 =
        if (persistPaperFillAccounting { db with orders := orders } call.ids.fill call.now
          (mapOrder { db with orders := orders } (intentRow intent call.now))).2.isOk
        then some .paperOrderCreated else none := by
  obtain ⟨latestCandle, hLatest, -, hFields⟩ := approvedIntent_ok hIntent
  have hKey : intent.idempotencyKey = pipelineKey call outcome.signal side := by rw [hFields]
  unfold orderStage
  simp only [hLatest, hUnused, hIntent]
  cases hCreate : createPaperOrder db call.now intent with
  | error err =>
    have hRefused : ¬Acceptable db intent := by
      intro hAcceptable
      obtain ⟨stored, created, hOk⟩ := createPaperOrder_of_acceptable call.now hAcceptable
      rw [hCreate] at hOk
      cases hOk
    refine .inl ⟨hRefused, ?_⟩
    cases err <;> simp [hKey, hUnused]
  | ok result =>
    obtain ⟨stored, created⟩ := result
    obtain ⟨hAcceptable, ⟨orders, hInsert, rfl⟩, hOrder⟩ := createPaperOrder_ok hCreate
    refine .inr ⟨orders, hAcceptable, hInsert, ?_⟩
    rw [← hOrder]
    simp only
    cases hBooked : persistPaperFillAccounting { db with orders := orders } call.ids.fill
        call.now created.order with
    | mk booked answer =>
      cases answer with
      | error fault => exact ⟨rfl, rfl⟩
      | ok account => exact ⟨rfl, rfl⟩

/-- The decision of the call is stored, approves and refers to the signal. -/
def ApprovedBy (db : Database) (call : PipelineCall) (signal : SignalRecord) : Prop :=
  ∃ decision, db.riskDecisions.find? call.ids.riskDecision = some decision ∧
    decision.decision = "APPROVED" ∧ decisionSignal db decision = some signal

theorem colon_mem_pipelineKey (call : PipelineCall) (signal : SignalRecord) (side : Side) :
    ':' ∈ (pipelineKey call signal side).toList := by
  have hColon : ":".toList = [':'] := rfl
  simp [pipelineKey, buildIdempotencyKey, String.toList_append, hColon]

theorem trim_pipelineKey_ne (call : PipelineCall) (signal : SignalRecord) (side : Side) :
    trim (pipelineKey call signal side) ≠ "" := by
  intro hEmpty
  have hMem := mem_trim (colon_mem_pipelineKey call signal side) (by decide)
  rw [hEmpty] at hMem
  cases hMem

theorem approvedIntent_signal (amount : Decimal) (signal other : SignalRecord) :
    approvedIntent call symbol other side (some amount) =
      (approvedIntent call symbol signal side (some amount)).map fun intent =>
        { intent with idempotencyKey := pipelineKey call other side } := by
  unfold approvedIntent
  cases call.candles.getLast? with
  | none => rfl
  | some latestCandle =>
    simp only [Option.getD_some, buildOrderIntent]
    by_cases hClose : latestCandle.close ≤ 0
    · rw [if_pos hClose, if_pos hClose]
      rfl
    · rw [if_neg hClose, if_neg hClose]
      rfl

theorem SamePaper.acceptable_iff (same : SamePaper first second) {signal other : SignalRecord}
    (hKey : intent.idempotencyKey = pipelineKey call signal side)
    (hDecision : intent.riskDecisionId = call.ids.riskDecision)
    (hFirst : ApprovedBy first call signal) (hSecond : ApprovedBy second call other)
    (hUnused : first.orders.find? (pipelineKey call signal side) = none)
    (hUnused' : second.orders.find? (pipelineKey call other side) = none) :
    Acceptable first intent ↔
      Acceptable second { intent with idempotencyKey := pipelineKey call other side } := by
  obtain ⟨decision, hFind, hApproved, -⟩ := hFirst
  obtain ⟨decision', hFind', hApproved', -⟩ := hSecond
  have hValid : intent.validate =
      OrderIntent.validate { intent with idempotencyKey := pipelineKey call other side } := by
    simp only [OrderIntent.validate, hKey, if_neg (trim_pipelineKey_ne call signal side),
      if_neg (trim_pipelineKey_ne call other side)]
  have hIds : (first.orders.rows.countP fun row => row.id = intent.orderId) =
      second.orders.rows.countP fun row => row.id = intent.orderId := by
    refine same.orders.countP_eq fun row _ hRow => ?_
    obtain ⟨key, rfl⟩ := hRow
    rfl
  have hUnusedIds : (∀ row ∈ first.orders.rows, row.id ≠ intent.orderId) ↔
      ∀ row ∈ second.orders.rows, row.id ≠ intent.orderId := by
    have hZero (rows : List OrderRow) : (∀ row ∈ rows, row.id ≠ intent.orderId) ↔
        (rows.countP fun row => row.id = intent.orderId) = 0 := by
      simp [countP_eq_zero]
    rw [hZero, hZero, hIds]
  constructor
  · intro hAcceptable
    exact ⟨hValid ▸ hAcceptable.valid, ⟨decision', hDecision ▸ hFind', hApproved'⟩, hUnused',
      hUnusedIds.mp hAcceptable.idUnused⟩
  · intro hAcceptable
    exact ⟨hValid.trans hAcceptable.valid, ⟨decision, hDecision ▸ hFind, hApproved⟩,
      hKey ▸ hUnused, hUnusedIds.mpr hAcceptable.idUnused⟩

theorem mapOrder_of_approvedBy (db : Database) {signal : SignalRecord} (row : OrderRow)
    (hApproved : ApprovedBy db call signal) (hDecision : row.riskDecisionId = call.ids.riskDecision) :
    ∃ signalId, mapOrder db row = {
      row with
      signalId := signalId
      strategyId := some signal.strategyId
      filledQty := if row.status = "FILLED" then row.quantity else 0
      avgFillPrice := row.filledPrice } := by
  obtain ⟨decision, hFind, -, hSignal⟩ := hApproved
  refine ⟨decision.signalId, ?_⟩
  simp [mapOrder, hDecision, hFind, hSignal]

theorem SamePaper.orderStage (same : SamePaper first second) {amount : Decimal}
    (hKey : outcome'.signal.key = outcome.signal.key)
    (hFirst : ApprovedBy first call outcome.signal) (hSecond : ApprovedBy second call outcome'.signal)
    (hUnused : first.orders.find? (pipelineKey call outcome.signal side) = none)
    (hUnused' : second.orders.find? (pipelineKey call outcome'.signal side) = none) :
    SamePaper (orderStage first call symbol outcome side (some amount)).1
        (orderStage second call symbol outcome' side (some amount)).1 ∧
      decisionOf (orderStage first call symbol outcome side (some amount)).2 =
        decisionOf (orderStage second call symbol outcome' side (some amount)).2 := by
  have hStrategy : outcome'.signal.strategyId = outcome.signal.strategyId :=
    congrArg SignalKey.strategyId hKey
  cases hIntent : approvedIntent call symbol outcome.signal side (some amount) with
  | error fault =>
    have hIntent' : approvedIntent call symbol outcome'.signal side (some amount) =
        .error fault := by
      rw [approvedIntent_signal amount outcome.signal outcome'.signal, hIntent]
      rfl
    cases hLatest : call.candles.getLast? with
    | none => simpa [Pipeline.orderStage, hLatest] using same
    | some latestCandle =>
      simpa [Pipeline.orderStage, hLatest, hUnused, hUnused', hIntent, hIntent', decisionOf]
        using same
  | ok intent =>
    have hIntent' : approvedIntent call symbol outcome'.signal side (some amount) =
        .ok { intent with idempotencyKey := pipelineKey call outcome'.signal side } := by
      rw [approvedIntent_signal amount outcome.signal outcome'.signal, hIntent]
      rfl
    obtain ⟨latestCandle, -, -, hFields⟩ := approvedIntent_ok hIntent
    have hDecision : intent.riskDecisionId = call.ids.riskDecision := by rw [hFields]
    have hAcceptable := same.acceptable_iff (by rw [hFields]) hDecision hFirst hSecond hUnused
      hUnused'
    rcases orderStage_of_unused hUnused hIntent with ⟨hRefused, err, hStage⟩ |
      ⟨orders, hAccepted, hInsert, hState, hAnswer⟩
    · rcases orderStage_of_unused hUnused' hIntent' with ⟨-, err', hStage'⟩ |
        ⟨orders', hAccepted', -⟩
      · rw [hStage, hStage']
        exact ⟨same, rfl⟩
      · exact absurd (hAcceptable.mpr hAccepted') hRefused
    · rcases orderStage_of_unused hUnused' hIntent' with ⟨hRefused', -⟩ |
        ⟨orders', -, hInsert', hState', hAnswer'⟩
      · exact absurd (hAcceptable.mp hAccepted) hRefused'
      rw [hState, hState', hAnswer, hAnswer']
      have stored : SamePaper { first with orders := orders } { second with orders := orders' } :=
        { same with
          orders := by
            simp only [(Table.insert?_eq_some.mp hInsert).2, (Table.insert?_eq_some.mp hInsert').2]
            exact same.orders.append (.cons ⟨_, rfl⟩ .nil) }
      obtain ⟨signalId, hOrder⟩ := mapOrder_of_approvedBy { first with orders := orders }
        (intentRow intent call.now) hFirst hDecision
      obtain ⟨signalId', hOrder'⟩ := mapOrder_of_approvedBy { second with orders := orders' }
        (intentRow { intent with idempotencyKey := pipelineKey call outcome'.signal side } call.now)
        hSecond hDecision
      rw [hOrder, hOrder', hStrategy]
      obtain ⟨booked, hBooked⟩ := stored.persistPaperFillAccounting call.ids.fill call.now _
        (pipelineKey call outcome'.signal side) signalId'
      refine ⟨booked, ?_⟩
      rw [hBooked]
      rfl

end Order

/-- The row a generated signal is read back as. -/
def storedSignal (db : Database) (signal : SignalRecord) : SignalRecord :=
  (db.signals.find? signal.key).getD signal

/-- No stored row has an identifier that the call draws. -/
structure FreshIds (db : Database) (call : PipelineCall) : Prop where
  signal : ∀ other ∈ db.signals.rows, other.id ≠ call.ids.signal
  riskDecision : db.riskDecisions.find? call.ids.riskDecision = none

/-- Orders are linked to the signals they execute, and signal ids are unique. -/
structure WellKept (db : Database) : Prop where
  linked : Linked db
  signalIds : (db.signals.rows.map (·.id)).Nodup

/-- Young enough and small enough for the rules about the signal itself. -/
def Actionable (config : RiskConfig) (now : DateTime) (signal : SignalRecord) : Prop :=
  now - signal.createdAt ≤ DateTime.milliseconds config.maxSignalAgeMs ∧
    signal.suggestedNotional ≤ config.maxPositionNotional

def IsSignalLimit (limit : RiskRejectionReason) : Prop :=
  limit = .signalTooOld ∨ limit = .positionNotionalExceeded

/-- Both rows are actionable, and for the same amount, or neither is. -/
def SameVerdict (config : RiskConfig) (now : DateTime) (signal other : SignalRecord) : Prop :=
  (Actionable config now signal ↔ Actionable config now other) ∧
    (Actionable config now signal → signal.suggestedNotional = other.suggestedNotional)

/-- If the call gets to a signal that no other limit holds back, it reads back
rows of the same verdict from both databases. -/
def Undisturbed (first second : Database) (call : PipelineCall) : Prop :=
  ∀ symbol signal config, evaluateStage second call = .ok (.signalled symbol signal) →
    call.riskConfig = .ok config →
    (∀ limit, ¬IsSignalLimit limit → ¬LimitBroken config
      (riskContext call symbol (storedSignal second (signalRecord signal call.now))
        signal.side.toSide) (loadRiskStateSnapshot call.journalOrder second call.now) limit) →
    SameVerdict config call.now (storedSignal first (signalRecord signal call.now))
      (storedSignal second (signalRecord signal call.now))

section Call
variable {db first second : Database} {call : PipelineCall} {symbol : Symbol}
  {signal : StrategySignal}

theorem storedSignal_key (db : Database) (signal : SignalRecord) :
    (storedSignal db signal).key = signal.key := by
  unfold storedSignal
  cases hFind : db.signals.find? signal.key with
  | none => rfl
  | some stored => exact Table.key_of_find? hFind

theorem parseSignalSide_asStr (side : SignalSide) : parseSignalSide side.asStr = .ok side.toSide := by
  simp [parseSignalSide, Except.mapError, Except.map]

theorem storedSignal_side (db : Database) (signal : StrategySignal) (now : DateTime) :
    parseSignalSide (storedSignal db (signalRecord signal now)).side = .ok signal.side.toSide := by
  have hSide : (storedSignal db (signalRecord signal now)).side = signal.side.asStr :=
    congrArg SignalKey.side (storedSignal_key db (signalRecord signal now))
  rw [hSide, parseSignalSide_asStr]

theorem insertSignalDeduped_of_fresh {signal : SignalRecord}
    (hFresh : ∀ other ∈ db.signals.rows, other.id ≠ signal.id)
    (hIds : (db.signals.rows.map (·.id)).Nodup) :
    ∃ signals outcome, insertSignalDeduped db signal = .ok ({ db with signals := signals }, outcome) ∧
      outcome.signal = storedSignal db signal ∧ outcome.signal ∈ signals.rows ∧
      (signals.rows.map (·.id)).Nodup := by
  unfold insertSignalDeduped storedSignal
  cases hFind : db.signals.find? signal.key with
  | some stored => exact ⟨db.signals, _, rfl, rfl, Table.mem_of_find? hFind, hIds⟩
  | none =>
    obtain ⟨signals, hInsert⟩ := Table.insert?_of_unused hFind
    have hRows := (Table.insert?_eq_some.mp hInsert).2
    have hAny : (db.signals.rows.any fun other => other.id = signal.id) = false := by
      simpa using hFresh
    refine ⟨signals, ⟨signal, true⟩, by simp [hAny, hInsert], rfl, ?_, ?_⟩
    · rw [hRows]
      exact mem_append_right _ (mem_singleton_self _)
    · rw [hRows, map_append, map_singleton, nodup_append]
      refine ⟨hIds, nodup_singleton _, ?_⟩
      intro id hId id' hId' hSame
      obtain ⟨other, hOther, rfl⟩ := mem_map.mp hId
      rw [mem_singleton.mp hId'] at hSame
      exact hFresh other hOther hSame

theorem find?_id_of_mem {signals : List SignalRecord} (hIds : (signals.map (·.id)).Nodup)
    {signal : SignalRecord} (hMem : signal ∈ signals) :
    signals.find? (fun other => other.id = signal.id) = some signal := by
  cases hFind : signals.find? fun other => other.id = signal.id with
  | none => exact absurd (find?_eq_none.mp hFind signal hMem) (by simp)
  | some other =>
    have hSame : other.id = signal.id := by simpa using find?_some hFind
    rw [inj_on_of_nodup_map hIds (mem_of_find?_eq_some hFind) hMem hSame]

section Stage
variable {decided : Database} {outcome : InsertSignalOutcome} {side : Side}
  {evaluation : RiskEvaluationResult}

section
variable (hDecide : decideStage db call symbol outcome.signal = .ok (decided, side, evaluation))
include hDecide

theorem signalStage_rejected (hDecision : evaluation.decision = .rejected) :
    signalStage db call symbol outcome = (decided, .ok (signalResult call outcome .riskRejected none
      (evaluation.reasons.map reasonCode) .rejected .skipped)) := by
  unfold signalStage
  rw [hDecide]
  simp only [hDecision]

theorem signalStage_approved (hDecision : evaluation.decision = .approved) :
    signalStage db call symbol outcome =
      orderStage decided call symbol outcome side evaluation.approvedNotional := by
  unfold signalStage
  rw [hDecide]
  simp only [hDecision]

end

end Stage

/-- A call that gets to a signal under fresh ids either fails on its
configuration, with the signal persisted, or stores its evaluation. -/
theorem runPaperPipeline_of_fresh (kept : WellKept db) (fresh : FreshIds db call)
    (hStage : evaluateStage db call = .ok (.signalled symbol signal)) :
    ∃ signals outcome, outcome.signal = storedSignal db (signalRecord signal call.now) ∧
      ((∃ fault, call.riskConfig = .error fault ∧
          runPaperPipeline db call = ({ db with signals := signals }, .error (.fault fault))) ∨
        ∃ config riskDecisions, call.riskConfig = .ok config ∧
          let persisted : Database := { db with signals := signals }
          let evaluation :=
            riskEvaluation persisted call config symbol outcome.signal signal.side.toSide
          let decided : Database := { persisted with riskDecisions := riskDecisions }
          (evaluation.decision = .rejected ∧ runPaperPipeline db call = (decided,
              .ok (signalResult call outcome .riskRejected none
                (evaluation.reasons.map reasonCode) .rejected .skipped))) ∨
            evaluation.decision = .approved ∧ ApprovedBy decided call outcome.signal ∧
              decided.orders.find? (pipelineKey call outcome.signal signal.side.toSide) = none ∧
              runPaperPipeline db call = orderStage decided call symbol outcome
                signal.side.toSide evaluation.approvedNotional) := by
  obtain ⟨strategyId, timeframe, hStrategy, -, -, -, generated⟩ := evaluateStage_generated hStage
  have hFresh : ∀ other ∈ db.signals.rows, other.id ≠ (signalRecord signal call.now).id := by
    intro other hOther
    rw [signalRecord, generated.signalId_eq]
    exact fresh.signal other hOther
  obtain ⟨signals, outcome, hInsert, hOutcome, hMem, hIds⟩ :=
    insertSignalDeduped_of_fresh hFresh kept.signalIds
  have hSide := storedSignal_side db signal call.now
  rw [← hOutcome] at hSide
  have hRun : runPaperPipeline db call =
      signalStage { db with signals := signals } call symbol outcome := by
    unfold runPaperPipeline
    simp only [hStage, hInsert]
  refine ⟨signals, outcome, hOutcome, ?_⟩
  cases hConfig : call.riskConfig with
  | error fault =>
    refine .inl ⟨fault, rfl, hRun.trans ?_⟩
    unfold signalStage
    simp only [decideStage, hSide, hConfig]
    rfl
  | ok config =>
    let row := riskDecisionRow (riskContext call symbol outcome.signal signal.side.toSide)
      (riskEvaluation { db with signals := signals } call config symbol outcome.signal
        signal.side.toSide) call.now
    have hUnused : db.riskDecisions.find? row.id = none := fresh.riskDecision
    obtain ⟨riskDecisions, hDecisions⟩ := Table.insert?_of_unused hUnused
    have hDecide : decideStage { db with signals := signals } call symbol outcome.signal = .ok
        ({ db with signals := signals, riskDecisions := riskDecisions }, signal.side.toSide,
          riskEvaluation { db with signals := signals } call config symbol outcome.signal
            signal.side.toSide) := by
      simp only [decideStage, hSide, hConfig, Fallible.bind_eq_ok, Fallible.pure_eq_ok,
        insertRiskDecision_eq_ok]
      exact ⟨_, rfl, _, rfl, _, ⟨riskDecisions, hDecisions, rfl⟩, rfl⟩
    refine .inr ⟨config, riskDecisions, rfl, ?_⟩
    cases hDecision : (riskEvaluation { db with signals := signals } call config symbol
        outcome.signal signal.side.toSide).decision with
    | rejected =>
      exact .inl ⟨hDecision, hRun.trans (signalStage_rejected hDecide hDecision)⟩
    | approved =>
      refine .inr ⟨hDecision, ⟨row, ?_, ?_, ?_⟩, ?_,
        hRun.trans (signalStage_approved hDecide hDecision)⟩
      · exact Table.find?_insert?_self hDecisions
      · simp only [row, riskDecisionRow, hDecision, RiskEvaluationDecision.asStr]
      · exact find?_id_of_mem hIds hMem
      · exact kept.linked.key_unused (colon_not_mem_strategyId hStrategy) fresh.riskDecision

section
variable {config : RiskConfig} {snapshot : RiskStateSnapshot} {side : Side}

theorem evaluate_approved_iff_actionable {riskDecisionId : Uuid} {row : SignalRecord} :
    (Risk.evaluate config riskDecisionId (riskContext call symbol row side) snapshot).decision =
        .approved ↔
      (∀ limit, ¬IsSignalLimit limit →
        ¬LimitBroken config (riskContext call symbol row side) snapshot limit) ∧
      Actionable config call.now row := by
  rw [evaluate_approved_iff_unbroken]
  constructor
  · intro hUnbroken
    exact ⟨fun limit _ => hUnbroken limit, not_lt.mp (hUnbroken .signalTooOld),
      not_lt.mp (hUnbroken .positionNotionalExceeded)⟩
  · rintro ⟨hOthers, hAge, hNotional⟩ limit
    by_cases hLimit : IsSignalLimit limit
    · rcases hLimit with rfl | rfl
      · exact not_lt.mpr hAge
      · exact not_lt.mpr hNotional
    · exact hOthers limit hLimit

theorem limitBroken_row {row other : SignalRecord} {limit : RiskRejectionReason}
    (hLimit : ¬IsSignalLimit limit) :
    LimitBroken config (riskContext call symbol row side) snapshot limit ↔
      LimitBroken config (riskContext call symbol other side) snapshot limit := by
  cases limit with
  | signalTooOld => exact absurd (.inl rfl) hLimit
  | positionNotionalExceeded => exact absurd (.inr rfl) hLimit
  | _ => exact Iff.rfl

/-- Rows of the same verdict are decided alike, and for the same amount. -/
theorem evaluate_row_eq (riskDecisionId : Uuid) {row other : SignalRecord}
    (hVerdict : (∀ limit, ¬IsSignalLimit limit →
        ¬LimitBroken config (riskContext call symbol other side) snapshot limit) →
      SameVerdict config call.now row other) :
    (Risk.evaluate config riskDecisionId (riskContext call symbol row side) snapshot).decision =
        (Risk.evaluate config riskDecisionId (riskContext call symbol other side)
          snapshot).decision ∧
      ((Risk.evaluate config riskDecisionId (riskContext call symbol row side) snapshot).decision =
          .approved → row.suggestedNotional = other.suggestedNotional) := by
  have hOthers : (∀ limit, ¬IsSignalLimit limit →
        ¬LimitBroken config (riskContext call symbol row side) snapshot limit) ↔
      ∀ limit, ¬IsSignalLimit limit →
        ¬LimitBroken config (riskContext call symbol other side) snapshot limit := by
    refine forall_congr' fun limit => ?_
    refine imp_congr_right fun hLimit => not_congr ?_
    exact limitBroken_row hLimit
  have hApproved : (Risk.evaluate config riskDecisionId (riskContext call symbol row side)
        snapshot).decision = .approved ↔
      (Risk.evaluate config riskDecisionId (riskContext call symbol other side)
        snapshot).decision = .approved := by
    rw [evaluate_approved_iff_actionable, evaluate_approved_iff_actionable, hOthers]
    exact and_congr_right fun hNone => (hVerdict hNone).1
  constructor
  · cases hDecision : (Risk.evaluate config riskDecisionId (riskContext call symbol other side)
        snapshot).decision with
    | approved => exact hApproved.mpr hDecision
    | rejected =>
      cases hDecision' : (Risk.evaluate config riskDecisionId (riskContext call symbol row side)
          snapshot).decision with
      | approved => exact absurd (hDecision.symm.trans (hApproved.mp hDecision')) (by decide)
      | rejected => rfl
  · intro hDecision
    obtain ⟨hNone, hActionable⟩ := evaluate_approved_iff_actionable.mp hDecision
    exact (hVerdict (hOthers.mp hNone)).2 hActionable

end

theorem SamePaper.runPaperPipeline (same : SamePaper first second) (kept : WellKept first)
    (kept' : WellKept second) (fresh : FreshIds first call) (fresh' : FreshIds second call)
    (hUndisturbed : Undisturbed first second call) :
    SamePaper (runPaperPipeline first call).1 (runPaperPipeline second call).1 ∧
      decisionOf (runPaperPipeline first call).2 = decisionOf (runPaperPipeline second call).2 := by
  have hStages := same.evaluateStage call
  cases hStage : Pipeline.evaluateStage second call with
  | error fault =>
    unfold Pipeline.runPaperPipeline
    simp only [hStages, hStage]
    exact ⟨same, trivial⟩
  | ok stage =>
    cases stage with
    | stopped result =>
      unfold Pipeline.runPaperPipeline
      simp only [hStages, hStage]
      exact ⟨same, trivial⟩
    | signalled symbol signal =>
      obtain ⟨signals, outcome, hOutcome, hFirst⟩ :=
        runPaperPipeline_of_fresh kept fresh (hStages.trans hStage)
      obtain ⟨signals', outcome', hOutcome', hSecond⟩ :=
        runPaperPipeline_of_fresh kept' fresh' hStage
      have hKey : outcome'.signal.key = outcome.signal.key := by
        rw [hOutcome, hOutcome', storedSignal_key, storedSignal_key]
      rcases hFirst with ⟨fault, hConfig, hFirst⟩ | ⟨config, riskDecisions, hConfig, hFirst⟩
      · rcases hSecond with ⟨fault', hConfig', hSecond⟩ | ⟨config', _, hConfig', -⟩
        · rw [hFirst, hSecond]
          exact ⟨same.tables signals signals' first.riskDecisions second.riskDecisions, rfl⟩
        · rw [hConfig] at hConfig'
          cases hConfig'
      · rcases hSecond with ⟨fault', hConfig', -⟩ | ⟨config', riskDecisions', hConfig', hSecond⟩
        · rw [hConfig] at hConfig'
          cases hConfig'
        rw [hConfig, Except.ok.injEq] at hConfig'
        subst hConfig'
        have decided := same.tables signals signals' riskDecisions riskDecisions'
        have hSnapshot : loadRiskStateSnapshot call.journalOrder { first with signals := signals }
            call.now = loadRiskStateSnapshot call.journalOrder second call.now :=
          same.snapshot call.journalOrder call.now
        have hVerdict := hUndisturbed symbol signal config hStage hConfig
        rw [← hOutcome, ← hOutcome'] at hVerdict
        obtain ⟨hDecision, hAmount⟩ := evaluate_row_eq call.ids.riskDecision hVerdict
        simp only [riskEvaluation, hSnapshot] at hFirst
        rcases hFirst with ⟨hRejected, hFirst⟩ | ⟨hApproved, approved, hUnused, hFirst⟩
        · rcases hSecond with ⟨-, hSecond⟩ | ⟨hApproved', -⟩
          · rw [hFirst, hSecond]
            exact ⟨decided, rfl⟩
          · exact absurd (hRejected.symm.trans (hDecision.trans hApproved')) (by decide)
        · rcases hSecond with ⟨hRejected', -⟩ | ⟨hApproved', approved', hUnused', hSecond⟩
          · exact absurd (hApproved.symm.trans (hDecision.trans hRejected')) (by decide)
          rw [hFirst, hSecond, approvedNotional_of_approved hApproved,
            riskEvaluation, approvedNotional_of_approved hApproved']
          have hSame := hAmount hApproved
          simp only [riskContext, hSame]
          exact decided.orderStage hKey approved approved' hUnused hUnused'

end Call

end AegisQuant.Pipeline
