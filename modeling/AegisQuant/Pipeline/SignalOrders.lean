import AegisQuant.Library.Run
import AegisQuant.Pipeline.PaperPipeline

/-! Paper orders against the signals they execute. The idempotency key holds
the identifier of the risk decision, which every evaluation draws anew, so no
later call ever meets the key of an earlier one: a signal is executed once
precisely as long as no call comes back to an executed signal. -/
namespace AegisQuant.Pipeline
open Paper Risk Transition List

/-- A call, or any change between calls to what is neither a signal, nor a
decision, nor an order. -/
inductive PipelineStep where
  | call (call : PipelineCall)
  | environment (next : Database)

def handlePipelineStep (db : Database) : PipelineStep → Database
  | .call call => (runPaperPipeline db call).1
  | .environment next =>
    { next with signals := db.signals, riskDecisions := db.riskDecisions, orders := db.orders }

def orderSignal (db : Database) (order : OrderRow) : Option Uuid :=
  (db.riskDecisions.find? order.riskDecisionId).bind (·.signalId)

def AtMostOneOrderPerSignal (db : Database) : Prop :=
  ∀ first ∈ db.orders.rows, ∀ second ∈ db.orders.rows, ∀ signalId,
    orderSignal db first = some signalId → orderSignal db second = some signalId → first = second

def Executed (db : Database) (signalId : Uuid) : Prop :=
  ∃ order ∈ db.orders.rows, orderSignal db order = some signalId

/-- The call evaluates to a signal that is stored and executed already. -/
def Reruns (db : Database) (call : PipelineCall) : Prop :=
  ∃ symbol signal existing, evaluateStage db call = .ok (.signalled symbol signal) ∧
    db.signals.find? (signalRecord signal call.now).key = some existing ∧
    Executed db existing.id

def RerunsStep (db : Database) : PipelineStep → Prop
  | .call call => Reruns db call
  | .environment _ => False

def RerunAnswersReused (db : Database) : PipelineStep → Prop
  | .call call => Reruns db call → ∃ result, (runPaperPipeline db call).2 = .ok result ∧
      result.pipelineDecision = .paperOrderReused
  | .environment _ => True

section Keys

theorem mem_trim {text : String} {char : Char} (hMem : char ∈ text.toList)
    (hSpace : isWhitespace char = false) : char ∈ (trim text).toList := by
  have hDrop (chars : List Char) (hChars : char ∈ chars) : char ∈ chars.dropWhile isWhitespace := by
    rw [← takeWhile_append_dropWhile (p := isWhitespace) (l := chars), mem_append] at hChars
    rcases hChars with hTaken | hKept
    · have hTrue := mem_takeWhile_imp hTaken
      rw [hSpace] at hTrue
      cases hTrue
    · exact hKept
  simp only [trim, String.toList_ofList, mem_reverse]
  exact hDrop _ (mem_reverse.mpr (hDrop _ hMem))

theorem colon_not_mem_strategyId {text : String} {strategyId : StrategyId}
    (hParse : StrategyId.fromStr text = .ok strategyId) : ':' ∉ text.toList := by
  intro hColon
  have hLower : ':' ∈ (toAsciiLowercase (trim text)).toList := by
    rw [toAsciiLowercase, String.toList_ofList, mem_map]
    exact ⟨':', mem_trim hColon (by decide), by decide⟩
  unfold StrategyId.fromStr at hParse
  split at hParse
  all_goals first
    | (rename_i hText; rw [hText] at hLower; revert hLower; decide)
    | cases hParse

theorem riskDecisionId_of_key {strategyId otherId symbol otherSymbol : String}
    {signalId otherSignal riskDecisionId otherDecision : Uuid} {side otherSide : Side}
    {time otherTime : Int} (hStrategy : ':' ∉ strategyId.toList) (hOther : ':' ∉ otherId.toList)
    (hKey : buildIdempotencyKey strategyId signalId riskDecisionId symbol side time =
      buildIdempotencyKey otherId otherSignal otherDecision otherSymbol otherSide otherTime) :
    riskDecisionId = otherDecision := by
  have hChars := congrArg String.toList hKey
  have hColon : ":".toList = [':'] := rfl
  simp only [buildIdempotencyKey, Uuid.toString, String.toList_append, String.toList_ofList,
    append_assoc, hColon, cons_append, nil_append] at hChars
  obtain ⟨-, hSignal⟩ := fields_eq_of_separated hStrategy hOther hChars
  obtain ⟨-, hDecision⟩ := fields_eq_of_separated (Uuid.colon_not_mem_hyphenated signalId)
    (Uuid.colon_not_mem_hyphenated otherSignal) hSignal
  obtain ⟨hSame, -⟩ := fields_eq_of_separated (Uuid.colon_not_mem_hyphenated riskDecisionId)
    (Uuid.colon_not_mem_hyphenated otherDecision) hDecision
  exact Uuid.hyphenated_injective hSame

end Keys

/-- Every order was made by a call: its key names its decision, and its
decision refers to a stored signal. -/
structure Linked (db : Database) : Prop where
  key : ∀ order ∈ db.orders.rows, ∃ strategyId signalId symbol side time,
    ':' ∉ String.toList strategyId ∧ order.idempotencyKey =
      buildIdempotencyKey strategyId signalId order.riskDecisionId symbol side time
  signal : ∀ order ∈ db.orders.rows, ∃ decision ∈ db.riskDecisions.rows,
    decision.id = order.riskDecisionId ∧
      ∃ signal ∈ db.signals.rows, decision.signalId = some signal.id

/-- Signals and decisions are only added. -/
structure Grows (db next : Database) : Prop where
  signals : ∀ signal ∈ db.signals.rows, signal ∈ next.signals.rows
  riskDecisions : ∀ decision ∈ db.riskDecisions.rows, decision ∈ next.riskDecisions.rows

section Growth
variable {db next : Database} {call : PipelineCall}

theorem Linked.orderSignal_eq (linked : Linked db) {order : OrderRow}
    (hOrder : order ∈ db.orders.rows) :
    ∃ signal ∈ db.signals.rows, orderSignal db order = some signal.id := by
  obtain ⟨decision, hDecision, hId, signal, hSignal, hRefers⟩ := linked.signal order hOrder
  refine ⟨signal, hSignal, ?_⟩
  rw [orderSignal, ← hId, Table.find?_of_mem hDecision]
  exact hRefers

theorem Linked.orderSignal_grows (linked : Linked db) (grows : Grows db next) {order : OrderRow}
    (hOrder : order ∈ db.orders.rows) : orderSignal next order = orderSignal db order := by
  obtain ⟨decision, hDecision, hId, -⟩ := linked.signal order hOrder
  rw [orderSignal, orderSignal, ← hId, Table.find?_of_mem hDecision,
    Table.find?_of_mem (grows.riskDecisions decision hDecision)]

theorem Linked.grow (linked : Linked db) (grows : Grows db next) (hOrders : next.orders = db.orders) :
    Linked next where
  key := by
    rw [hOrders]
    exact linked.key
  signal := by
    intro order hOrder
    rw [hOrders] at hOrder
    obtain ⟨decision, hDecision, hId, signal, hSignal, hRefers⟩ := linked.signal order hOrder
    exact ⟨decision, grows.riskDecisions decision hDecision, hId, signal,
      grows.signals signal hSignal, hRefers⟩

theorem AtMostOneOrderPerSignal.grow (once : AtMostOneOrderPerSignal db) (linked : Linked db)
    (grows : Grows db next) (hOrders : next.orders = db.orders) : AtMostOneOrderPerSignal next := by
  intro first hFirst second hSecond signalId hSignal hOther
  rw [hOrders] at hFirst hSecond
  rw [linked.orderSignal_grows grows hFirst] at hSignal
  rw [linked.orderSignal_grows grows hSecond] at hOther
  exact once first hFirst second hSecond signalId hSignal hOther

theorem Grows.refl (db : Database) : Grows db db := ⟨fun _ h => h, fun _ h => h⟩

theorem Grows.trans {last : Database} (grows : Grows db next) (further : Grows next last) :
    Grows db last :=
  ⟨fun signal hSignal => further.signals signal (grows.signals signal hSignal),
    fun decision hDecision => further.riskDecisions decision (grows.riskDecisions decision hDecision)⟩

variable {signalId : Uuid}

theorem Linked.key_unused (linked : Linked db) {strategyId symbol : String} {riskDecisionId : Uuid}
    {side : Side} {time : Int} (hStrategy : ':' ∉ strategyId.toList)
    (hFresh : db.riskDecisions.find? riskDecisionId = none) :
    db.orders.find? (buildIdempotencyKey strategyId signalId riskDecisionId symbol side time) =
      none := by
  rw [Table.find?_eq_none]
  intro order hOrder hKey
  obtain ⟨strategyId', signalId', symbol', side', time', hStrategy', hKey'⟩ := linked.key order hOrder
  obtain ⟨decision, hDecision, hId, -⟩ := linked.signal order hOrder
  have hSame := riskDecisionId_of_key hStrategy' hStrategy (hKey'.symm.trans hKey)
  exact Table.find?_eq_none.mp hFresh decision hDecision (hId.trans hSame)

theorem strategyId_of_signalled {symbol : Symbol} {signal : StrategySignal}
    (hEvaluate : evaluateStage db call = .ok (.signalled symbol signal)) :
    ':' ∉ call.request.strategyId.toList := by
  simp only [evaluateStage, Fallible.bind_eq_ok, Fallible.mapError_eq_ok] at hEvaluate
  obtain ⟨strategyId, hParse, -⟩ := hEvaluate
  exact colon_not_mem_strategyId hParse

theorem grows_of_insertSignalDeduped {signal : SignalRecord} {outcome : InsertSignalOutcome}
    (hInsert : insertSignalDeduped db signal = .ok (next, outcome)) :
    Grows db next ∧ next.orders = db.orders ∧ next.riskDecisions = db.riskDecisions ∧
      outcome.signal ∈ next.signals.rows := by
  rcases insertSignalDeduped_ok hInsert with ⟨rfl, hFound⟩ | ⟨signals, hSignals, rfl, hNew, -⟩
  · exact ⟨Grows.refl next, rfl, rfl, Table.mem_of_find? hFound⟩
  · have hRows := (Table.insert?_eq_some.mp hSignals).2
    refine ⟨⟨?_, fun _ h => h⟩, rfl, rfl, ?_⟩
    · intro other hOther
      rw [hRows]
      exact mem_append_left _ hOther
    · rw [hRows, hNew]
      exact mem_append_right _ (mem_singleton_self _)

theorem grows_of_decideStage {symbol : Symbol} {signal : SignalRecord} {side : Side}
    {evaluation : RiskEvaluationResult}
    (hDecide : decideStage db call symbol signal = .ok (next, side, evaluation)) :
    Grows db next ∧ next.orders = db.orders ∧ next.signals = db.signals ∧
      db.riskDecisions.find? call.ids.riskDecision = none ∧
      ∃ decision ∈ next.riskDecisions.rows, decision.id = call.ids.riskDecision ∧
        decision.signalId = some signal.id := by
  obtain ⟨-, ⟨config, -, rfl⟩, riskDecisions, hInsert, rfl⟩ := decideStage_ok hDecide
  obtain ⟨hFresh, hRows⟩ := Table.insert?_eq_some.mp hInsert
  refine ⟨⟨fun _ h => h, ?_⟩, rfl, rfl, hFresh, riskDecisionRow (riskContext call symbol signal side)
    (riskEvaluation db call config symbol signal side) call.now, ?_, rfl, rfl⟩
  · intro decision hDecision
    rw [hRows]
    exact mem_append_left _ hDecision
  · rw [hRows]
    exact mem_append_right _ (mem_singleton_self _)

/-- The tables after the order of a call: one row more, linked to the
decision of the call. -/
structure Orders (db next : Database) (call : PipelineCall) (signalId : Uuid) (row : OrderRow) :
    Prop where
  grows : Grows db next
  rows : next.orders.rows = db.orders.rows ++ [row]
  key : ∃ side time, row.idempotencyKey = buildIdempotencyKey call.request.strategyId signalId
    row.riskDecisionId call.request.symbol side time
  signal : ∃ decision ∈ next.riskDecisions.rows, decision.id = row.riskDecisionId ∧
    ∃ signal ∈ next.signals.rows, signal.id = signalId ∧ decision.signalId = some signalId

theorem Orders.linked {row : OrderRow} (orders : Orders db next call signalId row)
    (linked : Linked db) (hStrategy : ':' ∉ call.request.strategyId.toList) : Linked next where
  key := by
    rw [orders.rows, forall_mem_append, forall_mem_singleton]
    obtain ⟨side, time, hKey⟩ := orders.key
    exact ⟨linked.key, _, _, _, _, _, hStrategy, hKey⟩
  signal := by
    rw [orders.rows, forall_mem_append, forall_mem_singleton]
    obtain ⟨decision, hDecision, hId, signal, hSignal, rfl, hRefers⟩ := orders.signal
    refine ⟨?_, decision, hDecision, hId, signal, hSignal, hRefers⟩
    intro order hOrder
    obtain ⟨decision, hDecision, hId, signal, hSignal, hRefers⟩ := linked.signal order hOrder
    exact ⟨decision, orders.grows.riskDecisions decision hDecision, hId, signal,
      orders.grows.signals signal hSignal, hRefers⟩

theorem Orders.once {row : OrderRow} (orders : Orders db next call signalId row)
    (linked : Linked db) (once : AtMostOneOrderPerSignal db) (hNew : ¬Executed db signalId) :
    AtMostOneOrderPerSignal next := by
  have hRow : orderSignal next row = some signalId := by
    obtain ⟨decision, hDecision, hId, -, -, -, hRefers⟩ := orders.signal
    rw [orderSignal, ← hId, Table.find?_of_mem hDecision]
    exact hRefers
  have hOld : ∀ order ∈ db.orders.rows, orderSignal next order ≠ some signalId := by
    intro order hOrder hSame
    rw [linked.orderSignal_grows orders.grows hOrder] at hSame
    exact hNew ⟨order, hOrder, hSame⟩
  intro first hFirst second hSecond shared hSignal hOther
  rw [orders.rows, mem_append, mem_singleton] at hFirst hSecond
  rcases hFirst with hFirst | rfl <;> rcases hSecond with hSecond | rfl
  · rw [linked.orderSignal_grows orders.grows hFirst] at hSignal
    rw [linked.orderSignal_grows orders.grows hSecond] at hOther
    exact once first hFirst second hSecond shared hSignal hOther
  · exact absurd (hSignal.trans (hOther.symm.trans hRow)) (hOld first hFirst)
  · exact absurd (hOther.trans (hSignal.symm.trans hRow)) (hOld second hSecond)
  · rfl

/-- One call keeps the links, never answers with a reused order, and adds a
second order to a signal only if it comes back to an executed one. -/
theorem Linked.runPaperPipeline (linked : Linked db) (call : PipelineCall) :
    Linked (runPaperPipeline db call).1 ∧ NoReuse (runPaperPipeline db call).2 ∧
      (AtMostOneOrderPerSignal db → ¬Reruns db call →
        AtMostOneOrderPerSignal (runPaperPipeline db call).1) := by
  rcases runPaperPipeline_cases db call with ⟨hSame, hAnswer, -⟩ |
    ⟨symbol, signal, persisted, outcome, hEvaluate, hInsert, hRest⟩
  · rw [hSame]
    exact ⟨linked, hAnswer, fun once _ => once⟩
  obtain ⟨hGrows, hOrders, hDecisions, hStored⟩ := grows_of_insertSignalDeduped hInsert
  rcases hRest with ⟨hPersisted, hAnswer, -⟩ | ⟨decided, side, evaluation, hDecide, hRest⟩
  · rw [hPersisted]
    exact ⟨linked.grow hGrows hOrders, hAnswer, fun once _ => once.grow linked hGrows hOrders⟩
  obtain ⟨hGrows', hOrders', hSignals, hFresh, decision, hDecision, hId, hRefers⟩ :=
    grows_of_decideStage hDecide
  have hGrown := hGrows.trans hGrows'
  have hSameOrders := hOrders'.trans hOrders
  rcases hRest with ⟨hDecided, hAnswer, -⟩ | ⟨-, hOrder, -⟩
  · rw [hDecided]
    exact ⟨linked.grow hGrown hSameOrders, hAnswer, fun once _ => once.grow linked hGrown hSameOrders⟩
  have hStrategy := strategyId_of_signalled hEvaluate
  rw [hOrder]
  rcases orderStage_cases decided call symbol outcome side evaluation.approvedNotional with
    ⟨hSame, -, hAnswer⟩ | ⟨intent, stored, created, hIntent, hCreate, hBooked, hAnswer⟩
  · rw [hSame]
    refine ⟨linked.grow hGrown hSameOrders, hAnswer ?_,
      fun once _ => once.grow linked hGrown hSameOrders⟩
    rw [hSameOrders]
    exact linked.key_unused hStrategy (hDecisions ▸ hFresh)
  obtain ⟨latestCandle, -, -, hFields⟩ := approvedIntent_ok hIntent
  obtain ⟨-, ⟨orders, hInserted, rfl⟩, -⟩ := createPaperOrder_ok hCreate
  obtain ⟨account, positions, fills, journal, snapshots, hFrame⟩ :=
    persistPaperFillAccounting_frame { decided with orders := orders } call.ids.fill call.now
      created.order
  rw [hBooked, hFrame]
  have orders : Orders db { decided with
      orders := orders
      paperAccount := account
      paperPositions := positions
      paperFills := fills
      paperTradeJournal := journal
      paperEquitySnapshots := snapshots } call outcome.signal.id (intentRow intent call.now) := {
    grows := ⟨hGrown.signals, hGrown.riskDecisions⟩
    rows := by
      rw [← hSameOrders]
      exact (Table.insert?_eq_some.mp hInserted).2
    key := by
      rw [hFields]
      exact ⟨_, _, rfl⟩
    signal := by
      rw [hFields]
      exact ⟨decision, hDecision, hId, outcome.signal, hSignals ▸ hStored, rfl, hRefers⟩ }
  refine ⟨orders.linked linked hStrategy, hAnswer, fun once hRerun => orders.once linked once ?_⟩
  rintro ⟨order, hMember, hSignal⟩
  rcases insertSignalDeduped_ok hInsert with ⟨-, hFound⟩ | ⟨-, -, -, hNew, hIds⟩
  · exact hRerun ⟨symbol, signal, outcome.signal, hEvaluate, hFound, order, hMember, hSignal⟩
  · obtain ⟨other, hOther, hSame⟩ := linked.orderSignal_eq hMember
    rw [hSignal, Option.some.injEq, hNew] at hSame
    exact hIds other hOther hSame.symm

end Growth

section Run
variable {db : Database}

theorem Linked.handlePipelineStep (linked : Linked db) (step : PipelineStep) :
    Linked (handlePipelineStep db step) := by
  cases step with
  | call call => exact (linked.runPaperPipeline call).1
  | environment next => exact ⟨linked.key, linked.signal⟩

theorem Linked.rerunAnswersReused_iff (linked : Linked db) (step : PipelineStep) :
    RerunAnswersReused db step ↔ ¬RerunsStep db step := by
  cases step with
  | environment next => simp [RerunAnswersReused, RerunsStep]
  | call call =>
    constructor
    · intro hAnswers hReruns
      obtain ⟨result, hResult, hReused⟩ := hAnswers hReruns
      exact (linked.runPaperPipeline call).2.1 result hResult hReused
    · intro hNone hReruns
      exact absurd hReruns hNone

theorem Linked.once_handlePipelineStep (linked : Linked db) (once : AtMostOneOrderPerSignal db)
    {step : PipelineStep} (hNone : ¬RerunsStep db step) :
    AtMostOneOrderPerSignal (Pipeline.handlePipelineStep db step) := by
  cases step with
  | call call => exact (linked.runPaperPipeline call).2.2 once hNone
  | environment next => exact once.grow linked ⟨fun _ h => h, fun _ h => h⟩ rfl

end Run

/-- From tables without orders, every signal has at most one order throughout
a run and every call on an executed signal answers that it reused the order,
exactly if no call of the run comes back to an executed signal. -/
theorem one_order_per_signal_iff (db : Database) (steps : List PipelineStep)
    (hOrders : db.orders.rows = []) :
    (Throughout handlePipelineStep AtMostOneOrderPerSignal db steps ∧
        Along handlePipelineStep RerunAnswersReused db steps) ↔
      Along handlePipelineStep (fun reached step => ¬RerunsStep reached step) db steps := by
  have hLinked : Linked db := ⟨by simp [hOrders], by simp [hOrders]⟩
  have hOnce : AtMostOneOrderPerSignal db := by simp [AtMostOneOrderPerSignal, hOrders]
  have hAnswers := along_iff_of_invariant
    (fun reached step (linked : Linked reached) => linked.rerunAnswersReused_iff step)
    (fun reached step (linked : Linked reached) _ => linked.handlePipelineStep step) steps hLinked
  rw [hAnswers, and_iff_right_iff_imp, throughout_iff_along]
  intro hNone
  refine ⟨hOnce, along_of_invariant (I := fun reached => Linked reached ∧
    AtMostOneOrderPerSignal reached) ?_ ?_ ⟨hLinked, hOnce⟩ hNone⟩
  · exact fun reached step hReached hStep => hReached.1.once_handlePipelineStep hReached.2 hStep
  · exact fun reached step hReached hStep => ⟨hReached.1.handlePipelineStep step,
      hReached.1.once_handlePipelineStep hReached.2 hStep⟩

def risingCandle (symbol : Symbol) (minute : Int) (price : Decimal) : Candle where
  symbol := symbol
  interval := .oneMinute
  openTime := DateTime.seconds (60 * minute)
  closeTime := DateTime.seconds (60 * minute + 59)
  «open» := price
  high := price
  low := price
  close := price
  volume := 1
  quoteVolume := none
  tradeCount := 1
  isClosed := true

/-- A call of `momentum_v1` on three rising candles, without a cooldown; the
identifiers drawn are counted from `firstId`. -/
def momentumCall (symbol : Symbol) (firstId : Nat) : PipelineCall where
  request := {
    strategyId := "momentum_v1", symbol := symbol.text, timeframe := "1m", correlationId := none }
  ids := {
    correlation := ⟨BitVec.ofNat 128 firstId⟩
    signal := ⟨BitVec.ofNat 128 (firstId + 1)⟩
    riskDecision := ⟨BitVec.ofNat 128 (firstId + 2)⟩
    order := ⟨BitVec.ofNat 128 (firstId + 3)⟩
    fill := ⟨⟨1⟩, ⟨BitVec.ofNat 128 (firstId + 4)⟩, ⟨BitVec.ofNat 128 (firstId + 5)⟩⟩ }
  now := DateTime.seconds 180
  exchange := "binance"
  config := {
    strategyId := .momentumV1, enabled := true, mode := .paper, symbols := [symbol]
    timeframe := .oneMinute, suggestedNotional := 1000, maxSignalAgeMs := 60000
    cooldownSeconds := 0, lookbackCandles := 2 }
  candles := [risingCandle symbol 0 100, risingCandle symbol 1 110, risingCandle symbol 2 125]
  rules := evaluateMomentum
  persistedRiskConfig := some { RiskConfig.default with cooldownSeconds := 0 }
  journalOrder := RowOrder.stable newestEntryFirst

def connectedFeed (symbol : Symbol) : MarketFeedStatus where
  exchange := "binance"
  symbol := symbol.text
  status := "connected"
  freshnessStatus := .fresh
  lastEventAt := some (DateTime.seconds 180)

def btcusdt : Symbol := .btcusdt

/-- Nothing stored but the state of the market feeds. -/
def connectedBooks (symbols : List Symbol) : Database :=
  { Database.empty with marketFeeds := symbols.map connectedFeed }

/-- A first call executes its signal once. -/
theorem one_order_per_signal_first_call :
    Throughout handlePipelineStep AtMostOneOrderPerSignal (connectedBooks [btcusdt])
      [.call (momentumCall btcusdt 10)] := by
  refine ((one_order_per_signal_iff (connectedBooks [btcusdt]) [.call (momentumCall btcusdt 10)]
    rfl).mpr ⟨?_, trivial⟩).1
  rintro ⟨symbol, signal, existing, -, hFound, -⟩
  cases hFound

def afterCall : Database :=
  run handlePipelineStep (connectedBooks [btcusdt]) [.call (momentumCall btcusdt 10)]

def afterSecondCall : Database :=
  run handlePipelineStep (connectedBooks [btcusdt])
    [.call (momentumCall btcusdt 10), .call (momentumCall btcusdt 20)]

/-- The same call again, with other identifiers drawn, executes the same signal
a second time and answers that it created the order. -/
theorem second_call_repeats_order :
    afterSecondCall.orders.rows.map (orderSignal afterSecondCall) = [some ⟨11⟩, some ⟨11⟩] ∧
    (runPaperPipeline afterCall (momentumCall btcusdt 20)).2.toOption.map (·.pipelineDecision) =
      some .paperOrderCreated ∧
    ¬AtMostOneOrderPerSignal afterSecondCall := by
  have hSignals : afterSecondCall.orders.rows.map (fun order => (order.id, orderSignal
      afterSecondCall order)) = [(⟨13⟩, some ⟨11⟩), (⟨23⟩, some ⟨11⟩)] := by decide +kernel
  refine ⟨by simpa [Function.comp_def] using congrArg (map Prod.snd) hSignals,
    by decide +kernel, fun once => ?_⟩
  obtain ⟨first, hFirst, hFirstSignal⟩ : ∃ order ∈ afterSecondCall.orders.rows,
      (order.id, orderSignal afterSecondCall order) = (⟨13⟩, some ⟨11⟩) :=
    mem_map.mp (hSignals ▸ mem_cons_self ..)
  obtain ⟨second, hSecond, hSecondSignal⟩ : ∃ order ∈ afterSecondCall.orders.rows,
      (order.id, orderSignal afterSecondCall order) = (⟨23⟩, some ⟨11⟩) :=
    mem_map.mp (hSignals ▸ mem_cons_of_mem _ (mem_cons_self ..))
  rw [Prod.mk.injEq] at hFirstSignal hSecondSignal
  have hSame := once first hFirst second hSecond ⟨11⟩ hFirstSignal.2 hSecondSignal.2
  rw [hSame, hSecondSignal.1] at hFirstSignal
  exact absurd hFirstSignal.1 (by decide)

end AegisQuant.Pipeline
