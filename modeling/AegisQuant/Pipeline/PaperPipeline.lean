import AegisQuant.Paper.Books
import AegisQuant.Risk.Snapshot

/-! `run_paper_pipeline`: from a strategy evaluation through the persisted
signal and the risk decision to a paper order and its fill. Every write is a
statement of its own, so a call that fails keeps what it has written. -/
namespace AegisQuant.Pipeline
open Paper Risk Fallible

structure PaperTradingPipelineRequest where
  strategyId : String
  symbol : String
  timeframe : String
  correlationId : Option Uuid

inductive PipelineDecision where
  | noSignal
  | riskRejected
  | paperOrderCreated
  | paperOrderReused
  | strategyDisabled
  | safetyStopped
  deriving DecidableEq, Repr

inductive PipelineStepStatus where
  | notStarted
  | completed
  | skipped
  | rejected
  | reused
  deriving DecidableEq, Repr

inductive PipelineRejectionReason where
  | conditionsNotMet
  | insufficientHistory
  | strategyDisabled
  | killSwitchActive
  | signalTooOld
  | dataStale
  | marketFeedUnavailable
  | marketFeedDegraded
  | unsupportedTimeframe
  | unsupportedState
  deriving DecidableEq, Repr

def PipelineRejectionReason.asStr : PipelineRejectionReason → String
  | .conditionsNotMet => "conditions_not_met"
  | .insufficientHistory => "insufficient_history"
  | .strategyDisabled => "strategy_disabled"
  | .killSwitchActive => "kill_switch_active"
  | .signalTooOld => "signal_too_old"
  | .dataStale => "data_stale"
  | .marketFeedUnavailable => "market_feed_unavailable"
  | .marketFeedDegraded => "market_feed_degraded"
  | .unsupportedTimeframe => "unsupported_timeframe"
  | .unsupportedState => "unsupported_state"

inductive OrderIntentSource where
  | strategySignal
  deriving DecidableEq, Repr

structure StrategyRiskExecutionTrace where
  strategyEvaluation : PipelineStepStatus
  signal : PipelineStepStatus
  riskEvaluation : PipelineStepStatus
  paperOrder : PipelineStepStatus
  orderIntentSource : Option OrderIntentSource
  deriving DecidableEq

structure PaperTradingPipelineResult where
  pipelineDecision : PipelineDecision
  strategyId : String
  symbol : String
  timeframe : String
  signalGenerated : Bool
  signalReused : Bool
  signalId : Option Uuid
  riskDecisionId : Option Uuid
  paperOrderId : Option Uuid
  executionState : Option String
  reasons : List String
  correlationId : Uuid
  trace : StrategyRiskExecutionTrace
  deriving DecidableEq

inductive PipelineError where
  | fault (fault : Fault)
  | order (error : CreateOrderError)
  deriving DecidableEq

/-- The identifiers a call draws. -/
structure PipelineIds where
  correlation : Uuid
  signal : Uuid
  riskDecision : Uuid
  order : Uuid
  fill : FillIds

/-- One call, with what it reads from outside the order tables: the clock,
the configured exchange, the persisted configurations and the recent closed
candles of the symbol. -/
structure PipelineCall where
  request : PaperTradingPipelineRequest
  ids : PipelineIds
  now : DateTime
  exchange : String
  config : StrategyConfig
  candles : List Candle
  rules : StrategyRules
  persistedRiskConfig : Option RiskConfig
  journalOrder : RowOrder newestEntryFirst

def PipelineCall.correlationId (call : PipelineCall) : Uuid :=
  call.request.correlationId.getD call.ids.correlation

def terminalResult (call : PipelineCall) (decision : PipelineDecision)
    (reason : PipelineRejectionReason) (strategyEvaluation : PipelineStepStatus) :
    PaperTradingPipelineResult where
  pipelineDecision := decision
  strategyId := call.request.strategyId
  symbol := call.request.symbol
  timeframe := call.request.timeframe
  signalGenerated := false
  signalReused := false
  signalId := none
  riskDecisionId := none
  paperOrderId := none
  executionState := none
  reasons := [reason.asStr]
  correlationId := call.correlationId
  trace := {
    strategyEvaluation := strategyEvaluation
    signal := .skipped
    riskEvaluation := .skipped
    paperOrder := .skipped
    orderIntentSource := none }

def feedStopReason (db : Database) (exchange : String) (symbol : Symbol) :
    Option PipelineRejectionReason :=
  match db.marketFeeds.find? fun feed => feed.exchange = exchange && feed.symbol = symbol.text with
  | none => some .marketFeedUnavailable
  | some feed =>
    if feed.freshnessStatus ≠ .fresh then some .dataStale
    else if feed.status ≠ "connected" then some .marketFeedDegraded
    else none

def signalReasonToPipelineReason : SignalReason → PipelineRejectionReason
  | .conditionsNotMet => .conditionsNotMet
  | .insufficientHistory => .insufficientHistory
  | .strategyDisabled => .strategyDisabled
  | _ => .unsupportedState

/-- Where the call stands once the strategy has been evaluated. -/
inductive EvaluationStage where
  | stopped (result : PaperTradingPipelineResult)
  | signalled (symbol : Symbol) (signal : StrategySignal)

/-- The part of the call before its first write. -/
def evaluateStage (db : Database) (call : PipelineCall) : Except Fault EvaluationStage := do
  let strategyId ← (StrategyId.fromStr call.request.strategyId).mapError Fault.core
  let symbol ← (Symbol.new call.request.symbol).mapError Fault.core
  let timeframe ← (CandleInterval.fromStr call.request.timeframe).mapError Fault.core
  if call.config.enabled = false then
    return .stopped (terminalResult call .strategyDisabled .strategyDisabled .skipped)
  else if call.config.timeframe ≠ timeframe then
    return .stopped (terminalResult call .safetyStopped .unsupportedTimeframe .skipped)
  else match feedStopReason db call.exchange symbol with
    | some reason => return .stopped (terminalResult call .safetyStopped reason .skipped)
    | none =>
      let evaluation ← AegisQuant.evaluate call.rules call.ids.signal {
        correlationId := call.correlationId
        strategyId := strategyId
        symbol := symbol
        config := call.config
        candles := call.candles
        evaluatedAt := call.now }
      match evaluation.signal with
      | some signal => return .signalled symbol signal
      | none => return .stopped (terminalResult call .noSignal
          (signalReasonToPipelineReason evaluation.reason) .completed)

def signalRecord (signal : StrategySignal) (now : DateTime) : SignalRecord where
  id := signal.signalId
  strategyId := signal.strategyId.asStr
  symbol := signal.symbol.text
  side := signal.side.asStr
  confidence := signal.confidence.value
  timeframe := signal.timeframe.asStr
  reason := signal.reason.asStr
  suggestedNotional := signal.suggestedNotional
  stopLossPct := signal.stopLossPct
  takeProfitPct := signal.takeProfitPct
  sourceCandleOpenTime := signal.sourceCandleOpenTime
  correlationId := signal.correlationId
  createdAt := now

structure InsertSignalOutcome where
  signal : SignalRecord
  inserted : Bool

/-- A signal whose key is stored already is the stored one. -/
def insertSignalDeduped (db : Database) (signal : SignalRecord) :
    Except Fault (Database × InsertSignalOutcome) :=
  match db.signals.find? signal.key with
  | some existing => .ok (db, ⟨existing, false⟩)
  | none =>
    if db.signals.rows.any fun other => other.id = signal.id then
      .error (.message "duplicate signal id")
    else match db.signals.insert? signal with
      | none => .error (.message "duplicate signal key")
      | some signals => .ok ({ db with signals := signals }, ⟨signal, true⟩)

def parseSignalSide (value : String) : Except Fault Side :=
  ((SignalSide.fromStr value).mapError Fault.core).map SignalSide.toSide

def optionalNumber : Option Decimal → Value
  | some value => .number value
  | none => .null

def sideText : Side → String
  | .buy => "buy"
  | .sell => "sell"

/-- The row `insert_risk_evaluation` writes. The rationale is kept without
the results of the single rules. -/
def riskDecisionRow (context : RiskCheckContext) (evaluation : RiskEvaluationResult)
    (now : DateTime) : RiskDecisionRow where
  id := evaluation.riskDecisionId
  correlationId := evaluation.correlationId
  signalId := some context.signalId
  decision := evaluation.decision.asStr
  rationale := .object [
    ("approved_notional", optionalNumber evaluation.approvedNotional),
    ("risk_score", .number evaluation.riskScore),
    ("reasons", .array (evaluation.reasons.map fun reason => .string (reasonCode reason))),
    ("strategy_id", .string context.strategyId),
    ("symbol", .string context.symbol.text),
    ("side", .string (sideText context.side)),
    ("suggested_notional", .number context.suggestedNotional)]
  decidedAt := now

def riskContext (call : PipelineCall) (symbol : Symbol) (signal : SignalRecord) (side : Side) :
    RiskCheckContext where
  signalId := signal.id
  correlationId := call.correlationId
  strategyId := signal.strategyId
  symbol := symbol
  side := side
  suggestedNotional := signal.suggestedNotional
  signalCreatedAt := signal.createdAt
  evaluatedAt := call.now

/-- The persisted configuration if there is one, else the default. -/
def loadRiskConfig (persisted : Option RiskConfig) : Except Fault RiskConfig :=
  match persisted with
  | none => .ok .default
  | some config => (config.validate.mapError Fault.core).map fun _ => config

def PipelineCall.riskConfig (call : PipelineCall) : Except Fault RiskConfig :=
  loadRiskConfig call.persistedRiskConfig

/-- The evaluation of the stored signal on the snapshot of the database. -/
def riskEvaluation (db : Database) (call : PipelineCall) (config : RiskConfig) (symbol : Symbol)
    (signal : SignalRecord) (side : Side) : RiskEvaluationResult :=
  Risk.evaluate config call.ids.riskDecision (riskContext call symbol signal side)
    (loadRiskStateSnapshot call.journalOrder db call.now)

def decideStage (db : Database) (call : PipelineCall) (symbol : Symbol) (signal : SignalRecord) :
    Except Fault (Database × Side × RiskEvaluationResult) := do
  let side ← parseSignalSide signal.side
  let config ← call.riskConfig
  let evaluation := riskEvaluation db call config symbol signal side
  let decided ← insertRiskDecision db
    (riskDecisionRow (riskContext call symbol signal side) evaluation call.now)
  return (decided, side, evaluation)

def buildIdempotencyKey (strategyId : String) (signalId riskDecisionId : Uuid) (symbol : String)
    (side : Side) (sourceCandleOpenTimeMs : Int) : String :=
  strategyId ++ ":" ++ signalId.toString ++ ":" ++ riskDecisionId.toString ++ ":" ++ symbol ++ ":" ++
    sideText side ++ ":" ++ toString sourceCandleOpenTimeMs

def buildOrderIntent (call : PipelineCall) (idempotencyKey : String) (symbol : Symbol) (side : Side)
    (approvedNotional : Decimal) (latestCandle : Candle) : Except Fault OrderIntent :=
  if latestCandle.close ≤ 0 then
    .error (.message "latest candle close must be greater than zero")
  else .ok {
    orderId := call.ids.order
    correlationId := call.correlationId
    riskDecisionId := call.ids.riskDecision
    idempotencyKey := idempotencyKey
    symbol := symbol
    side := side
    quantity := approvedNotional / latestCandle.close
    limitPrice := some latestCandle.close
    createdAt := call.now
    expiresAt := none }

def signalResult (call : PipelineCall) (outcome : InsertSignalOutcome) (decision : PipelineDecision)
    (order : Option OrderRow) (reasons : List String)
    (riskStatus orderStatus : PipelineStepStatus) : PaperTradingPipelineResult where
  pipelineDecision := decision
  strategyId := call.request.strategyId
  symbol := call.request.symbol
  timeframe := call.request.timeframe
  signalGenerated := outcome.inserted
  signalReused := !outcome.inserted
  signalId := some outcome.signal.id
  riskDecisionId := some call.ids.riskDecision
  paperOrderId := order.map (·.id)
  executionState := order.map (·.executionState)
  reasons := reasons
  correlationId := call.correlationId
  trace := {
    strategyEvaluation := .completed
    signal := if outcome.inserted then .completed else .reused
    riskEvaluation := riskStatus
    paperOrder := orderStatus
    orderIntentSource := some .strategySignal }

def reusedResult (call : PipelineCall) (outcome : InsertSignalOutcome) (existing : OrderRow) :
    PaperTradingPipelineResult :=
  signalResult call outcome .paperOrderReused (some existing) [] .completed .reused

def pipelineKey (call : PipelineCall) (signal : SignalRecord) (side : Side) : String :=
  buildIdempotencyKey call.request.strategyId signal.id call.ids.riskDecision call.request.symbol
    side (DateTime.timestampMillis signal.sourceCandleOpenTime)

def approvedIntent (call : PipelineCall) (symbol : Symbol) (signal : SignalRecord) (side : Side)
    (approvedNotional : Option Decimal) : Except Fault OrderIntent :=
  match call.candles.getLast? with
  | none => .error (.message "closed candle history missing latest candle")
  | some latestCandle => buildOrderIntent call (pipelineKey call signal side) symbol side
      (approvedNotional.getD signal.suggestedNotional) latestCandle

def orderStage (db : Database) (call : PipelineCall) (symbol : Symbol)
    (outcome : InsertSignalOutcome) (side : Side) (approvedNotional : Option Decimal) :
    Database × Except PipelineError PaperTradingPipelineResult :=
  match call.candles.getLast?, db.orders.find? (pipelineKey call outcome.signal side) with
  | none, _ => (db, .error (.fault (.message "closed candle history missing latest candle")))
  | some _, some existing => (db, .ok (reusedResult call outcome existing))
  | some _, none =>
    match approvedIntent call symbol outcome.signal side approvedNotional with
    | .error fault => (db, .error (.fault fault))
    | .ok intent =>
      match createPaperOrder db call.now intent with
      | .error .duplicateIdempotencyKey =>
        match db.orders.find? intent.idempotencyKey with
        | some existing => (db, .ok (reusedResult call outcome existing))
        | none =>
          (db, .error (.fault (.message "duplicate idempotency key without existing order")))
      | .error err => (db, .error (.order err))
      | .ok (stored, created) =>
        match persistPaperFillAccounting stored call.ids.fill call.now created.order with
        | (booked, .error fault) => (booked, .error (.fault fault))
        | (booked, .ok _) => (booked, .ok (signalResult call outcome .paperOrderCreated
            (some created.order.toOrderRow) [] .completed .completed))

def signalStage (db : Database) (call : PipelineCall) (symbol : Symbol)
    (outcome : InsertSignalOutcome) : Database × Except PipelineError PaperTradingPipelineResult :=
  match decideStage db call symbol outcome.signal with
  | .error fault => (db, .error (.fault fault))
  | .ok (decided, side, evaluation) =>
    match evaluation.decision with
    | .rejected => (decided, .ok (signalResult call outcome .riskRejected none
        (evaluation.reasons.map reasonCode) .rejected .skipped))
    | .approved => orderStage decided call symbol outcome side evaluation.approvedNotional

def runPaperPipeline (db : Database) (call : PipelineCall) :
    Database × Except PipelineError PaperTradingPipelineResult :=
  match evaluateStage db call with
  | .error fault => (db, .error (.fault fault))
  | .ok (.stopped result) => (db, .ok result)
  | .ok (.signalled symbol signal) =>
    match insertSignalDeduped db (signalRecord signal call.now) with
    | .error fault => (db, .error (.fault fault))
    | .ok (persisted, outcome) => signalStage persisted call symbol outcome

/-- The intent a call hands to `create_paper_order`, with the tables it is
checked against: that of an approved signal. -/
def approvedOrder (db : Database) (call : PipelineCall) : Option (Database × OrderIntent) :=
  match evaluateStage db call with
  | .ok (.signalled symbol signal) =>
    match insertSignalDeduped db (signalRecord signal call.now) with
    | .ok (persisted, outcome) =>
      match decideStage persisted call symbol outcome.signal with
      | .ok (decided, side, evaluation) =>
        match evaluation.decision with
        | .approved => ((approvedIntent call symbol outcome.signal side
            evaluation.approvedNotional).toOption).map fun intent => (decided, intent)
        | .rejected => none
      | .error _ => none
    | .error _ => none
  | _ => none

section Specifications
variable {db persisted decided : Database} {call : PipelineCall} {symbol : Symbol} {side : Side}
  {notional : Option Decimal} {outcome : InsertSignalOutcome} {evaluation : RiskEvaluationResult}

theorem evaluateStage_stopped {result : PaperTradingPipelineResult}
    (hStage : evaluateStage db call = .ok (.stopped result)) :
    result.pipelineDecision ≠ .paperOrderReused := by
  simp only [evaluateStage, bind_eq_ok] at hStage
  obtain ⟨strategyId, -, parsed, -, timeframe, -, hStage⟩ := hStage
  split at hStage
  · cases hStage
    simp [terminalResult]
  split at hStage
  · cases hStage
    simp [terminalResult]
  split at hStage
  · cases hStage
    simp [terminalResult]
  obtain ⟨evaluation, -, hStage⟩ := bind_eq_ok.mp hStage
  split at hStage
  · cases hStage
  · cases hStage
    simp [terminalResult]

section
variable {signal : StrategySignal} (hStage : evaluateStage db call = .ok (.signalled symbol signal))
include hStage

/-- A signal comes from the evaluation of the configured timeframe for the
strategy and the symbol of the request. -/
theorem evaluateStage_generated :
    ∃ strategyId timeframe, StrategyId.fromStr call.request.strategyId = .ok strategyId ∧
      Symbol.new call.request.symbol = .ok symbol ∧
      CandleInterval.fromStr call.request.timeframe = .ok timeframe ∧
      call.config.timeframe = timeframe ∧
      GeneratedBy call.rules call.ids.signal {
        correlationId := call.correlationId
        strategyId := strategyId
        symbol := symbol
        config := call.config
        candles := call.candles
        evaluatedAt := call.now } signal := by
  simp only [evaluateStage, bind_eq_ok, mapError_eq_ok] at hStage
  obtain ⟨strategyId, hStrategy, parsed, hSymbol, timeframe, hTimeframe, hStage⟩ := hStage
  split at hStage
  · cases hStage
  split at hStage
  · cases hStage
  rename_i hSame
  split at hStage
  · cases hStage
  obtain ⟨evaluation, hEvaluation, hStage⟩ := bind_eq_ok.mp hStage
  split at hStage
  · rename_i generated hGenerated
    cases hStage
    exact ⟨strategyId, timeframe, hStrategy, hSymbol, hTimeframe, not_not.mp hSame,
      generated_of_evaluate hEvaluation hGenerated⟩
  · cases hStage

theorem evaluateStage_signalled : signal.symbol = symbol := by
  obtain ⟨strategyId, timeframe, -, -, -, -, generated⟩ := evaluateStage_generated hStage
  exact generated.symbol_eq

end

variable {signal : SignalRecord}

theorem insertSignalDeduped_ok (hInsert : insertSignalDeduped db signal = .ok (persisted, outcome))
    :
    (persisted = db ∧ db.signals.find? signal.key = some outcome.signal) ∨
    ∃ signals, db.signals.insert? signal = some signals ∧
      persisted = { db with signals := signals } ∧ outcome.signal = signal ∧
      ∀ other ∈ db.signals.rows, other.id ≠ signal.id := by
  unfold insertSignalDeduped at hInsert
  split at hInsert
  · rename_i existing hFound
    cases hInsert
    exact .inl ⟨rfl, hFound⟩
  split at hInsert
  · cases hInsert
  rename_i hIds
  split at hInsert
  · cases hInsert
  rename_i signals hSignals
  cases hInsert
  exact .inr ⟨signals, hSignals, rfl, rfl, by simpa using hIds⟩

theorem decideStage_ok
    (hDecide : decideStage db call symbol signal = .ok (decided, side, evaluation)) :
    parseSignalSide signal.side = .ok side ∧ (∃ config, call.riskConfig = .ok config ∧
        evaluation = riskEvaluation db call config symbol signal side) ∧
      ∃ riskDecisions, db.riskDecisions.insert? (riskDecisionRow (riskContext call symbol signal side)
          evaluation call.now) = some riskDecisions ∧
        decided = { db with riskDecisions := riskDecisions } := by
  simp only [decideStage, bind_eq_ok, pure_eq_ok, Prod.mk.injEq] at hDecide
  obtain ⟨side', hSide, config, hConfig, decided', hDecided, rfl, rfl, rfl⟩ := hDecide
  exact ⟨hSide, ⟨config, hConfig, rfl⟩, insertRiskDecision_eq_ok.mp hDecided⟩

theorem approvedIntent_ok {intent : OrderIntent}
    (hIntent : approvedIntent call symbol signal side notional = .ok intent) :
    ∃ latestCandle, call.candles.getLast? = some latestCandle ∧ 0 < latestCandle.close ∧ intent = {
        orderId := call.ids.order
        correlationId := call.correlationId
        riskDecisionId := call.ids.riskDecision
        idempotencyKey := pipelineKey call signal side
        symbol := symbol
        side := side
        quantity := notional.getD signal.suggestedNotional / latestCandle.close
        limitPrice := some latestCandle.close
        createdAt := call.now
        expiresAt := none } := by
  unfold approvedIntent at hIntent
  split at hIntent
  · cases hIntent
  rename_i latestCandle hLatest
  unfold buildOrderIntent at hIntent
  split at hIntent
  · cases hIntent
  rename_i hClose
  cases hIntent
  exact ⟨latestCandle, hLatest, not_le.mp hClose, rfl⟩

/-- The call does not answer with an order that was there before. -/
def NoReuse (answer : Except PipelineError PaperTradingPipelineResult) : Prop :=
  ∀ result, answer = .ok result → result.pipelineDecision ≠ .paperOrderReused

variable (db : Database)

theorem orderStage_cases (call : PipelineCall) (symbol : Symbol) (outcome : InsertSignalOutcome)
    (side : Side) (notional : Option Decimal) :
    ((orderStage db call symbol outcome side notional).1 = db ∧
      (∀ intent, approvedIntent call symbol outcome.signal side notional = .ok intent →
        ¬Acceptable db intent) ∧
      (db.orders.find? (pipelineKey call outcome.signal side) = none →
        NoReuse (orderStage db call symbol outcome side notional).2)) ∨
    ∃ intent stored created, approvedIntent call symbol outcome.signal side notional = .ok intent ∧
      createPaperOrder db call.now intent = .ok (stored, created) ∧
      (orderStage db call symbol outcome side notional).1 =
        (persistPaperFillAccounting stored call.ids.fill call.now created.order).1 ∧
      NoReuse (orderStage db call symbol outcome side notional).2 := by
  have hRefused {intent : OrderIntent} {err : CreateOrderError}
      (hCreate : createPaperOrder db call.now intent = .error err) : ¬Acceptable db intent := by
    intro hAcceptable
    obtain ⟨stored, created, hOk⟩ := createPaperOrder_of_acceptable call.now hAcceptable
    rw [hCreate] at hOk
    cases hOk
  unfold orderStage
  split
  · rename_i hEmpty
    refine .inl ⟨rfl, ?_, fun _ => by rintro _ ⟨⟩⟩
    intro intent hIntent
    obtain ⟨latestCandle, hLatest, -⟩ := approvedIntent_ok hIntent
    rw [hEmpty] at hLatest
    cases hLatest
  · rename_i existing _ hFound
    refine .inl ⟨rfl, ?_, fun hUnused => by simp [hFound] at hUnused⟩
    intro intent hIntent hAcceptable
    obtain ⟨_, _, _, rfl⟩ := approvedIntent_ok hIntent
    have hUnused := hAcceptable.keyUnused
    simp [hFound] at hUnused
  · split
    · rename_i fault hIntent
      exact .inl ⟨rfl, by simp [hIntent], fun _ => by rintro _ ⟨⟩⟩
    rename_i intent hIntent
    split
    · rename_i hCreate
      split
      · rename_i existing hFound
        refine .inl ⟨rfl, by simpa [hIntent] using hRefused hCreate, ?_⟩
        obtain ⟨_, _, _, rfl⟩ := approvedIntent_ok hIntent
        exact fun hUnused => by simp [hFound] at hUnused
      · exact .inl ⟨rfl, by simpa [hIntent] using hRefused hCreate, fun _ => by rintro _ ⟨⟩⟩
    · rename_i hCreate
      exact .inl ⟨rfl, by simpa [hIntent] using hRefused hCreate, fun _ => by rintro _ ⟨⟩⟩
    · rename_i stored created hCreate
      right
      refine ⟨intent, stored, created, hIntent, hCreate, ?_, ?_⟩
      · split <;> simp_all
      · split
        · rintro _ ⟨⟩
        · rintro _ ⟨⟩
          simp [signalResult]

/-- How far a call gets: it stops before its first write, or with the signal
persisted, or with the decision persisted, or its approved signal reaches the
order stage. -/
theorem runPaperPipeline_cases (call : PipelineCall) :
    ((runPaperPipeline db call).1 = db ∧ NoReuse (runPaperPipeline db call).2 ∧
      approvedOrder db call = none) ∨
    ∃ symbol signal persisted outcome, evaluateStage db call = .ok (.signalled symbol signal) ∧
      insertSignalDeduped db (signalRecord signal call.now) = .ok (persisted, outcome) ∧
      (((runPaperPipeline db call).1 = persisted ∧ NoReuse (runPaperPipeline db call).2 ∧
          approvedOrder db call = none) ∨
        ∃ decided side evaluation,
          decideStage persisted call symbol outcome.signal = .ok (decided, side, evaluation) ∧
          (((runPaperPipeline db call).1 = decided ∧ NoReuse (runPaperPipeline db call).2 ∧
              approvedOrder db call = none) ∨
            evaluation.decision = .approved ∧ runPaperPipeline db call =
                orderStage decided call symbol outcome side evaluation.approvedNotional ∧
              approvedOrder db call = ((approvedIntent call symbol outcome.signal side
                evaluation.approvedNotional).toOption).map fun intent => (decided, intent))) := by
  unfold runPaperPipeline approvedOrder
  cases hEvaluate : evaluateStage db call with
  | error fault => exact .inl ⟨rfl, by rintro _ ⟨⟩, rfl⟩
  | ok stage =>
    cases stage with
    | stopped result =>
      refine .inl ⟨rfl, ?_, rfl⟩
      rintro _ ⟨⟩
      exact evaluateStage_stopped hEvaluate
    | signalled symbol signal =>
      cases hInsert : insertSignalDeduped db (signalRecord signal call.now) with
      | error fault =>
        simp only [hInsert]
        exact .inl ⟨trivial, by rintro _ ⟨⟩, trivial⟩
      | ok persistence =>
        obtain ⟨persisted, outcome⟩ := persistence
        refine .inr ⟨symbol, signal, persisted, outcome, rfl, hInsert, ?_⟩
        simp only [hInsert]
        delta signalStage
        cases hDecide : decideStage persisted call symbol outcome.signal with
        | error fault => exact .inl ⟨rfl, by rintro _ ⟨⟩, rfl⟩
        | ok decision =>
          obtain ⟨decided, side, evaluation⟩ := decision
          refine .inr ⟨decided, side, evaluation, rfl, ?_⟩
          cases hRisk : evaluation.decision with
          | rejected =>
            refine .inl ⟨by simp [hRisk], ?_, by simp [hRisk]⟩
            simp only [hRisk]
            rintro _ ⟨⟩
            exact fun hReused => by cases hReused
          | approved => exact .inr ⟨rfl, by simp [hRisk], by simp [hRisk]⟩

/-- The call gets an acceptable order to `create_paper_order`. -/
def Places (db : Database) (call : PipelineCall) : Prop :=
  ∃ decided intent, approvedOrder db call = some (decided, intent) ∧ Acceptable decided intent

/-- A call that places no order writes at most a signal and a decision; one
that does stores an order that never expires and accounts its fill. -/
theorem runPaperPipeline_places (call : PipelineCall) :
    (¬Places db call ∧ ∃ signals riskDecisions, (runPaperPipeline db call).1 =
      { db with signals := signals, riskDecisions := riskDecisions }) ∨
    ∃ signals riskDecisions intent stored created, approvedOrder db call =
        some ({ db with signals := signals, riskDecisions := riskDecisions }, intent) ∧
      intent.expiresAt = none ∧
      createPaperOrder { db with signals := signals, riskDecisions := riskDecisions } call.now intent =
        .ok (stored, created) ∧
      (runPaperPipeline db call).1 =
        (persistPaperFillAccounting stored call.ids.fill call.now created.order).1 := by
  have hNone (hOrder : approvedOrder db call = none) : ¬Places db call := by
    simp [Places, hOrder]
  rcases runPaperPipeline_cases db call with ⟨hSame, -, hOrder⟩ |
    ⟨symbol, signal, persisted, outcome, -, hInsert, hRest⟩
  · exact .inl ⟨hNone hOrder, _, _, hSame⟩
  obtain ⟨signals, rfl⟩ : ∃ signals, persisted = { db with signals := signals } := by
    rcases insertSignalDeduped_ok hInsert with ⟨rfl, -⟩ | ⟨signals, -, rfl, -⟩
    · exact ⟨_, rfl⟩
    · exact ⟨signals, rfl⟩
  rcases hRest with ⟨hPersisted, -, hOrder⟩ | ⟨decided, side, evaluation, hDecide, hRest⟩
  · exact .inl ⟨hNone hOrder, _, _, hPersisted⟩
  obtain ⟨-, -, riskDecisions, -, rfl⟩ := decideStage_ok hDecide
  rcases hRest with ⟨hDecided, -, hOrder⟩ | ⟨-, hStage, hOrder⟩
  · exact .inl ⟨hNone hOrder, _, _, hDecided⟩
  rw [hStage, hOrder]
  rcases orderStage_cases { db with signals := signals, riskDecisions := riskDecisions } call symbol
      outcome side evaluation.approvedNotional with
    ⟨hSame, hRefused, -⟩ | ⟨intent, stored, created, hIntent, hCreate, hBooked, -⟩
  · refine .inl ⟨?_, _, _, hSame⟩
    rintro ⟨tables, intent, hPlaced, hAcceptable⟩
    rw [hOrder, Option.map_eq_some_iff] at hPlaced
    obtain ⟨intent', hIntent, hTables⟩ := hPlaced
    cases hTables
    exact hRefused intent (toOption_eq_some.mp hIntent) hAcceptable
  · obtain ⟨_, -, -, hFields⟩ := approvedIntent_ok hIntent
    exact .inr ⟨signals, riskDecisions, intent, stored, created,
      by rw [toOption_eq_some.mpr hIntent]; rfl, by rw [hFields], hCreate, hBooked⟩

end Specifications

end AegisQuant.Pipeline
