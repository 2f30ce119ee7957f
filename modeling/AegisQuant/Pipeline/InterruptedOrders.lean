import AegisQuant.Paper.Stock
import AegisQuant.Pipeline.SignalOrders

/-! Attempts of the order step of the pipeline that may fail after any of their
database steps. The order commits before it is accounted, and an attempt that
finds its order does not account it: what an earlier attempt has left out stays
out. -/
namespace AegisQuant.Pipeline
open Paper Transition List

/-- An attempt to place the order of an approved signal. Strategies signal
purchases only. -/
structure OrderAttempt where
  call : PipelineCall
  symbol : Symbol
  outcome : InsertSignalOutcome
  approvedNotional : Option Decimal
  failsAfter : Option Nat

def OrderAttempt.key (attempt : OrderAttempt) : String :=
  pipelineKey attempt.call attempt.outcome.signal .buy

def OrderAttempt.intent (attempt : OrderAttempt) : Except Fault OrderIntent :=
  approvedIntent attempt.call attempt.symbol attempt.outcome.signal .buy attempt.approvedNotional

/-- What an attempt has written when it fails after a number of steps, of which
the commit of its order is the first. -/
def interruptedStage (db : Database) (attempt : OrderAttempt) : Nat → Database
  | 0 => db
  | statements + 1 =>
    match attempt.call.candles.getLast?, db.orders.find? attempt.key, attempt.intent with
    | some _, none, .ok intent =>
      match createPaperOrder db attempt.call.now intent with
      | .error _ => db
      | .ok (stored, created) =>
        let fill : FillCall := {
          ids := attempt.call.ids.fill, now := attempt.call.now, order := created.order }
        (afterStatements stored (.fill fill) statements).1
    | _, _, _ => db

def attemptOrder (db : Database) (attempt : OrderAttempt) :
    Database × Except PipelineError PaperTradingPipelineResult :=
  match attempt.failsAfter with
  | none => orderStage db attempt.call attempt.symbol attempt.outcome .buy attempt.approvedNotional
  | some steps => (interruptedStage db attempt steps,
      .error (.fault (.message "failed to persist paper accounting artifacts")))

/-- The writes of the pipeline, one after the other. -/
inductive AttemptStep where
  | persistSignal (signal : SignalRecord)
  | persistDecision (decision : RiskDecisionRow)
  | order (attempt : OrderAttempt)

def handleAttemptStep (db : Database) : AttemptStep → Database
  | .persistSignal signal =>
    match insertSignalDeduped db signal with
    | .error _ => db
    | .ok (persisted, _) => persisted
  | .persistDecision decision =>
    match insertRiskDecision db decision with
    | .error _ => db
    | .ok decided => decided
  | .order attempt => (attemptOrder db attempt).1

/-- A filled purchase that has a row in `paper_fills`. -/
def isAccounted (db : Database) (order : OrderRow) : Bool :=
  order.executionState = "PAPER_FILLED" && order.side = "BUY" &&
    (db.paperFills.find? order.id).isSome

def accountedQuantity (db : Database) (symbol : String) : Decimal :=
  ((db.orders.rows.filter fun order => isAccounted db order && order.symbol = symbol).map
    (·.quantity)).sum

/-- The order has one fill, and the open position of its symbol is the sum of
the accounted purchases. -/
def AccountedOnce (db : Database) (order : OrderRow) : Prop :=
  (db.paperFills.rows.filter fun fill => fill.orderId = order.id).length = 1 ∧
    longQuantity db order.symbol = accountedQuantity db order.symbol

/-- After an attempt that succeeds, the filled purchase under its key is
accounted once. -/
def SuccessAccounts (db : Database) : AttemptStep → Prop
  | .order attempt => (attemptOrder db attempt).2.toOption.isSome →
      ∀ order ∈ (attemptOrder db attempt).1.orders.rows, order.idempotencyKey = attempt.key →
        order.executionState = "PAPER_FILLED" → order.side = "BUY" →
          AccountedOnce (attemptOrder db attempt).1 order
  | _ => True

/-- An attempt that commits its order does not fail before the row of its fill
is written, the fourth statement after the commit, and a position drawn is
new. -/
def ReachesFill (db : Database) : AttemptStep → Prop
  | .order attempt => ∀ intent, attempt.intent = .ok intent → Acceptable db intent →
      db.paperPositions.find? attempt.call.ids.fill.position = none ∧
        ∀ steps, attempt.failsAfter = some steps → steps = 0 ∨ 5 ≤ steps
  | _ => True

/-- Every order is a filled purchase with a fill, and the positions are what
the orders have bought. -/
structure Accounted (db : Database) : Prop where
  orders : ∀ order ∈ db.orders.rows, order.executionState = "PAPER_FILLED" ∧ order.side = "BUY" ∧
    ∃ fill ∈ db.paperFills.rows, fill.orderId = order.id
  fills : ∀ fill ∈ db.paperFills.rows, ∃ order ∈ db.orders.rows, order.id = fill.orderId
  stock : Stocks db fun symbol =>
    ((db.orders.rows.filter fun order => order.symbol = symbol).map (·.quantity)).sum

section Step
variable {db : Database}

theorem Accounted.accountedOnce (accounted : Accounted db) {order : OrderRow}
    (hOrder : order ∈ db.orders.rows) : AccountedOnce db order := by
  have hAccounted : ∀ row ∈ db.orders.rows, isAccounted db row = true := by
    intro row hRow
    obtain ⟨hFilled, hBuy, fill, hFill, hSame⟩ := accounted.orders row hRow
    have hFound : db.paperFills.find? row.id = some fill := hSame ▸ Table.find?_of_mem hFill
    simp [isAccounted, hFilled, hBuy, hFound]
  constructor
  · obtain ⟨-, -, fill, hFill, hSame⟩ := accounted.orders order hOrder
    rw [← hSame, Table.filter_key_of_mem hFill]
    rfl
  · rw [accounted.stock.longQuantity_eq, accountedQuantity]
    congr 2
    apply filter_congr
    intro row hRow
    rw [hAccounted row hRow, Bool.true_and]

theorem Accounted.congr {other : Database} (accounted : Accounted db) (hSame : SameStock db other) :
    Accounted other := by
  obtain ⟨hPositions, hFills, hOrders, hAccount⟩ := hSame
  refine ⟨?_, ?_, ?_⟩
  · rw [hOrders, hFills]
    exact accounted.orders
  · rw [hOrders, hFills]
    exact accounted.fills
  · rw [hOrders]
    exact accounted.stock.congr hPositions hAccount

theorem attemptOrder_cases (db : Database) (attempt : OrderAttempt) :
    (attemptOrder db attempt).1 = db ∨
    ∃ intent stored created, attempt.intent = .ok intent ∧
      createPaperOrder db attempt.call.now intent = .ok (stored, created) ∧
      let fill : FillCall := {
        ids := attempt.call.ids.fill, now := attempt.call.now, order := created.order }
      (attempt.failsAfter = none ∧ (attemptOrder db attempt).1 =
          (persistPaperFillAccounting stored fill.ids fill.now fill.order).1) ∨
        ∃ statements, attempt.failsAfter = some (statements + 1) ∧
          (attemptOrder db attempt).1 = (afterStatements stored (.fill fill) statements).1 := by
  unfold attemptOrder
  cases hFails : attempt.failsAfter with
  | none =>
    rcases orderStage_cases db attempt.call attempt.symbol attempt.outcome .buy
      attempt.approvedNotional with ⟨hSame, -⟩ | ⟨intent, stored, created, hIntent, hCreate, hBooked, -⟩
    · exact .inl hSame
    · exact .inr ⟨intent, stored, created, hIntent, hCreate, .inl ⟨rfl, hBooked⟩⟩
  | some steps =>
    cases steps with
    | zero => exact .inl rfl
    | succ statements =>
      simp only [interruptedStage]
      split
      · rename_i intent _ _ hIntent
        split
        · exact .inl rfl
        · rename_i stored created hCreate
          exact .inr ⟨intent, stored, created, hIntent, hCreate, .inr ⟨statements, rfl, rfl⟩⟩
      · exact .inl rfl

/-- Storing a filled purchase and its fill, and adding it to the position of
its symbol, keeps the books accounted. -/
theorem Accounted.bought (accounted : Accounted db) {booked : Database} {order : OrderRow}
    {fill : PaperFill} {orders : Table OrderRow.idempotencyKey}
    (hState : order.executionState = "PAPER_FILLED") (hSide : order.side = "BUY")
    (hUnused : ∀ other ∈ db.orders.rows, other.id ≠ order.id)
    (hOrders : db.orders.insert? order = some orders) (hBooked : booked.orders = orders)
    (hFill : fill.orderId = order.id) (hFills : booked.paperFills = insertPaperFill db.paperFills fill)
    (hStock : Stocks booked fun symbol =>
      ((db.orders.rows.filter fun other => other.symbol = symbol).map (·.quantity)).sum +
        if symbol = order.symbol then order.quantity else 0) : Accounted booked := by
  have hRows : booked.orders.rows = db.orders.rows ++ [order] := by
    rw [hBooked, (Table.insert?_eq_some.mp hOrders).2]
  have hFresh : db.paperFills.find? fill.orderId = none := by
    rw [Table.find?_eq_none]
    intro stored hStored hSame
    obtain ⟨other, hOther, hId⟩ := accounted.fills stored hStored
    exact hUnused other hOther (hId.trans (hSame.trans hFill))
  have hFillRows : booked.paperFills.rows = db.paperFills.rows ++ [fill] := by
    rw [hFills]
    exact Table.rows_upsert_of_fresh hFresh
  refine ⟨?_, ?_, ?_⟩
  · rw [hRows, hFillRows, forall_mem_append, forall_mem_singleton]
    refine ⟨fun other hOther => ?_, hState, hSide, fill, by simp, hFill⟩
    obtain ⟨hFilled, hBuy, stored, hStored, hSame⟩ := accounted.orders other hOther
    exact ⟨hFilled, hBuy, stored, mem_append_left _ hStored, hSame⟩
  · rw [hRows, hFillRows, forall_mem_append, forall_mem_singleton]
    refine ⟨fun stored hStored => ?_, order, by simp, hFill.symm⟩
    obtain ⟨other, hOther, hId⟩ := accounted.fills stored hStored
    exact ⟨other, mem_append_left _ hOther, hId⟩
  · have hTotal : (fun symbol : String =>
        ((booked.orders.rows.filter fun other => other.symbol = symbol).map (·.quantity)).sum) =
        fun symbol =>
          ((db.orders.rows.filter fun other => other.symbol = symbol).map (·.quantity)).sum +
            if symbol = order.symbol then order.quantity else 0 := by
      funext symbol
      rw [hRows, filter_append, map_append, sum_append]
      by_cases hSymbol : symbol = order.symbol
      · simp [hSymbol]
      · simp [hSymbol, Ne.symm hSymbol]
    rw [hTotal]
    exact hStock

theorem Accounted.attempt (accounted : Accounted db) {attempt : OrderAttempt}
    (hReaches : ReachesFill db (.order attempt)) : Accounted (attemptOrder db attempt).1 := by
  rcases attemptOrder_cases db attempt with hSame | ⟨intent, stored, created, hIntent, hCreate, hEnd⟩
  · rw [hSame]
    exact accounted
  obtain ⟨latest, -, -, hFields⟩ := approvedIntent_ok hIntent
  obtain ⟨hAcceptable, ⟨orders, hOrders, rfl⟩, hOrder⟩ := createPaperOrder_ok hCreate
  obtain ⟨hNew, hSteps⟩ := hReaches _ hIntent hAcceptable
  have hExpired : intent.expired attempt.call.now = false := by
    simp [OrderIntent.expired, hFields]
  have hFilledQty : created.order.filledQty = intent.quantity := by
    simp [hOrder, mapOrder, intentRow, hExpired]
  have hQuantity : 0 < created.order.filledQty := by
    rw [hFilledQty]
    exact quantity_pos_of_valid hAcceptable.valid
  have hState : created.order.executionState = "PAPER_FILLED" := by
    simp [hOrder, mapOrder, intentRow, hExpired]
  have hStock : Stocks { db with orders := orders } fun symbol =>
      ((db.orders.rows.filter fun order => order.symbol = symbol).map (·.quantity)).sum :=
    accounted.stock.congr rfl rfl
  obtain ⟨booked, fill, hFill, hFills, hKept, hBought, hWhole, hPart⟩ := stock_after_fill hStock
    { ids := attempt.call.ids.fill, now := attempt.call.now, order := created.order } hState
    hQuantity hNew
  have hBooked : SameStock booked (attemptOrder db attempt).1 := by
    rcases hEnd with ⟨-, hResult⟩ | ⟨statements, hFails, hResult⟩
    · rw [hResult]
      exact hWhole
    · have hLate : statements = statements - 4 + 4 := by
        have hEnough := hSteps _ hFails
        omega
      rw [hResult, hLate]
      exact hPart (statements - 4)
  simp only [hFilledQty] at hBought
  rw [hOrder] at hFill hBought
  have hRow : (intentRow intent attempt.call.now).executionState = "PAPER_FILLED" := by
    simp [intentRow, hExpired]
  have hSide : (intentRow intent attempt.call.now).side = "BUY" := by
    rw [hFields]
    rfl
  exact (accounted.bought hRow hSide hAcceptable.idUnused hOrders hKept hFill hFills hBought).congr
    hBooked

theorem Accounted.step (accounted : Accounted db) {step : AttemptStep}
    (hReaches : ReachesFill db step) : Accounted (handleAttemptStep db step) := by
  cases step with
  | persistSignal signal =>
    simp only [handleAttemptStep]
    split
    · exact accounted
    · rename_i persisted outcome hInsert
      rcases insertSignalDeduped_ok hInsert with ⟨rfl, -⟩ | ⟨signals, -, rfl, -⟩
      · exact accounted
      · exact accounted.congr ⟨rfl, rfl, rfl, rfl⟩
  | persistDecision decision =>
    simp only [handleAttemptStep]
    split
    · exact accounted
    · rename_i decided hInsert
      obtain ⟨riskDecisions, -, rfl⟩ := insertRiskDecision_eq_ok.mp hInsert
      exact accounted.congr ⟨rfl, rfl, rfl, rfl⟩
  | order attempt => exact accounted.attempt hReaches

end Step

/-- As long as no attempt fails between the commit of its order and the row of
the fill, the order of every attempt that succeeds is accounted once. -/
theorem successful_attempts_account {start : Database} {steps : List AttemptStep}
    (hOrders : start.orders.rows = []) (hPositions : start.paperPositions.rows = [])
    (hFills : start.paperFills.rows = [])
    (hReaches : Along handleAttemptStep ReachesFill start steps) :
    Along handleAttemptStep SuccessAccounts start steps := by
  have hStart : Accounted start := by
    refine ⟨by simp [hOrders], by simp [hFills], ?_⟩
    simp only [hOrders, filter_nil, map_nil, sum_nil]
    exact stocks_of_no_positions hPositions
  refine along_of_invariant (I := Accounted) (C := ReachesFill) ?_
    (fun db step accounted hStep => accounted.step hStep) hStart hReaches
  intro db step accounted hStep
  cases step with
  | persistSignal signal => trivial
  | persistDecision decision => trivial
  | order attempt => exact fun _ order hOrder _ _ _ => (accounted.attempt hStep).accountedOnce hOrder

def risingSignal : SignalRecord where
  id := ⟨11⟩
  strategyId := "momentum_v1"
  symbol := "BTCUSDT"
  side := "buy"
  confidence := 1
  timeframe := "1m"
  reason := "momentum_up"
  suggestedNotional := 1000
  stopLossPct := none
  takeProfitPct := none
  sourceCandleOpenTime := DateTime.seconds 120
  correlationId := ⟨10⟩
  createdAt := DateTime.seconds 180

def risingApproval : RiskDecisionRow where
  id := ⟨12⟩
  correlationId := ⟨10⟩
  signalId := some ⟨11⟩
  decision := "APPROVED"
  rationale := .null
  decidedAt := DateTime.seconds 180

def risingAttempt (failsAfter : Option Nat) : OrderAttempt where
  call := momentumCall .btcusdt 10
  symbol := .btcusdt
  outcome := ⟨risingSignal, true⟩
  approvedNotional := some 1000
  failsAfter := failsAfter

/-- An attempt that fails, and its retry with the same key. -/
def retried (failsAfter : Nat) : List AttemptStep :=
  [.persistSignal risingSignal, .persistDecision risingApproval,
    .order (risingAttempt (some failsAfter)), .order (risingAttempt none)]

/-- A retry after a failure before the commit. -/
theorem retry_before_commit_accounts :
    Along handleAttemptStep SuccessAccounts .empty (retried 0) := by
  apply successful_attempts_account rfl rfl rfl
  refine ⟨trivial, trivial, fun _ _ _ => ⟨rfl, ?_⟩, fun _ _ _ => ⟨by decide +kernel, ?_⟩, trivial⟩
  · rintro steps hFails
    exact .inl (Option.some.inj hFails).symm
  · rintro steps ⟨⟩

/-- A failure before the position is written: the retry succeeds with the
order found, which never gets a fill. -/
theorem retry_after_commit_leaves_order_unaccounted :
    ¬Along handleAttemptStep SuccessAccounts .empty (retried 3) := by
  rintro ⟨-, -, -, hRetry, -⟩
  let order : OrderRow := {
    id := ⟨13⟩
    correlationId := ⟨10⟩
    riskDecisionId := ⟨12⟩
    idempotencyKey := (risingAttempt none).key
    symbol := "BTCUSDT"
    side := "BUY"
    quantity := 8
    limitPrice := some 125
    status := "FILLED"
    executionState := "PAPER_FILLED"
    statusReason := none
    filledPrice := some 125
    submittedAt := some (DateTime.seconds 180)
    filledAt := some (DateTime.seconds 180)
    expiredAt := none
    expiresAt := none
    createdAt := DateTime.seconds 180
    updatedAt := DateTime.seconds 180 }
  have hOnce := hRetry (by decide +kernel) order (by decide +kernel) rfl rfl rfl
  exact absurd hOnce.1 (by decide +kernel)

end AegisQuant.Pipeline
