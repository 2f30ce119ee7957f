import AegisQuant.Paper.BooksFollowOrders
import AegisQuant.Pipeline.SignalOrders

/-! The limit on open positions. The snapshot counts rows whose status reads
`OPEN`, while positions are stored with the status `open`: the count is zero
in every state, and nothing in the risk check stops a run from going beyond
the limit. -/
namespace AegisQuant.Pipeline
open Paper Risk Transition List Option

/-- A call under one risk configuration, a close, or a change of the system
state and the market feeds. -/
inductive AccountStep (config : RiskConfig) where
  | order (call : PipelineCall) (guarded : call.riskConfig = .ok config)
  | close (ids : CloseIds) (now staleThreshold : Int) (mark : String → Option MarkTick)
      (request : PaperClosePositionRequest)
  | market (systemState : SystemState) (marketFeeds : List MarketFeedStatus)

def handleAccountStep {config : RiskConfig} (db : Database) : AccountStep config → Database
  | .order call _ => (runPaperPipeline db call).1
  | .close ids now staleThreshold mark request =>
    (closePaperPosition db ids now staleThreshold mark request).1
  | .market systemState marketFeeds =>
    { db with systemState := systemState, marketFeeds := marketFeeds }

def isOpen (record : PaperPositionRecord) : Bool := record.status = PositionStatus.open.asStr

def openCount (db : Database) : Nat := db.paperPositions.rows.countP isOpen

def SnapshotCountsOpen (db : Database) : Prop :=
  ∀ order now, (loadRiskStateSnapshot order db now).openPositionsCount = some (openCount db)

/-- The order of the call is accepted in a symbol in which the account holds
no open position, and the position it draws is not one that is open. -/
def OpensPosition {config : RiskConfig} (db : Database) : AccountStep config → Prop
  | .order call _ => ∃ decided intent, approvedOrder db call = some (decided, intent) ∧
      Acceptable decided intent ∧
      getOpenPaperPosition db (ensureDefaultPaperAccount db call.ids.fill.account call.now).2.id
        intent.symbol.text .long = none ∧
      (db.paperPositions.find? call.ids.fill.position).any isOpen = false
  | .close .. => False
  | .market .. => False

section Counting
variable {db : Database} {positions : Table PaperPositionRecord.id}

theorem countP_upsertPaperPosition {position : PaperPosition} (hOpen : position.status = .open) :
    (upsertPaperPosition positions position).rows.countP isOpen =
      positions.rows.countP isOpen + if (positions.find? position.id).any isOpen then 0 else 1 := by
  have hRecord : isOpen position.toRecord = true := by
    simp [isOpen, PaperPosition.toRecord, hOpen]
  cases hFind : positions.find? position.id with
  | none =>
    rw [upsertPaperPosition, Table.rows_upsert_of_fresh hFind, countP_append]
    simp [hRecord]
  | some current =>
    have hStored : positions.find? position.toRecord.id = some current := hFind
    obtain ⟨before, after, hRows, hUpserted⟩ := Table.rows_upsert_of_find? hStored
      (mergePosition position.toRecord) (mergePosition_id position.toRecord)
    have hMerged : isOpen (mergePosition position.toRecord current) = true := hRecord
    rw [upsertPaperPosition, hUpserted, hRows]
    simp only [countP_append, countP_cons, hMerged, any_some, if_true]
    split <;> omega

theorem openCount_persist (db : Database) (ids : FillIds) (now : DateTime) {order : OrderRecord}
    (hState : order.executionState = "PAPER_FILLED") (hQuantity : 0 < order.filledQty) :
    openCount (persistPaperFillAccounting db ids now order).1 = openCount db +
      if getOpenPaperPosition db (ensureDefaultPaperAccount db ids.account now).2.id order.symbol
          .long = none ∧ (db.paperPositions.find? ids.position).any isOpen = false then 1 else 0 := by
  unfold openCount
  rcases persistPaperFillAccounting_positions db ids now hState hQuantity with
    ⟨hNone, position, hOpen, hId, hWritten⟩ | ⟨record, hFound, hWritten⟩
  · rw [hWritten, countP_upsertPaperPosition hOpen, hId, hNone]
    cases (db.paperPositions.find? ids.position).any isOpen <;> simp
  · rw [hFound, if_neg (by simp)]
    rcases hWritten with hSame | ⟨position, hOpen, hId, hWritten⟩
    · rw [hSame, add_zero]
    · have hRecord := Table.find?_of_mem (mem_of_find?_eq_some hFound)
      have hMatch := find?_some hFound
      have hRecordOpen : isOpen record = true := by
        simp only [isOpenPositionOf, Bool.and_eq_true] at hMatch
        exact hMatch.2
      rw [hWritten, countP_upsertPaperPosition hOpen, hId, hRecord, any_some, hRecordOpen]
      rfl

theorem openCount_close_le (ids : CloseIds) (now staleThreshold : Int)
    (mark : String → Option MarkTick) (request : PaperClosePositionRequest) :
    openCount (closePaperPosition db ids now staleThreshold mark request).1 ≤ openCount db := by
  rcases closePaperPosition_cases db ids now staleThreshold mark request with hSame |
    ⟨position, application, closed, hClosed, hWrite, hResult⟩
  · rw [hSame]
    exact le_rfl
  · obtain ⟨riskDecisions, orders, fills, -, -, rfl⟩ := closePaperPositionTransactional_ok hWrite
    rw [hResult]
    apply Table.countP_modify_le (closeUpdate_id _ _)
    intro record hOpen
    simp [isOpen, closeUpdate, hClosed, PositionStatus.asStr] at hOpen

end Counting

/-- No stored status is the upper-case text the snapshot looks for. -/
def NoneCounted (db : Database) : Prop := ∀ record ∈ db.paperPositions.rows, record.status ≠ "OPEN"

section Step
variable {config : RiskConfig} {db : Database}

theorem filled_of_createPaperOrder {stored : Database} {now : DateTime} {intent : OrderIntent}
    {created : OrderCreateOutcome} (hExpires : intent.expiresAt = none)
    (hCreate : createPaperOrder db now intent = .ok (stored, created)) :
    created.order.executionState = "PAPER_FILLED" ∧ 0 < created.order.filledQty ∧
      created.order.symbol = intent.symbol.text := by
  obtain ⟨hAcceptable, -, hOrder⟩ := createPaperOrder_ok hCreate
  have hExpired : intent.expired now = false := by simp [OrderIntent.expired, hExpires]
  rw [hOrder]
  refine ⟨by simp [mapOrder, intentRow, hExpired], ?_, rfl⟩
  simpa [mapOrder, intentRow, hExpired] using quantity_pos_of_valid hAcceptable.valid

theorem openCount_step (db : Database) (step : AccountStep config) :
    (OpensPosition db step ∧ openCount (handleAccountStep db step) = openCount db + 1) ∨
    (¬OpensPosition db step ∧ openCount (handleAccountStep db step) ≤ openCount db) := by
  cases step with
  | market systemState marketFeeds => exact .inr ⟨not_false, le_rfl⟩
  | close ids now staleThreshold mark request =>
    exact .inr ⟨not_false, openCount_close_le ids now staleThreshold mark request⟩
  | order call guarded =>
    simp only [handleAccountStep]
    rcases runPaperPipeline_places db call with ⟨hNone, signals, riskDecisions, hSame⟩ |
      ⟨signals, riskDecisions, intent, stored, created, hOrder, hExpires, hCreate, hBooked⟩
    · refine .inr ⟨?_, by rw [hSame]; exact le_rfl⟩
      rintro ⟨decided, intent, hOrder, hAcceptable, -⟩
      exact hNone ⟨decided, intent, hOrder, hAcceptable⟩
    · obtain ⟨hState, hQuantity, hSymbol⟩ := filled_of_createPaperOrder hExpires hCreate
      obtain ⟨hAcceptable, ⟨orders, -, rfl⟩, -⟩ := createPaperOrder_ok hCreate
      have hCount := openCount_persist { db with
        signals := signals
        riskDecisions := riskDecisions
        orders := orders } call.ids.fill call.now hState hQuantity
      rw [hBooked, hCount, hSymbol]
      split
      · rename_i hOpens
        exact .inl ⟨⟨_, intent, hOrder, hAcceptable, hOpens⟩, rfl⟩
      · rename_i hHeld
        refine .inr ⟨?_, le_rfl⟩
        rintro ⟨decided, intent', hOrder', -, hOpens⟩
        rw [hOrder, some.injEq, Prod.mk.injEq] at hOrder'
        rw [← hOrder'.2] at hOpens
        exact hHeld hOpens

theorem NoneCounted.handleAccountStep (hStatuses : NoneCounted db) (step : AccountStep config) :
    NoneCounted (handleAccountStep db step) := by
  have hUpsert (position : PaperPosition) :
      ∀ record ∈ (upsertPaperPosition db.paperPositions position).rows, record.status ≠ "OPEN" :=
    Table.forall_mem_upsert (mergePosition_id position.toRecord) hStatuses
      position.status.asStr_ne_upper fun _ _ => position.status.asStr_ne_upper
  cases step with
  | market systemState marketFeeds => exact hStatuses
  | close ids now staleThreshold mark request =>
    simp only [Pipeline.handleAccountStep]
    rcases closePaperPosition_cases db ids now staleThreshold mark request with hSame |
      ⟨position, application, closed, -, hWrite, hResult⟩
    · rw [hSame]
      exact hStatuses
    · obtain ⟨riskDecisions, orders, fills, -, -, rfl⟩ := closePaperPositionTransactional_ok hWrite
      rw [hResult]
      exact Table.forall_mem_modify (closeUpdate_id _ _) hStatuses
        fun _ _ => application.position.status.asStr_ne_upper
  | order call guarded =>
    simp only [Pipeline.handleAccountStep]
    rcases runPaperPipeline_places db call with ⟨-, signals, riskDecisions, hSame⟩ |
      ⟨signals, riskDecisions, intent, stored, created, -, hExpires, hCreate, hBooked⟩
    · rw [hSame]
      exact hStatuses
    · obtain ⟨hState, hQuantity, -⟩ := filled_of_createPaperOrder hExpires hCreate
      obtain ⟨-, ⟨orders, -, rfl⟩, -⟩ := createPaperOrder_ok hCreate
      rw [hBooked]
      unfold NoneCounted
      rcases persistPaperFillAccounting_positions { db with
          signals := signals
          riskDecisions := riskDecisions
          orders := orders } call.ids.fill call.now hState hQuantity with
        ⟨-, position, -, -, hWritten⟩ | ⟨record, -, hSame | ⟨position, -, -, hWritten⟩⟩
      · rw [hWritten]
        exact hUpsert position
      · rw [hSame]
        exact hStatuses
      · rw [hWritten]
        exact hUpsert position

theorem NoneCounted.snapshot (hStatuses : NoneCounted db) (order : RowOrder newestEntryFirst)
    (now : DateTime) : (loadRiskStateSnapshot order db now).openPositionsCount = some 0 := by
  have hNone : (db.paperPositions.rows.countP fun record => record.status = "OPEN") = 0 :=
    countP_eq_zero.mpr fun record hRecord => by simpa using hStatuses record hRecord
  simp [loadRiskStateSnapshot, openPositionsCount, hNone]

end Step

/-- In a run of calls and closes from an account without positions, the number
of open positions stays within the limit exactly if every order that opens a
position finds fewer open than the limit; and the count of the snapshot is
the number of open positions exactly as long as no order opens one. -/
theorem position_limit_iff (config : RiskConfig) (db : Database) (steps : List (AccountStep config))
    (hPositions : db.paperPositions.rows = []) :
    (Throughout handleAccountStep (fun reached => openCount reached ≤ config.maxOpenPositions) db
        steps ↔
      Along handleAccountStep (fun reached step => OpensPosition reached step →
        openCount reached < config.maxOpenPositions) db steps) ∧
    (Throughout handleAccountStep SnapshotCountsOpen db steps ↔
      Along handleAccountStep (fun reached step => ¬OpensPosition reached step) db steps) := by
  have hEmpty : openCount db = 0 := by simp [openCount, hPositions]
  have hStatuses : NoneCounted db := by simp [NoneCounted, hPositions]
  constructor
  · have hStart : openCount db ≤ config.maxOpenPositions := hEmpty ▸ Nat.zero_le _
    rw [throughout_iff_along, and_iff_right hStart]
    have hAgree : ∀ reached (step : AccountStep config),
        openCount reached ≤ config.maxOpenPositions →
        (openCount (handleAccountStep reached step) ≤ config.maxOpenPositions ↔
          (OpensPosition reached step → openCount reached < config.maxOpenPositions)) := by
      intro reached step hReached
      rcases openCount_step reached step with ⟨hOpens, hCount⟩ | ⟨hKeeps, hCount⟩
      · simp only [hOpens, hCount, forall_true_left]
        exact Iff.rfl
      · simp only [hKeeps, IsEmpty.forall_iff, iff_true]
        exact hCount.trans hReached
    exact along_iff_of_invariant hAgree
      (fun reached step hReached hStep => (hAgree reached step hReached).mpr hStep) steps hStart
  · have hCounts {reached : Database} (hReached : NoneCounted reached) :
        SnapshotCountsOpen reached ↔ openCount reached = 0 := by
      constructor
      · intro hSnapshot
        have hZero := hSnapshot (RowOrder.stable newestEntryFirst) 0
        rw [hReached.snapshot, some.injEq] at hZero
        exact hZero.symm
      · intro hZero order now
        rw [hReached.snapshot, hZero]
    rw [throughout_iff_along, and_iff_right ((hCounts hStatuses).mpr hEmpty)]
    have hAgree : ∀ reached (step : AccountStep config),
        (NoneCounted reached ∧ openCount reached = 0) →
        (SnapshotCountsOpen (handleAccountStep reached step) ↔ ¬OpensPosition reached step) := by
      rintro reached step ⟨hReached, hZero⟩
      rw [hCounts (hReached.handleAccountStep step)]
      rcases openCount_step reached step with ⟨hOpens, hCount⟩ | ⟨hKeeps, hCount⟩
      · simp [hOpens, hCount]
      · simp only [hKeeps, not_false_eq_true, iff_true]
        omega
    exact along_iff_of_invariant hAgree (fun reached step hReached hStep =>
      ⟨hReached.1.handleAccountStep step, (hCounts (hReached.1.handleAccountStep step)).mp
        ((hAgree reached step hReached).mpr hStep)⟩) steps ⟨hStatuses, hEmpty⟩

def singlePosition : RiskConfig :=
  { RiskConfig.default with maxOpenPositions := 1, cooldownSeconds := 0 }

def ethusdt : Symbol := ⟨"ETHUSDT", by decide, by decide⟩

def limitedCall (symbol : Symbol) (firstId : Nat) : PipelineCall :=
  { momentumCall symbol firstId with persistedRiskConfig := some singlePosition }

theorem limitedCall_guarded (symbol : Symbol) (firstId : Nat) :
    (limitedCall symbol firstId).riskConfig = .ok singlePosition := by
  norm_num [PipelineCall.riskConfig, loadRiskConfig, limitedCall, RiskConfig.validate, singlePosition,
    RiskConfig.default, Except.mapError, Except.map]

def limitedOrder (symbol : Symbol) (firstId : Nat) : AccountStep singlePosition :=
  .order (limitedCall symbol firstId) (limitedCall_guarded symbol firstId)

/-- A first order stays within the limit. -/
theorem position_limit_first_order :
    Throughout handleAccountStep (fun reached => openCount reached ≤ 1)
      (connectedBooks [btcusdt, ethusdt]) [limitedOrder btcusdt 10] :=
  (position_limit_iff singlePosition (connectedBooks [btcusdt, ethusdt]) [limitedOrder btcusdt 10]
    rfl).1.mpr ⟨fun _ => Nat.zero_lt_one, trivial⟩

/-- With a limit of one, orders in two symbols leave two open positions, and
the snapshot still counts none. -/
theorem position_limit_exceeded :
    openCount (run handleAccountStep (connectedBooks [btcusdt, ethusdt])
      [limitedOrder btcusdt 10, limitedOrder ethusdt 20]) = 2 ∧
    singlePosition.maxOpenPositions = 1 ∧
    (loadRiskStateSnapshot (RowOrder.stable newestEntryFirst)
      (run handleAccountStep (connectedBooks [btcusdt, ethusdt])
        [limitedOrder btcusdt 10, limitedOrder ethusdt 20]) 0).openPositionsCount = some 0 := by
  have hStart : NoneCounted (connectedBooks [btcusdt, ethusdt]) := by
    simp [NoneCounted, connectedBooks, Database.empty]
  have hEnd := run_invariant (I := NoneCounted)
    (fun _ step hReached => hReached.handleAccountStep step)
    [limitedOrder btcusdt 10, limitedOrder ethusdt 20] hStart
  exact ⟨by decide +kernel, rfl, hEnd.snapshot _ _⟩

end AegisQuant.Pipeline
