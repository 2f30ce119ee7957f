import AegisQuant.Pipeline.SignalOrders
import AegisQuant.Testnet.Requests

/-! What a stored risk decision approves: the symbol and side of its signal,
up to its approved notional. Signals and decisions are only ever added, so an
approval once stored stays what it is. -/
namespace AegisQuant.Testnet
open Paper Risk Pipeline List

/-- What an order asks for on the strength of a decision. `notionals` holds
every amount the order states its notional by. -/
structure OrderTerms where
  riskDecisionId : Uuid
  symbol : String
  side : String
  notionals : List Decimal

/-- The quote notional, and the quantity at the limit price. -/
def statedNotionals (quoteNotional quantity limitPrice : Option Decimal) : List Decimal :=
  quoteNotional.toList ++ match quantity, limitPrice with
    | some quantity, some limitPrice => [quantity * limitPrice]
    | _, _ => []

def approvedNotionalOf (service : Service) (decision : RiskDecisionRow) : Option Decimal :=
  decimalFromJsonField service.decimalFromStr decision.rationale "approved_notional"

/-- The order is for the symbol and side of the signal the decision approved,
states its notional, and stays within the approved one. -/
def Approved (service : Service) (db : Database) (terms : OrderTerms) : Prop :=
  ∃ decision signal approved, db.riskDecisions.find? terms.riskDecisionId = some decision ∧
    decisionSignal db decision = some signal ∧
    approvedNotionalOf service decision = some approved ∧
    terms.symbol = signal.symbol ∧ terms.side = signal.side ∧
    terms.notionals ≠ [] ∧ ∀ notional ∈ terms.notionals, notional ≤ approved

/-- Signals have distinct ids, and the symbols they were generated for. -/
structure SignalsSound (db : Database) : Prop where
  ids : (db.signals.rows.map (·.id)).Nodup
  symbols : ∀ signal ∈ db.signals.rows, ∃ symbol : Symbol, signal.symbol = symbol.text

/-- Signals and decisions are only added, and signals stay sound. -/
structure Advances (db next : Database) : Prop where
  grows : Grows db next
  sound : SignalsSound db → SignalsSound next

section Growth
variable {service : Service} {db next persisted decided : Database}
variable {generated : StrategySignal} {outcome : InsertSignalOutcome}

theorem SignalsSound.decisionSignal_eq_some_iff (sound : SignalsSound db) {decision : RiskDecisionRow}
    {signal : SignalRecord} : decisionSignal db decision = some signal ↔
      signal ∈ db.signals.rows ∧ decision.signalId = some signal.id := by
  unfold decisionSignal
  cases decision.signalId with
  | none => simp
  | some signalId =>
    change (⟨db.signals.rows, sound.ids⟩ : Table SignalRecord.id).find? signalId = some signal ↔ _
    rw [Table.find?_eq_some, Option.some.injEq, eq_comm (a := signalId)]

theorem Advances.refl (db : Database) : Advances db db := ⟨Grows.refl db, fun sound => sound⟩

theorem Advances.trans {last : Database} (advances : Advances db next)
    (further : Advances next last) : Advances db last :=
  ⟨advances.grows.trans further.grows, fun sound => further.sound (advances.sound sound)⟩

theorem advances_of_same (hSignals : next.signals = db.signals)
    (hDecisions : next.riskDecisions = db.riskDecisions) : Advances db next where
  grows := ⟨by simp [hSignals], by simp [hDecisions]⟩
  sound := fun sound => ⟨hSignals ▸ sound.ids, hSignals ▸ sound.symbols⟩

variable {now : DateTime}

theorem advances_of_insertSignalDeduped
    (hInsert : insertSignalDeduped db (signalRecord generated now) = .ok (persisted, outcome)) :
    Advances db persisted := by
  refine ⟨(grows_of_insertSignalDeduped hInsert).1, fun sound => ?_⟩
  rcases insertSignalDeduped_ok hInsert with ⟨rfl, -⟩ | ⟨signals, hSignals, rfl, -, hIds⟩
  · exact sound
  have hRows := (Table.insert?_eq_some.mp hSignals).2
  constructor
  · rw [hRows, map_append, map_singleton, nodup_append]
    refine ⟨sound.ids, nodup_singleton _, ?_⟩
    intro id hId other hOther
    obtain ⟨signal, hSignal, rfl⟩ := mem_map.mp hId
    rw [mem_singleton] at hOther
    exact hOther ▸ hIds signal hSignal
  · rw [hRows]
    exact forall_mem_append.mpr ⟨sound.symbols, forall_mem_singleton.mpr ⟨generated.symbol, rfl⟩⟩

theorem advances_of_insertRiskDecision {row : RiskDecisionRow}
    (hInsert : insertRiskDecision db row = .ok decided) : Advances db decided := by
  obtain ⟨riskDecisions, hRow, rfl⟩ := insertRiskDecision_eq_ok.mp hInsert
  refine ⟨⟨fun _ h => h, fun decision hDecision => ?_⟩, fun sound => ⟨sound.ids, sound.symbols⟩⟩
  rw [(Table.insert?_eq_some.mp hRow).2]
  exact mem_append_left _ hDecision

theorem Approved.advance {terms : OrderTerms} (approved : Approved service db terms)
    (advances : Advances db next) (sound : SignalsSound db) : Approved service next terms := by
  obtain ⟨decision, signal, bound, hDecision, hSignal, hTerms⟩ := approved
  obtain ⟨hRow, hId⟩ := Table.find?_eq_some.mp hDecision
  obtain ⟨hMember, hRefers⟩ := sound.decisionSignal_eq_some_iff.mp hSignal
  exact ⟨decision, signal, bound,
    Table.find?_eq_some.mpr ⟨advances.grows.riskDecisions decision hRow, hId⟩,
    (advances.sound sound).decisionSignal_eq_some_iff.mpr
      ⟨advances.grows.signals signal hMember, hRefers⟩, hTerms⟩

theorem approved_congr {terms : OrderTerms} (hSignals : next.signals = db.signals)
    (hDecisions : next.riskDecisions = db.riskDecisions) :
    Approved service next terms ↔ Approved service db terms := by
  unfold Approved decisionSignal
  rw [hSignals, hDecisions]

theorem key_of_insertSignalDeduped {signal : SignalRecord}
    (hInsert : insertSignalDeduped db signal = .ok (persisted, outcome)) :
    outcome.signal.key = signal.key := by
  rcases insertSignalDeduped_ok hInsert with ⟨-, hFound⟩ | ⟨-, -, -, hNew, -⟩
  · exact Table.key_of_find? hFound
  · rw [hNew]

theorem terms_of_insertSignalDeduped
    (hInsert : insertSignalDeduped db (signalRecord generated now) = .ok (persisted, outcome)) :
    outcome.signal.symbol = generated.symbol.text ∧ outcome.signal.side = generated.side.asStr :=
  have hKey := key_of_insertSignalDeduped hInsert
  ⟨congrArg SignalKey.symbol hKey, congrArg SignalKey.side hKey⟩

theorem approved_of_insertRiskDecision (service : Service) {context : RiskCheckContext}
    {evaluation : RiskEvaluationResult} {bound : Decimal} (sound : SignalsSound db)
    (hInsert : insertSignalDeduped db (signalRecord generated now) = .ok (persisted, outcome))
    (hDecided : insertRiskDecision persisted (riskDecisionRow context evaluation now) = .ok decided)
    (hSignal : context.signalId = outcome.signal.id)
    (hNotional : evaluation.approvedNotional = some bound) {notionals : List Decimal}
    (hStated : notionals ≠ []) (hBound : ∀ notional ∈ notionals, notional ≤ bound) :
    Approved service decided
      ⟨evaluation.riskDecisionId, generated.symbol.text, generated.side.asStr, notionals⟩ := by
  have advances := advances_of_insertRiskDecision hDecided
  have hSound := advances.sound ((advances_of_insertSignalDeduped hInsert).sound sound)
  obtain ⟨-, -, -, hStored⟩ := grows_of_insertSignalDeduped hInsert
  obtain ⟨hSymbol, hSide⟩ := terms_of_insertSignalDeduped hInsert
  obtain ⟨riskDecisions, hRow, rfl⟩ := insertRiskDecision_eq_ok.mp hDecided
  refine ⟨riskDecisionRow context evaluation now, outcome.signal, bound,
    Table.find?_eq_some.mpr ⟨?_, rfl⟩, ?_, ?_, hSymbol.symm, hSide.symm, hStated, hBound⟩
  · rw [(Table.insert?_eq_some.mp hRow).2]
    exact mem_append_right _ (mem_singleton_self _)
  · exact hSound.decisionSignal_eq_some_iff.mpr ⟨hStored, congrArg some hSignal⟩
  · simp [approvedNotionalOf, decimalFromJsonField, riskDecisionRow, Value.get?, hNotional,
      optionalNumber]

end Growth

section Requests
variable {service : Service} {desk : Desk} {db : Database}

theorem advances_persistPaperFillAccounting (db : Database) (ids : FillIds) (now : DateTime)
    (order : OrderRecord) : Advances db (persistPaperFillAccounting db ids now order).1 := by
  obtain ⟨account, positions, fills, journal, snapshots, hBooked⟩ :=
    persistPaperFillAccounting_frame db ids now order
  rw [hBooked]
  exact advances_of_same rfl rfl

theorem advances_createPaperOrder {stored : Database} {now : DateTime} {intent : OrderIntent}
    {outcome : OrderCreateOutcome} (hCreate : createPaperOrder db now intent = .ok (stored, outcome)) :
    Advances db stored := by
  obtain ⟨-, ⟨orders, -, rfl⟩, -⟩ := createPaperOrder_ok hCreate
  exact advances_of_same rfl rfl

theorem advances_createOrder (db : Database) (ids : FillIds) (now : DateTime)
    (intent : OrderIntent) : Advances db (createOrder db ids now intent).1 := by
  unfold createOrder
  split
  · exact .refl db
  rename_i stored outcome hCreate
  exact (advances_createPaperOrder hCreate).trans
    (advances_persistPaperFillAccounting stored ids now outcome.order)

theorem advances_runPaperPipeline (db : Database) (call : PipelineCall) :
    Advances db (runPaperPipeline db call).1 := by
  rcases runPaperPipeline_cases db call with ⟨hSame, -⟩ |
    ⟨symbol, signal, persisted, outcome, -, hInsert, hRest⟩
  · rw [hSame]
    exact .refl db
  have hPersisted := advances_of_insertSignalDeduped hInsert
  rcases hRest with ⟨hSame, -⟩ | ⟨decided, side, evaluation, hDecide, hRest⟩
  · rw [hSame]
    exact hPersisted
  obtain ⟨-, -, hRow⟩ := decideStage_ok hDecide
  have hDecided := hPersisted.trans
    (advances_of_insertRiskDecision (insertRiskDecision_eq_ok.mpr hRow))
  rcases hRest with ⟨hSame, -⟩ | ⟨-, hOrder, -⟩
  · rw [hSame]
    exact hDecided
  rw [hOrder]
  rcases orderStage_cases decided call symbol outcome side evaluation.approvedNotional with
    ⟨hSame, -⟩ | ⟨intent, stored, created, -, hCreate, hBooked, -⟩
  · rw [hSame]
    exact hDecided
  · rw [hBooked]
    exact (hDecided.trans (advances_createPaperOrder hCreate)).trans
      (advances_persistPaperFillAccounting stored call.ids.fill call.now created.order)

theorem advances_closePaperPosition (db : Database) (ids : CloseIds) (now staleThreshold : Int)
    (mark : String → Option MarkTick) (request : PaperClosePositionRequest) :
    Advances db (closePaperPosition db ids now staleThreshold mark request).1 := by
  rcases closePaperPosition_cases db ids now staleThreshold mark request with hSame |
    ⟨position, application, closed, -, hClose, hClosed⟩
  · rw [hSame]
    exact advances_of_same rfl rfl
  obtain ⟨riskDecisions, orders, fills, hRow, -, rfl⟩ := closePaperPositionTransactional_ok hClose
  rw [hClosed]
  have hDecided := advances_of_insertRiskDecision (insertRiskDecision_eq_ok.mpr ⟨_, hRow, rfl⟩)
  have hAccount : Advances db (ensureDefaultPaperAccount db ids.account now).1 :=
    advances_of_same rfl rfl
  exact (hAccount.trans hDecided).trans (advances_of_same rfl rfl)

theorem advances_shadowEvidence (db : Database) (call : ShadowCall) (config : RiskConfig)
    (strategyId : StrategyId) (symbol : Symbol) (timeframe : CandleInterval)
    (requiredFeedBlock : Option TestnetShadowRejectionReason) :
    Advances db
      (shadowEvidence db call config strategyId symbol timeframe requiredFeedBlock).1 := by
  rcases shadowEvidence_cases db call config strategyId symbol timeframe requiredFeedBlock with
    ⟨hSame, -⟩ | ⟨generated, persisted, outcome, hInsert, ⟨hSame, -⟩ | ⟨_, _, -, hDecided, -⟩⟩
  · rw [hSame]
    exact .refl db
  · rw [hSame]
    exact advances_of_insertSignalDeduped hInsert
  · exact (advances_of_insertSignalDeduped hInsert).trans (advances_of_insertRiskDecision hDecided)

theorem advances_runTestnetShadowOnce (call : ShadowCall) :
    Advances desk.db (runTestnetShadowOnce service desk call).1.db := by
  rcases runTestnetShadowOnce_cases service desk call with hSame |
    ⟨setup, block, warning, db, -, rfl, hDesk | ⟨_, _, _, _, -, -, -, -, hDesk⟩⟩
  · rw [hSame]
    exact .refl desk.db
  · rw [hDesk]
    exact advances_shadowEvidence ..
  · rw [hDesk]
    exact advances_shadowEvidence ..

theorem advances_handle (service : Service) (desk : Desk) (request : Request) :
    Advances desk.db (handle service desk request).db := by
  cases request with
  | setKillSwitch enabled reason => exact advances_of_same rfl rfl
  | evaluateRisk call =>
    simp only [handle]
    cases hEvaluate : evaluateRisk service desk.db call with
    | error err => exact .refl desk.db
    | ok result =>
      obtain ⟨context, hDecided⟩ := evaluateRisk_ok hEvaluate
      exact advances_of_insertRiskDecision hDecided
  | runPaperPipeline call =>
    simp only [handle]
    exact advances_runPaperPipeline desk.db call
  | createOrder ids now intent =>
    simp only [handle]
    exact advances_createOrder desk.db ids now intent
  | closePaperPosition ids now staleThreshold mark request =>
    simp only [handle]
    exact advances_closePaperPosition desk.db ids now staleThreshold mark request
  | submitOrder scope request =>
    simp only [handle, submitExchangeTestnetOrder, (submitPreparedOrder_frame ..).1]
    exact .refl desk.db
  | submitPipeline scope request =>
    simp only [handle, submitExchangeTestnetPipeline, (submitPreparedOrder_frame ..).1]
    exact .refl desk.db
  | runShadow call =>
    simp only [handle]
    exact advances_runTestnetShadowOnce call
  | previewPromotion scope strategyConfig request =>
    rw [handle, (previewExchangeTestnetShadowPromotion_frame ..).1]
    exact .refl desk.db
  | submitPromotion scope promotionId request =>
    rw [handle, submitExchangeTestnetShadowPromotion_db]
    exact .refl desk.db

end Requests

/-- The value of a text of decimal digits. -/
def wholeNumber (text : String) : Option Decimal :=
  text.toList.foldl (fun value digit => value.bind fun value =>
    if digit.isDigit then some (10 * value + (digit.toNat - '0'.toNat : Nat)) else none) (some 0)

def sampleService : Service where
  exchangeTestnetEnvironment := .testnet
  staleThreshold := DateTime.seconds 10
  testnetShadowPromotionTtl := DateTime.seconds 300
  shadowObservationOnly := true
  decimalFromStr := wholeNumber
  decimalFromStrExact := wholeNumber

/-- Nothing stored but the state of the market feeds. -/
def openDesk (symbols : List Symbol) : Desk where
  db := connectedBooks symbols
  exchange := ⟨.empty, [], []⟩
  shadowRuns := .empty
  promotions := .empty
  sent := []

end AegisQuant.Testnet
