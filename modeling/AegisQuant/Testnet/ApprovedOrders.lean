import AegisQuant.Testnet.Approvals

/-! Every order against the decision it refers to. The paper pipeline and the
promotions keep within what was approved by construction; a manual order, a
direct paper order and a pipeline submission take their terms from elsewhere
and are never compared with the decision. -/
namespace AegisQuant.Testnet
open Exchange Paper Risk Pipeline Fallible Transition List Option

/-- What a sent order asks for, if it names a decision. -/
def sentTerms (order : ExchangeOrderRequest) : Option OrderTerms :=
  order.riskDecisionId.map fun riskDecisionId => {
    riskDecisionId := riskDecisionId
    symbol := order.symbol.text
    side := order.side.asStr
    notionals := statedNotionals order.quoteNotional order.quantity order.limitPrice }

def storedTerms (row : OrderRow) : OrderTerms where
  riskDecisionId := row.riskDecisionId
  symbol := row.symbol
  side := row.side
  notionals := statedNotionals none (some row.quantity) row.limitPrice

def intentTerms (intent : OrderIntent) : OrderTerms where
  riskDecisionId := intent.riskDecisionId
  symbol := intent.symbol.text
  side := intent.side.asStr
  notionals := statedNotionals none (some intent.quantity) intent.limitPrice

def payloadTerms (payload : TestnetShadowIntent) (riskDecisionId : Uuid) : OrderTerms where
  riskDecisionId := riskDecisionId
  symbol := payload.symbol.text
  side := payload.side.asStr
  notionals := statedNotionals payload.quoteNotional payload.quantity payload.limitPrice

def requestedTerms (service : Service) (request : SubmitExchangeTestnetOrderRequest)
    (riskDecisionId : Uuid) : OrderTerms where
  riskDecisionId := riskDecisionId
  symbol := normalizeSymbol request.symbol
  side := request.side.asStr
  notionals := statedNotionals (request.quoteNotional.bind service.decimalFromStrExact)
    (request.quantity.bind service.decimalFromStrExact)
    (request.limitPrice.bind service.decimalFromStrExact)

def SentApproved (service : Service) (desk after : Desk) : Prop :=
  ∀ order ∈ after.sent.drop desk.sent.length,
    ∃ terms, sentTerms order = some terms ∧ Approved service after.db terms

def CreatedApproved (service : Service) (db after : Database) : Prop :=
  ∀ row ∈ after.orders.rows.drop db.orders.rows.length, Approved service after (storedTerms row)

/-- Every order the request sends, and every order it stores through
`create_paper_order`, is approved. -/
def OrdersApproved (service : Service) (desk : Desk) (request : Request) : Prop :=
  SentApproved service desk (handle service desk request) ∧
    (request.isClose = false → CreatedApproved service desk.db (handle service desk request).db)

/-- The rationale of the decision names the side of its signal and an approved
notional. -/
def RationaleAgrees (service : Service) (db : Database) (riskDecisionId : Uuid) : Prop :=
  ∃ decision signal side, db.riskDecisions.find? riskDecisionId = some decision ∧
    decisionSignal db decision = some signal ∧
    (approvedNotionalOf service decision).isSome ∧
    (rationaleText decision.rationale "side").bind parseSideToExchangeOrderSide = some side ∧
    side.asStr = signal.side

/-- An accepted direct order or manual order itself asks for what its decision
approved, and an accepted pipeline submission refers to a decision whose
rationale agrees with its signal. -/
def WithinApproval (service : Service) (desk : Desk) : Request → Prop
  | .createOrder _ _ intent =>
    Acceptable desk.db intent → Approved service desk.db (intentTerms intent)
  | .submitOrder scope request =>
    ∀ order riskDecisionId,
      prepareManualOrder service desk.db request (request.correlationId.getD scope.correlationId) =
        .ok order →
      Persistable desk.exchange
        (submittedRow scope (request.correlationId.getD scope.correlationId) order) →
      request.riskDecisionId = some riskDecisionId →
      Approved service desk.db (requestedTerms service request riskDecisionId)
  | .submitPipeline scope request =>
    ∀ order, preparePipelineOrder service desk.db scope request
        (request.correlationId.getD scope.correlationId) = .ok order →
      Persistable desk.exchange
        (submittedRow scope (request.correlationId.getD scope.correlationId) order) →
      RationaleAgrees service desk.db request.riskDecisionId
  | _ => True

/-- The orders that shadow runs and promotions hold ready are approved. -/
structure DeskSound (service : Service) (desk : Desk) : Prop where
  signals : SignalsSound desk.db
  shadowRuns : ∀ run ∈ desk.shadowRuns.rows, ∀ riskDecisionId payload,
    run.riskDecisionId = some riskDecisionId → run.wouldSubmitPayload = some payload →
      Approved service desk.db (payloadTerms payload riskDecisionId)
  promotions : ∀ promotion ∈ desk.promotions.rows, ∀ riskDecisionId,
    promotion.riskDecisionId = some riskDecisionId →
      Approved service desk.db (payloadTerms promotion.wouldSubmitPayload riskDecisionId)

section Terms
variable {service : Service} {db : Database}

theorem parseOptionalDecimal_ok {text : Option String} {error message : String}
    {value : Option Decimal}
    (hParse : parseOptionalDecimal service text error message = .ok value) :
    value = text.bind service.decimalFromStrExact := by
  unfold parseOptionalDecimal at hParse
  split at hParse
  · cases hParse
    rfl
  split at hParse
  · cases hParse
  · rename_i raw parsed hParsed
    cases hParse
    exact hParsed.symm

theorem sentTerms_requestedOrder {request : SubmitExchangeTestnetOrderRequest}
    {correlationId riskDecisionId : Uuid} {order : ExchangeOrderRequest}
    (hOrder : requestedOrder service request correlationId riskDecisionId = .ok order) :
    sentTerms order = some (requestedTerms service request riskDecisionId) := by
  simp only [requestedOrder, bind_eq_ok, pure_eq_ok, mapError_eq_ok] at hOrder
  obtain ⟨symbol, hSymbol, quantity, hQuantity, quoteNotional, hNotional, limitPrice, hPrice, rfl⟩ :=
    hOrder
  rw [parseOptionalDecimal_ok hQuantity, parseOptionalDecimal_ok hNotional,
    parseOptionalDecimal_ok hPrice, sentTerms, requestedTerms, map_some,
    Symbol.text_of_new hSymbol]

section
variable (sound : SignalsSound db) {decision : RiskDecisionRow} {text : String}
  {side : ExchangeOrderSide} {symbol : Symbol}
include sound

theorem symbol_of_decisionContext {signal : SignalRecord}
    (hSignal : decisionSignal db decision = some signal) {notional : Decimal}
    (hContext : decisionContext service (mapRiskDecision service db decision) =
      .ok (text, side, notional)) (hSymbol : Symbol.new text = .ok symbol)
    : symbol.text = signal.symbol := by
  obtain ⟨own, hOwn⟩ := sound.symbols signal (sound.decisionSignal_eq_some_iff.mp hSignal).1
  have hFilled : trim own.text ≠ "" := by
    intro hBlank
    have hNormal := own.normal
    rw [normalizeSymbol, hBlank] at hNormal
    exact own.nonempty hNormal.symm
  simp only [decisionContext, bind_eq_ok, pure_eq_ok, ofOption_eq_ok, Prod.mk.injEq] at hContext
  obtain ⟨text', hText, _, -, _, -, rfl, -, -⟩ := hContext
  simp only [mapRiskDecision, hSignal, hOwn, map_some, some_or, filter_some,
    hFilled, ne_eq, not_false_eq_true, decide_true, if_true, some.injEq] at hText
  rw [Symbol.text_of_new hSymbol, ← hText, own.normal, hOwn]

theorem approved_previewOrder_iff {riskDecisionId correlationId : Uuid}
    (hDecision : db.riskDecisions.find? riskDecisionId = some decision)
    {quantity notional : Decimal}
    (hContext : decisionContext service (mapRiskDecision service db decision) =
      .ok (text, side, notional)) (hSymbol : Symbol.new text = .ok symbol) :
    (∃ terms, sentTerms (previewOrder symbol side quantity notional correlationId riskDecisionId) =
        some terms ∧ Approved service db terms) ↔ RationaleAgrees service db riskDecisionId := by
  have hParts := hContext
  simp only [decisionContext, bind_eq_ok, pure_eq_ok, ofOption_eq_ok, Prod.mk.injEq] at hParts
  obtain ⟨_, -, side', hSide, notional', hNotional, -, rfl, rfl⟩ := hParts
  constructor
  · rintro ⟨terms, hTerms, decision', signal, approved, hFind, hSignal, hApproved, -, hSameSide, -⟩
    cases hTerms
    rw [hDecision, some.injEq] at hFind
    subst hFind
    exact ⟨decision, signal, side', hDecision, hSignal, by rw [hApproved]; rfl, hSide, hSameSide⟩
  · rintro ⟨decision', signal, side, hFind, hSignal, hApproved, hNamed, hSameSide⟩
    rw [hDecision, some.injEq] at hFind
    subst hFind
    obtain ⟨approved, hApproved⟩ := isSome_iff_exists.mp hApproved
    have hStated : (mapRiskDecision service db decision).approvedNotional = some approved := hApproved
    rw [hStated, some_or, some.injEq] at hNotional
    subst hNotional
    have hOwnSide : side = side' := some.inj (hNamed.symm.trans hSide)
    subst hOwnSide
    refine ⟨_, rfl, decision, signal, approved, hDecision, hSignal, hApproved,
      symbol_of_decisionContext sound hSignal hContext hSymbol, hSameSide, ?_, ?_⟩
    · simp [previewOrder, statedNotionals]
    · simp [previewOrder, statedNotionals]

end

end Terms

section Paths
variable {service : Service} {desk : Desk} {db : Database}

theorem sentApproved_of_same {after : Desk} (hSent : after.sent = desk.sent) :
    SentApproved service desk after := by
  intro order hOrder
  rw [hSent, drop_length] at hOrder
  cases hOrder

theorem createdApproved_of_same {after : Database} (hOrders : after.orders = db.orders) :
    CreatedApproved service db after := by
  intro row hRow
  rw [hOrders, drop_length] at hRow
  cases hRow

theorem sentApproved_append_iff {after : Desk} {order : ExchangeOrderRequest}
    (hSent : after.sent = desk.sent ++ [order]) : SentApproved service desk after ↔
      ∃ terms, sentTerms order = some terms ∧ Approved service after.db terms := by
  rw [SentApproved, hSent, drop_left, forall_mem_singleton]

theorem createdApproved_append_iff {after : Database} {row : OrderRow}
    (hOrders : after.orders.rows = db.orders.rows ++ [row]) : CreatedApproved service db after ↔
      Approved service after (storedTerms row) := by
  rw [CreatedApproved, hOrders, drop_left, forall_mem_singleton]

theorem sentApproved_submitPreparedOrder_iff (scope : RequestScope) (correlationId : Uuid)
    (prepared : Except RequestError ExchangeOrderRequest) :
    SentApproved service desk (submitPreparedOrder desk scope correlationId prepared).1 ↔
      ∀ order, prepared = .ok order →
        Persistable desk.exchange (submittedRow scope correlationId order) →
        ∃ terms, sentTerms order = some terms ∧ Approved service desk.db terms := by
  rcases submitPreparedOrder_cases desk scope correlationId prepared with
    ⟨exchange, hDesk, hBlocked⟩ | ⟨exchange, order, rfl, hFree, hDesk⟩
  · rw [hDesk]
    exact iff_of_true (sentApproved_of_same rfl)
      fun order hOrder hFree => absurd hFree (hBlocked order hOrder)
  · rw [hDesk, sentApproved_append_iff rfl]
    constructor
    · intro hApproved order' hOrder _
      rw [← Except.ok.inj hOrder]
      exact hApproved
    · intro hApproved
      exact hApproved order rfl hFree

theorem side_of_parseSignalSide {signal : SignalSide} {side : Side}
    (hSide : parseSignalSide signal.asStr = .ok side) : side.asStr = signal.asStr := by
  cases signal <;> cases hSide <;> rfl

theorem createdApproved_runPaperPipeline (sound : SignalsSound db) (call : PipelineCall) :
    CreatedApproved service db (runPaperPipeline db call).1 := by
  rcases runPaperPipeline_cases db call with ⟨hSame, -⟩ |
    ⟨symbol, generated, persisted, outcome, hEvaluate, hInsert, hRest⟩
  · rw [hSame]
    exact createdApproved_of_same rfl
  obtain ⟨-, hOrders, -, -⟩ := grows_of_insertSignalDeduped hInsert
  rcases hRest with ⟨hSame, -⟩ | ⟨decided, side, evaluation, hDecide, hRest⟩
  · rw [hSame]
    exact createdApproved_of_same hOrders
  obtain ⟨hSide, ⟨config, -, rfl⟩, hRow⟩ := decideStage_ok hDecide
  obtain ⟨-, hOrders', -⟩ := grows_of_decideStage hDecide
  rcases hRest with ⟨hSame, -⟩ | ⟨hApproved, hOrder, -⟩
  · rw [hSame]
    exact createdApproved_of_same (hOrders'.trans hOrders)
  rw [hOrder]
  rcases orderStage_cases decided call symbol outcome side _ with
    ⟨hSame, -⟩ | ⟨intent, stored, created, hIntent, hCreate, hBooked, -⟩
  · rw [hSame]
    exact createdApproved_of_same (hOrders'.trans hOrders)
  obtain ⟨latestCandle, -, hClose, rfl⟩ := approvedIntent_ok hIntent
  obtain ⟨-, ⟨orders, hStored, rfl⟩, -⟩ := createPaperOrder_ok hCreate
  obtain ⟨account, positions, fills, journal, snapshots, hFrame⟩ :=
    persistPaperFillAccounting_frame { decided with orders := orders } call.ids.fill call.now
      created.order
  have hNotional := approvedNotional_of_approved hApproved
  have hBound : ∀ notional ∈ [outcome.signal.suggestedNotional / latestCandle.close *
      latestCandle.close], notional ≤ outcome.signal.suggestedNotional := by
    simp [hClose.ne']
  have approved := approved_of_insertRiskDecision service sound hInsert
    (insertRiskDecision_eq_ok.mpr hRow) rfl hNotional (cons_ne_nil _ _) hBound
  obtain ⟨hSymbol, hStoredSide⟩ := terms_of_insertSignalDeduped hInsert
  rw [hStoredSide] at hSide
  rw [hBooked, hFrame, createdApproved_append_iff
    ((Table.insert?_eq_some.mp hStored).2.trans (by rw [hOrders', hOrders]))]
  refine (approved_congr rfl rfl).mpr ?_
  simp only [storedTerms, intentRow, statedNotionals, toList_none, nil_append, riskEvaluation,
    hNotional, getD_some, side_of_parseSignalSide hSide]
  rw [evaluateStage_signalled hEvaluate] at approved
  exact approved

theorem createdApproved_createOrder_iff (ids : FillIds) (now : DateTime) (intent : OrderIntent) :
    CreatedApproved service db (createOrder db ids now intent).1 ↔
      (Acceptable db intent → Approved service db (intentTerms intent)) := by
  unfold createOrder
  cases hCreate : createPaperOrder db now intent with
  | error err =>
    refine iff_of_true (createdApproved_of_same rfl) fun hAcceptable => ?_
    obtain ⟨stored, outcome, hOk⟩ := createPaperOrder_of_acceptable now hAcceptable
    rw [hCreate] at hOk
    cases hOk
  | ok result =>
    obtain ⟨stored, outcome⟩ := result
    obtain ⟨hAcceptable, ⟨orders, hStored, rfl⟩, -⟩ := createPaperOrder_ok hCreate
    obtain ⟨account, positions, fills, journal, snapshots, hBooked⟩ :=
      persistPaperFillAccounting_frame { db with orders := orders } ids now outcome.order
    simp only [hBooked]
    rw [createdApproved_append_iff (Table.insert?_eq_some.mp hStored).2]
    exact (approved_congr rfl rfl).trans
      ⟨fun hApproved _ => hApproved, fun hApproved => hApproved hAcceptable⟩

theorem DeskSound.sentApproved_submitPromotion (sound : DeskSound service desk)
    (scope : RequestScope) (promotionId : Uuid) (request : TestnetShadowPromotionSubmitRequest) :
    SentApproved service desk
      (submitExchangeTestnetShadowPromotion service desk scope promotionId request).1 := by
  rcases submitExchangeTestnetShadowPromotion_cases service desk scope promotionId request with
    ⟨exchange, promotions, -, hDesk⟩ | ⟨exchange, promotions, submission, -, hCheck, hDesk⟩
  · rw [hDesk]
    exact sentApproved_of_same rfl
  obtain ⟨hRead, hCleared⟩ := checkPromotionSubmit_cleared hCheck
  obtain ⟨-, riskDecisionId, symbol, hDecision, hSymbol, hSubmission⟩ := clearPromotion_ok hCleared
  have approved := sound.promotions submission.promotion
    (Table.mem_of_find? (readPromotion_ok hRead).1) riskDecisionId hDecision
  have hText := Symbol.text_of_new hSymbol
  rw [submission.promotion.wouldSubmitPayload.symbol.normal] at hText
  rw [hDesk, sentApproved_append_iff rfl, hSubmission]
  refine ⟨_, rfl, ?_⟩
  simp only [promotionOrder, hText]
  exact approved

end Paths

section Soundness
variable {service : Service} {desk : Desk} {db : Database}

/-- Approvals that are held ready survive a request that touches neither the
shadow runs nor the promotions. -/
theorem DeskSound.advance (sound : DeskSound service desk) (advances : Advances desk.db db) :
    DeskSound service { desk with db := db } where
  signals := advances.sound sound.signals
  shadowRuns := by
    intro run hRun riskDecisionId payload hDecision hPayload
    exact (sound.shadowRuns run hRun riskDecisionId payload hDecision hPayload).advance advances
      sound.signals
  promotions := by
    intro promotion hPromotion riskDecisionId hDecision
    exact (sound.promotions promotion hPromotion riskDecisionId hDecision).advance advances
      sound.signals

theorem approved_shadowRun (sound : SignalsSound desk.db) {call : ShadowCall} {setup : ShadowSetup}
    {requiredFeedBlock feedWarning : Option TestnetShadowRejectionReason} {evidence : ShadowEvidence}
    {plan : ShadowOutcomePlan} {payload : TestnetShadowIntent} {riskDecisionId : Uuid}
    (hEvidence : (shadowEvidence desk.db call setup.riskConfig setup.strategyId setup.symbol
      setup.timeframe requiredFeedBlock).2 = .ok evidence)
    (hPlan : evaluateShadowOutcome (shadowOutcomeInput desk.db call setup requiredFeedBlock
      feedWarning evidence) = .ok plan)
    (hPayload : plan.wouldSubmitOrder = some payload)
    (hDecision : plan.riskDecisionId = some riskDecisionId) :
    Approved service (shadowEvidence desk.db call setup.riskConfig setup.strategyId setup.symbol
      setup.timeframe requiredFeedBlock).1 (payloadTerms payload riskDecisionId) := by
  obtain ⟨signal, quantity, notional, hSignal, hApproved, hNotional, hId, rfl⟩ :=
    evaluateShadowOutcome_wouldSubmit hPlan hPayload
  rcases shadowEvidence_cases desk.db call setup.riskConfig setup.strategyId setup.symbol
      setup.timeframe requiredFeedBlock with ⟨-, hNone⟩ |
    ⟨generated, persisted, outcome, hInsert, ⟨-, fault, hFault⟩ |
      ⟨side, evidence', -, hDecided, hOk, hGenerated, hDecisionId, hRisk, hEvaluated⟩⟩
  · have hNoSignal : evidence.signal = none := hNone evidence hEvidence
    simp only [shadowOutcomeInput, hNoSignal] at hSignal
    cases hSignal
  · rw [hFault] at hEvidence
    cases hEvidence
  rw [hOk] at hEvidence
  cases hEvidence
  simp only [shadowOutcomeInput, hGenerated, hRisk, hEvaluated,
    some.injEq] at hSignal hApproved hNotional
  subst hSignal
  have hBound := approvedNotional_of_approved hApproved
  rw [shadowRiskEvaluation, hBound, some_or, some.injEq] at hNotional
  have approved := approved_of_insertRiskDecision service sound hInsert hDecided rfl hBound
    (cons_ne_nil notional []) (by simp [hNotional])
  have hOwnId : call.ids.riskDecision = riskDecisionId := by
    rw [hId, shadowOutcomeInput, hDecisionId] at hDecision
    exact some.inj hDecision
  have hSide : (exchangeOrderSideFromSignal generated.side).asStr = generated.side.asStr := by
    cases generated.side <;> rfl
  rw [← hOwnId]
  simp only [payloadTerms, wouldSubmitIntent, hSide, statedNotionals, toList_some, append_nil]
  exact approved

section
variable (sound : DeskSound service desk)
include sound

variable (scope : RequestScope)

theorem DeskSound.submitPreparedOrder (correlationId : Uuid)
    (prepared : Except RequestError ExchangeOrderRequest) :
    DeskSound service (submitPreparedOrder desk scope correlationId prepared).1 := by
  obtain ⟨hDb, hShadowRuns, hPromotions⟩ :=
    submitPreparedOrder_frame desk scope correlationId prepared
  refine ⟨?_, ?_, ?_⟩
  · rw [hDb]
    exact sound.signals
  · rw [hDb, hShadowRuns]
    exact sound.shadowRuns
  · rw [hDb, hPromotions]
    exact sound.promotions

theorem DeskSound.runTestnetShadowOnce (call : ShadowCall) :
    DeskSound service (runTestnetShadowOnce service desk call).1 := by
  rcases runTestnetShadowOnce_cases service desk call with hSame |
    ⟨setup, block, warning, db, -, rfl, hDesk |
      ⟨evidence, plan, signalId, shadowRuns, hEvidence, hPlan, -, hInsert, hDesk⟩⟩
  · rw [hSame]
    exact sound
  · rw [hDesk]
    exact sound.advance (advances_shadowEvidence ..)
  have stages : DeskSound service { desk with db := (shadowEvidence desk.db call setup.riskConfig
      setup.strategyId setup.symbol setup.timeframe block).1 } :=
    sound.advance (advances_shadowEvidence ..)
  rw [hDesk]
  refine ⟨stages.signals, ?_, stages.promotions⟩
  rw [(Table.insert?_eq_some.mp hInsert).2]
  refine forall_mem_append.mpr ⟨stages.shadowRuns, forall_mem_singleton.mpr ?_⟩
  intro riskDecisionId payload hDecision hPayload
  exact approved_shadowRun sound.signals hEvidence hPlan hPayload hDecision

theorem DeskSound.previewPromotion (strategyConfig : StrategyId → Except Fault StrategyConfig)
    (request : TestnetShadowPromotionRequest) :
    DeskSound service
      (previewExchangeTestnetShadowPromotion service desk scope strategyConfig request).1 := by
  rcases previewExchangeTestnetShadowPromotion_cases service desk scope strategyConfig request with
    hSame | ⟨promotion, promotions, hChecked, hInsert, hDesk⟩
  · rw [hSame]
    exact sound
  obtain ⟨run, riskDecisionId, payload, hRun, hDecision, hPayload, rfl⟩ :=
    checkPromotionPreview_ok hChecked
  rw [hDesk]
  refine ⟨sound.signals, sound.shadowRuns, ?_⟩
  rw [PromotionTable.rows_of_insert? hInsert]
  refine forall_mem_append.mpr ⟨sound.promotions, forall_mem_singleton.mpr ?_⟩
  rintro _ ⟨⟩
  exact sound.shadowRuns run (Table.mem_of_find? hRun) riskDecisionId payload hDecision hPayload

theorem DeskSound.submitPromotion (promotionId : Uuid)
    (request : TestnetShadowPromotionSubmitRequest) :
    DeskSound service
      (submitExchangeTestnetShadowPromotion service desk scope promotionId request).1 := by
  have hKept {promotions : PromotionTable} (hKeeps : desk.promotions.Keeps promotions) :
      ∀ promotion ∈ promotions.rows, ∀ riskDecisionId,
        promotion.riskDecisionId = some riskDecisionId →
          Approved service desk.db (payloadTerms promotion.wouldSubmitPayload riskDecisionId) := by
    intro promotion hPromotion riskDecisionId hDecision
    obtain ⟨earlier, hEarlier, hSameDecision, hSamePayload⟩ := hKeeps promotion hPromotion
    rw [hSamePayload]
    exact sound.promotions earlier hEarlier riskDecisionId (hSameDecision ▸ hDecision)
  rcases submitExchangeTestnetShadowPromotion_cases service desk scope promotionId request with
    ⟨exchange, promotions, hKeeps, hDesk⟩ | ⟨exchange, promotions, submission, hKeeps, -, hDesk⟩
  · rw [hDesk]
    exact ⟨sound.signals, sound.shadowRuns, hKept hKeeps⟩
  · rw [hDesk]
    exact ⟨sound.signals, sound.shadowRuns, hKept hKeeps⟩

/-- Every request keeps what is held ready approved. -/
theorem DeskSound.handle (request : Request) : DeskSound service (handle service desk request) := by
  have advances := advances_handle service desk request
  cases request with
  | setKillSwitch enabled reason =>
    simp only [Testnet.handle] at advances ⊢
    exact sound.advance advances
  | evaluateRisk call =>
    simp only [Testnet.handle] at advances ⊢
    split at advances
    · exact sound.advance advances
    · exact sound
  | runPaperPipeline call =>
    simp only [Testnet.handle] at advances ⊢
    exact sound.advance advances
  | createOrder ids now intent =>
    simp only [Testnet.handle] at advances ⊢
    exact sound.advance advances
  | closePaperPosition ids now staleThreshold mark request =>
    simp only [Testnet.handle] at advances ⊢
    exact sound.advance advances
  | submitOrder scope request =>
    simp only [Testnet.handle, submitExchangeTestnetOrder]
    exact sound.submitPreparedOrder ..
  | submitPipeline scope request =>
    simp only [Testnet.handle, submitExchangeTestnetPipeline]
    exact sound.submitPreparedOrder ..
  | runShadow call =>
    simp only [Testnet.handle]
    exact sound.runTestnetShadowOnce call
  | previewPromotion scope strategyConfig request =>
    simp only [Testnet.handle]
    exact sound.previewPromotion scope strategyConfig request
  | submitPromotion scope promotionId request =>
    simp only [Testnet.handle]
    exact sound.submitPromotion scope promotionId request

theorem DeskSound.ordersApproved_iff (request : Request) :
    OrdersApproved service desk request ↔ WithinApproval service desk request := by
  cases request with
  | setKillSwitch enabled reason =>
    simp only [OrdersApproved, WithinApproval, Testnet.handle]
    exact iff_of_true ⟨sentApproved_of_same rfl, fun _ => createdApproved_of_same rfl⟩ trivial
  | evaluateRisk call =>
    obtain ⟨hOrders, hSent⟩ := evaluateRisk_orders service desk call
    simp only [OrdersApproved, WithinApproval]
    exact iff_of_true ⟨sentApproved_of_same hSent, fun _ => createdApproved_of_same hOrders⟩ trivial
  | runPaperPipeline call =>
    simp only [OrdersApproved, WithinApproval, Testnet.handle]
    exact iff_of_true
      ⟨sentApproved_of_same rfl, fun _ => createdApproved_runPaperPipeline sound.signals call⟩ trivial
  | createOrder ids now intent =>
    simp only [OrdersApproved, WithinApproval, Testnet.handle, Request.isClose, forall_const,
      createdApproved_createOrder_iff]
    exact and_iff_right (sentApproved_of_same rfl)
  | closePaperPosition ids now staleThreshold mark request =>
    simp only [OrdersApproved, WithinApproval, Testnet.handle]
    exact iff_of_true ⟨sentApproved_of_same rfl, fun hClose => by cases hClose⟩ trivial
  | submitOrder scope request =>
    simp only [OrdersApproved, WithinApproval, Testnet.handle, submitExchangeTestnetOrder,
      sentApproved_submitPreparedOrder_iff, (submitPreparedOrder_frame ..).1]
    rw [and_iff_left fun _ => createdApproved_of_same rfl]
    constructor
    · intro hSent order riskDecisionId hPrepared hFree hId
      obtain ⟨-, id, hOwn, hOrder⟩ := prepareManualOrder_ok hPrepared
      obtain ⟨terms, hTerms, approved⟩ := hSent order hPrepared hFree
      rw [sentTerms_requestedOrder hOrder, some.injEq] at hTerms
      rw [hId, some.injEq] at hOwn
      rw [hOwn, hTerms]
      exact approved
    · intro hWithin order hPrepared hFree
      obtain ⟨-, id, hOwn, hOrder⟩ := prepareManualOrder_ok hPrepared
      exact ⟨_, sentTerms_requestedOrder hOrder, hWithin order id hPrepared hFree hOwn⟩
  | submitPipeline scope request =>
    simp only [OrdersApproved, WithinApproval, Testnet.handle, submitExchangeTestnetPipeline,
      sentApproved_submitPreparedOrder_iff, (submitPreparedOrder_frame ..).1]
    rw [and_iff_left fun _ => createdApproved_of_same rfl]
    refine forall_congr' fun order => forall_congr' fun hPrepared => forall_congr' fun _ => ?_
    obtain ⟨-, decision, text, side, notional, symbol, quantity, hDecision, hContext, hSymbol,
      rfl⟩ := preparePipelineOrder_ok hPrepared
    exact approved_previewOrder_iff sound.signals hDecision hContext hSymbol
  | runShadow call =>
    obtain ⟨hOrders, hSent⟩ := runShadow_orders service desk call
    simp only [OrdersApproved, WithinApproval, Testnet.handle]
    exact iff_of_true ⟨sentApproved_of_same hSent, fun _ => createdApproved_of_same hOrders⟩ trivial
  | previewPromotion scope strategyConfig request =>
    simp only [OrdersApproved, WithinApproval, Testnet.handle]
    obtain ⟨hDb, hSent⟩ :=
      previewExchangeTestnetShadowPromotion_frame service desk scope strategyConfig request
    exact iff_of_true ⟨sentApproved_of_same hSent,
      fun _ => createdApproved_of_same (congrArg Database.orders hDb)⟩ trivial
  | submitPromotion scope promotionId request =>
    simp only [OrdersApproved, WithinApproval, Testnet.handle]
    exact iff_of_true ⟨sound.sentApproved_submitPromotion scope promotionId request, fun _ =>
      createdApproved_of_same (congrArg Database.orders
        (submitExchangeTestnetShadowPromotion_db service desk scope promotionId request))⟩ trivial

end

end Soundness

/-- A manual sale of another symbol, at fifty times the approved notional. -/
def unrelatedRequest : SubmitExchangeTestnetOrderRequest where
  symbol := "ETHUSDT"
  side := .sell
  orderType := .market
  timeInForce := none
  quantity := none
  quoteNotional := some "50000"
  limitPrice := none
  riskDecisionId := some ⟨12⟩
  confirmationText := "TESTNET ORDER"
  recvWindowMs := none
  correlationId := none

def manualScope : RequestScope where
  actorId := none
  correlationId := ⟨40⟩
  now := DateTime.seconds 190
  newId := ⟨41⟩
  latestTick := fun _ => none
  latestCandle := fun _ => none
  answer := .error .rateLimited

def afterApproval : Desk :=
  run (handle sampleService) (openDesk [btcusdt]) [.runPaperPipeline (momentumCall btcusdt 10)]

end AegisQuant.Testnet
