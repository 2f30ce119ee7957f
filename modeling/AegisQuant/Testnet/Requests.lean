import AegisQuant.Testnet.Promotion
import AegisQuant.Testnet.Shadow

/-! The requests that decide on orders, as steps of the desk: the kill switch,
risk evaluations, the two paper paths, the three testnet paths, and the shadow
runs and previews they build on. Each request is handled as a whole. -/
namespace AegisQuant.Testnet
open Paper Risk Pipeline Fallible

structure RiskEvaluateRequest where
  signalId : Uuid
  strategyId : String
  symbol : String
  side : Side
  suggestedNotional : String
  signalCreatedAt : DateTime
  correlationId : Option Uuid

/-- One evaluation, with what it reads from outside the tables. -/
structure RiskEvaluateCall where
  request : RiskEvaluateRequest
  correlationId : Uuid
  riskDecisionId : Uuid
  now : DateTime
  persistedRiskConfig : Option RiskConfig
  journalOrder : RowOrder newestEntryFirst

def parseRiskCheckContext (service : Service) (call : RiskEvaluateCall) :
    Except RequestError RiskCheckContext := do
  let suggestedNotional ← ofOption (service.decimalFromStrExact call.request.suggestedNotional)
    (.rejected "invalid_suggested_notional" "suggested_notional must be a valid decimal string.")
  let symbol ← (Symbol.new call.request.symbol).mapError fun _ =>
    .rejected "invalid_symbol" "symbol must be a non-empty market symbol."
  return {
    signalId := call.request.signalId
    correlationId := call.request.correlationId.getD call.correlationId
    strategyId := call.request.strategyId
    symbol := symbol
    side := call.request.side
    suggestedNotional := suggestedNotional
    signalCreatedAt := call.request.signalCreatedAt
    evaluatedAt := call.now }

/-- The caller names the signal and describes it; the description is not
compared with the stored signal. -/
def evaluateRisk (service : Service) (db : Database) (call : RiskEvaluateCall) :
    Except RequestError (Database × RiskEvaluationResult) := do
  let context ← parseRiskCheckContext service call
  let config ← (loadRiskConfig call.persistedRiskConfig).mapError
    (.failed "invalid_persisted_risk_config")
  let evaluation := Risk.evaluate config call.riskDecisionId context
    (loadRiskStateSnapshot call.journalOrder db call.now)
  let decided ← (insertRiskDecision db (riskDecisionRow context evaluation call.now)).mapError
    (.failed "failed_to_persist_risk_evaluation")
  return (decided, evaluation)

theorem evaluateRisk_ok {service : Service} {db decided : Database} {call : RiskEvaluateCall}
    {evaluation : RiskEvaluationResult}
    (hEvaluate : evaluateRisk service db call = .ok (decided, evaluation)) :
    ∃ context, insertRiskDecision db (riskDecisionRow context evaluation call.now) = .ok decided := by
  simp only [evaluateRisk, bind_eq_ok, pure_eq_ok, mapError_eq_ok, Prod.mk.injEq] at hEvaluate
  obtain ⟨context, -, config, -, decided', hDecided, rfl, rfl⟩ := hEvaluate
  exact ⟨context, hDecided⟩

inductive Request where
  | setKillSwitch (enabled : Bool) (reason : Option String)
  | evaluateRisk (call : RiskEvaluateCall)
  | runPaperPipeline (call : PipelineCall)
  | createOrder (ids : FillIds) (now : DateTime) (intent : OrderIntent)
  | closePaperPosition (ids : CloseIds) (now staleThreshold : Int) (mark : String → Option MarkTick)
      (request : PaperClosePositionRequest)
  | submitOrder (scope : RequestScope) (request : SubmitExchangeTestnetOrderRequest)
  | submitPipeline (scope : RequestScope) (request : ExchangeTestnetPipelineSubmitRequest)
  | runShadow (call : ShadowCall)
  | previewPromotion (scope : RequestScope)
      (strategyConfig : StrategyId → Except Fault StrategyConfig)
      (request : TestnetShadowPromotionRequest)
  | submitPromotion (scope : RequestScope) (promotionId : Uuid)
      (request : TestnetShadowPromotionSubmitRequest)

def setKillSwitchState (db : Database) (enabled : Bool) (reason : Option String) : Database :=
  { db with systemState := ⟨enabled, reason⟩ }

def handle (service : Service) (desk : Desk) : Request → Desk
  | .setKillSwitch enabled reason => { desk with db := setKillSwitchState desk.db enabled reason }
  | .evaluateRisk call => match evaluateRisk service desk.db call with
      | .ok (decided, _) => { desk with db := decided }
      | .error _ => desk
  | .runPaperPipeline call => { desk with db := (runPaperPipeline desk.db call).1 }
  | .createOrder ids now intent => { desk with db := (createOrder desk.db ids now intent).1 }
  | .closePaperPosition ids now staleThreshold mark request =>
    { desk with db := (closePaperPosition desk.db ids now staleThreshold mark request).1 }
  | .submitOrder scope request => (submitExchangeTestnetOrder service desk scope request).1
  | .submitPipeline scope request => (submitExchangeTestnetPipeline service desk scope request).1
  | .runShadow call => (runTestnetShadowOnce service desk call).1
  | .previewPromotion scope strategyConfig request =>
    (previewExchangeTestnetShadowPromotion service desk scope strategyConfig request).1
  | .submitPromotion scope promotionId request =>
    (submitExchangeTestnetShadowPromotion service desk scope promotionId request).1

def Request.isClose : Request → Bool
  | .closePaperPosition .. => true
  | _ => false

section Specifications
variable (service : Service) (desk : Desk)

theorem submitExchangeTestnetShadowPromotion_cases (scope : RequestScope) (promotionId : Uuid)
    (request : TestnetShadowPromotionSubmitRequest) :
    (∃ exchange promotions, desk.promotions.Keeps promotions ∧
      (submitExchangeTestnetShadowPromotion service desk scope promotionId request).1 =
        { desk with exchange := exchange, promotions := promotions }) ∨
    ∃ exchange promotions submission, desk.promotions.Keeps promotions ∧
      checkPromotionSubmit service desk scope promotionId request = .cleared submission ∧
      (submitExchangeTestnetShadowPromotion service desk scope promotionId request).1 = { desk with
          exchange := exchange
          promotions := promotions
          sent := desk.sent ++ [submission.order] } := by
  unfold submitExchangeTestnetShadowPromotion
  split
  · exact .inl ⟨_, _, .refl _, rfl⟩
  · exact .inl ⟨_, _, .getD fun _ => PromotionTable.keeps_of_update?, rfl⟩
  · rename_i submission hCleared
    unfold sendPromotionOrder
    cases persistSubmittedRow desk.exchange scope submission.correlationId
        (submission.row scope) with
    | none => exact .inl ⟨_, _, .refl _, rfl⟩
    | some tables =>
      exact .inr ⟨_, _, submission, .getD fun _ => keeps_of_settlePromotion, hCleared, rfl⟩

section
variable (scope : RequestScope) (strategyConfig : StrategyId → Except Fault StrategyConfig)
  (request : TestnetShadowPromotionRequest)

theorem previewExchangeTestnetShadowPromotion_cases :
    (previewExchangeTestnetShadowPromotion service desk scope strategyConfig request).1 = desk ∨
    ∃ promotion promotions,
      checkPromotionPreview service desk scope strategyConfig request = .ok promotion ∧
      desk.promotions.insert? promotion = some promotions ∧
      (previewExchangeTestnetShadowPromotion service desk scope strategyConfig request).1 =
        { desk with promotions := promotions } := by
  unfold previewExchangeTestnetShadowPromotion insertTestnetShadowPromotion
  split
  · exact .inl rfl
  rename_i promotion hChecked
  cases hInsert : desk.promotions.insert? promotion with
  | none => exact .inl rfl
  | some promotions => exact .inr ⟨promotion, promotions, hChecked, hInsert, rfl⟩

theorem previewExchangeTestnetShadowPromotion_frame :
    (previewExchangeTestnetShadowPromotion service desk scope strategyConfig request).1.db = desk.db ∧
      (previewExchangeTestnetShadowPromotion service desk scope strategyConfig request).1.sent =
        desk.sent := by
  rcases previewExchangeTestnetShadowPromotion_cases service desk scope strategyConfig request with
    hSame | ⟨_, _, -, -, hDesk⟩
  · rw [hSame]
    exact ⟨rfl, rfl⟩
  · rw [hDesk]
    exact ⟨rfl, rfl⟩

end

theorem submitExchangeTestnetShadowPromotion_db (scope : RequestScope) (promotionId : Uuid)
    (request : TestnetShadowPromotionSubmitRequest) :
    (submitExchangeTestnetShadowPromotion service desk scope promotionId request).1.db = desk.db := by
  rcases submitExchangeTestnetShadowPromotion_cases service desk scope promotionId request with
    ⟨_, _, -, hDesk⟩ | ⟨_, _, _, -, -, hDesk⟩
  · rw [hDesk]
  · rw [hDesk]

theorem runShadow_orders (call : ShadowCall) :
    (runTestnetShadowOnce service desk call).1.db.orders = desk.db.orders ∧
      (runTestnetShadowOnce service desk call).1.sent = desk.sent := by
  have hStages (setup : ShadowSetup) (block : Option TestnetShadowRejectionReason) :
      (shadowEvidence desk.db call setup.riskConfig setup.strategyId setup.symbol setup.timeframe
        block).1.orders = desk.db.orders := by
    rcases shadowEvidence_cases desk.db call setup.riskConfig setup.strategyId setup.symbol
        setup.timeframe block with ⟨hSame, -⟩ | ⟨generated, persisted, outcome, hInsert, hRest⟩
    · rw [hSame]
    have hPersisted : persisted.orders = desk.db.orders := by
      rcases insertSignalDeduped_ok hInsert with ⟨rfl, -⟩ | ⟨signals, -, rfl, -⟩
      · rfl
      · rfl
    rcases hRest with ⟨hSame, -⟩ | ⟨side, evidence, -, hDecided, -⟩
    · rw [hSame, hPersisted]
    · obtain ⟨riskDecisions, -, hDecided⟩ := insertRiskDecision_eq_ok.mp hDecided
      rw [hDecided]
      exact hPersisted
  rcases runTestnetShadowOnce_cases service desk call with hSame |
    ⟨setup, block, warning, db, -, rfl, hDesk | ⟨_, _, _, _, -, -, -, -, hDesk⟩⟩
  · rw [hSame]
    exact ⟨rfl, rfl⟩
  · rw [hDesk]
    exact ⟨hStages setup block, rfl⟩
  · rw [hDesk]
    exact ⟨hStages setup block, rfl⟩

theorem evaluateRisk_orders (call : RiskEvaluateCall) :
    (handle service desk (.evaluateRisk call)).db.orders = desk.db.orders ∧
      (handle service desk (.evaluateRisk call)).sent = desk.sent := by
  simp only [handle]
  cases hEvaluate : evaluateRisk service desk.db call with
  | error err => exact ⟨rfl, rfl⟩
  | ok result =>
    obtain ⟨decided, evaluation⟩ := result
    obtain ⟨context, hDecided⟩ := evaluateRisk_ok hEvaluate
    obtain ⟨riskDecisions, -, rfl⟩ := insertRiskDecision_eq_ok.mp hDecided
    exact ⟨rfl, rfl⟩

end Specifications

end AegisQuant.Testnet
