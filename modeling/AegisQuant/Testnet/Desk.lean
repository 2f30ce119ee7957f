import AegisQuant.Exchange.Reconciliation
import AegisQuant.Paper.Books

/-! What the testnet handlers share: the tables behind them, the request that
reaches them, and the risk decision as it is read back. An order counts as
sent from the moment it is handed to the adapter's `submit_order`. -/
namespace AegisQuant.Testnet
open Exchange Paper Fallible

/-- The order a shadow run would have submitted. -/
structure TestnetShadowIntent where
  exchange : ExchangeName
  environment : ExchangeEnvironment
  symbol : Symbol
  side : ExchangeOrderSide
  orderType : ExchangeOrderType
  timeInForce : Option ExchangeOrderTimeInForce
  quantity : Option Decimal
  quoteNotional : Option Decimal
  limitPrice : Option Decimal
  riskDecisionId : Option Uuid
  deriving DecidableEq

structure TestnetShadowRunRecord where
  id : Uuid
  strategyId : String
  symbol : String
  timeframe : String
  decision : String
  signalId : Option Uuid
  riskDecisionId : Option Uuid
  wouldSubmitPayload : Option TestnetShadowIntent
  priceSource : Option String
  resolvedPrice : Option Decimal
  reasons : List String
  status : String
  evaluatedCandleOpenTime : Option DateTime
  createdAt : DateTime
  correlationId : Option Uuid
  deriving DecidableEq

inductive TestnetShadowPromotionStatus where
  | previewed
  | submitted
  | rejected
  | expired
  | alreadyPromoted
  deriving DecidableEq, Repr

def TestnetShadowPromotionStatus.asStr : TestnetShadowPromotionStatus → String
  | .previewed => "PREVIEWED"
  | .submitted => "SUBMITTED"
  | .rejected => "REJECTED"
  | .expired => "EXPIRED"
  | .alreadyPromoted => "ALREADY_PROMOTED"

structure TestnetShadowPromotionRecord where
  id : Uuid
  shadowRunId : Uuid
  status : String
  strategyId : Option String
  symbol : Option String
  timeframe : Option String
  signalId : Option Uuid
  riskDecisionId : Option Uuid
  wouldSubmitPayload : TestnetShadowIntent
  resolvedPrice : Option Decimal
  priceSource : Option String
  rejectionReasons : List String
  testnetOrderId : Option Uuid
  clientOrderId : Option String
  expiresAt : DateTime
  createdBy : Option Uuid
  submittedBy : Option Uuid
  createdAt : DateTime
  submittedAt : Option DateTime
  correlationId : Option Uuid
  deriving DecidableEq

/-- `status IN ('PREVIEWED', 'SUBMITTED')`. -/
def TestnetShadowPromotionRecord.isActive (promotion : TestnetShadowPromotionRecord) : Bool :=
  promotion.status = "PREVIEWED" || promotion.status = "SUBMITTED"

/-- The value of a promotion in `uq_testnet_shadow_promotions_active_shadow_run`. -/
def TestnetShadowPromotionRecord.activeShadowRun (promotion : TestnetShadowPromotionRecord) :
    Option Uuid :=
  if promotion.isActive then some promotion.shadowRunId else none

open TestnetShadowPromotionRecord

/-- The promotions with their two partial unique indexes. -/
structure PromotionTable extends Table TestnetShadowPromotionRecord.id where
  activeShadowRuns : Table.Indexed activeShadowRun rows
  submittedOrders : Table.Indexed testnetOrderId rows

namespace PromotionTable
open List Option

def empty : PromotionTable where
  toTable := .empty
  activeShadowRuns := nodup_nil
  submittedOrders := nodup_nil

/-- A write is refused if its result breaks an index. -/
def ofTable? (table : Table TestnetShadowPromotionRecord.id) : Option PromotionTable :=
  if hIndexes : Table.Indexed activeShadowRun table.rows ∧
      Table.Indexed testnetOrderId table.rows then
    some ⟨table, hIndexes.1, hIndexes.2⟩
  else none

def insert? (promotions : PromotionTable) (promotion : TestnetShadowPromotionRecord) :
    Option PromotionTable :=
  (promotions.toTable.insert? promotion).bind ofTable?

def update? (promotions : PromotionTable) (promotionId : Uuid)
    (change : TestnetShadowPromotionRecord → TestnetShadowPromotionRecord)
    (hKey : ∀ promotion, (change promotion).id = promotion.id) : Option PromotionTable :=
  ofTable? (promotions.toTable.modify promotionId change hKey)

theorem toTable_of_ofTable? {table : Table TestnetShadowPromotionRecord.id}
    {promotions : PromotionTable} (hTable : ofTable? table = some promotions) :
    promotions.toTable = table := by
  unfold ofTable? at hTable
  split at hTable
  · rw [← some.inj hTable]
  · cases hTable

theorem rows_of_insert? {promotions next : PromotionTable} {promotion : TestnetShadowPromotionRecord}
    (hInsert : promotions.insert? promotion = some next) :
    next.rows = promotions.rows ++ [promotion] := by
  obtain ⟨table, hTable, hNext⟩ := bind_eq_some_iff.mp hInsert
  rw [toTable_of_ofTable? hNext]
  exact (Table.insert?_eq_some.mp hTable).2

end PromotionTable

/-- `sent` lists the orders handed to `submit_order`, the latest last. -/
structure Desk where
  db : Database
  exchange : ExchangeTables
  shadowRuns : Table TestnetShadowRunRecord.id
  promotions : PromotionTable
  sent : List ExchangeOrderRequest

/-- The configuration of the service. The decimal parsers are those of the
decimal library. -/
structure Service where
  exchangeTestnetEnvironment : ExchangeEnvironment
  staleThreshold : Int
  testnetShadowPromotionTtl : Int
  shadowObservationOnly : Bool
  decimalFromStr : String → Option Decimal
  decimalFromStrExact : String → Option Decimal

/-- A request apart from its payload: who makes it, when and under which
correlation, the identifier of the row it may write, the market data it reads
and what the exchange answers to an order it may send. -/
structure RequestScope where
  actorId : Option Uuid
  correlationId : Uuid
  now : DateTime
  newId : Uuid
  latestTick : Symbol → Option MarkTick
  latestCandle : Symbol → Option Candle
  answer : Except ExchangeError ExchangeOrderAck

/-- A refusal with its code; the message of an `invalid` or `failed` one is
that of its cause. -/
inductive RequestError where
  | rejected (error message : String)
  | invalid (error : String) (cause : CoreError)
  | failed (error : String) (cause : Fault)
  | adapter (cause : ExchangeError)
  deriving DecidableEq

structure RiskDecisionRecord where
  riskDecisionId : Uuid
  correlationId : Uuid
  signalId : Option Uuid
  decision : String
  approvedNotional : Option Decimal
  riskScore : Option Decimal
  reasons : List String
  rationale : Value
  strategyId : Option String
  symbol : Option String
  createdAt : DateTime

def decimalFromJsonField (parse : String → Option Decimal) (value : Value) (field : String) :
    Option Decimal :=
  match value.get? field with
  | some (.string raw) => parse raw
  | some (.number raw) => some raw
  | _ => none

def stringArrayFromJsonField (value : Value) (field : String) : List String :=
  match value.get? field with
  | some (.array items) => items.filterMap fun item => match item with
      | .string text => some text
      | _ => none
  | _ => []

def mapRiskDecision (service : Service) (db : Database) (row : RiskDecisionRow) :
    RiskDecisionRecord where
  riskDecisionId := row.id
  correlationId := row.correlationId
  signalId := row.signalId
  decision := row.decision
  approvedNotional := decimalFromJsonField service.decimalFromStr row.rationale "approved_notional"
  riskScore := decimalFromJsonField service.decimalFromStr row.rationale "risk_score"
  reasons := stringArrayFromJsonField row.rationale "reasons"
  rationale := row.rationale
  strategyId := ((decisionSignal db row).map (·.strategyId)).or
    (rationaleText row.rationale "strategy_id")
  symbol := ((decisionSignal db row).map (·.symbol)).or (rationaleText row.rationale "symbol")
  createdAt := row.decidedAt

def getRiskDecisionById (service : Service) (db : Database) (riskDecisionId : Uuid) :
    Option RiskDecisionRecord :=
  (db.riskDecisions.find? riskDecisionId).map (mapRiskDecision service db)

/-- Every path that sends an order reads its decision through this check. -/
def requireApproved (service : Service) (db : Database) (riskDecisionId : Uuid)
    (notApproved : String) : Except RequestError RiskDecisionRecord :=
  match getRiskDecisionById service db riskDecisionId with
  | none => .error (.rejected "risk_decision_not_found"
      "risk_decision_id must reference an existing persisted risk decision.")
  | some record =>
    if record.decision = "APPROVED" then .ok record
    else .error (.rejected "risk_decision_not_approved" notApproved)

def requireKillSwitchOff (db : Database) : Except RequestError Unit :=
  require (!db.systemState.killSwitchEnabled)
    (.rejected "kill_switch_active" "Global kill switch is active.")

def requireTestnet (service : Service) : Except RequestError Unit :=
  require (service.exchangeTestnetEnvironment = .testnet)
    (.rejected "invalid_exchange_environment" "Only testnet environment is allowed.")

theorem requireKillSwitchOff_eq_ok {db : Database} {result : Unit} :
    requireKillSwitchOff db = .ok result ↔ db.systemState.killSwitchEnabled = false := by
  rw [requireKillSwitchOff, require_eq_ok]
  simp

theorem requireApproved_ok {service : Service} {db : Database} {riskDecisionId : Uuid}
    {notApproved : String} {record : RiskDecisionRecord}
    (hApproved : requireApproved service db riskDecisionId notApproved = .ok record) :
    ∃ row, db.riskDecisions.find? riskDecisionId = some row ∧ row.decision = "APPROVED" ∧
      record = mapRiskDecision service db row := by
  unfold requireApproved getRiskDecisionById at hApproved
  cases hFind : db.riskDecisions.find? riskDecisionId with
  | none => simp [hFind] at hApproved
  | some row =>
    rw [hFind, Option.map_some] at hApproved
    simp only at hApproved
    split at hApproved
    · rename_i hDecision
      cases hApproved
      exact ⟨row, rfl, hDecision, rfl⟩
    · cases hApproved

end AegisQuant.Testnet
