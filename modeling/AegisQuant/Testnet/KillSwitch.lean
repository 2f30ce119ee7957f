import AegisQuant.Testnet.Approvals

/-! The kill switch against every order path. While it is enabled the paper
pipeline is stopped by the risk engine and the three testnet paths by their
own checks, but a direct paper order is created without looking at it. -/
namespace AegisQuant.Testnet
open Exchange Paper Risk Pipeline Transition

/-- No request other than a close stores a paper order or sends a testnet
order while the switch is enabled. -/
def Stopped (service : Service) (desk : Desk) (request : Request) : Prop :=
  desk.db.systemState.killSwitchEnabled = true → request.isClose = false →
    (handle service desk request).db.orders = desk.db.orders ∧
      (handle service desk request).sent = desk.sent

/-- No acceptable paper order is created directly while the switch is
enabled. -/
def NoDirectOrder (desk : Desk) : Request → Prop
  | .createOrder _ _ intent =>
    desk.db.systemState.killSwitchEnabled = true → ¬Acceptable desk.db intent
  | _ => True

section Paths
variable {service : Service} {desk : Desk}

theorem killSwitch_off_of_approvedOrder {db decided : Database} {call : PipelineCall}
    {intent : OrderIntent} (hOrder : approvedOrder db call = some (decided, intent)) :
    db.systemState.killSwitchEnabled = false := by
  unfold approvedOrder at hOrder
  split at hOrder
  · rename_i symbol signal _
    split at hOrder
    · rename_i persisted outcome hInsert
      split at hOrder
      · rename_i side evaluation hDecide
        split at hOrder
        · rename_i hApproved
          obtain ⟨-, ⟨config, -, rfl⟩, -⟩ := decideStage_ok hDecide
          have hSwitch := killSwitch_off_of_approved hApproved
          rcases insertSignalDeduped_ok hInsert with ⟨rfl, -⟩ | ⟨signals, -, rfl, -⟩
          · exact hSwitch
          · exact hSwitch
        · cases hOrder
      · cases hOrder
    · cases hOrder
  · cases hOrder

theorem runPaperPipeline_stopped (call : PipelineCall)
    (hSwitch : desk.db.systemState.killSwitchEnabled = true) :
    (runPaperPipeline desk.db call).1.orders = desk.db.orders := by
  rcases runPaperPipeline_places desk.db call with ⟨-, signals, riskDecisions, hDatabase⟩ |
    ⟨signals, riskDecisions, intent, stored, created, hOrder, -⟩
  · rw [hDatabase]
  · rw [killSwitch_off_of_approvedOrder hOrder] at hSwitch
    cases hSwitch

theorem submitPreparedOrder_stopped (scope : RequestScope) (correlationId : Uuid)
    {prepared : Except RequestError ExchangeOrderRequest}
    (hPrepared : ∀ order, prepared ≠ .ok order) :
    (submitPreparedOrder desk scope correlationId prepared).1.db.orders = desk.db.orders ∧
      (submitPreparedOrder desk scope correlationId prepared).1.sent = desk.sent := by
  rcases submitPreparedOrder_cases desk scope correlationId prepared with ⟨exchange, hDesk, -⟩ |
    ⟨exchange, order, hOrder, -⟩
  · rw [hDesk]
    exact ⟨rfl, rfl⟩
  · exact absurd hOrder (hPrepared order)

theorem submitPromotion_stopped (scope : RequestScope) (promotionId : Uuid)
    (request : TestnetShadowPromotionSubmitRequest)
    (hSwitch : desk.db.systemState.killSwitchEnabled = true) :
    (submitExchangeTestnetShadowPromotion service desk scope promotionId request).1.db.orders =
        desk.db.orders ∧
      (submitExchangeTestnetShadowPromotion service desk scope promotionId request).1.sent =
        desk.sent := by
  rcases submitExchangeTestnetShadowPromotion_cases service desk scope promotionId request with
    ⟨exchange, promotions, -, hDesk⟩ | ⟨exchange, promotions, submission, -, hCheck, -⟩
  · rw [hDesk]
    exact ⟨rfl, rfl⟩
  · obtain ⟨-, hCleared⟩ := checkPromotionSubmit_cleared hCheck
    rw [(clearPromotion_ok hCleared).1] at hSwitch
    cases hSwitch

theorem createOrder_orders_eq_iff (db : Database) (ids : FillIds) (now : DateTime)
    (intent : OrderIntent) :
    (createOrder db ids now intent).1.orders = db.orders ↔ ¬Acceptable db intent := by
  unfold createOrder
  cases hCreate : createPaperOrder db now intent with
  | error err =>
    refine ⟨fun _ hAcceptable => ?_, fun _ => rfl⟩
    obtain ⟨stored, outcome, hOk⟩ := createPaperOrder_of_acceptable now hAcceptable
    rw [hCreate] at hOk
    cases hOk
  | ok result =>
    obtain ⟨stored, outcome⟩ := result
    obtain ⟨hAcceptable, ⟨orders, hOrders, rfl⟩, -⟩ := createPaperOrder_ok hCreate
    obtain ⟨account, positions, fills, journal, snapshots, hBooked⟩ :=
      persistPaperFillAccounting_frame { db with orders := orders } ids now outcome.order
    simp only [hBooked]
    have hRows := (Table.insert?_eq_some.mp hOrders).2
    refine ⟨fun hSame => ?_, fun hRefused => absurd hAcceptable hRefused⟩
    rw [hSame] at hRows
    simp at hRows

end Paths

/-- One request is stopped by the switch exactly if it is no acceptable direct
order. -/
theorem stopped_iff (service : Service) (desk : Desk) (request : Request) :
    Stopped service desk request ↔ NoDirectOrder desk request := by
  cases request with
  | createOrder ids now intent =>
    simp only [Stopped, NoDirectOrder, handle, createOrder_orders_eq_iff, Request.isClose, and_true,
      forall_const]
  | closePaperPosition ids now staleThreshold mark request =>
    exact iff_of_true (fun _ hClose => by cases hClose) trivial
  | setKillSwitch enabled reason => exact iff_of_true (fun _ _ => ⟨rfl, rfl⟩) trivial
  | evaluateRisk call => exact iff_of_true (fun _ _ => evaluateRisk_orders service desk call) trivial
  | runPaperPipeline call =>
    refine iff_of_true (fun hSwitch _ => ?_) trivial
    simp only [handle]
    exact ⟨runPaperPipeline_stopped call hSwitch, trivial⟩
  | submitOrder scope request =>
    refine iff_of_true (fun hSwitch _ => ?_) trivial
    simp only [handle, submitExchangeTestnetOrder]
    refine submitPreparedOrder_stopped scope _ fun order hPrepared => ?_
    rw [(prepareManualOrder_ok hPrepared).1] at hSwitch
    cases hSwitch
  | submitPipeline scope request =>
    refine iff_of_true (fun hSwitch _ => ?_) trivial
    simp only [handle, submitExchangeTestnetPipeline]
    refine submitPreparedOrder_stopped scope _ fun order hPrepared => ?_
    rw [(preparePipelineOrder_ok hPrepared).1] at hSwitch
    cases hSwitch
  | runShadow call =>
    refine iff_of_true (fun _ _ => ?_) trivial
    simp only [handle]
    exact runShadow_orders service desk call
  | previewPromotion scope strategyConfig request =>
    obtain ⟨hDb, hSent⟩ :=
      previewExchangeTestnetShadowPromotion_frame service desk scope strategyConfig request
    exact iff_of_true (fun _ _ => ⟨congrArg Database.orders hDb, hSent⟩) trivial
  | submitPromotion scope promotionId request =>
    refine iff_of_true (fun hSwitch _ => ?_) trivial
    simp only [handle]
    exact submitPromotion_stopped scope promotionId request hSwitch

/-- In any sequence of switch changes and requests, the switch stops every
order path precisely if no acceptable paper order is created directly while it
is enabled. -/
theorem kill_switch_stops_orders_iff (service : Service) (desk : Desk) (requests : List Request) :
    Along (handle service) (Stopped service) desk requests ↔
      Along (handle service) NoDirectOrder desk requests :=
  along_iff_of_invariant (I := fun _ => True) (fun desk request _ => stopped_iff service desk request)
    (fun _ _ _ _ => trivial) requests trivial

/-- An order on the decision of an earlier pipeline call. -/
def laterIntent : OrderIntent where
  orderId := ⟨30⟩
  correlationId := ⟨31⟩
  riskDecisionId := ⟨12⟩
  idempotencyKey := "direct-30"
  symbol := btcusdt
  side := .buy
  quantity := 8
  limitPrice := some 125
  createdAt := DateTime.seconds 190
  expiresAt := none

def approvedThenStopped : Desk :=
  run (handle sampleService) (openDesk [btcusdt])
    [.runPaperPipeline (momentumCall btcusdt 10), .setKillSwitch true none]

/-- With the switch enabled, a direct order that refers to a decision approved
before is stored. -/
theorem kill_switch_ignored_by_direct_order :
    approvedThenStopped.db.systemState.killSwitchEnabled = true ∧
      approvedThenStopped.db.orders.rows.map (·.id) = [⟨13⟩] ∧
      (handle sampleService approvedThenStopped
        (.createOrder ⟨⟨32⟩, ⟨33⟩, ⟨34⟩⟩ (DateTime.seconds 190) laterIntent)).db.orders.rows.map
          (·.id) = [⟨13⟩, ⟨30⟩] ∧
      ¬Along (handle sampleService) (Stopped sampleService) (openDesk [btcusdt])
        [.runPaperPipeline (momentumCall btcusdt 10), .setKillSwitch true none,
          .createOrder ⟨⟨32⟩, ⟨33⟩, ⟨34⟩⟩ (DateTime.seconds 190) laterIntent] := by
  have hSwitch : approvedThenStopped.db.systemState.killSwitchEnabled = true := by decide +kernel
  have hBefore : approvedThenStopped.db.orders.rows.map (·.id) = [⟨13⟩] := by decide +kernel
  have hAfter : (handle sampleService approvedThenStopped
      (.createOrder ⟨⟨32⟩, ⟨33⟩, ⟨34⟩⟩ (DateTime.seconds 190) laterIntent)).db.orders.rows.map
        (·.id) = [⟨13⟩, ⟨30⟩] := by decide +kernel
  refine ⟨hSwitch, hBefore, hAfter, ?_⟩
  rintro ⟨-, -, hStopped, -⟩
  have hSame := (hStopped hSwitch rfl).1
  rw [show handle sampleService (handle sampleService (openDesk [btcusdt])
    (.runPaperPipeline (momentumCall btcusdt 10))) (.setKillSwitch true none) =
      approvedThenStopped from rfl] at hSame
  rw [hSame, hBefore] at hAfter
  exact absurd hAfter (by decide)

end AegisQuant.Testnet
