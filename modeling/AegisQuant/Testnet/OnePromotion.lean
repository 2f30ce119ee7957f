import AegisQuant.Testnet.ApprovedOrders

/-! Previews and submits of promotions that run at the same time, one
statement or one call of the exchange per step. The index allows one active
promotion per shadow run, but a submit sends its order on a status it has read
earlier, and a failed submission frees the shadow run for another preview. -/
namespace AegisQuant.Testnet
open Exchange Pipeline Transition TestnetShadowPromotionRecord List Option

/-- What the exchange does with an order it is handed. An accepted order whose
answer is lost looks to the desk like a transport error. -/
inductive ExchangeOutcome where
  | accepted (ack : ExchangeOrderAck)
  | acceptedUnanswered (detail : String)
  | rejected (error : ExchangeError)

def ExchangeOutcome.answer : ExchangeOutcome → Except ExchangeError ExchangeOrderAck
  | .accepted ack => .ok ack
  | .acceptedUnanswered detail => .error (.transport detail)
  | .rejected error => .error error

def ExchangeOutcome.accepts : ExchangeOutcome → Bool
  | .rejected _ => false
  | _ => true

/-- How far a submit has come. From `opened` to `answered` it works on a
promotion that it has read as previewed. -/
inductive SubmitPhase where
  | waiting
  | opened (scope : RequestScope) (request : TestnetShadowPromotionSubmitRequest)
      (promotion : TestnetShadowPromotionRecord)
  | cleared (scope : RequestScope) (submission : ClearedPromotion)
  | stored (scope : RequestScope) (submission : ClearedPromotion)
  | answered (scope : RequestScope) (submission : ClearedPromotion) (outcome : ExchangeOutcome)
  | finished

def SubmitPhase.promotion? : SubmitPhase → Option TestnetShadowPromotionRecord
  | .waiting => none
  | .opened _ _ promotion => some promotion
  | .cleared _ submission => some submission.promotion
  | .stored _ submission => some submission.promotion
  | .answered _ submission _ => some submission.promotion
  | .finished => none

def SubmitPhase.orderId? : SubmitPhase → Option Uuid
  | .stored scope _ => some scope.newId
  | .answered scope _ _ => some scope.newId
  | _ => none

/-- `accepted` lists what the exchange has accepted, each order with the
shadow run it was made from. -/
structure PromotionSystem where
  desk : Desk
  previews : Nat → Option TestnetShadowPromotionRecord
  submits : Nat → SubmitPhase
  accepted : List (Uuid × ExchangeOrderRequest)

namespace PromotionSystem

def start (desk : Desk) : PromotionSystem where
  desk := desk
  previews := fun _ => none
  submits := fun _ => .waiting
  accepted := []

def setPhase (system : PromotionSystem) (submit : Nat) (phase : SubmitPhase) : PromotionSystem :=
  { system with submits := Function.update system.submits submit phase }

def setPromotions (system : PromotionSystem) (promotions : PromotionTable) : PromotionSystem :=
  { system with desk := { system.desk with promotions := promotions } }

def setExchange (system : PromotionSystem) (exchange : ExchangeTables) : PromotionSystem :=
  { system with desk := { system.desk with exchange := exchange } }

def acceptedFrom (system : PromotionSystem) (shadowRunId : Uuid) : List ExchangeOrderRequest :=
  (system.accepted.filter fun entry => entry.1 = shadowRunId).map (·.2)

end PromotionSystem

/-- One step of the preview or submit with that number. `written` says whether
the database carries out the update. -/
inductive PromotionStep where
  | checkPreview (preview : Nat) (scope : RequestScope)
      (strategyConfig : StrategyId → Except Fault StrategyConfig)
      (request : TestnetShadowPromotionRequest)
  | insertPreview (preview : Nat)
  | readPromotion (submit : Nat) (scope : RequestScope) (promotionId : Uuid)
      (request : TestnetShadowPromotionSubmitRequest)
  | checkPromotion (submit : Nat) (written : Bool)
  | persistOrder (submit : Nat)
  | submitOrder (submit : Nat) (outcome : ExchangeOutcome)
  | settlePromotion (submit : Nat) (written : Bool)

def ifWritten (written : Bool) (promotions : PromotionTable) (update : Option PromotionTable) :
    PromotionTable :=
  if written then update.getD promotions else promotions

def answeredScope (scope : RequestScope) (outcome : ExchangeOutcome) : RequestScope :=
  { scope with answer := outcome.answer }

def promotionStep (service : Service) (system : PromotionSystem) : PromotionStep → PromotionSystem
  | .checkPreview preview scope strategyConfig request =>
    match checkPromotionPreview service system.desk scope strategyConfig request with
    | .error _ => system
    | .ok promotion =>
      { system with previews := Function.update system.previews preview (some promotion) }
  | .insertPreview preview => match system.previews preview with
      | none => system
      | some promotion => {
          system.setPromotions ((system.desk.promotions.insert? promotion).getD
            system.desk.promotions) with
          previews := Function.update system.previews preview none }
  | .readPromotion submit scope promotionId request => match system.submits submit with
      | .waiting => match readPromotion system.desk.promotions promotionId request with
          | .error _ => system.setPhase submit .finished
          | .ok promotion => system.setPhase submit (.opened scope request promotion)
      | _ => system
  | .checkPromotion submit written => match system.submits submit with
      | .opened scope request promotion =>
        if promotion.expiresAt ≤ scope.now then
          (system.setPromotions (ifWritten written system.desk.promotions
            (expirePromotion system.desk.promotions scope promotion.id))).setPhase submit .finished
        else match clearPromotion service system.desk.db promotion
            (request.correlationId.getD scope.correlationId) with
          | .error _ => system.setPhase submit .finished
          | .ok submission => system.setPhase submit (.cleared scope submission)
      | _ => system
  | .persistOrder submit => match system.submits submit with
      | .cleared scope submission =>
        match persistSubmittedRow system.desk.exchange scope submission.correlationId
            (submission.row scope) with
        | none => system.setPhase submit .finished
        | some tables => (system.setExchange tables).setPhase submit (.stored scope submission)
      | _ => system
  | .submitOrder submit outcome => match system.submits submit with
      | .stored scope submission => {
          system.setPhase submit (.answered scope submission outcome) with
          desk := { system.desk with sent := system.desk.sent ++ [submission.order] }
          accepted := if outcome.accepts then
              system.accepted ++ [(submission.promotion.shadowRunId, submission.order)]
            else system.accepted }
      | _ => system
  | .settlePromotion submit written => match system.submits submit with
      | .answered scope submission outcome =>
        ((system.setExchange (acknowledgePromotion system.desk.exchange
          (answeredScope scope outcome) submission)).setPromotions
            (ifWritten written system.desk.promotions (settlePromotion system.desk.promotions
              (answeredScope scope outcome) submission))).setPhase submit .finished
      | _ => system

def submitSteps (submit : Nat) (scope : RequestScope) (promotionId : Uuid)
    (request : TestnetShadowPromotionSubmitRequest) (outcome : ExchangeOutcome) :
    List PromotionStep :=
  [.readPromotion submit scope promotionId request, .checkPromotion submit true,
    .persistOrder submit, .submitOrder submit outcome, .settlePromotion submit true]

theorem answeredScope_accepted (scope : RequestScope) (ack : ExchangeOrderAck) :
    (answeredScope scope (.accepted ack)).answer = .ok ack := rfl

section OrderIds
variable {tables next : ExchangeTables} {promotions written : PromotionTable}
variable {scope : RequestScope} {submission : ClearedPromotion}

def HasOrder (tables : ExchangeTables) (orderId : Uuid) : Prop :=
  ∃ row ∈ tables.orders.rows, row.id = orderId

variable {orderId : Uuid}

theorem HasOrder.append (hOrder : HasOrder tables orderId)
    (event : ExchangeTestnetOrderLifecycleEventRecord) (update : OrderUpdate) :
    HasOrder (appendExchangeTestnetLifecycleEventAndUpdateOrder tables event update) orderId := by
  obtain ⟨row, hRow, rfl⟩ := hOrder
  refine ⟨_, mem_map_of_mem hRow, ?_⟩
  split
  · rfl
  · rfl

theorem HasOrder.persisted (hOrder : HasOrder tables orderId)
    (hStored : persistSubmittedRow tables scope
      submission.correlationId (submission.row scope) = some next) : HasOrder next orderId := by
  simp only [persistSubmittedRow, insertExchangeTestnetOrder, map_eq_some_iff] at hStored
  obtain ⟨stored, hInsert, rfl⟩ := hStored
  split at hInsert
  · cases hInsert
  obtain ⟨orders, hOrders, rfl⟩ := map_eq_some_iff.mp hInsert
  obtain ⟨row, hRow, rfl⟩ := hOrder
  refine HasOrder.append ⟨row, ?_, rfl⟩ _ _
  rw [(Table.insert?_eq_some.mp hOrders).2]
  exact mem_append_left _ hRow

/-- The row of a submission is new when it is written. -/
theorem hasOrder_of_persisted
    (hStored : persistSubmittedRow tables scope submission.correlationId (submission.row scope) =
      some next) : ¬HasOrder tables scope.newId ∧ HasOrder next scope.newId := by
  have hFree := (persistSubmittedRow_isSome scope submission.correlationId).mp
    (isSome_iff_exists.mpr ⟨next, hStored⟩)
  refine ⟨fun ⟨row, hRow, hSame⟩ => hFree.idUnused row hRow hSame, ?_⟩
  simp only [persistSubmittedRow, insertExchangeTestnetOrder, map_eq_some_iff] at hStored
  obtain ⟨stored, hInsert, rfl⟩ := hStored
  split at hInsert
  · cases hInsert
  obtain ⟨orders, hOrders, rfl⟩ := map_eq_some_iff.mp hInsert
  refine HasOrder.append ⟨submission.row scope, ?_, rfl⟩ _ _
  rw [(Table.insert?_eq_some.mp hOrders).2]
  exact mem_append_right _ (mem_singleton_self _)

theorem HasOrder.acknowledged (hOrder : HasOrder tables orderId) (scope : RequestScope)
    (submission : ClearedPromotion) :
    HasOrder (acknowledgePromotion tables scope submission) orderId := by
  unfold acknowledgePromotion submitExchangeTestnetOrderSuccess
  split
  · simp only [appendTestnetLifecycleTransition]
    cases applyTestnetTransition (lifecycleSnapshot (submission.row scope)) _ _ _ _ with
    | error err => exact hOrder
    | ok transition => exact hOrder.append _ _
  · exact hOrder

/-- What an update of one promotion, carried out or not, may change: no other
promotion, no shadow run, and no order id but the one it writes. -/
structure Updates (promotions written : PromotionTable) (promotionId : Uuid)
    (orderId : Option Uuid) : Prop where
  others : ∀ other, other ≠ promotionId →
    written.toTable.find? other = promotions.toTable.find? other
  shadowRun : ∀ row, promotions.toTable.find? promotionId = some row →
    ∃ updated, written.toTable.find? promotionId = some updated ∧
      updated.shadowRunId = row.shadowRunId
  orderIds : ∀ row ∈ written.rows, ∀ id, row.testnetOrderId = some id →
    (∃ old ∈ promotions.rows, old.testnetOrderId = some id) ∨ orderId = some id

theorem Updates.refl (promotions : PromotionTable) (promotionId : Uuid) (orderId : Option Uuid) :
    Updates promotions promotions promotionId orderId where
  others := fun _ _ => rfl
  shadowRun := fun row hRow => ⟨row, hRow, rfl⟩
  orderIds := fun row hRow _ hId => .inl ⟨row, hRow, hId⟩

theorem updates_of_submission {promotionId : Uuid} {status : TestnetShadowPromotionStatus}
    {reasons : List String} {orderId : Option Uuid} {clientOrderId : Option String}
    {submittedBy : Option Uuid} {submittedAt : Option DateTime}
    (hUpdate : updateTestnetShadowPromotionSubmission promotions promotionId status reasons orderId
      clientOrderId submittedBy submittedAt = some written) :
    Updates promotions written promotionId orderId where
  others := by
    intro other hOther
    rw [PromotionTable.toTable_of_ofTable? hUpdate]
    exact Table.find?_modify_of_ne hOther
  shadowRun := by
    intro row hRow
    rw [PromotionTable.toTable_of_ofTable? hUpdate]
    exact ⟨_, Table.find?_modify_self.trans (congrArg (Option.map _) hRow), rfl⟩
  orderIds := by
    intro row hRow id hId
    rw [PromotionTable.toTable_of_ofTable? hUpdate] at hRow
    obtain ⟨old, hOld, rfl⟩ := mem_map.mp hRow
    split at hId
    · rcases or_eq_some_iff.mp hId with hNew | ⟨-, hKept⟩
      · exact .inr hNew
      · exact .inl ⟨old, hOld, hKept⟩
    · exact .inl ⟨old, hOld, hId⟩

theorem updates_ifWritten {promotionId : Uuid} {orderId : Option Uuid} (carriedOut : Bool)
    {update : Option PromotionTable}
    (hUpdate : ∀ next, update = some next → Updates promotions next promotionId orderId) :
    Updates promotions (ifWritten carriedOut promotions update) promotionId orderId := by
  unfold ifWritten
  cases carriedOut with
  | false => exact .refl ..
  | true =>
    cases update with
    | none => exact .refl ..
    | some next => exact hUpdate next rfl

theorem updates_expirePromotion (promotions : PromotionTable) (scope : RequestScope)
    (promotionId : Uuid) (carriedOut : Bool) :
    Updates promotions (ifWritten carriedOut promotions
      (expirePromotion promotions scope promotionId)) promotionId none :=
  updates_ifWritten carriedOut fun _ => updates_of_submission

theorem updates_settlePromotion (promotions : PromotionTable) (scope : RequestScope)
    (submission : ClearedPromotion) (carriedOut : Bool) :
    Updates promotions (ifWritten carriedOut promotions
      (settlePromotion promotions scope submission)) submission.promotion.id (some scope.newId) := by
  refine updates_ifWritten carriedOut fun next hSettle => ?_
  unfold settlePromotion at hSettle
  split at hSettle
  · exact updates_of_submission hSettle
  · exact updates_of_submission hSettle

theorem settlePromotion_submitted {ack : ExchangeOrderAck} (hAnswer : scope.answer = .ok ack)
    (hFind : promotions.toTable.find? submission.promotion.id = some submission.promotion)
    (hPreviewed : submission.promotion.status = "PREVIEWED")
    (hFresh : ∀ row ∈ promotions.rows, row.testnetOrderId ≠ some scope.newId) :
    ∃ next submitted, settlePromotion promotions scope submission = some next ∧
      submitted ∈ next.rows ∧ submitted.shadowRunId = submission.promotion.shadowRunId ∧
      submitted.status = "SUBMITTED" := by
  unfold settlePromotion
  simp only [hAnswer]
  let change := submissionUpdate .submitted [] (some (submission.row scope).id)
    (some (submission.row scope).clientOrderId) scope.actorId (some scope.now)
  obtain ⟨before, after, hRows, hUpdated⟩ :=
    Table.rows_modify_of_find? hFind change fun _ => rfl
  have hRuns := promotions.activeShadowRuns
  have hOrders := promotions.submittedOrders
  rw [hRows, Table.Indexed, filterMap_append, filterMap_cons] at hRuns hOrders
  have hSameRun : (change submission.promotion).activeShadowRun =
      submission.promotion.activeShadowRun := by
    simp [change, submissionUpdate, activeShadowRun,
      isActive, TestnetShadowPromotionStatus.asStr, hPreviewed]
  have hUnused : scope.newId ∉ (before ++ after).filterMap (·.testnetOrderId) := by
    intro hUsed
    obtain ⟨row, hRow, hId⟩ := mem_filterMap.mp hUsed
    refine hFresh row ?_ hId
    rw [hRows]
    rcases mem_append.mp hRow with hRow | hRow
    · exact mem_append_left _ hRow
    · exact mem_append_right _ (mem_cons_of_mem _ hRow)
  have hRest : ((before ++ after).filterMap (·.testnetOrderId)).Nodup := by
    rw [filterMap_append]
    split at hOrders
    · exact hOrders
    · exact hOrders.sublist (List.Sublist.append_left (sublist_cons_self ..) _)
  have hIndexes : Table.Indexed activeShadowRun
        (promotions.toTable.modify submission.promotion.id change fun _ => rfl).rows ∧
      Table.Indexed testnetOrderId
        (promotions.toTable.modify submission.promotion.id change fun _ => rfl).rows := by
    rw [hUpdated]
    refine ⟨?_, ?_⟩
    · rw [Table.Indexed, filterMap_append, filterMap_cons, hSameRun]
      exact hRuns
    · have hOwn : (change submission.promotion).testnetOrderId = some scope.newId := rfl
      rw [Table.Indexed, filterMap_append, filterMap_cons, hOwn]
      rw [nodup_middle, nodup_cons, ← filterMap_append]
      exact ⟨hUnused, hRest⟩
  refine ⟨_, change submission.promotion, dif_pos hIndexes, ?_, rfl, rfl⟩
  change change submission.promotion ∈
    (promotions.toTable.modify submission.promotion.id change fun _ => rfl).rows
  rw [hUpdated]
  exact mem_append_right _ (mem_cons_self ..)

end OrderIds

def SubmitPhase.WorksOn (phase : SubmitPhase) (shadowRunId : Uuid) : Prop :=
  ∃ promotion, phase.promotion? = some promotion ∧ promotion.shadowRunId = shadowRunId

/-- The submit has been told that its order is accepted. -/
def SubmitPhase.Acknowledged (phase : SubmitPhase) (shadowRunId : Uuid) : Prop :=
  ∃ scope submission ack, phase = .answered scope submission (.accepted ack) ∧
    submission.promotion.shadowRunId = shadowRunId

/-- Submits on the shadow run do not overlap, no accepted order goes without
its answer, and the update that follows an accepted order is carried out. -/
def SubmitsApart (shadowRunId : Uuid) (system : PromotionSystem) : PromotionStep → Prop
  | .readPromotion submit _ promotionId request =>
    ∀ promotion, system.submits submit = .waiting →
      readPromotion system.desk.promotions promotionId request = .ok promotion →
      promotion.shadowRunId = shadowRunId →
      ∀ other, ¬(system.submits other).WorksOn shadowRunId
  | .submitOrder submit outcome =>
    (system.submits submit).WorksOn shadowRunId → ∀ detail, outcome ≠ .acceptedUnanswered detail
  | .settlePromotion submit written =>
    (system.submits submit).Acknowledged shadowRunId → written = true
  | _ => True

structure OrderIdsFresh (system : PromotionSystem) : Prop where
  previews : ∀ preview promotion, system.previews preview = some promotion →
    promotion.testnetOrderId = none
  recorded : ∀ row ∈ system.desk.promotions.rows, ∀ id, row.testnetOrderId = some id →
    HasOrder system.desk.exchange id
  pendingStored : ∀ submit id, (system.submits submit).orderId? = some id →
    HasOrder system.desk.exchange id
  pendingFresh : ∀ submit id, (system.submits submit).orderId? = some id →
    ∀ row ∈ system.desk.promotions.rows, row.testnetOrderId ≠ some id
  distinct : ∀ first second id, (system.submits first).orderId? = some id →
    (system.submits second).orderId? = some id → first = second

/-- The promotion a submit works on is stored, and on the given shadow run it
is still as it was read and nobody else works on it. -/
structure WorksAlone (shadowRunId : Uuid) (system : PromotionSystem) : Prop where
  found : ∀ submit promotion, (system.submits submit).promotion? = some promotion →
    ∃ row, system.desk.promotions.toTable.find? promotion.id = some row ∧
      row.shadowRunId = promotion.shadowRunId
  unchanged : ∀ submit promotion, (system.submits submit).promotion? = some promotion →
    promotion.shadowRunId = shadowRunId →
    system.desk.promotions.toTable.find? promotion.id = some promotion ∧
      promotion.status = "PREVIEWED"
  alone : ∀ first second, (system.submits first).WorksOn shadowRunId →
    (system.submits second).WorksOn shadowRunId → first = second

/-- After its first accepted order the shadow run has a submit that will
record it or a promotion that has. -/
def AcceptedOnce (shadowRunId : Uuid) (system : PromotionSystem) : Prop :=
  system.acceptedFrom shadowRunId = [] ∨
  (system.acceptedFrom shadowRunId).length = 1 ∧
    ((∃ submit, (system.submits submit).Acknowledged shadowRunId) ∨
      (∀ submit, ¬(system.submits submit).WorksOn shadowRunId) ∧
        ∃ row ∈ system.desk.promotions.rows, row.shadowRunId = shadowRunId ∧
          row.status = "SUBMITTED")

structure PromotionsSound (shadowRunId : Uuid) (system : PromotionSystem) : Prop where
  orderIds : OrderIdsFresh system
  works : WorksAlone shadowRunId system
  once : AcceptedOnce shadowRunId system

section Moves
variable {system next : PromotionSystem} {shadowRunId : Uuid} {submit : Nat} {phase : SubmitPhase}
variable {promotion : TestnetShadowPromotionRecord}

theorem SubmitPhase.Acknowledged.worksOn (hAcknowledged : phase.Acknowledged shadowRunId) :
    phase.WorksOn shadowRunId := by
  obtain ⟨scope, submission, ack, rfl, hRun⟩ := hAcknowledged
  exact ⟨submission.promotion, rfl, hRun⟩

theorem SubmitPhase.worksOn_congr {other : SubmitPhase}
    (hSame : phase.promotion? = other.promotion?) :
    phase.WorksOn shadowRunId ↔ other.WorksOn shadowRunId := by
  rw [WorksOn, WorksOn, hSame]

theorem SubmitPhase.not_worksOn_of_none (hNone : phase.promotion? = none) :
    ¬phase.WorksOn shadowRunId := by
  rintro ⟨promotion, hPromotion, -⟩
  rw [hNone] at hPromotion
  cases hPromotion

/-- A submit that holds no order id afterwards may have written the one it
held. -/
theorem OrderIdsFresh.finish (fresh : OrderIdsFresh system)
    (hSubmits : next.submits = Function.update system.submits submit phase)
    (hPhase : phase.orderId? = none) (hPreviews : next.previews = system.previews)
    (hExchange : ∀ id, HasOrder system.desk.exchange id → HasOrder next.desk.exchange id)
    (hPromotions : ∀ row ∈ next.desk.promotions.rows, ∀ id, row.testnetOrderId = some id →
      (∃ old ∈ system.desk.promotions.rows, old.testnetOrderId = some id) ∨
        (system.submits submit).orderId? = some id) : OrderIdsFresh next := by
  have hHeld : ∀ other id, (next.submits other).orderId? = some id →
      other ≠ submit ∧ (system.submits other).orderId? = some id := by
    intro other id hId
    rw [hSubmits, Function.update_apply] at hId
    split at hId
    · rw [hPhase] at hId
      cases hId
    · rename_i hOther
      exact ⟨hOther, hId⟩
  refine ⟨hPreviews ▸ fresh.previews, ?_, ?_, ?_, ?_⟩
  · intro row hRow id hId
    rcases hPromotions row hRow id hId with ⟨old, hOld, hOldId⟩ | hOwn
    · exact hExchange id (fresh.recorded old hOld id hOldId)
    · exact hExchange id (fresh.pendingStored submit id hOwn)
  · intro other id hId
    exact hExchange id (fresh.pendingStored other id (hHeld other id hId).2)
  · intro other id hId row hRow hRowId
    obtain ⟨hOther, hOwn⟩ := hHeld other id hId
    rcases hPromotions row hRow id hRowId with ⟨old, hOld, hOldId⟩ | hSame
    · exact fresh.pendingFresh other id hOwn old hOld hOldId
    · exact hOther (fresh.distinct other submit id hOwn hSame)
  · intro first second id hFirst hSecond
    exact fresh.distinct first second id (hHeld first id hFirst).2 (hHeld second id hSecond).2

/-- A submit that goes on keeps the order id it holds, or takes one that no
stored order had. -/
theorem OrderIdsFresh.advance (fresh : OrderIdsFresh system)
    (hSubmits : next.submits = Function.update system.submits submit phase)
    (hPhase : ∀ id, phase.orderId? = some id → (system.submits submit).orderId? = some id ∨
      ¬HasOrder system.desk.exchange id ∧ HasOrder next.desk.exchange id)
    (hPreviews : next.previews = system.previews)
    (hExchange : ∀ id, HasOrder system.desk.exchange id → HasOrder next.desk.exchange id)
    (hPromotions : next.desk.promotions = system.desk.promotions) : OrderIdsFresh next := by
  have hHeld : ∀ other id, (next.submits other).orderId? = some id →
      (system.submits other).orderId? = some id ∨
        other = submit ∧ ¬HasOrder system.desk.exchange id ∧ HasOrder next.desk.exchange id := by
    intro other id hId
    rw [hSubmits, Function.update_apply] at hId
    split at hId
    · rename_i hOther
      subst hOther
      exact (hPhase id hId).imp_right fun hNew => ⟨rfl, hNew⟩
    · exact .inl hId
  refine ⟨hPreviews ▸ fresh.previews, ?_, ?_, ?_, ?_⟩
  · intro row hRow id hId
    rw [hPromotions] at hRow
    exact hExchange id (fresh.recorded row hRow id hId)
  · intro other id hId
    rcases hHeld other id hId with hOld | ⟨-, -, hNew⟩
    · exact hExchange id (fresh.pendingStored other id hOld)
    · exact hNew
  · intro other id hId row hRow hRowId
    rw [hPromotions] at hRow
    rcases hHeld other id hId with hOld | ⟨-, hUnused, -⟩
    · exact fresh.pendingFresh other id hOld row hRow hRowId
    · exact hUnused (fresh.recorded row hRow id hRowId)
  · intro first second id hFirst hSecond
    rcases hHeld first id hFirst with hFirst | ⟨rfl, hUnused, -⟩
    · rcases hHeld second id hSecond with hSecond | ⟨rfl, hUnused, -⟩
      · exact fresh.distinct first second id hFirst hSecond
      · exact absurd (fresh.pendingStored first id hFirst) hUnused
    · rcases hHeld second id hSecond with hSecond | ⟨rfl, -, -⟩
      · exact absurd (fresh.pendingStored second id hSecond) hUnused
      · rfl

open SubmitPhase

theorem WorksAlone.advance (works : WorksAlone shadowRunId system)
    (hSubmits : next.submits = Function.update system.submits submit phase)
    (hPhase : phase.promotion? = (system.submits submit).promotion?)
    (hPromotions : next.desk.promotions = system.desk.promotions) : WorksAlone shadowRunId next := by
  have hHeld : ∀ other, (next.submits other).promotion? = (system.submits other).promotion? := by
    intro other
    rw [hSubmits, Function.update_apply]
    split
    · rename_i hOther
      rw [hPhase, hOther]
    · rfl
  refine ⟨?_, ?_, ?_⟩
  · intro other promotion hWorks
    rw [hPromotions]
    exact works.found other promotion (hHeld other ▸ hWorks)
  · intro other promotion hWorks hRun
    rw [hPromotions]
    exact works.unchanged other promotion (hHeld other ▸ hWorks) hRun
  · intro first second hFirst hSecond
    exact works.alone first second ((worksOn_congr (hHeld first)).mp hFirst)
      ((worksOn_congr (hHeld second)).mp hSecond)

/-- A submit that ends may have updated the promotion it worked on. -/
theorem WorksAlone.finish (works : WorksAlone shadowRunId system)
    (hSubmits : next.submits = Function.update system.submits submit phase)
    (hPhase : phase.promotion? = none) {orderId : Option Uuid}
    (hPromotion : (system.submits submit).promotion? = some promotion)
    (hUpdates : Updates system.desk.promotions next.desk.promotions promotion.id orderId) :
    WorksAlone shadowRunId next := by
  have hHeld : ∀ other held, (next.submits other).promotion? = some held →
      other ≠ submit ∧ (system.submits other).promotion? = some held := by
    intro other held hWorks
    rw [hSubmits, Function.update_apply] at hWorks
    split at hWorks
    · rw [hPhase] at hWorks
      cases hWorks
    · rename_i hOther
      exact ⟨hOther, hWorks⟩
  obtain ⟨own, hOwn, hOwnRun⟩ := works.found submit promotion hPromotion
  refine ⟨?_, ?_, ?_⟩
  · intro other held hWorks
    obtain ⟨row, hRow, hRun⟩ := works.found other held (hHeld other held hWorks).2
    by_cases hSame : held.id = promotion.id
    · rw [hSame] at hRow ⊢
      obtain ⟨updated, hUpdated, hUpdatedRun⟩ := hUpdates.shadowRun row hRow
      exact ⟨updated, hUpdated, hUpdatedRun.trans hRun⟩
    · rw [hUpdates.others held.id hSame]
      exact ⟨row, hRow, hRun⟩
  · intro other held hWorks hRun
    obtain ⟨hOther, hHeldBefore⟩ := hHeld other held hWorks
    obtain ⟨hFind, hStatus⟩ := works.unchanged other held hHeldBefore hRun
    refine ⟨?_, hStatus⟩
    have hDistinct : held.id ≠ promotion.id := by
      intro hSame
      rw [hSame, hOwn, some.injEq] at hFind
      refine hOther (works.alone other submit ⟨held, hHeldBefore, hRun⟩ ⟨promotion, hPromotion, ?_⟩)
      rw [← hOwnRun, hFind, hRun]
    rw [hUpdates.others held.id hDistinct]
    exact hFind
  · rintro first second ⟨held, hFirst, hRun⟩ ⟨held', hSecond, hRun'⟩
    exact works.alone first second ⟨held, (hHeld first held hFirst).2, hRun⟩
      ⟨held', (hHeld second held' hSecond).2, hRun'⟩

theorem AcceptedOnce.advance (once : AcceptedOnce shadowRunId system)
    (hSubmits : next.submits = Function.update system.submits submit phase)
    (hPhase : phase.promotion? = (system.submits submit).promotion?)
    (hUnsettled : ¬(system.submits submit).Acknowledged shadowRunId)
    (hAccepted : next.acceptedFrom shadowRunId = system.acceptedFrom shadowRunId)
    (hPromotions : next.desk.promotions = system.desk.promotions) :
    AcceptedOnce shadowRunId next := by
  have hHeld : ∀ other, (next.submits other).promotion? = (system.submits other).promotion? := by
    intro other
    rw [hSubmits, Function.update_apply]
    split
    · rename_i hOther
      rw [hPhase, hOther]
    · rfl
  rw [AcceptedOnce, hAccepted, hPromotions]
  rcases once with hNone | ⟨hOne, ⟨other, hAcknowledged⟩ | ⟨hIdle, hSubmitted⟩⟩
  · exact .inl hNone
  · refine .inr ⟨hOne, .inl ⟨other, ?_⟩⟩
    have hOther : other ≠ submit := by
      rintro rfl
      exact hUnsettled hAcknowledged
    rw [hSubmits, Function.update_of_ne hOther]
    exact hAcknowledged
  · exact .inr ⟨hOne, .inr ⟨fun other hWorks =>
      hIdle other ((worksOn_congr (hHeld other)).mp hWorks), hSubmitted⟩⟩

theorem AcceptedOnce.finish (once : AcceptedOnce shadowRunId system)
    (works : WorksAlone shadowRunId system)
    (hSubmits : next.submits = Function.update system.submits submit phase)
    (hPhase : phase.promotion? = none) {orderId : Option Uuid}
    (hPromotion : (system.submits submit).promotion? = some promotion)
    (hUpdates : Updates system.desk.promotions next.desk.promotions promotion.id orderId)
    (hUnsettled : ¬(system.submits submit).Acknowledged shadowRunId)
    (hAccepted : next.acceptedFrom shadowRunId = system.acceptedFrom shadowRunId) :
    AcceptedOnce shadowRunId next := by
  rw [AcceptedOnce, hAccepted]
  rcases once with hNone | ⟨hOne, ⟨other, hAcknowledged⟩ | ⟨hIdle, row, hRow, hRun, hStatus⟩⟩
  · exact .inl hNone
  · refine .inr ⟨hOne, .inl ⟨other, ?_⟩⟩
    have hOther : other ≠ submit := by
      rintro rfl
      exact hUnsettled hAcknowledged
    rw [hSubmits, Function.update_of_ne hOther]
    exact hAcknowledged
  · refine .inr ⟨hOne, .inr ⟨?_, row, ?_, hRun, hStatus⟩⟩
    · intro other
      rw [hSubmits, Function.update_apply]
      split
      · exact not_worksOn_of_none hPhase
      · exact hIdle other
    · obtain ⟨own, hOwn, hOwnRun⟩ := works.found submit promotion hPromotion
      have hDistinct : row.id ≠ promotion.id := by
        intro hSame
        have hFind := Table.find?_of_mem hRow
        rw [hSame, hOwn, some.injEq] at hFind
        exact hIdle submit ⟨promotion, hPromotion, by rw [← hOwnRun, hFind, hRun]⟩
      exact Table.mem_of_find? ((hUpdates.others row.id hDistinct).trans (Table.find?_of_mem hRow))

end Moves

section Steps
variable {service : Service} {system : PromotionSystem} {shadowRunId : Uuid}
variable {submit : Nat}

theorem PromotionsSound.start {desk : Desk} (hPromotions : desk.promotions.rows = []) :
    PromotionsSound shadowRunId (.start desk) where
  orderIds := {
    previews := by simp [PromotionSystem.start]
    recorded := by simp [PromotionSystem.start, hPromotions]
    pendingStored := by simp [PromotionSystem.start, SubmitPhase.orderId?]
    pendingFresh := by simp [PromotionSystem.start, SubmitPhase.orderId?]
    distinct := by simp [PromotionSystem.start, SubmitPhase.orderId?] }
  works := {
    found := by simp [PromotionSystem.start, SubmitPhase.promotion?]
    unchanged := by simp [PromotionSystem.start, SubmitPhase.promotion?]
    alone := by simp [PromotionSystem.start, SubmitPhase.WorksOn, SubmitPhase.promotion?] }
  once := .inl rfl

section
variable (sound : PromotionsSound shadowRunId system)
include sound

theorem PromotionsSound.checkPreview (preview : Nat) (scope : RequestScope)
    (strategyConfig : StrategyId → Except Fault StrategyConfig)
    (request : TestnetShadowPromotionRequest) :
    PromotionsSound shadowRunId (promotionStep service system
      (.checkPreview preview scope strategyConfig request)) := by
  simp only [promotionStep]
  split
  · exact sound
  rename_i promotion hChecked
  obtain ⟨run, riskDecisionId, payload, -, -, -, rfl⟩ := checkPromotionPreview_ok hChecked
  refine ⟨{ sound.orderIds with previews := ?_ }, { sound.works with }, sound.once⟩
  intro other held hHeld
  simp only [Function.update_apply] at hHeld
  split at hHeld
  · cases hHeld
    rfl
  · exact sound.orderIds.previews other held hHeld

theorem PromotionsSound.insertPreview (preview : Nat) :
    PromotionsSound shadowRunId (promotionStep service system (.insertPreview preview)) := by
  simp only [promotionStep]
  split
  · exact sound
  rename_i promotion hPreview
  have hPreviews : ∀ other held, Function.update system.previews preview none other = some held →
      held.testnetOrderId = none := by
    intro other held hHeld
    rw [Function.update_apply] at hHeld
    split at hHeld
    · cases hHeld
    · exact sound.orderIds.previews other held hHeld
  cases hInsert : system.desk.promotions.insert? promotion with
  | none =>
    exact ⟨{ sound.orderIds with previews := hPreviews }, { sound.works with }, sound.once⟩
  | some promotions =>
    have hRows := PromotionTable.rows_of_insert? hInsert
    have hFind {id : Uuid} {row : TestnetShadowPromotionRecord}
        (hRow : system.desk.promotions.toTable.find? id = some row) :
        promotions.toTable.find? id = some row := by
      obtain ⟨hMember, hId⟩ := Table.find?_eq_some.mp hRow
      exact Table.find?_eq_some.mpr ⟨hRows ▸ mem_append_left _ hMember, hId⟩
    have hNoOrder := sound.orderIds.previews preview promotion hPreview
    have hOrderIds : ∀ row ∈ promotions.rows, ∀ id, row.testnetOrderId = some id →
        row ∈ system.desk.promotions.rows := by
      intro row hRow id hId
      rw [hRows, mem_append, mem_singleton] at hRow
      rcases hRow with hRow | rfl
      · exact hRow
      · rw [hNoOrder] at hId
        cases hId
    simp only [getD_some]
    refine ⟨⟨hPreviews, ?_, sound.orderIds.pendingStored, ?_, sound.orderIds.distinct⟩,
      ⟨?_, ?_, sound.works.alone⟩, ?_⟩
    · intro row hRow id hId
      exact sound.orderIds.recorded row (hOrderIds row hRow id hId) id hId
    · intro submit id hPending row hRow hId
      exact sound.orderIds.pendingFresh submit id hPending row (hOrderIds row hRow id hId) hId
    · intro submit held hHeld
      obtain ⟨row, hRow, hRun⟩ := sound.works.found submit held hHeld
      exact ⟨row, hFind hRow, hRun⟩
    · intro submit held hHeld hRun
      obtain ⟨hRow, hStatus⟩ := sound.works.unchanged submit held hHeld hRun
      exact ⟨hFind hRow, hStatus⟩
    · refine sound.once.imp id (And.imp id (Or.imp id (And.imp id ?_)))
      rintro ⟨row, hRow, hSubmitted⟩
      exact ⟨row, hRows ▸ mem_append_left _ hRow, hSubmitted⟩

theorem PromotionsSound.finishIdle (hWaiting : system.submits submit = .waiting) :
    PromotionsSound shadowRunId (system.setPhase submit .finished) := by
  have hPhase : SubmitPhase.finished.promotion? = (system.submits submit).promotion? := by
    rw [hWaiting]
    rfl
  have hUnsettled : ¬(system.submits submit).Acknowledged shadowRunId := by
    rw [hWaiting]
    rintro ⟨_, _, _, hAnswered, -⟩
    cases hAnswered
  exact ⟨sound.orderIds.advance rfl (by simp [SubmitPhase.orderId?]) rfl (fun _ => id) rfl,
    sound.works.advance rfl hPhase rfl, sound.once.advance rfl hPhase hUnsettled rfl rfl⟩

end

theorem not_acknowledged_of_unanswered {phase : SubmitPhase}
    (hPhase : ∀ scope submission outcome, phase ≠ .answered scope submission outcome) :
    ¬phase.Acknowledged shadowRunId := by
  rintro ⟨scope, submission, ack, hAnswered, -⟩
  exact hPhase scope submission _ hAnswered

section
variable (sound : PromotionsSound shadowRunId system)
include sound

open PromotionSystem

/-- A submit opens a promotion of the shadow run only while nobody else works
on one; that it is still previewed shows that none has been submitted. -/
theorem PromotionsSound.readPromotion {scope : RequestScope} {promotionId : Uuid}
    {request : TestnetShadowPromotionSubmitRequest}
    (hApart : SubmitsApart shadowRunId system (.readPromotion submit scope promotionId request)) :
    PromotionsSound shadowRunId (promotionStep service system
      (.readPromotion submit scope promotionId request)) := by
  simp only [promotionStep]
  split
  · rename_i hWaiting
    split
    · exact sound.finishIdle hWaiting
    rename_i promotion hRead
    obtain ⟨hFind, hPreviewed⟩ := readPromotion_ok hRead
    obtain rfl := Table.key_of_find? hFind
    have hAlone := hApart promotion hWaiting hRead
    have hHeld : ∀ other held, (Function.update system.submits submit
        (.opened scope request promotion) other).promotion? = some held →
        other = submit ∧ held = promotion ∨ (system.submits other).promotion? = some held := by
      intro other held hWorks
      rw [Function.update_apply] at hWorks
      split at hWorks
      · rename_i hOther
        exact .inl ⟨hOther, (some.inj hWorks).symm⟩
      · exact .inr hWorks
    refine ⟨sound.orderIds.advance rfl (by simp [SubmitPhase.orderId?]) rfl
      (fun _ => id) rfl, ⟨?_, ?_, ?_⟩, ?_⟩
    · intro other held hWorks
      rcases hHeld other held hWorks with ⟨-, rfl⟩ | hWorks
      · exact ⟨held, hFind, rfl⟩
      · exact sound.works.found other held hWorks
    · intro other held hWorks hRun
      rcases hHeld other held hWorks with ⟨-, rfl⟩ | hWorks
      · exact ⟨hFind, hPreviewed⟩
      · exact sound.works.unchanged other held hWorks hRun
    · rintro first second ⟨held, hFirst, hRun⟩ ⟨held', hSecond, hRun'⟩
      rcases hHeld first held hFirst with ⟨rfl, rfl⟩ | hFirstBefore
      · rcases hHeld second held' hSecond with ⟨rfl, -⟩ | hSecondBefore
        · rfl
        · exact absurd ⟨held', hSecondBefore, hRun'⟩ (hAlone hRun second)
      · rcases hHeld second held' hSecond with ⟨-, rfl⟩ | hSecondBefore
        · exact absurd ⟨held, hFirstBefore, hRun⟩ (hAlone hRun' first)
        · exact sound.works.alone first second ⟨held, hFirstBefore, hRun⟩
            ⟨held', hSecondBefore, hRun'⟩
    · rcases sound.once with hNone | ⟨hOne, ⟨other, hAcknowledged⟩ | ⟨hIdle, row, hRow, hRun, hStatus⟩⟩
      · exact .inl hNone
      · refine .inr ⟨hOne, .inl ⟨other, ?_⟩⟩
        have hOther : other ≠ submit := by
          rintro rfl
          exact not_acknowledged_of_unanswered (by simp [hWaiting]) hAcknowledged
        simp only [setPhase, Function.update_of_ne hOther]
        exact hAcknowledged
      · refine .inr ⟨hOne, .inr ⟨?_, row, hRow, hRun, hStatus⟩⟩
        rintro other ⟨held, hWorks, hHeldRun⟩
        rcases hHeld other held hWorks with ⟨-, rfl⟩ | hWorks
        · have hActive : held.activeShadowRun = some shadowRunId := by
            simp [activeShadowRun, isActive, hPreviewed, hHeldRun]
          have hRowActive : row.activeShadowRun = some shadowRunId := by
            simp [activeShadowRun, isActive, hStatus, hRun]
          have hSame := Table.eq_of_indexed system.desk.promotions.activeShadowRuns
            (Table.mem_of_find? hFind) hRow hActive hRowActive
          rw [← hSame, hPreviewed] at hStatus
          exact absurd hStatus (by decide)
        · exact hIdle other ⟨held, hWorks, hHeldRun⟩
  · exact sound

theorem PromotionsSound.checkPromotion (submit : Nat) (written : Bool) :
    PromotionsSound shadowRunId (promotionStep service system (.checkPromotion submit written)) := by
  simp only [promotionStep]
  split
  · rename_i scope request promotion hOpened
    have hPromotion : (system.submits submit).promotion? = some promotion := by rw [hOpened]; rfl
    have hUnsettled : ¬(system.submits submit).Acknowledged shadowRunId :=
      not_acknowledged_of_unanswered (by simp [hOpened])
    split
    · have hUpdates := updates_expirePromotion system.desk.promotions scope promotion.id written
      exact ⟨sound.orderIds.finish rfl rfl rfl (fun _ => id) fun row hRow orderId hId =>
          (hUpdates.orderIds row hRow orderId hId).imp id (by simp),
        sound.works.finish rfl rfl hPromotion hUpdates,
        sound.once.finish sound.works rfl rfl hPromotion hUpdates hUnsettled rfl⟩
    split
    · have hUpdates := Updates.refl system.desk.promotions promotion.id none
      exact ⟨sound.orderIds.advance rfl (by simp [SubmitPhase.orderId?]) rfl (fun _ => id) rfl,
        sound.works.finish rfl rfl hPromotion hUpdates,
        sound.once.finish sound.works rfl rfl hPromotion hUpdates hUnsettled rfl⟩
    · rename_i submission hCleared
      obtain ⟨-, _, _, -, -, rfl⟩ := clearPromotion_ok hCleared
      exact ⟨sound.orderIds.advance rfl (by simp [SubmitPhase.orderId?]) rfl (fun _ => id) rfl,
        sound.works.advance rfl hPromotion.symm rfl,
        sound.once.advance rfl hPromotion.symm hUnsettled rfl rfl⟩
  · exact sound

theorem PromotionsSound.persistOrder (submit : Nat) :
    PromotionsSound shadowRunId (promotionStep service system (.persistOrder submit)) := by
  simp only [promotionStep]
  split
  · rename_i scope submission hCleared
    have hPromotion : (system.submits submit).promotion? = some submission.promotion := by
      rw [hCleared]
      rfl
    have hUnsettled : ¬(system.submits submit).Acknowledged shadowRunId :=
      not_acknowledged_of_unanswered (by simp [hCleared])
    split
    · have hUpdates := Updates.refl system.desk.promotions submission.promotion.id none
      exact ⟨sound.orderIds.advance rfl (by simp [SubmitPhase.orderId?]) rfl (fun _ => id) rfl,
        sound.works.finish rfl rfl hPromotion hUpdates,
        sound.once.finish sound.works rfl rfl hPromotion hUpdates hUnsettled rfl⟩
    · rename_i tables hStored
      refine ⟨sound.orderIds.advance rfl ?_ rfl (fun _ hOrder => hOrder.persisted hStored) rfl,
        sound.works.advance rfl hPromotion.symm rfl,
        sound.once.advance rfl hPromotion.symm hUnsettled rfl rfl⟩
      rintro id ⟨⟩
      exact .inr (hasOrder_of_persisted hStored)
  · exact sound

/-- The exchange accepts an order of the shadow run only if it has accepted
none before. -/
theorem PromotionsSound.submitOrder {outcome : ExchangeOutcome}
    (hApart : SubmitsApart shadowRunId system (.submitOrder submit outcome)) :
    PromotionsSound shadowRunId (promotionStep service system (.submitOrder submit outcome)) := by
  simp only [promotionStep]
  split
  · rename_i scope submission hStored
    have hPromotion : (system.submits submit).promotion? = some submission.promotion := by
      rw [hStored]
      rfl
    have hUnsettled : ¬(system.submits submit).Acknowledged shadowRunId :=
      not_acknowledged_of_unanswered (by simp [hStored])
    refine ⟨sound.orderIds.advance rfl ?_ rfl (fun _ => id) rfl,
      sound.works.advance rfl hPromotion.symm rfl, ?_⟩
    · intro id hId
      rw [hStored]
      exact .inl hId
    by_cases hRun : submission.promotion.shadowRunId = shadowRunId
    · have hWorks : (system.submits submit).WorksOn shadowRunId := ⟨_, hPromotion, hRun⟩
      have hNone : system.acceptedFrom shadowRunId = [] := by
        rcases sound.once with hNone | ⟨-, ⟨other, hAcknowledged⟩ | ⟨hIdle, -⟩⟩
        · exact hNone
        · rw [sound.works.alone other submit hAcknowledged.worksOn hWorks] at hAcknowledged
          exact absurd hAcknowledged hUnsettled
        · exact absurd hWorks (hIdle submit)
      cases outcome with
      | accepted ack =>
        refine .inr ⟨?_, .inl ⟨submit, scope, submission, ack, ?_, hRun⟩⟩
        · rw [acceptedFrom, map_eq_nil_iff] at hNone
          simp [acceptedFrom, ExchangeOutcome.accepts, filter_append, hNone, hRun]
        · simp [setPhase]
      | acceptedUnanswered detail => exact absurd rfl (hApart hWorks detail)
      | rejected err => exact .inl hNone
    · refine sound.once.advance rfl hPromotion.symm hUnsettled ?_ rfl
      unfold acceptedFrom
      simp only
      split
      · simp [filter_append, hRun]
      · rfl
  · exact sound

/-- The update that follows an accepted order marks the shadow run. -/
theorem PromotionsSound.settlePromotion {written : Bool}
    (hApart : SubmitsApart shadowRunId system (.settlePromotion submit written)) :
    PromotionsSound shadowRunId (promotionStep service system
      (.settlePromotion submit written)) := by
  simp only [promotionStep]
  split
  · rename_i scope submission outcome hAnswered
    have hPromotion : (system.submits submit).promotion? = some submission.promotion := by
      rw [hAnswered]
      rfl
    have hOrderId : (system.submits submit).orderId? = some scope.newId := by
      rw [hAnswered]
      rfl
    have hUpdates := updates_settlePromotion system.desk.promotions (answeredScope scope outcome)
      submission written
    refine ⟨sound.orderIds.finish rfl rfl rfl (fun _ hOrder => hOrder.acknowledged _ submission)
      fun row hRow orderId hId => (hUpdates.orderIds row hRow orderId hId).imp id fun hOwn =>
        hOrderId.trans hOwn, sound.works.finish rfl rfl hPromotion hUpdates, ?_⟩
    by_cases hAcknowledged : (system.submits submit).Acknowledged shadowRunId
    · obtain rfl := hApart hAcknowledged
      rcases sound.once with hNone | ⟨hOne, -⟩
      · exact .inl hNone
      refine .inr ⟨hOne, .inr ⟨?_, ?_⟩⟩
      · rintro other ⟨held, hWorks, hRun⟩
        simp only [setPhase, setPromotions, setExchange, Function.update_apply] at hWorks
        split at hWorks
        · cases hWorks
        · rename_i hOther
          exact hOther (sound.works.alone other submit ⟨held, hWorks, hRun⟩ hAcknowledged.worksOn)
      · obtain ⟨_, _, ack, hPhase, hRun⟩ := hAcknowledged
        rw [hAnswered] at hPhase
        cases hPhase
        obtain ⟨hFind, hPreviewed⟩ :=
          sound.works.unchanged submit submission.promotion hPromotion hRun
        obtain ⟨next, submitted, hSettle, hMember, hSameRun, hStatus⟩ :=
          settlePromotion_submitted (answeredScope_accepted scope ack) hFind
            hPreviewed (sound.orderIds.pendingFresh submit scope.newId hOrderId)
        refine ⟨submitted, ?_, hSameRun.trans hRun, hStatus⟩
        simp only [setPhase, setPromotions, ifWritten, hSettle, if_true, getD_some]
        exact hMember
    · exact sound.once.finish sound.works rfl rfl hPromotion hUpdates hAcknowledged rfl
  · exact sound

theorem PromotionsSound.step (step : PromotionStep) (hApart : SubmitsApart shadowRunId system step)
    :
    PromotionsSound shadowRunId (promotionStep service system step) := by
  cases step with
  | checkPreview preview scope strategyConfig request =>
    exact sound.checkPreview preview scope strategyConfig request
  | insertPreview preview => exact sound.insertPreview preview
  | readPromotion submit scope promotionId request => exact sound.readPromotion hApart
  | checkPromotion submit written => exact sound.checkPromotion submit written
  | persistOrder submit => exact sound.persistOrder submit
  | submitOrder submit outcome => exact sound.submitOrder hApart
  | settlePromotion submit written => exact sound.settlePromotion hApart

end

end Steps

/-- Whatever the order of the steps, the exchange accepts at most one order of
a shadow run if its submits stay apart, its accepted orders are answered and
the updates that follow them are carried out. -/
theorem at_most_one_order_per_shadow_run (service : Service) (desk : Desk) (shadowRunId : Uuid)
    (steps : List PromotionStep) (hPromotions : desk.promotions.rows = [])
    (hApart : Along (promotionStep service) (SubmitsApart shadowRunId) (.start desk) steps) :
    Throughout (promotionStep service)
      (fun system => (system.acceptedFrom shadowRunId).length ≤ 1) (.start desk) steps := by
  refine throughout_of_along (I := PromotionsSound shadowRunId)
    (fun _ step sound hStep => sound.step step hStep) ?_ (.start hPromotions) hApart
  intro system sound
  rcases sound.once with hNone | ⟨hOne, -⟩
  · simp [hNone]
  · exact hOne.le

def shadowRun : TestnetShadowRunRecord where
  id := ⟨50⟩
  strategyId := "momentum_v1"
  symbol := "BTCUSDT"
  timeframe := "1m"
  decision := "WOULD_SUBMIT"
  signalId := some ⟨11⟩
  riskDecisionId := some ⟨12⟩
  wouldSubmitPayload := some {
    exchange := .binance
    environment := .testnet
    symbol := btcusdt
    side := .buy
    orderType := .market
    timeInForce := none
    quantity := none
    quoteNotional := some 1000
    limitPrice := none
    riskDecisionId := some ⟨12⟩ }
  priceSource := none
  resolvedPrice := some 125
  reasons := []
  status := "COMPLETED"
  evaluatedCandleOpenTime := none
  createdAt := DateTime.seconds 180
  correlationId := none

def shadowDesk : Desk where
  db := afterApproval.db
  exchange := ⟨.empty, [], []⟩
  shadowRuns := ⟨[shadowRun], nodup_singleton _⟩
  promotions := .empty
  sent := []

def promotionScope (number : Nat) : RequestScope where
  actorId := none
  correlationId := ⟨BitVec.ofNat 128 number⟩
  now := DateTime.seconds 190
  newId := ⟨BitVec.ofNat 128 (number + 1)⟩
  latestTick := fun _ => some ⟨125, DateTime.seconds 190⟩
  latestCandle := fun _ => none
  answer := .error .rateLimited

def previewSteps (preview number : Nat) : List PromotionStep :=
  [.checkPreview preview (promotionScope number) (fun _ => .ok (momentumCall btcusdt 10).config)
    ⟨⟨50⟩, none⟩, .insertPreview preview]

def confirmation : TestnetShadowPromotionSubmitRequest := ⟨"PROMOTE TESTNET BTCUSDT", none⟩

def acceptedOutcome : ExchangeOutcome := .accepted ⟨"", none, .new, .null⟩

section
variable (service : Service) (system : PromotionSystem) (preview : Nat)

theorem submits_checkPreview (scope : RequestScope)
    (strategyConfig : StrategyId → Except Fault StrategyConfig)
    (request : TestnetShadowPromotionRequest) :
    (promotionStep service system (.checkPreview preview scope strategyConfig request)).submits =
      system.submits := by
  simp only [promotionStep]
  split
  · rfl
  · rfl

theorem submits_insertPreview :
    (promotionStep service system (.insertPreview preview)).submits = system.submits := by
  simp only [promotionStep]
  split
  · rfl
  · rfl

end

def singleSubmit : List PromotionStep :=
  previewSteps 0 60 ++ submitSteps 0 (promotionScope 70) ⟨61⟩ confirmation acceptedOutcome

/-- One preview and one submit, from beginning to end. -/
theorem one_order_of_single_submit : Throughout (promotionStep sampleService)
        (fun system => (system.acceptedFrom ⟨50⟩).length ≤ 1) (.start shadowDesk) singleSubmit ∧
      ((run (promotionStep sampleService) (.start shadowDesk) singleSubmit).acceptedFrom
        ⟨50⟩).length = 1 := by
  refine ⟨at_most_one_order_per_shadow_run sampleService shadowDesk ⟨50⟩ singleSubmit rfl ?_,
    by decide +kernel⟩
  refine ⟨trivial, trivial, ?_, trivial, trivial, ?_, fun _ => rfl, trivial⟩
  · intro promotion _ _ _ other
    rw [submits_insertPreview, submits_checkPreview]
    exact SubmitPhase.not_worksOn_of_none rfl
  · rintro - detail ⟨⟩

def readsOverlap : List PromotionStep :=
  previewSteps 0 60 ++
  [.readPromotion 0 (promotionScope 70) ⟨61⟩ confirmation,
    .readPromotion 1 (promotionScope 80) ⟨61⟩ confirmation,
    .checkPromotion 0 true, .persistOrder 0, .submitOrder 0 acceptedOutcome,
    .settlePromotion 0 true,
    .checkPromotion 1 true, .persistOrder 1, .submitOrder 1 acceptedOutcome]

def answerLost : List PromotionStep :=
  previewSteps 0 60 ++
  submitSteps 0 (promotionScope 70) ⟨61⟩ confirmation (.acceptedUnanswered "timeout") ++
  previewSteps 1 80 ++ submitSteps 1 (promotionScope 90) ⟨81⟩ confirmation acceptedOutcome

def updateFails : List PromotionStep :=
  previewSteps 0 60 ++
  [.readPromotion 0 (promotionScope 70) ⟨61⟩ confirmation, .checkPromotion 0 true,
    .persistOrder 0, .submitOrder 0 acceptedOutcome, .settlePromotion 0 false] ++
  submitSteps 1 (promotionScope 80) ⟨61⟩ confirmation acceptedOutcome

/-- Two submits that read the preview before either updates it, a lost answer
followed by another preview, and a failed update: the exchange accepts two
orders of one shadow run each time. -/
theorem second_order_accepted :
    ((run (promotionStep sampleService) (.start shadowDesk) readsOverlap).acceptedFrom ⟨50⟩).length =
        2 ∧
      ((run (promotionStep sampleService) (.start shadowDesk) answerLost).acceptedFrom ⟨50⟩).length =
        2 ∧
      ((run (promotionStep sampleService) (.start shadowDesk) updateFails).acceptedFrom ⟨50⟩).length =
        2 := by
  refine ⟨?_, ?_, ?_⟩
  · decide +kernel
  · decide +kernel
  · decide +kernel

end AegisQuant.Testnet
