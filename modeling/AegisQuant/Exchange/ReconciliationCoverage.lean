import AegisQuant.Exchange.Agreement

/-! Which orders a sequence of reconciliation passes checks. A pass takes the
orders updated last and updates them again, so the passes after it take the same
ones, and an order that the first pass leaves out is never reached. -/
namespace AegisQuant.Exchange
open Transition List Option

def inFilter (statusFilter : List String) (order : ExchangeTestnetOrderRecord) : Bool :=
  statusFilter.isEmpty || order.status ∈ statusFilter

/-- The stored orders whose status is in the filter. -/
def matching (statusFilter : List String) (orders : OrderTable) : List ExchangeTestnetOrderRecord :=
  orders.rows.filter (inFilter statusFilter)

/-- Some pass of the sequence has taken the order. -/
def Checked (clientOrderId : String) : ExchangeTables → List ReconciliationCall → Prop
  | _, [] => False
  | tables, call :: rest =>
    clientOrderId ∈ (call.selected tables).map (·.clientOrderId) ∨
      Checked clientOrderId (reconcile tables call) rest

/-- A pass after every write before it, whose answers let it end and keep the
orders in the filter. -/
structure KeepsInFilter (limit : Nat) (statusFilter : List String) (tables : ExchangeTables)
    (call : ReconciliationCall) : Prop where
  valid : call.request.validate = .ok ()
  sameLimit : call.request.limit = limit
  sameFilter : call.request.statusFilter = statusFilter
  later : ∀ row ∈ tables.orders.rows, row.updatedAt < call.now
  answered : (call.pass.loop (.start tables) (call.selected tables)).2 = none
  keeps : ∀ clientOrderId row written, tables.orders.find? clientOrderId = some row →
    inFilter statusFilter row → (reconcile tables call).orders.find? clientOrderId = some written →
      inFilter statusFilter written

/-- As many other orders as a pass takes have been updated after this one. -/
structure Starved (limit : Nat) (statusFilter : List String) (order : ExchangeTestnetOrderRecord)
    (tables : ExchangeTables) : Prop where
  stored : tables.orders.find? order.clientOrderId = some order
  crowded : ∃ newer : List String, newer.Nodup ∧ newer.length = limit ∧
    ∀ clientOrderId ∈ newer, ∃ row, tables.orders.find? clientOrderId = some row ∧
      inFilter statusFilter row ∧ order.updatedAt < row.updatedAt

section Passes
variable {tables : ExchangeTables} {limit : Nat} {statusFilter : List String}
  {order row : ExchangeTestnetOrderRecord} {call : ReconciliationCall} {calls : List ReconciliationCall}
  {pass : ReconciliationPass} {clientOrderId : String}

theorem recordStatus_updatedAt (exchangeStatus : ExchangeOrderStatus)
    (hFind : tables.orders.find? order.clientOrderId = some row) :
    ∃ written, (pass.recordStatus tables order exchangeStatus).orders.find? order.clientOrderId =
      some written ∧ written.updatedAt = pass.origin.now := by
  unfold ReconciliationPass.recordStatus
  dsimp only
  split
  · rename_i transition _
    exact ⟨_, find?_append_self (acceptedEvent pass.origin order transition) _ hFind, rfl⟩
  · exact ⟨_, find?_append_self (refusedEvent pass.origin order _ _ _) _ hFind, rfl⟩

theorem loop_updatedAt (orders : List ExchangeTestnetOrderRecord)
    (progress : ReconciliationProgress)
    (hFind : progress.tables.orders.find? clientOrderId = some row) :
    ∃ written, (pass.loop progress orders).1.tables.orders.find? clientOrderId = some written ∧
      (written = row ∨ written.updatedAt = pass.origin.now) := by
  induction orders generalizing progress row with
  | nil => exact ⟨row, hFind, .inl rfl⟩
  | cons order rest ih =>
    unfold ReconciliationPass.loop
    split
    · rename_i exchangeStatus _
      by_cases hOwn : order.clientOrderId = clientOrderId
      · subst hOwn
        obtain ⟨written, hWritten, hTime⟩ := recordStatus_updatedAt exchangeStatus hFind
        rw [← orders_reconciled] at hWritten
        obtain ⟨last, hLast, hSame | hLater⟩ := ih _ hWritten
        · exact ⟨last, hLast, .inr (hSame ▸ hTime)⟩
        · exact ⟨last, hLast, .inr hLater⟩
      · refine ih _ ?_
        rw [orders_reconciled, find?_recordStatus_of_ne hOwn, hFind]
    · split
      · exact ih _ hFind
      · exact ⟨row, hFind, .inl rfl⟩

theorem reconcile_updatedAt (call : ReconciliationCall)
    (hFind : tables.orders.find? clientOrderId = some row) :
    ∃ written, (reconcile tables call).orders.find? clientOrderId = some written ∧
      (written = row ∨ written.updatedAt = call.now) := by
  rcases reconcile_cases tables call with hSame | hPass
  · exact ⟨row, (congrArg (·.orders.find? clientOrderId) hSame).trans hFind, .inl rfl⟩
  · rw [hPass]
    exact loop_updatedAt _ _ hFind

theorem reconcile_of_absent
    (hAbsent : clientOrderId ∉ (call.selected tables).map (·.clientOrderId)) :
    (reconcile tables call).orders.find? clientOrderId = tables.orders.find? clientOrderId := by
  rcases reconcile_cases tables call with hSame | hPass
  · rw [hSame]
  · rw [hPass, find?_loop_of_absent call.pass]
    · rfl
    · intro order hOrder hOwn
      exact hAbsent (mem_map.mpr ⟨order, hOrder, hOwn⟩)

theorem selected_eq (hCall : KeepsInFilter limit statusFilter tables call) :
    call.selected tables = (call.order.arrange (matching statusFilter tables.orders)).take limit := by
  rw [ReconciliationCall.selected, listExchangeTestnetOrdersForReconciliation, hCall.sameLimit,
    hCall.sameFilter, Int.toNat_natCast]
  rfl

theorem Starved.not_selected (starved : Starved limit statusFilter order tables)
    (hCall : KeepsInFilter limit statusFilter tables call) :
    order.clientOrderId ∉ (call.selected tables).map (·.clientOrderId) := by
  intro hSelected
  obtain ⟨row, hRow, hOwn⟩ := mem_map.mp hSelected
  have hSame : row = order := by
    have hFind := Table.find?_of_mem (mem_of_mem_selected hRow)
    rw [hOwn, starved.stored] at hFind
    exact (some.inj hFind).symm
  subst hSame
  rw [selected_eq hCall] at hRow
  obtain ⟨earlier, others, hTaken⟩ := append_of_mem hRow
  have hSplit : call.order.arrange (matching statusFilter tables.orders) = earlier ++ row ::
      (others ++ (call.order.arrange (matching statusFilter tables.orders)).drop limit) := by
    conv_lhs => rw [← take_append_drop limit (call.order.arrange _), hTaken]
    simp
  have hSorted := call.order.sorted (matching statusFilter tables.orders)
  rw [hSplit] at hSorted
  have hAfter := (pairwise_cons.mp (pairwise_append.mp hSorted).2.1).1
  obtain ⟨newer, hNodup, hCount, hNewer⟩ := starved.crowded
  have hEarlier : newer ⊆ earlier.map (·.clientOrderId) := by
    intro clientOrderId hId
    obtain ⟨other, hFind, hFilter, hTime⟩ := hNewer clientOrderId hId
    obtain ⟨hMem, rfl⟩ := Table.find?_eq_some.mp hFind
    have hArranged : other ∈ call.order.arrange (matching statusFilter tables.orders) :=
      call.order.mem_arrange.mpr (mem_filter.mpr ⟨hMem, hFilter⟩)
    rw [hSplit] at hArranged
    rcases mem_append.mp hArranged with hBefore | hBehind
    · exact mem_map_of_mem hBefore
    · rcases mem_cons.mp hBehind with rfl | hBehind
      · exact absurd hTime (lt_irrefl _)
      · exact absurd (hAfter other hBehind) (not_le.mpr hTime)
  have hFits := (subperm_of_subset hNodup hEarlier).length_le
  have hTake := congrArg length hTaken
  simp only [length_take, length_append, length_cons, length_map] at hTake hFits
  omega

theorem Starved.step (starved : Starved limit statusFilter order tables)
    (hCall : KeepsInFilter limit statusFilter tables call) :
    Starved limit statusFilter order (reconcile tables call) where
  stored := (reconcile_of_absent (starved.not_selected hCall)).trans starved.stored
  crowded := by
    obtain ⟨newer, hNodup, hCount, hNewer⟩ := starved.crowded
    refine ⟨newer, hNodup, hCount, fun clientOrderId hId => ?_⟩
    obtain ⟨row, hFind, hFilter, hTime⟩ := hNewer clientOrderId hId
    obtain ⟨written, hWritten, hWhen⟩ := reconcile_updatedAt call hFind
    refine ⟨written, hWritten, hCall.keeps _ _ _ hFind hFilter hWritten, ?_⟩
    rcases hWhen with rfl | hNow
    · exact hTime
    · rw [hNow]
      exact hCall.later order (Table.find?_eq_some.mp starved.stored).1

theorem Starved.not_checked (starved : Starved limit statusFilter order tables)
    (hCalls : Along reconcile (KeepsInFilter limit statusFilter) tables calls) :
    ¬Checked order.clientOrderId tables calls := by
  induction calls generalizing tables with
  | nil => exact id
  | cons call rest ih =>
    rintro (hSelected | hLater)
    · exact starved.not_selected hCalls.1 hSelected
    · exact ih (starved.step hCalls.1) hCalls.2 hLater

theorem exists_starved (hMany : limit < (matching statusFilter tables.orders).length)
    (hDistinct : ((matching statusFilter tables.orders).map (·.updatedAt)).Nodup) :
    ∃ order ∈ matching statusFilter tables.orders, Starved limit statusFilter order tables := by
  let arranged := (RowOrder.stable newestFirst).arrange (matching statusFilter tables.orders)
  have hPerm : arranged.Perm (matching statusFilter tables.orders) := RowOrder.perm _ _
  have hStored : ∀ row ∈ arranged, tables.orders.find? row.clientOrderId = some row ∧
      inFilter statusFilter row := by
    intro row hRow
    obtain ⟨hMem, hFilter⟩ := mem_filter.mp (hPerm.mem_iff.mp hRow)
    exact ⟨Table.find?_of_mem hMem, hFilter⟩
  obtain ⟨order, behind, hDrop⟩ : ∃ order behind, arranged.drop limit = order :: behind := by
    apply exists_cons_of_length_pos
    rw [length_drop, hPerm.length_eq]
    omega
  have hSplit : arranged.take limit ++ order :: behind = arranged := by
    rw [← hDrop, take_append_drop]
  have hOrder : order ∈ arranged := by rw [← hSplit]; simp
  have hTimes : (arranged.map (·.updatedAt)).Nodup := (hPerm.map _).nodup_iff.mpr hDistinct
  have hIds : (arranged.map (·.clientOrderId)).Nodup :=
    (hPerm.map _).nodup_iff.mpr (Nodup.sublist (filter_sublist.map _) tables.orders.unique)
  have hSorted : arranged.Pairwise newestFirst := RowOrder.sorted _ _
  refine ⟨order, hPerm.mem_iff.mp hOrder, (hStored order hOrder).1,
    (arranged.take limit).map (·.clientOrderId), ?_, ?_, ?_⟩
  · exact Nodup.sublist ((take_sublist _ _).map _) hIds
  · rw [length_map, length_take, hPerm.length_eq]
    omega
  · intro clientOrderId hId
    obtain ⟨row, hRow, rfl⟩ := mem_map.mp hId
    have hFound := hStored row (mem_of_mem_take hRow)
    rw [← hSplit] at hSorted hTimes
    have hBefore := (pairwise_append.mp hSorted).2.2 row hRow order mem_cons_self
    rw [map_append] at hTimes
    have hApart := (nodup_append.mp hTimes).2.2 _ (mem_map_of_mem hRow) order.updatedAt (by simp)
    exact ⟨row, hFound.1, hFound.2, lt_of_le_of_ne hBefore (Ne.symm hApart)⟩

theorem selected_of_few (hFew : (matching statusFilter tables.orders).length ≤ limit)
    (hCall : KeepsInFilter limit statusFilter tables call)
    (hOrder : order ∈ matching statusFilter tables.orders) :
    order.clientOrderId ∈ (call.selected tables).map (·.clientOrderId) := by
  rw [selected_eq hCall, take_of_length_le ((call.order.perm _).length_eq.trans_le hFew)]
  exact mem_map_of_mem (call.order.mem_arrange.mpr hOrder)

end Passes

/-- Passes that the time and the answers do not disturb, as many as the orders
would fill, check every order in the filter if and only if one pass takes them
all. Writes of one pass share its time; rows of one time come in any order. -/
theorem passes_check_all_iff (tables : ExchangeTables) (limit : Nat) (statusFilter : List String)
    (calls : List ReconciliationCall) (hLimit : 1 ≤ limit)
    (hDistinct : ((matching statusFilter tables.orders).map (·.updatedAt)).Nodup)
    (hLength : calls.length = ((matching statusFilter tables.orders).length + limit - 1) / limit)
    (hCalls : Along reconcile (KeepsInFilter limit statusFilter) tables calls) :
    (∀ order ∈ matching statusFilter tables.orders, Checked order.clientOrderId tables calls) ↔
      (matching statusFilter tables.orders).length ≤ limit := by
  constructor
  · intro hAll
    by_contra hMany
    obtain ⟨order, hOrder, starved⟩ := exists_starved (not_le.mp hMany) hDistinct
    exact starved.not_checked hCalls (hAll order hOrder)
  · intro hFew order hOrder
    cases calls with
    | nil =>
      have hSome : 0 < (matching statusFilter tables.orders).length := length_pos_of_mem hOrder
      have hPass : 0 < ((matching statusFilter tables.orders).length + limit - 1) / limit :=
        Nat.div_pos (by omega) hLimit
      rw [← hLength] at hPass
      exact absurd hPass (lt_irrefl 0)
    | cons call rest => exact .inl (selected_of_few hFew hCalls.1 hOrder)

/-- A pass at a time that takes one order of any status and finds it new. -/
def oneOrderPass (now : DateTime) : ReconciliationCall where
  now := now
  freshIds := (⟨2⟩, ⟨3⟩)
  actorId := none
  order := RowOrder.stable newestFirst
  request := { sampleRequest with statusFilter := [], limit := 1 }
  adapter := sampleAnswer .new

theorem oneOrderPass_keeps {tables : ExchangeTables} {now : DateTime}
    (hLater : ∀ row ∈ tables.orders.rows, row.updatedAt < now) :
    KeepsInFilter 1 [] tables (oneOrderPass now) where
  valid := rfl
  sameLimit := rfl
  sameFilter := rfl
  later := hLater
  answered := by
    have hAnswered (progress : ReconciliationProgress) (orders : List ExchangeTestnetOrderRecord) :
        ((oneOrderPass now).pass.loop progress orders).2 = none := by
      induction orders generalizing progress with
      | nil => rfl
      | cons order rest ih => exact ih _
    exact hAnswered _ _
  keeps := fun _ _ _ _ _ _ => rfl

theorem passes_check_all_sample : Checked "aegis-testnet-1" (sampleTables .new) [oneOrderPass 1] :=
  (passes_check_all_iff (sampleTables .new) 1 [] [oneOrderPass 1] (by decide) (by decide) rfl
    ⟨oneOrderPass_keeps (by decide), trivial⟩).mpr (by decide) (sampleOrder .new) mem_cons_self

/-- A second order that was updated later. -/
def twoOrders : ExchangeTables where
  orders := ⟨[sampleOrder .new, { sampleOrder .new with
    clientOrderId := "aegis-testnet-2", updatedAt := 1 }], by decide⟩
  lifecycleEvents := []
  mismatches := []

/-- Two passes that take one of two orders both take the one updated last. -/
theorem older_order_never_checked : ((matching [] twoOrders.orders).map (·.updatedAt)).Nodup ∧
      Along reconcile (KeepsInFilter 1 []) twoOrders [oneOrderPass 2, oneOrderPass 3] ∧
      sampleOrder .new ∈ matching [] twoOrders.orders ∧
      ¬Checked "aegis-testnet-1" twoOrders [oneOrderPass 2, oneOrderPass 3] := by
  have hCalls : Along reconcile (KeepsInFilter 1 []) twoOrders [oneOrderPass 2, oneOrderPass 3] :=
    ⟨oneOrderPass_keeps (by decide), oneOrderPass_keeps (by decide +kernel), trivial⟩
  have hStarved : Starved 1 [] (sampleOrder .new) twoOrders :=
    ⟨rfl, ["aegis-testnet-2"], by decide, rfl, by
      intro clientOrderId hId
      cases mem_singleton.mp hId
      exact ⟨_, rfl, rfl, by decide⟩⟩
  exact ⟨by decide, hCalls, mem_cons_self, hStarved.not_checked hCalls⟩

end AegisQuant.Exchange
