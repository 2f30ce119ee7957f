import AegisQuant.Exchange.Agreement

/-! The run record of a reconciliation pass. It is inserted as running with
empty counts, and completed or failed with the counts of the loop. These
counts are those of the verdicts on the processed orders, at every point of
the loop, and each mismatch counted has a row of the run. -/
namespace AegisQuant.Exchange
open ReconciliationPass

inductive ExchangeReconciliationStatus where
  | running
  | completed
  | failed
  deriving DecidableEq, Repr

def ExchangeReconciliationStatus.asStr : ExchangeReconciliationStatus → String
  | .running => "RUNNING"
  | .completed => "COMPLETED"
  | .failed => "FAILED"

/-- A row of `exchange_reconciliation_runs`. -/
structure ExchangeReconciliationRunRecord where
  id : Uuid
  exchange : String
  environment : String
  status : String
  checkedOrders : Nat
  matchedOrders : Nat
  mismatchedOrders : Nat
  unknownOrders : Nat
  failedReason : Option String
  correlationId : Uuid
  startedAt : DateTime
  completedAt : Option DateTime

abbrev RunTable := Table ExchangeReconciliationRunRecord.id

structure ReconciliationStore where
  tables : ExchangeTables
  runs : RunTable

namespace ExchangeReconciliationRunRecord

def counts (record : ExchangeReconciliationRunRecord) : ExchangeReconciliationSummary :=
  ⟨record.checkedOrders, record.matchedOrders, record.mismatchedOrders, record.unknownOrders⟩

def started (id : Uuid) (request : ExchangeReconciliationRequest) (correlationId : Uuid)
    (startedAt : DateTime) : ExchangeReconciliationRunRecord where
  id := id
  exchange := request.exchange.asStr
  environment := request.environment.asStr
  status := ExchangeReconciliationStatus.running.asStr
  checkedOrders := 0
  matchedOrders := 0
  mismatchedOrders := 0
  unknownOrders := 0
  failedReason := none
  correlationId := correlationId
  startedAt := startedAt
  completedAt := none

/-- The record with the outcome of its run; a completed run has no reason. -/
def ended (status : ExchangeReconciliationStatus) (summary : ExchangeReconciliationSummary)
    (failedReason : Option String) (completedAt : DateTime)
    (record : ExchangeReconciliationRunRecord) : ExchangeReconciliationRunRecord :=
  { record with
    status := status.asStr
    checkedOrders := summary.checkedOrders
    matchedOrders := summary.matchedOrders
    mismatchedOrders := summary.mismatchedOrders
    unknownOrders := summary.unknownOrders
    failedReason := failedReason
    completedAt := some completedAt }

theorem ended_id (status : ExchangeReconciliationStatus) (summary : ExchangeReconciliationSummary)
    (failedReason : Option String) (completedAt : DateTime)
    (record : ExchangeReconciliationRunRecord) :
    (ended status summary failedReason completedAt record).id = record.id := rfl

end ExchangeReconciliationRunRecord

open ExchangeReconciliationRunRecord

def completeExchangeReconciliationRun (runs : RunTable) (runId : Uuid)
    (summary : ExchangeReconciliationSummary) (now : DateTime) : RunTable :=
  runs.modify runId (ended .completed summary none now)
    (ended_id .completed summary none now)

def failExchangeReconciliationRun (runs : RunTable) (runId : Uuid)
    (summary : ExchangeReconciliationSummary) (failedReason : String) (now : DateTime) : RunTable :=
  runs.modify runId (ended .failed summary (some failedReason) now)
    (ended_id .failed summary (some failedReason) now)

/-- The part of `reconcile_testnet_orders` from the insertion of the run
record on, over the orders selected. The id of the run is a fresh one. If the
row is gone when the run ends, the record is made up from what is known. -/
def ReconciliationPass.reconcileOrders (pass : ReconciliationPass) (store : ReconciliationStore)
    (hFresh : store.runs.find? pass.runId = none) (request : ExchangeReconciliationRequest)
    (correlationId : Uuid) (orders : List ExchangeTestnetOrderRecord) :
    ReconciliationStore ×
      Except ReconcileTestnetOrdersError ExchangeReconciliationRunRecord :=
  let now := pass.origin.now
  let runRecord := started pass.runId request correlationId now
  let runs := store.runs.insert runRecord hFresh
  match pass.loop (.start store.tables) orders with
  | (progress, none) =>
    let runs := completeExchangeReconciliationRun runs pass.runId progress.summary now
    let completedRecord := (runs.find? pass.runId).getD
      (ended .completed progress.summary none now runRecord)
    (⟨progress.tables, runs⟩, .ok completedRecord)
  | (progress, some reason) =>
    let runs := failExchangeReconciliationRun runs pass.runId progress.summary reason now
    let failedRecord := (runs.find? pass.runId).getD
      (ended .failed progress.summary (some reason) now runRecord)
    (⟨progress.tables, runs⟩, .error (.failed failedRecord.id correlationId reason))

/-- What the exchange says about an order. -/
inductive OrderVerdict where
  | matched
  | mismatched (kind : ExchangeReconciliationMismatchKind)
  | fatal (reason : String)
  deriving DecidableEq

namespace OrderVerdict
open List

def fatalReason : OrderVerdict → Option String
  | .fatal reason => some reason
  | _ => none

def isMismatch : OrderVerdict → Bool
  | .mismatched _ => true
  | _ => false

def isUnknown : OrderVerdict → Bool
  | .mismatched kind => kind = .exchangeOrderMissing ∨ kind = .unknownExchangeState
  | _ => false

/-- The counts of the orders with these verdicts. -/
def tally (verdicts : List OrderVerdict) : ExchangeReconciliationSummary where
  checkedOrders := verdicts.length
  matchedOrders := verdicts.countP (· = .matched)
  mismatchedOrders := verdicts.countP isMismatch
  unknownOrders := verdicts.countP isUnknown

theorem unknown_le_mismatched (verdicts : List OrderVerdict) :
    (tally verdicts).unknownOrders ≤ (tally verdicts).mismatchedOrders := by
  apply countP_mono_left
  intro verdict _ hUnknown
  cases verdict with
  | mismatched kind => rfl
  | matched => cases hUnknown
  | fatal reason => cases hUnknown

theorem checked_eq_add {verdicts : List OrderVerdict}
    (hNone : ∀ verdict ∈ verdicts, verdict.fatalReason = none) :
    (tally verdicts).checkedOrders =
      (tally verdicts).matchedOrders + (tally verdicts).mismatchedOrders := by
  show verdicts.length = verdicts.countP (· = .matched) + verdicts.countP isMismatch
  rw [length_eq_countP_add_countP (· = .matched)]
  congr 1
  apply countP_congr
  intro verdict hVerdict
  have hFatal := hNone verdict hVerdict
  cases verdict with
  | matched => simp [isMismatch]
  | mismatched kind => simp [isMismatch]
  | fatal reason => cases hFatal

end OrderVerdict

open OrderVerdict

def ReconciliationPass.verdict (pass : ReconciliationPass) (order : ExchangeTestnetOrderRecord) :
    OrderVerdict :=
  match pass.adapter order.clientOrderId with
  | .ok status => match (evaluateOrderReconciliation order status).mismatch with
    | none => .matched
    | some (kind, _, _) => .mismatched kind
  | .error err =>
    if isExchangeOrderMissing err then .mismatched .exchangeOrderMissing
    else .fatal ("failed to fetch testnet order status: " ++ err.toString)

/-- The verdicts on the orders before the first fatal answer. -/
def ReconciliationPass.processed (pass : ReconciliationPass)
    (orders : List ExchangeTestnetOrderRecord) : List OrderVerdict :=
  (orders.map pass.verdict).takeWhile fun verdict => verdict.fatalReason.isNone

def ReconciliationPass.fatalAnswer (pass : ReconciliationPass)
    (orders : List ExchangeTestnetOrderRecord) : Option String :=
  orders.findSome? fun order => (pass.verdict order).fatalReason

/-- The counts of a pass that started with `before` as the mismatch table:
they add up, and every mismatch counted has its row. -/
structure AddsUp (pass : ReconciliationPass) (before : List ExchangeReconciliationMismatch)
    (progress : ReconciliationProgress) : Prop where
  checked : progress.summary.checkedOrders =
    progress.summary.matchedOrders + progress.summary.mismatchedOrders
  unknown : progress.summary.unknownOrders ≤ progress.summary.mismatchedOrders
  rows : ∃ inserted, progress.tables.mismatches = before ++ inserted ∧
    inserted.length = progress.summary.mismatchedOrders ∧
    ∀ row ∈ inserted, row.runId = pass.runId

section Loop
variable {pass : ReconciliationPass} {order : ExchangeTestnetOrderRecord}
  {before : List ExchangeReconciliationMismatch} {done : List OrderVerdict}
variable {progress : ReconciliationProgress}

/-- The progress of a pass after orders with the verdicts `done`. -/
structure Counted (pass : ReconciliationPass) (before : List ExchangeReconciliationMismatch)
    (done : List OrderVerdict) (progress : ReconciliationProgress) : Prop where
  summary : progress.summary = tally done
  rows : ∃ inserted, progress.tables.mismatches = before ++ inserted ∧
    inserted.length = (tally done).mismatchedOrders ∧ ∀ row ∈ inserted, row.runId = pass.runId

theorem counted_start (pass : ReconciliationPass) (tables : ExchangeTables) :
    Counted pass tables.mismatches [] (.start tables) where
  summary := rfl
  rows := ⟨[], (List.append_nil _).symm, rfl, by simp⟩

theorem tally_matched (done : List OrderVerdict) : tally (done ++ [.matched]) =
      ⟨(tally done).checkedOrders + 1, (tally done).matchedOrders + 1,
        (tally done).mismatchedOrders, (tally done).unknownOrders⟩ := by
  simp [tally, isMismatch, isUnknown]

theorem tally_mismatched (done : List OrderVerdict) (kind : ExchangeReconciliationMismatchKind) :
    tally (done ++ [.mismatched kind]) =
      ⟨(tally done).checkedOrders + 1, (tally done).matchedOrders,
        (tally done).mismatchedOrders + 1, (tally done).unknownOrders +
          if kind = .exchangeOrderMissing ∨ kind = .unknownExchangeState then 1 else 0⟩ := by
  simp [tally, isMismatch, isUnknown]

theorem Counted.mismatched {next : ReconciliationProgress}
    (hCounted : Counted pass before done progress) {kind : ExchangeReconciliationMismatchKind}
    {row : ExchangeReconciliationMismatch} (hRow : row.runId = pass.runId)
    (hRows : next.tables.mismatches = progress.tables.mismatches ++ [row])
    (hSummary : next.summary = ⟨progress.summary.checkedOrders + 1, progress.summary.matchedOrders,
      progress.summary.mismatchedOrders + 1, progress.summary.unknownOrders +
      if kind = .exchangeOrderMissing ∨ kind = .unknownExchangeState then 1 else 0⟩) :
    Counted pass before (done ++ [.mismatched kind]) next where
  summary := by rw [hSummary, hCounted.summary, tally_mismatched]
  rows := by
    obtain ⟨inserted, hInserted, hLength, hAll⟩ := hCounted.rows
    refine ⟨inserted ++ [row], by rw [hRows, hInserted, List.append_assoc], ?_, ?_⟩
    · rw [List.length_append, hLength, tally_mismatched]
      rfl
    · simpa [hRow, or_imp, forall_and] using hAll

theorem loop_counted (hCounted : Counted pass before done progress)
    (hAnswered : (pass.verdict order).fatalReason = none) (rest : List ExchangeTestnetOrderRecord) :
    ∃ next, pass.loop progress (order :: rest) = pass.loop next rest ∧
      Counted pass before (done ++ [pass.verdict order]) next := by
  unfold verdict at hAnswered ⊢
  cases hAnswer : pass.adapter order.clientOrderId with
  | ok status =>
    refine ⟨pass.reconciled progress order status, loop_answered hAnswer, ?_⟩
    unfold reconciled
    dsimp only
    cases (evaluateOrderReconciliation order status).mismatch with
    | none =>
      exact {
        summary := by rw [tally_matched, hCounted.summary]
        rows := by
          rw [mismatches_recordStatus, tally_matched]
          exact hCounted.rows }
    | some found =>
      obtain ⟨kind, action, payload⟩ := found
      exact hCounted.mismatched rfl (by rw [mismatches_recordStatus]) rfl
  | error err =>
    rw [hAnswer] at hAnswered
    dsimp only at hAnswered ⊢
    by_cases hMissing : isExchangeOrderMissing err
    · refine ⟨pass.missing progress order err, ?_, ?_⟩
      · rw [loop, hAnswer]
        exact if_pos hMissing
      · rw [if_pos hMissing]
        exact hCounted.mismatched rfl rfl rfl
    · rw [if_neg hMissing] at hAnswered
      cases hAnswered

theorem loop_fatal {reason : String} (hFatal : (pass.verdict order).fatalReason = some reason)
    (progress : ReconciliationProgress) (rest : List ExchangeTestnetOrderRecord) :
    pass.loop progress (order :: rest) = (progress, some reason) := by
  unfold verdict at hFatal
  cases hAnswer : pass.adapter order.clientOrderId with
  | ok status =>
    rw [hAnswer] at hFatal
    dsimp only at hFatal
    split at hFatal
    · cases hFatal
    · cases hFatal
  | error err =>
    rw [hAnswer] at hFatal
    dsimp only at hFatal
    split at hFatal
    · cases hFatal
    · rename_i hMissing
      rw [loop, hAnswer]
      dsimp only
      rw [if_neg hMissing, Option.some.inj hFatal]

/-- The whole loop: it counts the orders before the first fatal answer and
stops with its reason. -/
theorem loop_tally (hCounted : Counted pass before done progress)
    (orders : List ExchangeTestnetOrderRecord) :
    Counted pass before (done ++ pass.processed orders) (pass.loop progress orders).1 ∧
      (pass.loop progress orders).2 = pass.fatalAnswer orders := by
  induction orders generalizing done progress with
  | nil => exact ⟨by simpa [processed, loop] using hCounted, rfl⟩
  | cons order rest ih =>
    cases hFatal : (pass.verdict order).fatalReason with
    | none =>
      obtain ⟨next, hLoop, hNext⟩ := loop_counted hCounted hFatal rest
      obtain ⟨hRest, hReason⟩ := ih hNext
      rw [hLoop]
      constructor
      · simpa [processed, hFatal] using hRest
      · simpa [fatalAnswer, hFatal] using hReason
    | some reason =>
      rw [loop_fatal hFatal]
      constructor
      · simpa [processed, hFatal] using hCounted
      · simp [fatalAnswer, hFatal]

theorem processed_not_fatal (orders : List ExchangeTestnetOrderRecord) :
    ∀ verdict ∈ pass.processed orders, verdict.fatalReason = none := by
  intro verdict hVerdict
  simpa using List.mem_takeWhile_imp hVerdict

theorem Counted.addsUp (hCounted : Counted pass before done progress)
    (hNone : ∀ verdict ∈ done, verdict.fatalReason = none) : AddsUp pass before progress where
  checked := by rw [hCounted.summary, checked_eq_add hNone]
  unknown := hCounted.summary ▸ unknown_le_mismatched done
  rows := hCounted.summary ▸ hCounted.rows

end Loop

section Runs
variable {pass : ReconciliationPass} {store : ReconciliationStore}
  {hFresh : store.runs.find? pass.runId = none} {request : ExchangeReconciliationRequest}
  {correlationId : Uuid} {orders : List ExchangeTestnetOrderRecord}

theorem find?_ended_run {runs : RunTable} (record : ExchangeReconciliationRunRecord)
    (hUnused : runs.find? record.id = none) (status : ExchangeReconciliationStatus)
    (summary : ExchangeReconciliationSummary) (reason : Option String) (now : DateTime) :
    ((runs.insert record hUnused).modify record.id (ended status summary reason now)
        (ended_id status summary reason now)).find? record.id = some (ended status summary reason now record) := by
  have hInserted : runs.insert? record = some (runs.insert record hUnused) := dif_pos hUnused
  rw [Table.find?_modify_self, Table.find?_insert?_self hInserted]
  rfl

/-- What a run leaves: the tables of its loop, and its record with the counts
of the loop, completed or failed. -/
theorem reconcileOrders_store :
    (pass.reconcileOrders store hFresh request correlationId orders).1.tables =
      (pass.loop (.start store.tables) orders).1.tables ∧
    (pass.reconcileOrders store hFresh request correlationId orders).1.runs.find? pass.runId =
      some (ended (if (pass.loop (.start store.tables) orders).2 = none then .completed else .failed)
        (pass.loop (.start store.tables) orders).1.summary
        (pass.loop (.start store.tables) orders).2 pass.origin.now
        (started pass.runId request correlationId pass.origin.now)) := by
  unfold reconcileOrders
  dsimp only
  rcases pass.loop (.start store.tables) orders with ⟨progress, reason⟩
  cases reason with
  | none =>
    exact ⟨rfl, find?_ended_run (started pass.runId request correlationId pass.origin.now) hFresh
      .completed progress.summary none pass.origin.now⟩
  | some reason =>
    exact ⟨rfl, find?_ended_run (started pass.runId request correlationId pass.origin.now) hFresh
      .failed progress.summary (some reason) pass.origin.now⟩

/-- For every list of orders and every answer of the exchange to each: after
any number of orders the counts of the loop add up, and the record of the run
carries those of the orders before the first fatal answer. -/
theorem reconciliation_run_adds_up (pass : ReconciliationPass) (store : ReconciliationStore)
    (hFresh : store.runs.find? pass.runId = none) (request : ExchangeReconciliationRequest)
    (correlationId : Uuid) (orders : List ExchangeTestnetOrderRecord) :
    (∀ done, done <+: orders →
      AddsUp pass store.tables.mismatches (pass.loop (.start store.tables) done).1) ∧
    ∃ record inserted,
      (pass.reconcileOrders store hFresh request correlationId orders).1.runs.find? pass.runId =
        some record ∧
      record.counts = tally (pass.processed orders) ∧
      record.failedReason = pass.fatalAnswer orders ∧
      record.status = (if pass.fatalAnswer orders = none then ExchangeReconciliationStatus.completed
          else .failed).asStr ∧
      (pass.reconcileOrders store hFresh request correlationId orders).1.tables.mismatches =
        store.tables.mismatches ++ inserted ∧
      inserted.length = record.mismatchedOrders ∧ ∀ row ∈ inserted, row.runId = pass.runId := by
  have hCounts (done : List ExchangeTestnetOrderRecord) :=
    loop_tally (counted_start pass store.tables) done
  constructor
  · intro done _
    exact (hCounts done).1.addsUp (by simpa using processed_not_fatal done)
  · obtain ⟨hCounted, hReason⟩ := hCounts orders
    rw [List.nil_append] at hCounted
    obtain ⟨hTables, hRecord⟩ :=
      @reconcileOrders_store pass store hFresh request correlationId orders
    obtain ⟨inserted, hInserted, hLength, hRows⟩ := hCounted.rows
    rw [hReason] at hRecord
    refine ⟨_, inserted, hRecord, hCounted.summary, rfl, rfl, hTables ▸ hInserted, ?_, hRows⟩
    rw [hLength, ← hCounted.summary]
    rfl

end Runs

/-- The exchange answers about the first order and cannot be reached for the
second. -/
def interruptedPass : ReconciliationPass where
  runId := ⟨2⟩
  origin := ⟨none, some ⟨3⟩, 1⟩
  adapter := fun clientOrderId =>
    if clientOrderId = "aegis-testnet-1" then sampleAnswer .filled clientOrderId
    else .error (.transport "connection reset")

def interruptedOrders : List ExchangeTestnetOrderRecord :=
  [sampleOrder .new, { sampleOrder .new with clientOrderId := "aegis-testnet-2" }]

theorem interruptedOrders_processed :
    interruptedPass.processed interruptedOrders = [.mismatched .statusMismatch] ∧
    interruptedPass.fatalAnswer interruptedOrders = some
      "failed to fetch testnet order status: exchange transport error: connection reset" := by
  decide +kernel

theorem reconciliation_run_adds_up_sample : ∃ record,
      (interruptedPass.reconcileOrders ⟨sampleTables .new, .empty⟩ rfl sampleRequest ⟨3⟩
        interruptedOrders).1.runs.find? ⟨2⟩ = some record ∧
      record.counts = ⟨1, 0, 1, 0⟩ ∧ record.status = "FAILED" := by
  obtain ⟨-, record, -, hRecord, hCounts, -, hStatus, -⟩ :=
    reconciliation_run_adds_up interruptedPass ⟨sampleTables .new, .empty⟩ rfl sampleRequest ⟨3⟩
      interruptedOrders
  rw [interruptedOrders_processed.1] at hCounts
  rw [interruptedOrders_processed.2] at hStatus
  exact ⟨record, hRecord, hCounts, hStatus⟩

end AegisQuant.Exchange
