import Mathlib.Algebra.Order.Ring.Int
import AegisQuant.Scheduler.Pausing
import AegisQuant.Scheduler.Release

/-! The failures of one job over runs that follow each other. A run claims the
row, and what its completion writes is read back by the next claim. The record
keeps the runs that were completed beside the row, so that the columns can be
compared with them. -/
namespace AegisQuant.Scheduler
open Transition List Option

structure JobRun where
  startedAt : DateTime
  manual : Bool
  execution : ScheduledJobExecution
  completedAt : DateTime

def JobRun.failed (run : JobRun) : Bool := run.execution.status = .failed

def JobRun.succeeded (run : JobRun) : Bool :=
  run.execution.status = .completed ∨ run.execution.status = .partialSuccess

structure JobRecord where
  job : ScheduledResearchJob
  completed : List JobRun

/-- A run whose claim is refused leaves the row. -/
def afterRun (policy : ScheduledResearchFailurePolicy) (record : JobRecord) (run : JobRun) :
    JobRecord :=
  match tryClaimScheduledResearchJob record.job run.startedAt run.manual with
  | none => record
  | some claimed =>
    { job := markScheduledResearchJobAfterRun claimed run.completedAt
        (jobCompletionUpdate claimed run.execution run.completedAt policy)
      completed := record.completed ++ [run] }

/-- The failed runs since the last run that did not fail. -/
def failuresInARow (runs : List JobRun) : Nat := (runs.reverse.takeWhile JobRun.failed).length

def latestSuccess (runs : List JobRun) : Option DateTime :=
  (runs.filter JobRun.succeeded).getLast?.map JobRun.completedAt

/-- How long the row backs off after its last run. -/
def JobRecord.backoff (record : JobRecord) : Option Int :=
  record.job.backoffUntil.bind fun until' =>
    record.completed.getLast?.map fun run => until' - run.completedAt

structure AccountsForFailures (policy : ScheduledResearchFailurePolicy) (record : JobRecord) :
    Prop where
  count : record.job.consecutiveFailureCount = failuresInARow record.completed
  success : record.job.lastSuccessAt = latestSuccess record.completed
  paused : record.job.status = .autoPaused ↔
    policy.maxConsecutiveFailures ≤ failuresInARow record.completed
  disabled : record.job.status = .autoPaused → record.job.enabled = false
  backoff : ∀ until', record.job.backoffUntil = some until' → ∃ seconds,
    record.backoff = some (DateTime.seconds seconds) ∧ seconds ≤ policy.backoffMaxSeconds
  refused : ∀ until' now, record.job.backoffUntil = some until' → now < until' →
    tryClaimScheduledResearchJob record.job now false = none

/-- More failures in a row never shorten the backoff. -/
def BackoffsGrow (policy : ScheduledResearchFailurePolicy) (start : JobRecord)
    (runs : List JobRun) : Prop :=
  ∀ fewer more shorter longer,
    (run (afterRun policy) start (runs.take fewer)).backoff = some shorter →
    (run (afterRun policy) start (runs.take more)).backoff = some longer →
    failuresInARow (run (afterRun policy) start (runs.take fewer)).completed ≤
      failuresInARow (run (afterRun policy) start (runs.take more)).completed →
    shorter ≤ longer

/-- The claim is refused, or the counter has room for a failure and a run that
neither fails nor succeeds ends at the instant of the latest success. -/
def KeepsAccount (record : JobRecord) (run : JobRun) : Prop :=
  (tryClaimScheduledResearchJob record.job run.startedAt run.manual).isSome = true →
    (run.failed = true → failuresInARow record.completed < 2147483647) ∧
    (run.failed = false → run.succeeded = false →
      latestSuccess record.completed = some run.completedAt)

section Runs
variable (runs : List JobRun) (run : JobRun)

theorem failuresInARow_append :
    failuresInARow (runs ++ [run]) = if run.failed then failuresInARow runs + 1 else 0 := by
  simp only [failuresInARow, reverse_append, reverse_singleton, singleton_append, takeWhile_cons]
  split
  · simp
  · simp

theorem latestSuccess_append : latestSuccess (runs ++ [run]) =
      if run.succeeded then some run.completedAt else latestSuccess runs := by
  rw [latestSuccess, filter_append]
  cases hSucceeded : run.succeeded with
  | true => simp [hSucceeded]
  | false => simp [hSucceeded, latestSuccess]

variable {run}

theorem JobRun.succeeded_eq_false_of_failed (hFailed : run.failed = true) :
    run.succeeded = false := by
  simp only [failed, decide_eq_true_eq] at hFailed
  simp [succeeded, hFailed]

end Runs

section Backoff
variable {policy : ScheduledResearchFailurePolicy} {completedAt : DateTime}

theorem saturateI32_mono {left right : Int} (hLe : left ≤ right) :
    saturateI32 left ≤ saturateI32 right := by
  unfold saturateI32
  omega

theorem saturateI64_mono {left right : Int} (hLe : left ≤ right) :
    saturateI64 left ≤ saturateI64 right := by
  unfold saturateI64
  omega

def backoffMultiplier (count : Int) : Int :=
  if count = 2 then 1 else saturateI64 (3 * saturateI64 (2 ^ (count - 3).toNat))

def backoffSeconds (policy : ScheduledResearchFailurePolicy) (count : Int) : Int :=
  min (saturateI64 (policy.backoffBaseSeconds * backoffMultiplier count)) policy.backoffMaxSeconds

theorem scheduledResearchBackoffUntil_eq_some {count : Int} {until' : DateTime} :
    scheduledResearchBackoffUntil completedAt count policy.backoffBaseSeconds
        policy.backoffMaxSeconds = some until' ↔
      2 ≤ count ∧ completedAt + DateTime.seconds (backoffSeconds policy count) = until' := by
  rw [scheduledResearchBackoffUntil, ite_none_left_eq_some, not_lt, some.injEq]
  rfl

/-- The third failure triples the delay of the second, and each further one
doubles it until the arithmetic saturates. -/
theorem backoffMultiplier_mono {fewer more : Int} (hTwo : 2 ≤ fewer) (hLe : fewer ≤ more) :
    backoffMultiplier fewer ≤ backoffMultiplier more := by
  have hPower : ∀ count : Int, 1 ≤ saturateI64 (2 ^ (count - 3).toNat) := by
    intro count
    exact saturateI64_pos (Int.pow_pos (by decide))
  unfold backoffMultiplier
  split
  · split
    · exact le_rfl
    · have hMore := hPower more
      exact saturateI64_pos (by omega)
  · have hMore : more ≠ 2 := by omega
    rw [if_neg hMore]
    apply saturateI64_mono
    have hExponent : (fewer - 3).toNat ≤ (more - 3).toNat := by omega
    have hPowers : (2 : Int) ^ (fewer - 3).toNat ≤ 2 ^ (more - 3).toNat :=
      pow_le_pow_right₀ (by decide) hExponent
    exact Int.mul_le_mul_of_nonneg_left (saturateI64_mono hPowers) (by decide)

theorem backoffSeconds_mono {fewer more : Int} (hTwo : 2 ≤ fewer) (hLe : fewer ≤ more) :
    backoffSeconds policy fewer ≤ backoffSeconds policy more := by
  have hBase : 0 ≤ policy.backoffBaseSeconds := by
    have hPositive := policy.backoffBasePositive
    omega
  have hProduct := Int.mul_le_mul_of_nonneg_left (backoffMultiplier_mono hTwo hLe) hBase
  exact min_le_min_right _ (saturateI64_mono hProduct)

end Backoff

section Completion
variable {job : ScheduledResearchJob} {execution : ScheduledJobExecution} {completedAt : DateTime}
  {policy : ScheduledResearchFailurePolicy}

theorem autoPaused_jobCompletionUpdate :
    (jobCompletionUpdate job execution completedAt policy).status = .autoPaused ↔
      AutoPauses job execution policy := by
  simp only [jobCompletionUpdate, AutoPauses]
  split
  · rename_i hFailed
    split
    · rename_i hLimit
      simp [hFailed, hLimit]
    · rename_i hLimit
      simp only [hLimit, and_false, iff_false]
      split <;> simp
  · rename_i hFailed
    simp only [hFailed, false_and, iff_false]
    split <;> simp

theorem consecutiveFailureCount_jobCompletionUpdate :
    (jobCompletionUpdate job execution completedAt policy).consecutiveFailureCount =
      if execution.status = .failed then job.nextFailureCount else 0 := by
  simp only [jobCompletionUpdate]
  split
  · split <;> rfl
  · rfl

theorem lastSuccessAt_jobCompletionUpdate :
    (jobCompletionUpdate job execution completedAt policy).lastSuccessAt =
      if execution.status = .failed then job.lastSuccessAt else some completedAt := by
  simp only [jobCompletionUpdate]
  split
  · split <;> rfl
  · rfl

theorem backoffUntil_jobCompletionUpdate {until' : DateTime}
    (hUntil : (jobCompletionUpdate job execution completedAt policy).backoffUntil = some until') :
    execution.status = .failed ∧ scheduledResearchBackoffUntil completedAt job.nextFailureCount
      policy.backoffBaseSeconds policy.backoffMaxSeconds = some until' := by
  simp only [jobCompletionUpdate] at hUntil
  split at hUntil
  · rename_i hFailed
    split at hUntil
    · cases hUntil
    · exact ⟨hFailed, hUntil⟩
  · cases hUntil

end Completion

section Invariant
variable {policy : ScheduledResearchFailurePolicy} {record : JobRecord} {run : JobRun}

/-- What every run keeps, whatever its outcome: the counter holds the failures
in a row as far as its width goes, and status and backoff are those of the
counter. -/
structure RowFollows (policy : ScheduledResearchFailurePolicy) (record : JobRecord) : Prop where
  count : record.job.consecutiveFailureCount = saturateI32 (failuresInARow record.completed)
  free : record.job.status ≠ .running
  paused : record.job.status = .autoPaused ↔
    policy.maxConsecutiveFailures ≤ record.job.consecutiveFailureCount
  disabled : record.job.status = .autoPaused → record.job.enabled = false
  backoff : ∀ until', record.job.backoffUntil = some until' → ∃ run,
    record.completed.getLast? = some run ∧
    scheduledResearchBackoffUntil run.completedAt record.job.consecutiveFailureCount
      policy.backoffBaseSeconds policy.backoffMaxSeconds = some until'

theorem RowFollows.insert {now : DateTime} {request : ScheduledResearchJobRequest}
    {job : ScheduledResearchJob} (hJob : insertScheduledResearchJob now request = .ok job) :
    RowFollows policy ⟨job, []⟩ ∧ job.lastSuccessAt = none := by
  unfold insertScheduledResearchJob at hJob
  split at hJob
  · cases hJob
  · cases hJob
    have hPositive := policy.maxConsecutiveFailuresPositive
    have hStatus : (if request.enabled then ScheduledResearchJobStatus.enabled else .disabled) ≠
        .autoPaused := by
      split <;> simp
    constructor
    · constructor
      case count => rfl
      case free =>
        dsimp only
        split <;> simp
      case paused =>
        apply iff_of_false hStatus
        change ¬policy.maxConsecutiveFailures ≤ 0
        omega
      case disabled => exact fun hPaused => absurd hPaused hStatus
      case backoff => exact fun until' hUntil => nomatch hUntil
    · rfl

theorem saturateI32_succ (count : Nat) :
    saturateI32 (saturateI32 count + 1) = saturateI32 ((count + 1 : Nat) : Int) := by
  unfold saturateI32
  omega

def completedRow (policy : ScheduledResearchFailurePolicy) (record : JobRecord) (run : JobRun) :
    ScheduledResearchJob :=
  markScheduledResearchJobAfterRun { record.job with status := .running } run.completedAt
    (jobCompletionUpdate { record.job with status := .running } run.execution run.completedAt policy)

theorem afterRun_cases (policy : ScheduledResearchFailurePolicy) (record : JobRecord)
    (run : JobRun) :
    (tryClaimScheduledResearchJob record.job run.startedAt run.manual).isSome = false ∧
        afterRun policy record run = record ∨
      (tryClaimScheduledResearchJob record.job run.startedAt run.manual).isSome = true ∧
        afterRun policy record run =
          ⟨completedRow policy record run, record.completed ++ [run]⟩ := by
  unfold afterRun
  cases hClaim : tryClaimScheduledResearchJob record.job run.startedAt run.manual with
  | none => exact .inl ⟨rfl, rfl⟩
  | some claimed =>
    obtain ⟨-, -, rfl⟩ := tryClaimScheduledResearchJob_eq_some.mp hClaim
    exact .inr ⟨rfl, rfl⟩

section
variable (hRow : RowFollows policy record)
include hRow

theorem RowFollows.count_completedRow : (completedRow policy record run).consecutiveFailureCount =
      saturateI32 (failuresInARow (record.completed ++ [run])) := by
  rw [completedRow, markScheduledResearchJobAfterRun,
    consecutiveFailureCount_jobCompletionUpdate, failuresInARow_append, JobRun.failed]
  by_cases hFailed : run.execution.status = .failed
  · rw [if_pos hFailed, if_pos (decide_eq_true hFailed), ScheduledResearchJob.nextFailureCount,
      hRow.count, saturateI32_succ]
  · rw [if_neg hFailed, if_neg (by simpa using hFailed)]
    rfl

theorem RowFollows.next (run : JobRun) : RowFollows policy (afterRun policy record run) := by
  rcases afterRun_cases policy record run with ⟨-, hNext⟩ | ⟨-, hNext⟩
  · rw [hNext]
    exact hRow
  · rw [hNext]
    constructor
    case count => exact hRow.count_completedRow
    case free => exact status_jobCompletionUpdate _ _ _ policy
    case paused =>
      have hPositive := policy.maxConsecutiveFailuresPositive
      apply autoPaused_jobCompletionUpdate.trans
      simp only [completedRow, markScheduledResearchJobAfterRun,
        consecutiveFailureCount_jobCompletionUpdate, AutoPauses]
      split
      · rename_i hFailed
        exact and_iff_right hFailed
      · rename_i hFailed
        apply iff_of_false (fun hPauses => hFailed hPauses.1)
        omega
    case disabled =>
      intro hPaused
      exact enabled_jobCompletionUpdate.mpr (.inr (autoPaused_jobCompletionUpdate.mp hPaused))
    case backoff =>
      intro until' hUntil
      obtain ⟨hFailed, hBackoff⟩ := backoffUntil_jobCompletionUpdate hUntil
      refine ⟨run, by simp, ?_⟩
      rw [← hBackoff, completedRow, markScheduledResearchJobAfterRun,
        consecutiveFailureCount_jobCompletionUpdate, if_pos hFailed]

theorem RowFollows.backoff_eq {until' : DateTime} (hUntil : record.job.backoffUntil = some until') :
    2 ≤ record.job.consecutiveFailureCount ∧ record.backoff =
      some (DateTime.seconds (backoffSeconds policy record.job.consecutiveFailureCount)) := by
  obtain ⟨run, hLast, hBackoff⟩ := hRow.backoff until' hUntil
  obtain ⟨hTwo, rfl⟩ := scheduledResearchBackoffUntil_eq_some.mp hBackoff
  refine ⟨hTwo, ?_⟩
  rw [JobRecord.backoff, hUntil, bind_some, hLast, map_some, add_sub_cancel_left]

theorem RowFollows.accountsForFailures_iff :
    AccountsForFailures policy record ↔ failuresInARow record.completed ≤ 2147483647 ∧
      record.job.lastSuccessAt = latestSuccess record.completed := by
  have hSaturated : saturateI32 (failuresInARow record.completed) =
      failuresInARow record.completed ↔ failuresInARow record.completed ≤ 2147483647 := by
    unfold saturateI32
    omega
  constructor
  · intro hAccounts
    exact ⟨hSaturated.mp (hRow.count.symm.trans hAccounts.count), hAccounts.success⟩
  · rintro ⟨hRoom, hSuccess⟩
    have hCount := hRow.count.trans (hSaturated.mpr hRoom)
    constructor
    case count => exact hCount
    case success => exact hSuccess
    case paused =>
      rw [← hCount]
      exact hRow.paused
    case disabled => exact hRow.disabled
    case backoff =>
      intro until' hUntil
      exact ⟨_, (hRow.backoff_eq hUntil).2, min_le_right _ _⟩
    case refused =>
      intro until' now hUntil hEarly
      have hWaits : ¬until' ≤ now := not_le.mpr hEarly
      simp [tryClaimScheduledResearchJob, hUntil, hWaits]

end

theorem lastSuccessAt_completedRow : (completedRow policy record run).lastSuccessAt =
      if run.failed then record.job.lastSuccessAt else some run.completedAt := by
  rw [completedRow, markScheduledResearchJobAfterRun, lastSuccessAt_jobCompletionUpdate,
    JobRun.failed]
  by_cases hFailed : run.execution.status = .failed
  · rw [if_pos hFailed, if_pos (decide_eq_true hFailed)]
    exact or_self
  · rw [if_neg hFailed, if_neg (by simpa using hFailed)]
    rfl

theorem accountsForFailures_afterRun_iff (hRow : RowFollows policy record)
    (hAccounts : AccountsForFailures policy record) :
    AccountsForFailures policy (afterRun policy record run) ↔ KeepsAccount record run := by
  have hNextRow := hRow.next run
  rcases afterRun_cases policy record run with ⟨hRefused, hNext⟩ | ⟨hClaimed, hNext⟩
  · rw [hNext]
    refine iff_of_true hAccounts fun hClaimed => ?_
    rw [hRefused] at hClaimed
    cases hClaimed
  · rw [hNextRow.accountsForFailures_iff, hNext, KeepsAccount, failuresInARow_append,
      latestSuccess_append, lastSuccessAt_completedRow, hAccounts.success]
    cases hFailed : run.failed with
    | true =>
      rw [JobRun.succeeded_eq_false_of_failed hFailed]
      simp only [if_true, Bool.false_eq_true, if_false, and_true, hClaimed, true_implies,
        reduceCtorEq, false_implies]
      omega
    | false =>
      cases hSucceeded : run.succeeded with
      | true => simp
      | false => simp [hClaimed, eq_comm]

end Invariant

theorem RowFollows.backoffsGrow {policy : ScheduledResearchFailurePolicy} {start : JobRecord}
    (hStart : RowFollows policy start) (runs : List JobRun) : BackoffsGrow policy start runs := by
  have hReached : ∀ count, RowFollows policy (run (afterRun policy) start (runs.take count)) :=
    fun count => run_invariant (fun record next hRow => hRow.next next) _ hStart
  have hDelay : ∀ {record : JobRecord} {delay : Int}, RowFollows policy record →
      record.backoff = some delay → 2 ≤ record.job.consecutiveFailureCount ∧
      delay = DateTime.seconds (backoffSeconds policy record.job.consecutiveFailureCount) := by
    intro record delay hRow hBackoff
    obtain ⟨until', hUntil, -⟩ := bind_eq_some_iff.mp hBackoff
    obtain ⟨hTwo, hSeconds⟩ := hRow.backoff_eq hUntil
    exact ⟨hTwo, some.inj (hBackoff.symm.trans hSeconds)⟩
  intro fewer more shorter longer hShorter hLonger hFailures
  obtain ⟨hTwo, rfl⟩ := hDelay (hReached fewer) hShorter
  obtain ⟨-, rfl⟩ := hDelay (hReached more) hLonger
  have hCounts := saturateI32_mono (Int.ofNat_le.mpr hFailures)
  rw [← (hReached fewer).count, ← (hReached more).count] at hCounts
  have hSeconds := @backoffSeconds_mono policy _ _ hTwo hCounts
  unfold DateTime.seconds
  omega

/-- Over every sequence of runs of a new job the columns account for its
failures exactly when no run saturates the counter, and no completed run that
neither fails nor succeeds is recorded as a success. -/
theorem failures_accounted_iff (policy : ScheduledResearchFailurePolicy) (now : DateTime)
    (request : ScheduledResearchJobRequest) (job : ScheduledResearchJob) (runs : List JobRun)
    (hJob : insertScheduledResearchJob now request = .ok job) :
    (Throughout (afterRun policy) (AccountsForFailures policy) ⟨job, []⟩ runs ∧
        BackoffsGrow policy ⟨job, []⟩ runs) ↔
      Along (afterRun policy) KeepsAccount ⟨job, []⟩ runs := by
  obtain ⟨hRow, hNone⟩ : RowFollows policy ⟨job, []⟩ ∧ job.lastSuccessAt = none :=
    RowFollows.insert hJob
  have hStart : AccountsForFailures policy ⟨job, []⟩ :=
    hRow.accountsForFailures_iff.mpr ⟨Nat.zero_le _, hNone⟩
  have hExact := along_iff_of_invariant
    (I := fun record => RowFollows policy record ∧ AccountsForFailures policy record)
    (C := KeepsAccount) (G := fun record next => AccountsForFailures policy (afterRun policy record next))
    (fun record next hBoth => accountsForFailures_afterRun_iff hBoth.1 hBoth.2)
    (fun record next hBoth hKeeps => ⟨hBoth.1.next next,
      (accountsForFailures_afterRun_iff hBoth.1 hBoth.2).mpr hKeeps⟩) runs ⟨hRow, hStart⟩
  rw [and_iff_left (hRow.backoffsGrow runs), throughout_iff_along, and_iff_right hStart, hExact]

section Witness

def sampleJobRequest : ScheduledResearchJobRequest where
  name := "provider-health-binance"
  enabled := true
  intervalSeconds := 60
  maxRunsPerTick := 1
  nextRunAt := some 0

theorem insertScheduledResearchJob_sampleJobRequest :
    insertScheduledResearchJob 0 sampleJobRequest = .ok sampleJob := by
  with_unfolding_all rfl

def scheduledRun (seconds : Int) (status : ScheduledResearchJobRunStatus) : JobRun where
  startedAt := DateTime.seconds seconds
  manual := false
  execution := ⟨status, none⟩
  completedAt := DateTime.seconds seconds

/-- Two failures, a run refused while the job backs off, and a success. -/
def failingRuns : List JobRun :=
  [scheduledRun 0 .failed, scheduledRun 60 .failed, scheduledRun 120 .failed,
    scheduledRun 360 .completed]

theorem failures_accounted_failingRuns :
    Throughout (afterRun .default) (AccountsForFailures .default) ⟨sampleJob, []⟩ failingRuns ∧
      BackoffsGrow .default ⟨sampleJob, []⟩ failingRuns :=
  (failures_accounted_iff .default 0 sampleJobRequest sampleJob failingRuns
    insertScheduledResearchJob_sampleJobRequest).mpr (by unfold KeepsAccount; decide +kernel)

/-- A skipped run of a job that has never run before is recorded as its latest
success. -/
theorem skipped_run_recorded_as_success :
    ¬∀ (policy : ScheduledResearchFailurePolicy) (now : DateTime)
        (request : ScheduledResearchJobRequest) (job : ScheduledResearchJob) (runs : List JobRun),
      insertScheduledResearchJob now request = .ok job →
      Throughout (afterRun policy) (AccountsForFailures policy) ⟨job, []⟩ runs ∧
        BackoffsGrow policy ⟨job, []⟩ runs := by
  intro hAll
  have hRun := (hAll .default 0 sampleJobRequest sampleJob [scheduledRun 0 .skipped]
    insertScheduledResearchJob_sampleJobRequest).1
  have hSuccess := (run_of_throughout hRun).success
  revert hSuccess
  decide +kernel

end Witness

end AegisQuant.Scheduler
