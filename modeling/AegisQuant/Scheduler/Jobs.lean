import AegisQuant.Core.Basic
import AegisQuant.Library.Fallible

/-! One scheduled research job: its row, the statements that read and write
it, and the values that a finished run writes back. The status column is the
lock of a run and at the same time what the operator sets. -/
namespace AegisQuant.Scheduler
open Fallible Option

inductive ScheduledResearchJobStatus where
  | disabled
  | enabled
  | paused
  | running
  | backingOff
  | error
  | autoPaused
  deriving DecidableEq, Repr

inductive ScheduledResearchJobRunStatus where
  | completed
  | failed
  | skipped
  | skippedOverlap
  | skippedBackoff
  | partialSuccess
  deriving DecidableEq, Repr

/-- The two positive columns are checked by the table. -/
structure ScheduledResearchJob where
  name : String
  enabled : Bool
  intervalSeconds : Int
  intervalPositive : 0 < intervalSeconds
  maxRunsPerTick : Int
  maxRunsPositive : 0 < maxRunsPerTick
  lastRunAt : Option DateTime
  lastFailureAt : Option DateTime
  lastFailureReason : Option String
  lastSuccessAt : Option DateTime
  nextRunAt : Option DateTime
  backoffUntil : Option DateTime
  consecutiveFailureCount : Int
  autoPausedReason : Option String
  status : ScheduledResearchJobStatus

structure ScheduledResearchJobRun where
  status : ScheduledResearchJobRunStatus
  startedAt : DateTime
  completedAt : Option DateTime
  error : Option String

structure ScheduledResearchJobRequest where
  name : String
  enabled : Bool
  intervalSeconds : Int
  maxRunsPerTick : Int
  nextRunAt : Option DateTime

def ScheduledResearchJobRequest.validate (request : ScheduledResearchJobRequest) :
    Except CoreError Unit := do
  require (trim request.name ≠ "") .emptyScheduledResearchJobName
  require (0 < request.intervalSeconds) .invalidScheduledResearchJobInterval
  require (0 < request.maxRunsPerTick) .invalidScheduledResearchJobMaxRuns

theorem ScheduledResearchJobRequest.validate_eq_ok {request : ScheduledResearchJobRequest}
    {result : Unit} : request.validate = .ok result ↔
      trim request.name ≠ "" ∧ 0 < request.intervalSeconds ∧ 0 < request.maxRunsPerTick := by
  simp only [validate, bind_eq_ok, require_eq_ok, decide_eq_true_eq, exists_and_left, exists_const]

section Completion

def saturateI32 (value : Int) : Int := max (-2147483648) (min value 2147483647)

def saturateI64 (value : Int) : Int := max (-9223372036854775808) (min value 9223372036854775807)

/-- `from_env` raises each value to one at least. -/
structure ScheduledResearchFailurePolicy where
  maxConsecutiveFailures : Int
  maxConsecutiveFailuresPositive : 1 ≤ maxConsecutiveFailures
  backoffBaseSeconds : Int
  backoffBasePositive : 1 ≤ backoffBaseSeconds
  backoffMaxSeconds : Int
  backoffMaxPositive : 1 ≤ backoffMaxSeconds

def ScheduledResearchFailurePolicy.default : ScheduledResearchFailurePolicy where
  maxConsecutiveFailures := 5
  maxConsecutiveFailuresPositive := by decide
  backoffBaseSeconds := 300
  backoffBasePositive := by decide
  backoffMaxSeconds := 3600
  backoffMaxPositive := by decide

structure ScheduledJobExecution where
  status : ScheduledResearchJobRunStatus
  error : Option String

structure ScheduledJobCompletionUpdate where
  status : ScheduledResearchJobStatus
  nextRunAt : Option DateTime
  backoffUntil : Option DateTime
  consecutiveFailureCount : Int
  lastFailureAt : Option DateTime
  lastFailureReason : Option String
  lastSuccessAt : Option DateTime
  enabled : Bool
  autoPausedReason : Option String

def scheduledResearchNextRunAt (completedAt : DateTime) (intervalSeconds : Int) :
    Except CoreError DateTime :=
  if intervalSeconds ≤ 0 then .error .invalidScheduledResearchJobInterval
  else .ok (completedAt + DateTime.seconds intervalSeconds)

def scheduledResearchBackoffUntil (completedAt : DateTime) (consecutiveFailureCount : Int)
    (baseSeconds maxSeconds : Int) : Option DateTime :=
  if consecutiveFailureCount < 2 then none
  else
    let multiplier := if consecutiveFailureCount = 2 then 1
      else saturateI64 (3 * saturateI64 (2 ^ (consecutiveFailureCount - 3).toNat))
    some (completedAt + DateTime.seconds (min (saturateI64 (baseSeconds * multiplier)) maxSeconds))

def ScheduledResearchJob.nextFailureCount (job : ScheduledResearchJob) : Int :=
  saturateI32 (job.consecutiveFailureCount + 1)

def jobCompletionUpdate (job : ScheduledResearchJob) (execution : ScheduledJobExecution)
    (completedAt : DateTime) (policy : ScheduledResearchFailurePolicy) :
    ScheduledJobCompletionUpdate :=
  let normalNextRunAt := (scheduledResearchNextRunAt completedAt job.intervalSeconds).toOption
  if execution.status = .failed then
    let consecutiveFailureCount := job.nextFailureCount
    let lastFailureReason := execution.error.or (some "scheduled research job failed")
    if policy.maxConsecutiveFailures ≤ consecutiveFailureCount then
      { status := .autoPaused
        nextRunAt := none
        backoffUntil := none
        consecutiveFailureCount := consecutiveFailureCount
        lastFailureAt := some completedAt
        lastFailureReason := lastFailureReason
        lastSuccessAt := job.lastSuccessAt
        enabled := false
        autoPausedReason := some ("auto-paused after " ++ toString consecutiveFailureCount ++
          " consecutive scheduled research failures") }
    else
      let backoffUntil := scheduledResearchBackoffUntil completedAt consecutiveFailureCount
        policy.backoffBaseSeconds policy.backoffMaxSeconds
      { status := if backoffUntil.isSome then .backingOff else .error
        nextRunAt := backoffUntil.or normalNextRunAt
        backoffUntil := backoffUntil
        consecutiveFailureCount := consecutiveFailureCount
        lastFailureAt := some completedAt
        lastFailureReason := lastFailureReason
        lastSuccessAt := job.lastSuccessAt
        enabled := job.enabled
        autoPausedReason := none }
  else
    { status := if job.enabled then .enabled else .disabled
      nextRunAt := normalNextRunAt
      backoffUntil := none
      consecutiveFailureCount := 0
      lastFailureAt := job.lastFailureAt
      lastFailureReason := none
      lastSuccessAt := some completedAt
      enabled := job.enabled
      autoPausedReason := none }

end Completion

section Statements
variable (job : ScheduledResearchJob)

def ScheduledResearchJobStatus.isRunnable : ScheduledResearchJobStatus → Bool
  | .enabled | .error | .backingOff => true
  | _ => false

/-- The condition of `list_due_scheduled_research_jobs`. -/
def isDue (now : DateTime) : Bool :=
  job.enabled && job.status.isRunnable && job.nextRunAt.any (· ≤ now) &&
    job.backoffUntil.all (· ≤ now)

def tryClaimScheduledResearchJob (now : DateTime) (manual : Bool) : Option ScheduledResearchJob :=
  if job.status ≠ .running && (manual || job.enabled) && (manual || job.status.isRunnable) &&
      (manual || job.backoffUntil.all (· ≤ now)) then
    some { job with status := .running }
  else none

def updateScheduledResearchJobStatus (enabled : Bool) (status : ScheduledResearchJobStatus)
    (nextRunAt : Option DateTime) : ScheduledResearchJob :=
  { job with
    enabled := enabled
    status := status
    nextRunAt := nextRunAt
    backoffUntil := none
    autoPausedReason := if status = .autoPaused then job.autoPausedReason else none }

def ScheduledResearchJobRequest.dueTime (request : ScheduledResearchJobRequest) (now : DateTime) :
    Option DateTime :=
  request.nextRunAt.or (if request.enabled then some now else none)

open ScheduledResearchJobRequest

/-- A new row keeps the column defaults where the request has no value. -/
def insertScheduledResearchJob (now : DateTime) (request : ScheduledResearchJobRequest) :
    Except CoreError ScheduledResearchJob :=
  match hValid : request.validate with
  | .error error => .error error
  | .ok _ => .ok {
      name := trim request.name
      enabled := request.enabled
      intervalSeconds := request.intervalSeconds
      intervalPositive := (validate_eq_ok.mp hValid).2.1
      maxRunsPerTick := request.maxRunsPerTick
      maxRunsPositive := (validate_eq_ok.mp hValid).2.2
      lastRunAt := none
      lastFailureAt := none
      lastFailureReason := none
      lastSuccessAt := none
      nextRunAt := request.dueTime now
      backoffUntil := none
      consecutiveFailureCount := 0
      autoPausedReason := none
      status := if request.enabled then .enabled else .disabled }

def updateScheduledResearchJobDefinition (now : DateTime) (request : ScheduledResearchJobRequest) :
    Except CoreError ScheduledResearchJob :=
  match hValid : request.validate with
  | .error error => .error error
  | .ok _ => .ok { job with
      name := trim request.name
      enabled := request.enabled
      intervalSeconds := request.intervalSeconds
      intervalPositive := (validate_eq_ok.mp hValid).2.1
      maxRunsPerTick := request.maxRunsPerTick
      maxRunsPositive := (validate_eq_ok.mp hValid).2.2
      nextRunAt := request.dueTime now
      status := if request.enabled then .enabled else .disabled
      backoffUntil := none
      consecutiveFailureCount := 0
      lastFailureAt := none
      lastFailureReason := none
      autoPausedReason := none }

def markScheduledResearchJobAfterRun (completedAt : DateTime)
    (completion : ScheduledJobCompletionUpdate) : ScheduledResearchJob :=
  { job with
    lastRunAt := some completedAt
    nextRunAt := completion.nextRunAt
    status := completion.status
    consecutiveFailureCount := completion.consecutiveFailureCount
    lastFailureAt := completion.lastFailureAt.or job.lastFailureAt
    lastFailureReason := completion.lastFailureReason
    lastSuccessAt := completion.lastSuccessAt.or job.lastSuccessAt
    backoffUntil := completion.backoffUntil
    enabled := completion.enabled
    autoPausedReason := completion.autoPausedReason }

def ScheduledResearchJob.resetsDueTime : Bool :=
  (job.status = .backingOff || job.status = .error) && job.enabled

def resetScheduledResearchJobFailures (now : DateTime) : ScheduledResearchJob :=
  { job with
    consecutiveFailureCount := 0
    backoffUntil := none
    autoPausedReason := none
    status :=
      if job.status = .autoPaused then .paused
      else if job.status = .backingOff ∨ job.status = .error then .enabled
      else job.status
    enabled := if job.status = .autoPaused then false else job.enabled
    nextRunAt := if job.resetsDueTime then some now else job.nextRunAt }

end Statements

section Specifications
variable {job claimed : ScheduledResearchJob} {now completedAt : DateTime} {manual : Bool}
  {execution : ScheduledJobExecution} {policy : ScheduledResearchFailurePolicy}

theorem tryClaimScheduledResearchJob_eq_some :
    tryClaimScheduledResearchJob job now manual = some claimed ↔
      job.status ≠ .running ∧ (manual = true ∨ job.enabled = true ∧ job.status.isRunnable = true ∧
        job.backoffUntil.all (· ≤ now) = true) ∧ claimed = { job with status := .running } := by
  unfold tryClaimScheduledResearchJob
  simp only [ite_none_right_eq_some, some.injEq, Bool.and_eq_true, Bool.or_eq_true,
    decide_eq_true_eq]
  constructor
  · rintro ⟨⟨⟨⟨hFree, hEnabled⟩, hRunnable⟩, hBackoff⟩, rfl⟩
    cases manual with
    | true => exact ⟨hFree, .inl rfl, rfl⟩
    | false => simp_all
  · rintro ⟨hFree, hAllowed, rfl⟩
    rcases hAllowed with rfl | ⟨hEnabled, hRunnable, hBackoff⟩
    · exact ⟨⟨⟨⟨hFree, .inl rfl⟩, .inl rfl⟩, .inl rfl⟩, rfl⟩
    · exact ⟨⟨⟨⟨hFree, .inr hEnabled⟩, .inr hRunnable⟩, .inr hBackoff⟩, rfl⟩

def AutoPauses (job : ScheduledResearchJob) (execution : ScheduledJobExecution)
    (policy : ScheduledResearchFailurePolicy) : Prop :=
  execution.status = .failed ∧ policy.maxConsecutiveFailures ≤ job.nextFailureCount

theorem saturateI64_pos {value : Int} (hValue : 0 < value) : 0 < saturateI64 value := by
  unfold saturateI64
  omega

theorem scheduledResearchNextRunAt_toOption (completedAt : DateTime) {intervalSeconds : Int}
    (hInterval : 0 < intervalSeconds) :
    (scheduledResearchNextRunAt completedAt intervalSeconds).toOption =
      some (completedAt + DateTime.seconds intervalSeconds) := by
  rw [scheduledResearchNextRunAt, if_neg (not_le.mpr hInterval)]
  rfl

theorem lt_add_seconds (completedAt : DateTime) {count : Int} (hCount : 0 < count) :
    completedAt < completedAt + DateTime.seconds count := by
  have hPositive : 0 < DateTime.seconds count := by
    unfold DateTime.seconds
    omega
  exact lt_add_of_pos_right _ hPositive

theorem lt_of_scheduledResearchBackoffUntil {count base limit : Int} {until' : DateTime}
    (hBase : 1 ≤ base) (hLimit : 1 ≤ limit)
    (hUntil : scheduledResearchBackoffUntil completedAt count base limit = some until') :
    completedAt < until' := by
  simp only [scheduledResearchBackoffUntil, ite_none_left_eq_some, some.injEq] at hUntil
  obtain ⟨-, rfl⟩ := hUntil
  apply lt_add_seconds
  have hMultiplier : 0 < (if count = 2 then 1
      else saturateI64 (3 * saturateI64 (2 ^ (count - 3).toNat))) := by
    split
    · decide
    · have hPower : (0 : Int) < 2 ^ (count - 3).toNat := Int.pow_pos (by decide)
      have hInner := saturateI64_pos hPower
      exact saturateI64_pos (by omega)
  have hProduct := saturateI64_pos (Int.mul_pos (show (0 : Int) < base by omega) hMultiplier)
  exact lt_min hProduct (by omega)

theorem nextRunAt_jobCompletionUpdate {due : DateTime}
    (hDue : (jobCompletionUpdate job execution completedAt policy).nextRunAt = some due) :
    completedAt < due := by
  have hNormal := scheduledResearchNextRunAt_toOption completedAt job.intervalPositive
  have hInterval := lt_add_seconds completedAt job.intervalPositive
  simp only [jobCompletionUpdate] at hDue
  split at hDue
  · split at hDue
    · cases hDue
    · cases hBackoff : scheduledResearchBackoffUntil completedAt job.nextFailureCount
        policy.backoffBaseSeconds policy.backoffMaxSeconds with
      | none =>
        rw [hBackoff, none_or, hNormal] at hDue
        cases hDue
        exact hInterval
      | some until' =>
        rw [hBackoff, some_or] at hDue
        cases hDue
        exact lt_of_scheduledResearchBackoffUntil policy.backoffBasePositive
          policy.backoffMaxPositive hBackoff
  · rw [hNormal] at hDue
    cases hDue
    exact hInterval

end Specifications

end AegisQuant.Scheduler
