import AegisQuant.Scheduler.Calls

/-! The lock of a single call. Only the last statement of a run takes the
status away from `RUNNING`, and a statement that fails before it ends the
call. -/
namespace AegisQuant.Scheduler
open Transition List

structure StatementFailures where
  countBefore : Option String
  countAfter : Option String
  insertRun : Option String
  markAfterRun : Option String

def StatementFailures.AllSucceed (failures : StatementFailures) : Prop :=
  failures.countBefore = none ∧ failures.countAfter = none ∧ failures.insertRun = none ∧
    failures.markAfterRun = none

def afterClaim (id : Nat) (failures : StatementFailures)
    (outcome : Except String ScheduledJobExecution) (unchanged : Bool) : List JobStep :=
  [.countBefore failures.countBefore, .execute outcome, .countAfter failures.countAfter unchanged,
    .insertRun failures.insertRun, .markAfterRun failures.markAfterRun].map (.call id)

section Steps
variable {policy : ScheduledResearchFailurePolicy} {system : JobSystem} {id : Nat} {call : Call}

/-- The call is over, and the job is locked or not. -/
def Returned (system : JobSystem) (id : Nat) : Prop :=
  ∃ call result, system.calls id = some call ∧ call.phase = .returned result

theorem calls_setPhase (phase : CallPhase) :
    (system.setPhase id call phase).calls id = some { call with phase := phase } :=
  Function.update_self ..

theorem returned_setPhase (result : Except Fault ScheduledResearchJobRun) :
    Returned (system.setPhase id call (.returned result)) id :=
  ⟨_, result, calls_setPhase _, rfl⟩

theorem jobStep_call (hCall : system.calls id = some call) (event : CallEvent) :
    jobStep policy system (.call id event) = callEvent policy system id call event := by
  simp only [jobStep, hCall]

theorem run_of_returned {steps : List CallEvent} (hReturned : Returned system id)
    (hSteps : ∀ event ∈ steps, event ≠ .next ∧ event ≠ .crash) :
    run (jobStep policy) system (steps.map (.call id)) = system := by
  obtain ⟨call, result, hCall, hPhase⟩ := hReturned
  induction steps with
  | nil => rfl
  | cons event rest ih =>
    rw [forall_mem_cons] at hSteps
    have hSame : callEvent policy system id call event = system := by
      cases event with
      | next => exact absurd rfl hSteps.1.1
      | crash => exact absurd rfl hSteps.1.2
      | _ => simp only [callEvent, hPhase]
    rw [map_cons, run_cons, jobStep_call hCall, hSame]
    exact ih hSteps.2

theorem run_of_failed {text : String} {steps : List CallEvent}
    (hStatus : system.job.status = .running)
    (hSteps : ∀ event ∈ steps, event ≠ .next ∧ event ≠ .crash) :
    Returned (run (jobStep policy) (system.fail id call text) (steps.map (.call id))) id ∧
      (run (jobStep policy) (system.fail id call text) (steps.map (.call id))).job.status =
        .running := by
  have hReturned : Returned (system.fail id call text) id := returned_setPhase _
  rw [run_of_returned hReturned hSteps]
  exact ⟨hReturned, hStatus⟩

theorem status_jobCompletionUpdate (job : ScheduledResearchJob) (execution : ScheduledJobExecution)
    (completedAt : DateTime) (policy : ScheduledResearchFailurePolicy) :
    (jobCompletionUpdate job execution completedAt policy).status ≠ .running := by
  simp only [jobCompletionUpdate]
  split
  · split
    · exact fun hRunning => by cases hRunning
    · dsimp only
      split
      · exact fun hRunning => by cases hRunning
      · exact fun hRunning => by cases hRunning
  · dsimp only
    split
    · exact fun hRunning => by cases hRunning
    · exact fun hRunning => by cases hRunning

/-- A call that holds the lock returns, and frees the lock exactly when all its
statements succeed. -/
theorem run_afterClaim {startedAt : DateTime} {job : ScheduledResearchJob}
    (failures : StatementFailures) (outcome : Except String ScheduledJobExecution)
    (unchanged : Bool) (hCall : system.calls id = some call)
    (hPhase : call.phase = .claimed startedAt job) (hStatus : system.job.status = .running) :
    Returned (run (jobStep policy) system (afterClaim id failures outcome unchanged)) id ∧
      ((run (jobStep policy) system (afterClaim id failures outcome unchanged)).job.status ≠
        .running ↔ failures.AllSucceed) := by
  obtain ⟨countBefore, countAfter, insertRun, markAfterRun⟩ := failures
  unfold afterClaim StatementFailures.AllSucceed
  have hStuck {next : JobSystem} (hNext : Returned next id ∧ next.job.status = .running)
      {P : Prop} (hFails : ¬P) : Returned next id ∧ (next.job.status ≠ .running ↔ P) :=
    ⟨hNext.1, iff_of_false (not_not.mpr hNext.2) hFails⟩
  rw [map_cons, run_cons, jobStep_call hCall]
  cases countBefore with
  | some text =>
    simp only [callEvent, hPhase]
    refine hStuck ?_ (by simp)
    apply run_of_failed
    · exact hStatus
    · simp
  | none =>
    simp only [callEvent, hPhase]
    rw [map_cons, run_cons, jobStep_call (calls_setPhase _)]
    simp only [callEvent]
    rw [map_cons, run_cons, jobStep_call (calls_setPhase _)]
    cases countAfter with
    | some text =>
      simp only [callEvent]
      refine hStuck ?_ (by simp)
      apply run_of_failed
      · exact hStatus
      · simp
    | none =>
      simp only [callEvent]
      rw [map_cons, run_cons, jobStep_call (calls_setPhase _)]
      cases insertRun with
      | some text =>
        simp only [callEvent]
        refine hStuck ?_ (by simp)
        apply run_of_failed
        · exact hStatus
        · simp
      | none =>
        simp only [callEvent]
        rw [map_cons, run_cons, jobStep_call (calls_setPhase _)]
        cases markAfterRun with
        | some text =>
          simp only [callEvent, map_nil, run_nil]
          refine hStuck ?_ (by simp)
          exact ⟨returned_setPhase _, hStatus⟩
        | none =>
          simp only [callEvent, map_nil, run_nil]
          refine ⟨returned_setPhase _, iff_of_true ?_ (by simp)⟩
          exact status_jobCompletionUpdate job _ _ policy

end Steps

/-- A call that claims the job returns, and when it does the job is unlocked
exactly if no statement after the claim has failed. -/
theorem lock_released_iff (policy : ScheduledResearchFailurePolicy) (system : JobSystem) (id : Nat)
    {call : Call} {startedAt : DateTime} {job : ScheduledResearchJob}
    (hCall : system.calls id = some call) (hStarted : call.phase = .started startedAt)
    (hClaim : tryClaimScheduledResearchJob system.job startedAt call.manual = some job)
    (failures : StatementFailures) (outcome : Except String ScheduledJobExecution)
    (unchanged : Bool) :
    Returned (run (jobStep policy) system
        (.call id (.claim none) :: afterClaim id failures outcome unchanged)) id ∧
      ((run (jobStep policy) system
        (.call id (.claim none) :: afterClaim id failures outcome unchanged)).job.status ≠ .running ↔
          failures.AllSucceed) := by
  obtain ⟨-, -, hJob⟩ := tryClaimScheduledResearchJob_eq_some.mp hClaim
  have hStep : jobStep policy system (.call id (.claim none)) =
      ((system.setJob job).logExecution call).setPhase id call (.claimed startedAt job) := by
    rw [jobStep_call hCall]
    simp only [callEvent, hStarted, hClaim]
  rw [run_cons, hStep]
  apply run_afterClaim failures outcome unchanged (calls_setPhase _) rfl
  rw [job_setPhase, job_logExecution, hJob]
  rfl

/-- The sample job, listed by a tick and past the checks of its call. -/
def startedSystem : JobSystem :=
  run (jobStep .default) (.start sampleJob 0) [.listDue 0 true, .call 0 .start]

def noFailures : StatementFailures := ⟨none, none, none, none⟩

/-- A run in which every statement succeeds, and whose job kind fails. -/
theorem lock_released_sample : (run (jobStep .default) startedSystem
      (.call 0 (.claim none) :: afterClaim 0 noFailures (.error "no feed") true)).job.status ≠
        .running := by
  have hCall : startedSystem.calls 0 = some ⟨sampleJob, false, 0, .started 0⟩ := rfl
  have hClaim : tryClaimScheduledResearchJob startedSystem.job 0 false =
      some { sampleJob with status := .running } := rfl
  have hReleased := lock_released_iff .default startedSystem 0 hCall rfl hClaim noFailures
    (.error "no feed") true
  exact hReleased.2.mpr ⟨rfl, rfl, rfl, rfl⟩

/-- The tables cannot be counted after the run, and the job stays locked. -/
theorem failed_count_keeps_lock : ¬∀ failures : StatementFailures,
      (run (jobStep .default) startedSystem (.call 0 (.claim none) ::
        afterClaim 0 failures (.ok ⟨.completed, none⟩) true)).job.status ≠ .running := by
  intro hReleased
  apply hReleased { noFailures with countAfter := some "connection closed" }
  decide +kernel

end AegisQuant.Scheduler
