import AegisQuant.Library.Run
import AegisQuant.Scheduler.Jobs

/-! Calls of `run_scheduled_research_job` that run at the same time, with the
operator's updates between them, one statement of the database per step. A
call of the scheduler works on the row that its tick has listed. -/
namespace AegisQuant.Scheduler

/-- How far a call has come. From `claimed` to `recorded` it holds the row that
its claim has returned; the job kind is executed in `counted`. -/
inductive CallPhase where
  | ready
  | started (startedAt : DateTime)
  | refused (startedAt : DateTime)
  | skipping (startedAt : DateTime) (status : ScheduledResearchJobRunStatus)
  | claimed (startedAt : DateTime) (job : ScheduledResearchJob)
  | counted (startedAt : DateTime) (job : ScheduledResearchJob)
  | executed (startedAt : DateTime) (job : ScheduledResearchJob)
      (outcome : Except String ScheduledJobExecution)
  | finished (startedAt : DateTime) (job : ScheduledResearchJob) (execution : ScheduledJobExecution)
      (completedAt : DateTime)
  | recorded (job : ScheduledResearchJob) (execution : ScheduledJobExecution)
      (completedAt : DateTime) (run : ScheduledResearchJobRun)
  | returned (result : Except Fault ScheduledResearchJobRun)

/-- The row held by an execution in progress. -/
def CallPhase.claimed? : CallPhase → Option ScheduledResearchJob
  | .claimed _ job | .counted _ job | .executed _ job _ | .finished _ job _ _ | .recorded job _ _ _ =>
    some job
  | _ => none

/-- The end of an execution whose completion is not yet written. -/
def CallPhase.completedAt? : CallPhase → Option DateTime
  | .finished _ _ _ completedAt | .recorded _ _ completedAt _ => some completedAt
  | _ => none

/-- `remaining` counts the calls that the tick makes after this one. -/
structure Call where
  listed : ScheduledResearchJob
  manual : Bool
  remaining : Nat
  phase : CallPhase

structure ScheduledExecution where
  due : DateTime
  maxRunsPerTick : Int
  deriving DecidableEq

/-- `executions` lists the claims of scheduled calls, and `operatorPaused` says
whether the last update of the operator was a pause. -/
structure JobSystem where
  job : ScheduledResearchJob
  now : DateTime
  calls : Nat → Option Call
  runs : List ScheduledResearchJobRun
  executions : List ScheduledExecution
  operatorPaused : Bool

namespace JobSystem

/-- A job with its calls still to come. -/
def start (job : ScheduledResearchJob) (now : DateTime) : JobSystem where
  job := job
  now := now
  calls := fun _ => none
  runs := []
  executions := []
  operatorPaused := false

def setCall (system : JobSystem) (id : Nat) (call : Call) : JobSystem :=
  { system with calls := Function.update system.calls id (some call) }

def setPhase (system : JobSystem) (id : Nat) (call : Call) (phase : CallPhase) : JobSystem :=
  system.setCall id { call with phase := phase }

def fail (system : JobSystem) (id : Nat) (call : Call) (text : String) : JobSystem :=
  system.setPhase id call (.returned (.error (.message text)))

def setJob (system : JobSystem) (job : ScheduledResearchJob) : JobSystem :=
  { system with job := job }

def addRun (system : JobSystem) (run : ScheduledResearchJobRun) : JobSystem :=
  { system with runs := system.runs ++ [run] }

/-- The claim of a scheduled call executes the due time it was listed with. -/
def logExecution (system : JobSystem) (call : Call) : JobSystem :=
  match call.manual, call.listed.nextRunAt with
  | false, some due =>
    { system with executions := system.executions ++ [⟨due, call.listed.maxRunsPerTick⟩] }
  | _, _ => system

end JobSystem

/-- What one call does next. A statement that fails does so with a text. -/
inductive CallEvent where
  | start
  | claim (failure : Option String)
  | readStatus (failure : Option String)
  | insertSkip (failure : Option String)
  | countBefore (failure : Option String)
  | execute (outcome : Except String ScheduledJobExecution)
  | countAfter (failure : Option String) (unchanged : Bool)
  | insertRun (failure : Option String)
  | markAfterRun (failure : Option String)
  | next
  | crash

inductive OperatorUpdate where
  | status (enabled : Bool) (status : ScheduledResearchJobStatus) (nextRunAt : Option DateTime)
  | definition (request : ScheduledResearchJobRequest)
  | resetFailures

inductive JobStep where
  | advance (elapsed : Nat)
  | listDue (id : Nat) (withinLimit : Bool)
  | runOnce (id : Nat)
  | call (id : Nat) (event : CallEvent)
  | operator (update : OperatorUpdate)

def skippedRun (startedAt now : DateTime) (status : ScheduledResearchJobRunStatus) :
    ScheduledResearchJobRun where
  status := status
  startedAt := startedAt
  completedAt := some now
  error := none

/-- The status of a skipped run by the status found in the row. -/
def skipStatus : ScheduledResearchJobStatus → ScheduledResearchJobRunStatus
  | .running => .skippedOverlap
  | .backingOff => .skippedBackoff
  | _ => .skipped

/-- The execution that is recorded: an error of the job kind is a failed run,
and so is a run during which the counted tables have changed. -/
def recordedExecution (outcome : Except String ScheduledJobExecution) (unchanged : Bool) :
    ScheduledJobExecution :=
  let execution := match outcome with
    | .ok execution => execution
    | .error text => { status := .failed, error := some text }
  if unchanged then execution
  else
    { status := .failed
      error := some "execution table counts changed during scheduled research job" }

def executionRun (startedAt completedAt : DateTime) (execution : ScheduledJobExecution) :
    ScheduledResearchJobRun where
  status := execution.status
  startedAt := startedAt
  completedAt := some completedAt
  error := execution.error

/-- A skip for backoff leaves no run behind. -/
def skipCall (system : JobSystem) (id : Nat) (call : Call) (startedAt : DateTime)
    (status : ScheduledResearchJobRunStatus) : JobSystem :=
  if status = .skippedBackoff then
    system.setPhase id call (.returned (.ok (skippedRun startedAt system.now status)))
  else system.setPhase id call (.skipping startedAt status)

/-- The checks of a scheduled call on its listed row. -/
def startCall (system : JobSystem) (id : Nat) (call : Call) : JobSystem :=
  if call.manual = false ∧ (call.listed.enabled = false ∨ call.listed.status = .paused) then
    skipCall system id call system.now .skipped
  else if call.manual = false ∧ call.listed.backoffUntil.any (system.now < ·) then
    skipCall system id call system.now .skippedBackoff
  else system.setPhase id call (.started system.now)

def callEvent (policy : ScheduledResearchFailurePolicy) (system : JobSystem) (id : Nat)
    (call : Call) : CallEvent → JobSystem
  | .start =>
    match call.phase with
    | .ready => startCall system id call
    | _ => system
  | .claim failure =>
    match call.phase, failure with
    | .started _, some text => system.fail id call text
    | .started startedAt, none =>
      match tryClaimScheduledResearchJob system.job startedAt call.manual with
      | some job =>
        ((system.setJob job).logExecution call).setPhase id call (.claimed startedAt job)
      | none => system.setPhase id call (.refused startedAt)
    | _, _ => system
  | .readStatus failure =>
    match call.phase, failure with
    | .refused _, some text => system.fail id call text
    | .refused startedAt, none => skipCall system id call startedAt (skipStatus system.job.status)
    | _, _ => system
  | .insertSkip failure =>
    match call.phase, failure with
    | .skipping _ _, some text => system.fail id call text
    | .skipping startedAt status, none =>
      let run := skippedRun startedAt system.now status
      (system.addRun run).setPhase id call (.returned (.ok run))
    | _, _ => system
  | .countBefore failure =>
    match call.phase, failure with
    | .claimed _ _, some text => system.fail id call text
    | .claimed startedAt job, none => system.setPhase id call (.counted startedAt job)
    | _, _ => system
  | .execute outcome =>
    match call.phase with
    | .counted startedAt job => system.setPhase id call (.executed startedAt job outcome)
    | _ => system
  | .countAfter failure unchanged =>
    match call.phase, failure with
    | .executed _ _ _, some text => system.fail id call text
    | .executed startedAt job outcome, none =>
      system.setPhase id call
        (.finished startedAt job (recordedExecution outcome unchanged) system.now)
    | _, _ => system
  | .insertRun failure =>
    match call.phase, failure with
    | .finished _ _ _ _, some text => system.fail id call text
    | .finished startedAt job execution completedAt, none =>
      let run := executionRun startedAt completedAt execution
      (system.addRun run).setPhase id call (.recorded job execution completedAt run)
    | _, _ => system
  | .markAfterRun failure =>
    match call.phase, failure with
    -- The result of the statement is discarded.
    | .recorded _ _ _ run, some _ => system.setPhase id call (.returned (.ok run))
    | .recorded job execution completedAt run, none =>
      (system.setJob (markScheduledResearchJobAfterRun system.job completedAt
        (jobCompletionUpdate job execution completedAt policy))).setPhase id call
          (.returned (.ok run))
    | _, _ => system
  | .next =>
    match call.phase, call.remaining with
    | .returned _, remaining + 1 =>
      system.setCall id { call with remaining := remaining, phase := .ready }
    | _, _ => system
  | .crash => system.fail id { call with remaining := 0 } "process stopped"

def OperatorUpdate.isPause : OperatorUpdate → Bool
  | .status enabled target _ => !enabled || target = .paused || target = .disabled
  | .definition request => !request.enabled
  | .resetFailures => false

/-- An update enables the job if it is no pause; a reset does neither. -/
def operatorUpdate (system : JobSystem) (update : OperatorUpdate) : JobSystem :=
  match update with
  | .status enabled status nextRunAt =>
    { system with
      job := updateScheduledResearchJobStatus system.job enabled status nextRunAt
      operatorPaused := update.isPause }
  | .definition request =>
    match updateScheduledResearchJobDefinition system.job system.now request with
    | .ok job => { system with job := job, operatorPaused := update.isPause }
    | .error _ => system
  | .resetFailures => system.setJob (resetScheduledResearchJobFailures system.job system.now)

def jobStep (policy : ScheduledResearchFailurePolicy) (system : JobSystem) : JobStep → JobSystem
  | .advance elapsed => { system with now := system.now + elapsed }
  | .listDue id withinLimit =>
    if (system.calls id).isNone && withinLimit && isDue system.job system.now then
      system.setCall id
        { listed := system.job, manual := false
          remaining := (max system.job.maxRunsPerTick 1).toNat - 1, phase := .ready }
    else system
  | .runOnce id =>
    if (system.calls id).isNone then
      system.setCall id { listed := system.job, manual := true, remaining := 0, phase := .ready }
    else system
  | .call id event =>
    match system.calls id with
    | some call => callEvent policy system id call event
    | none => system
  | .operator update => operatorUpdate system update

section Steps
variable {policy : ScheduledResearchFailurePolicy} {system : JobSystem} {id : Nat} {call : Call}

@[simp] theorem job_setPhase (phase : CallPhase) : (system.setPhase id call phase).job = system.job :=
  rfl

@[simp] theorem job_logExecution : (system.logExecution call).job = system.job := by
  unfold JobSystem.logExecution
  split <;> rfl

@[simp] theorem calls_logExecution : (system.logExecution call).calls = system.calls := by
  unfold JobSystem.logExecution
  split <;> rfl

@[simp] theorem now_logExecution : (system.logExecution call).now = system.now := by
  unfold JobSystem.logExecution
  split <;> rfl

/-- A step of a call that touches the call and the runs alone. The call keeps
its claimed row or gives it up, and a completion time is kept or is now. -/
def Quiet (system next : JobSystem) (id : Nat) (call : Call) : Prop :=
  ∃ later runs, next = { system.setCall id later with runs := runs } ∧
    later.listed = call.listed ∧ later.manual = call.manual ∧
    (later.phase.claimed? = none ∧ later.phase.completedAt? = none ∨
      later.phase.claimed? = call.phase.claimed? ∧
        (later.phase.completedAt? = call.phase.completedAt? ∨
          later.phase.completedAt? = some system.now))

theorem quiet_setPhase {phase : CallPhase} (hNone : phase.claimed? = none)
    (hTime : phase.completedAt? = none) : Quiet system (system.setPhase id call phase) id call :=
  ⟨{ call with phase := phase }, system.runs, rfl, rfl, rfl, .inl ⟨hNone, hTime⟩⟩

theorem quiet_skipCall (startedAt : DateTime) (status : ScheduledResearchJobRunStatus) :
    Quiet system (skipCall system id call startedAt status) id call := by
  unfold skipCall
  split
  · exact quiet_setPhase rfl rfl
  · exact quiet_setPhase rfl rfl

theorem quiet_startCall : Quiet system (startCall system id call) id call := by
  unfold startCall
  split
  · exact quiet_skipCall ..
  · split
    · exact quiet_skipCall ..
    · exact quiet_setPhase rfl rfl

/-- What a step of a call can do: nothing, a change of the call alone, the
claim, or the completion. -/
theorem callEvent_cases (policy : ScheduledResearchFailurePolicy) (system : JobSystem) (id : Nat)
    (call : Call) (event : CallEvent) :
    callEvent policy system id call event = system ∨
    Quiet system (callEvent policy system id call event) id call ∨
    (∃ startedAt job, event = .claim none ∧ call.phase = .started startedAt ∧
      tryClaimScheduledResearchJob system.job startedAt call.manual = some job ∧
      callEvent policy system id call event =
        ((system.setJob job).logExecution call).setPhase id call (.claimed startedAt job)) ∨
    ∃ job execution completedAt run, event = .markAfterRun none ∧
      call.phase = .recorded job execution completedAt run ∧
      callEvent policy system id call event =
        (system.setJob (markScheduledResearchJobAfterRun system.job completedAt
          (jobCompletionUpdate job execution completedAt policy))).setPhase id call
            (.returned (.ok run)) := by
  cases event with
  | start =>
    simp only [callEvent]
    split
    · exact .inr (.inl quiet_startCall)
    · exact .inl rfl
  | claim failure =>
    simp only [callEvent]
    split
    · exact .inr (.inl (quiet_setPhase rfl rfl))
    · rename_i startedAt hPhase
      split
      · rename_i job hClaim
        exact .inr (.inr (.inl ⟨startedAt, job, rfl, hPhase, hClaim, rfl⟩))
      · exact .inr (.inl (quiet_setPhase rfl rfl))
    · exact .inl rfl
  | readStatus failure =>
    simp only [callEvent]
    split
    · exact .inr (.inl (quiet_setPhase rfl rfl))
    · exact .inr (.inl (quiet_skipCall ..))
    · exact .inl rfl
  | insertSkip failure =>
    simp only [callEvent]
    split
    · exact .inr (.inl (quiet_setPhase rfl rfl))
    · exact .inr (.inl ⟨_, _, rfl, rfl, rfl, .inl ⟨rfl, rfl⟩⟩)
    · exact .inl rfl
  | countBefore failure =>
    simp only [callEvent]
    split
    · exact .inr (.inl (quiet_setPhase rfl rfl))
    · rename_i startedAt job hPhase
      exact .inr (.inl ⟨_, system.runs, rfl, rfl, rfl, .inr (by simp [hPhase, CallPhase.claimed?,
        CallPhase.completedAt?])⟩)
    · exact .inl rfl
  | execute outcome =>
    simp only [callEvent]
    split
    · rename_i startedAt job hPhase
      exact .inr (.inl ⟨_, system.runs, rfl, rfl, rfl, .inr (by simp [hPhase, CallPhase.claimed?,
        CallPhase.completedAt?])⟩)
    · exact .inl rfl
  | countAfter failure unchanged =>
    simp only [callEvent]
    split
    · exact .inr (.inl (quiet_setPhase rfl rfl))
    · rename_i startedAt job outcome hPhase
      exact .inr (.inl ⟨_, system.runs, rfl, rfl, rfl, .inr (by simp [hPhase, CallPhase.claimed?,
        CallPhase.completedAt?])⟩)
    · exact .inl rfl
  | insertRun failure =>
    simp only [callEvent]
    split
    · exact .inr (.inl (quiet_setPhase rfl rfl))
    · rename_i startedAt job execution completedAt hPhase
      exact .inr (.inl ⟨_, _, rfl, rfl, rfl, .inr (by simp [hPhase, CallPhase.claimed?,
        CallPhase.completedAt?])⟩)
    · exact .inl rfl
  | markAfterRun failure =>
    simp only [callEvent]
    split
    · exact .inr (.inl (quiet_setPhase rfl rfl))
    · rename_i job execution completedAt run hPhase
      exact .inr (.inr (.inr ⟨job, execution, completedAt, run, rfl, hPhase, rfl⟩))
    · exact .inl rfl
  | next =>
    simp only [callEvent]
    split
    · exact .inr (.inl ⟨_, system.runs, rfl, rfl, rfl, .inl ⟨rfl, rfl⟩⟩)
    · exact .inl rfl
  | crash =>
    exact .inr (.inl ⟨_, system.runs, rfl, rfl, rfl, .inl ⟨rfl, rfl⟩⟩)

end Steps

def sampleJob : ScheduledResearchJob where
  name := "provider-health-binance"
  enabled := true
  intervalSeconds := 60
  intervalPositive := by decide
  maxRunsPerTick := 1
  maxRunsPositive := by decide
  lastRunAt := none
  lastFailureAt := none
  lastFailureReason := none
  lastSuccessAt := none
  nextRunAt := some 0
  backoffUntil := none
  consecutiveFailureCount := 0
  autoPausedReason := none
  status := .enabled

def claimAndExecute (id : Nat) : List JobStep :=
  [.call id .start, .call id (.claim none), .call id (.countBefore none),
    .call id (.execute (.ok ⟨.completed, none⟩)), .call id (.countAfter none true)]

def recordAndMark (id : Nat) : List JobStep :=
  [.call id (.insertRun none), .call id (.markAfterRun none)]

end AegisQuant.Scheduler
