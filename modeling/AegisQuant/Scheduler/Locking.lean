import AegisQuant.Scheduler.Calls

/-! Exclusion of executions. The claim of a call takes the lock and the
completion frees it, but an operator's update writes over it, and the claim
does not read the due time again that the tick has listed. -/
namespace AegisQuant.Scheduler
open Transition List

/-- From the claim of a call to its return. -/
def InProgress (system : JobSystem) (id : Nat) : Prop :=
  ∃ call job, system.calls id = some call ∧ call.phase.claimed? = some job

/-- The scheduled executions of one due time that ticks with one run per tick
have made. -/
def JobSystem.executionsOf (system : JobSystem) (due : DateTime) : Nat :=
  system.executions.countP fun execution => execution.maxRunsPerTick = 1 ∧ execution.due = due

/-- Executions do not overlap, and no due time is executed twice. -/
structure Exclusive (system : JobSystem) : Prop where
  once : ∀ first second, InProgress system first → InProgress system second → first = second
  dueOnce : ∀ due, system.executionsOf due ≤ 1

def OperatorUpdate.writtenDue (system : JobSystem) : OperatorUpdate → Option DateTime
  | .status _ _ nextRunAt => nextRunAt
  | .definition request => request.dueTime system.now
  | .resetFailures => if system.job.resetsDueTime then some system.now else none

/-- The operator sets status and definition between executions only, and never
a due time that has been executed. A scheduled call with one run per tick that
can claim the job finds the due time that its tick has listed. -/
def Undisturbed (system : JobSystem) : JobStep → Prop
  | .operator update =>
    (update ≠ .resetFailures → ∀ id, ¬InProgress system id) ∧
      ∀ execution ∈ system.executions, update.writtenDue system ≠ some execution.due
  | .call id (.claim none) => ∀ call startedAt, system.calls id = some call →
      call.phase = .started startedAt → call.manual = false → call.listed.maxRunsPerTick = 1 →
      (tryClaimScheduledResearchJob system.job startedAt call.manual).isSome →
      system.job.nextRunAt = call.listed.nextRunAt
  | _ => True

/-- The lock and the due times of every reachable state. -/
structure Locked (system : JobSystem) : Prop where
  exclusive : Exclusive system
  held : ∀ id, InProgress system id → system.job.status = .running
  past : ∀ execution ∈ system.executions, execution.due ≤ system.now
  listed : ∀ id call due, system.calls id = some call → call.manual = false →
    call.listed.nextRunAt = some due → due ≤ system.now
  completed : ∀ id call completedAt, system.calls id = some call →
    call.phase.completedAt? = some completedAt →
    ∀ execution ∈ system.executions, execution.due ≤ completedAt
  free : system.job.status ≠ .running →
    ∀ execution ∈ system.executions, system.job.nextRunAt ≠ some execution.due

variable (job : ScheduledResearchJob)

theorem not_inProgress_start (now : DateTime) (id : Nat) : ¬InProgress (.start job now) id := by
  rintro ⟨call, claimed, hNone, -⟩
  cases hNone

theorem locked_start (now : DateTime) : Locked (.start job now) where
  exclusive :=
    { once := fun first _ hFirst => absurd hFirst (not_inProgress_start job now first)
      dueOnce := fun _ => Nat.zero_le 1 }
  held := fun id hProgress => absurd hProgress (not_inProgress_start job now id)
  past := by simp [JobSystem.start]
  listed := fun id call due hNone => by cases hNone
  completed := fun id call completedAt hNone => by cases hNone
  free := by simp [JobSystem.start]

section Steps
variable {policy : ScheduledResearchFailurePolicy} {system : JobSystem} {id : Nat} {call : Call}

variable {other : Nat}

theorem calls_setCall_of_ne (hOther : other ≠ id) :
    (system.setCall id call).calls other = system.calls other := Function.update_of_ne hOther ..

theorem calls_setCall_self : (system.setCall id call).calls id = some call :=
  Function.update_self ..

theorem forall_calls_setCall {P : Nat → Call → Prop} (hCall : P id call)
    (hOthers : ∀ other found, system.calls other = some found → P other found) :
    ∀ other found, (system.setCall id call).calls other = some found → P other found := by
  intro other found hFound
  by_cases hOther : other = id
  · subst hOther
    rw [calls_setCall_self] at hFound
    cases hFound
    exact hCall
  · rw [calls_setCall_of_ne hOther] at hFound
    exact hOthers other found hFound

theorem inProgress_of_completedAt {phase : CallPhase} {completedAt : DateTime}
    (hPhase : phase.completedAt? = some completedAt) : ∃ job, phase.claimed? = some job := by
  cases phase with
  | finished startedAt job execution time => exact ⟨job, rfl⟩
  | recorded job execution time run => exact ⟨job, rfl⟩
  | _ => cases hPhase

theorem inProgress_setCall (hProgress : InProgress (system.setCall id call) other) :
    other ≠ id ∧ InProgress system other ∨ other = id ∧ ∃ job, call.phase.claimed? = some job := by
  obtain ⟨found, job, hFound, hClaimed⟩ := hProgress
  by_cases hOther : other = id
  · subst hOther
    rw [calls_setCall_self] at hFound
    cases hFound
    exact .inr ⟨rfl, job, hClaimed⟩
  · rw [calls_setCall_of_ne hOther] at hFound
    exact .inl ⟨hOther, found, job, hFound, hClaimed⟩

theorem inProgress_of_quiet {next : JobSystem} (hCall : system.calls id = some call)
    (hQuiet : Quiet system next id call) (hProgress : InProgress next other) :
    InProgress system other := by
  obtain ⟨later, runs, rfl, -, -, hPhase⟩ := hQuiet
  rcases inProgress_setCall hProgress with ⟨-, hBefore⟩ | ⟨rfl, job, hClaimed⟩
  · exact hBefore
  · rcases hPhase with ⟨hNone, -⟩ | ⟨hSame, -⟩
    · rw [hNone] at hClaimed
      cases hClaimed
    · exact ⟨call, job, hCall, hSame.symm.trans hClaimed⟩

/-- A change of one call and of the runs keeps the lock, if it starts no
execution and the call has listed and completed no later than it may. -/
theorem Locked.setCall (hLocked : Locked system) (runs : List ScheduledResearchJobRun)
    (hProgress : ∀ other, InProgress (system.setCall id call) other → InProgress system other)
    (hListed : call.manual = false → ∀ due, call.listed.nextRunAt = some due → due ≤ system.now)
    (hCompleted : ∀ completedAt, call.phase.completedAt? = some completedAt →
      ∀ execution ∈ system.executions, execution.due ≤ completedAt) :
    Locked { system.setCall id call with runs := runs } where
  exclusive :=
    { once := fun first second hFirst hSecond =>
        hLocked.exclusive.once first second (hProgress first hFirst) (hProgress second hSecond)
      dueOnce := hLocked.exclusive.dueOnce }
  held := fun other hOther => hLocked.held other (hProgress other hOther)
  past := hLocked.past
  listed := by
    intro other found due hFound
    exact forall_calls_setCall (P := fun _ found => found.manual = false →
      found.listed.nextRunAt = some due → due ≤ system.now) (fun hManual => hListed hManual due)
      (fun other found hFound => hLocked.listed other found due hFound) other found hFound
  completed := by
    intro other found completedAt hFound
    exact forall_calls_setCall (P := fun _ found => found.phase.completedAt? = some completedAt →
      ∀ execution ∈ system.executions, execution.due ≤ completedAt) (hCompleted completedAt)
      (fun other found hFound => hLocked.completed other found completedAt hFound) other found hFound
  free := hLocked.free

theorem Locked.quiet {next : JobSystem} (hLocked : Locked system) (hCall : system.calls id = some call)
    (hQuiet : Quiet system next id call) : Locked next := by
  have hProgress : ∀ other, InProgress next other → InProgress system other :=
    fun other => inProgress_of_quiet hCall hQuiet
  obtain ⟨later, runs, rfl, hListed, hManual, hPhase⟩ := hQuiet
  apply hLocked.setCall runs hProgress
  · intro hScheduled due hDue
    rw [hManual] at hScheduled
    rw [hListed] at hDue
    exact hLocked.listed id call due hCall hScheduled hDue
  · intro completedAt hTime
    rcases hPhase with ⟨-, hNone⟩ | ⟨-, hSame | hNow⟩
    · rw [hNone] at hTime
      cases hTime
    · exact hLocked.completed id call completedAt hCall (hSame.symm.trans hTime)
    · rw [hNow] at hTime
      cases hTime
      exact hLocked.past

theorem executions_logExecution (system : JobSystem) (call : Call) :
    (system.logExecution call).executions = system.executions ∨
      ∃ due, call.manual = false ∧ call.listed.nextRunAt = some due ∧
        (system.logExecution call).executions =
          system.executions ++ [⟨due, call.listed.maxRunsPerTick⟩] := by
  unfold JobSystem.logExecution
  split
  · rename_i due hManual hDue
    exact .inr ⟨due, hManual, hDue, rfl⟩
  · exact .inl rfl

theorem executionsOf_append (executions : List ScheduledExecution) (execution : ScheduledExecution)
    (due : DateTime) :
    (executions ++ [execution]).countP (fun found => found.maxRunsPerTick = 1 ∧ found.due = due) =
      executions.countP (fun found => found.maxRunsPerTick = 1 ∧ found.due = due) +
        if execution.maxRunsPerTick = 1 ∧ execution.due = due then 1 else 0 := by
  rw [countP_append, countP_singleton]
  simp only [decide_eq_true_eq]

section
variable (hLocked : Locked system)
include hLocked

variable {job : ScheduledResearchJob}

theorem Locked.claim {startedAt : DateTime} (hCall : system.calls id = some call)
    (hClaim : tryClaimScheduledResearchJob system.job startedAt call.manual = some job)
    (hFresh : call.manual = false → call.listed.maxRunsPerTick = 1 →
      system.job.nextRunAt = call.listed.nextRunAt) :
    Locked (((system.setJob job).logExecution call).setPhase id call (.claimed startedAt job)) := by
  obtain ⟨hFree, -, hJob⟩ := tryClaimScheduledResearchJob_eq_some.mp hClaim
  have hNone (other : Nat) : ¬InProgress system other := fun hOther => hFree (hLocked.held other hOther)
  have hLog : ((system.setJob job).logExecution call).executions = system.executions ∨
      ∃ due, call.manual = false ∧ call.listed.nextRunAt = some due ∧
        ((system.setJob job).logExecution call).executions =
          system.executions ++ [⟨due, call.listed.maxRunsPerTick⟩] :=
    executions_logExecution (system.setJob job) call
  have hCalls : ((system.setJob job).logExecution call).calls = system.calls := calls_logExecution
  have hNow : ((system.setJob job).logExecution call).now = system.now := now_logExecution
  have hRunning : ((system.setJob job).logExecution call).job.status = .running := by
    rw [job_logExecution, hJob]
    rfl
  generalize (system.setJob job).logExecution call = logged at hLog hCalls hNow hRunning ⊢
  have hOnly (other : Nat) (hOther : InProgress (logged.setPhase id call (.claimed startedAt job))
      other) : other = id := by
    rcases inProgress_setCall hOther with ⟨-, found, claimed, hFound, hClaimed⟩ | ⟨hSame, -⟩
    · rw [hCalls] at hFound
      exact absurd ⟨found, claimed, hFound, hClaimed⟩ (hNone other)
    · exact hSame
  constructor
  · constructor
    · exact fun first second hFirst hSecond => (hOnly first hFirst).trans (hOnly second hSecond).symm
    · intro due
      have hCount := hLocked.exclusive.dueOnce due
      unfold JobSystem.executionsOf at hCount ⊢
      change logged.executions.countP _ ≤ 1
      rcases hLog with hSame | ⟨listedDue, hManual, hDue, hLog⟩
      · rw [hSame]
        exact hCount
      · rw [hLog, executionsOf_append]
        split
        · rename_i hEntry
          obtain ⟨hOnce, rfl⟩ := hEntry
          have hUnused : system.executions.countP
              (fun found => found.maxRunsPerTick = 1 ∧ found.due = listedDue) = 0 := by
            rw [countP_eq_zero]
            intro execution hExecution hSame
            have hOther := hLocked.free hFree execution hExecution
            rw [hFresh hManual hOnce, hDue] at hOther
            simp only [decide_eq_true_eq] at hSame
            exact hOther (congrArg some hSame.2.symm)
          rw [hUnused]
        · exact hCount
  · exact fun other _ => hRunning
  · change ∀ execution ∈ logged.executions, execution.due ≤ logged.now
    rw [hNow]
    rcases hLog with hSame | ⟨due, hManual, hDue, hLog⟩
    · rw [hSame]
      exact hLocked.past
    · rw [hLog, forall_mem_append, forall_mem_singleton]
      exact ⟨hLocked.past, hLocked.listed id call due hCall hManual hDue⟩
  · intro other found due hFound
    refine forall_calls_setCall (P := fun _ found => found.manual = false →
      found.listed.nextRunAt = some due → due ≤ logged.now) ?_ ?_ other found hFound
    · rw [hNow]
      exact hLocked.listed id call due hCall
    · rw [hCalls, hNow]
      exact fun other found hFound => hLocked.listed other found due hFound
  · intro other found completedAt hFound hTime
    have hProgress := inProgress_of_completedAt hTime
    obtain ⟨claimed, hClaimed⟩ := hProgress
    have hSame := hOnly other ⟨found, claimed, hFound, hClaimed⟩
    subst hSame
    rw [JobSystem.setPhase, calls_setCall_self] at hFound
    cases hFound
    cases hTime
  · exact fun hNotRunning => absurd hRunning hNotRunning

theorem Locked.mark {execution : ScheduledJobExecution} {completedAt : DateTime}
    {result : ScheduledResearchJobRun} (hCall : system.calls id = some call)
    (hPhase : call.phase = .recorded job execution completedAt result) :
    Locked ((system.setJob (markScheduledResearchJobAfterRun system.job completedAt
      (jobCompletionUpdate job execution completedAt policy))).setPhase id call
        (.returned (.ok result))) := by
  have hHolds : InProgress system id := ⟨call, job, hCall, by rw [hPhase]; rfl⟩
  have hNone (other : Nat) : ¬InProgress ((system.setJob (markScheduledResearchJobAfterRun system.job
      completedAt (jobCompletionUpdate job execution completedAt policy))).setPhase id call
        (.returned (.ok result))) other := by
    intro hOther
    rcases inProgress_setCall hOther with ⟨hDifferent, hBefore⟩ | ⟨-, claimed, hClaimed⟩
    · exact hDifferent (hLocked.exclusive.once other id hBefore hHolds)
    · cases hClaimed
  constructor
  · exact ⟨fun first _ hFirst => absurd hFirst (hNone first), hLocked.exclusive.dueOnce⟩
  · exact fun other hOther => absurd hOther (hNone other)
  · exact hLocked.past
  · intro other found due hFound
    refine forall_calls_setCall (P := fun _ found => found.manual = false →
      found.listed.nextRunAt = some due → due ≤ system.now) ?_ ?_ other found hFound
    · exact hLocked.listed id call due hCall
    · exact fun other found hFound => hLocked.listed other found due hFound
  · intro other found time hFound hTime
    obtain ⟨claimed, hClaimed⟩ := inProgress_of_completedAt hTime
    exact absurd ⟨found, claimed, hFound, hClaimed⟩ (hNone other)
  · intro _ logged hLogged hDue
    have hBefore := hLocked.completed id call completedAt hCall (by rw [hPhase]; rfl) logged hLogged
    exact absurd (nextRunAt_jobCompletionUpdate hDue) (not_lt.mpr hBefore)

theorem Locked.setReady {listed : ScheduledResearchJob} {manual : Bool} {remaining : Nat}
    (hListed : manual = false → ∀ due, listed.nextRunAt = some due → due ≤ system.now) :
    Locked (system.setCall id ⟨listed, manual, remaining, .ready⟩) := by
  apply hLocked.setCall system.runs _ hListed
  · intro completedAt hTime
    cases hTime
  · intro other hOther
    rcases inProgress_setCall hOther with ⟨-, hBefore⟩ | ⟨-, claimed, hClaimed⟩
    · exact hBefore
    · cases hClaimed

theorem Locked.advance (elapsed : Nat) : Locked { system with now := system.now + elapsed } := by
  have hLater : system.now ≤ system.now + elapsed := Int.le_add_of_nonneg_right (Int.natCast_nonneg _)
  constructor
  · exact ⟨hLocked.exclusive.once, hLocked.exclusive.dueOnce⟩
  · exact hLocked.held
  · exact fun execution hExecution => (hLocked.past execution hExecution).trans hLater
  · exact fun id call due hCall hManual hDue => (hLocked.listed id call due hCall hManual hDue).trans hLater
  · exact hLocked.completed
  · exact hLocked.free

/-- An update between executions keeps the lock free for a due time that has
not been executed. -/
theorem Locked.setStatus {paused : Bool} (hNone : ∀ id, ¬InProgress system id)
    (hDue : ∀ execution ∈ system.executions, job.nextRunAt ≠ some execution.due) :
    Locked { system with job := job, operatorPaused := paused } := by
  constructor
  · exact ⟨hLocked.exclusive.once, hLocked.exclusive.dueOnce⟩
  · exact fun id hProgress => absurd hProgress (hNone id)
  · exact hLocked.past
  · exact hLocked.listed
  · exact hLocked.completed
  · exact fun _ => hDue

theorem Locked.resetFailures (hDue : ∀ execution ∈ system.executions,
      OperatorUpdate.resetFailures.writtenDue system ≠ some execution.due) :
    Locked (operatorUpdate system .resetFailures) := by
  constructor
  · exact ⟨hLocked.exclusive.once, hLocked.exclusive.dueOnce⟩
  · intro id hProgress
    have hRunning := hLocked.held id hProgress
    simp [operatorUpdate, JobSystem.setJob, resetScheduledResearchJobFailures, hRunning]
  · exact hLocked.past
  · exact hLocked.listed
  · exact hLocked.completed
  · intro hFree execution hExecution
    have hBefore : system.job.status ≠ .running := by
      intro hRunning
      apply hFree
      simp [operatorUpdate, JobSystem.setJob, resetScheduledResearchJobFailures, hRunning]
    have hWritten := hDue execution hExecution
    simp only [operatorUpdate, JobSystem.setJob, resetScheduledResearchJobFailures]
    simp only [OperatorUpdate.writtenDue] at hWritten
    split
    · rename_i hResets
      rw [if_pos hResets] at hWritten
      exact hWritten
    · exact hLocked.free hBefore execution hExecution

theorem Locked.operatorUpdate {update : OperatorUpdate}
    (hUndisturbed : Undisturbed system (.operator update)) :
    Locked (operatorUpdate system update) := by
  obtain ⟨hNone, hDue⟩ := hUndisturbed
  cases update with
  | status enabled target nextRunAt => exact hLocked.setStatus (hNone (by simp)) hDue
  | definition request =>
    simp only [Scheduler.operatorUpdate]
    split
    · rename_i job hUpdate
      refine hLocked.setStatus (hNone (by simp)) ?_
      unfold updateScheduledResearchJobDefinition at hUpdate
      split at hUpdate
      · cases hUpdate
      · cases hUpdate
        exact hDue
    · exact hLocked
  | resetFailures => exact hLocked.resetFailures hDue

end

theorem locked_jobStep (step : JobStep) (hLocked : Locked system)
    (hUndisturbed : Undisturbed system step) : Locked (jobStep policy system step) := by
  cases step with
  | advance elapsed => exact hLocked.advance elapsed
  | listDue id withinLimit =>
    simp only [jobStep]
    split
    · rename_i hListed
      apply hLocked.setReady
      intro _ due hDue
      simp only [isDue, hDue, Bool.and_eq_true, Option.any_some, decide_eq_true_eq] at hListed
      exact hListed.2.1.2
    · exact hLocked
  | runOnce id =>
    simp only [jobStep]
    split
    · apply hLocked.setReady
      exact fun hManual => by cases hManual
    · exact hLocked
  | operator update => exact hLocked.operatorUpdate hUndisturbed
  | call id event =>
    simp only [jobStep]
    split
    · rename_i call hCall
      rcases callEvent_cases policy system id call event with hSame | hQuiet | hClaimed | hMarked
      · rw [hSame]
        exact hLocked
      · exact hLocked.quiet hCall hQuiet
      · obtain ⟨startedAt, job, rfl, hPhase, hClaim, hNext⟩ := hClaimed
        rw [hNext]
        exact hLocked.claim hCall hClaim (fun hManual hOnce => hUndisturbed call startedAt hCall hPhase
          hManual hOnce (Option.isSome_of_eq_some hClaim))
      · obtain ⟨job, execution, completedAt, result, -, hPhase, hNext⟩ := hMarked
        rw [hNext]
        exact hLocked.mark hCall hPhase
    · exact hLocked

end Steps

/-- Executions of a job do not overlap, and a due time leads to one scheduled
execution at most, in every state of a run in which the operator's updates
come between executions with due times of their own and scheduled claims find
the due time of their listing. -/
theorem executions_exclusive (policy : ScheduledResearchFailurePolicy) (job : ScheduledResearchJob)
    (now : DateTime) (steps : List JobStep)
    (hUndisturbed : Along (jobStep policy) Undisturbed (.start job now) steps) :
    Throughout (jobStep policy) Exclusive (.start job now) steps :=
  throughout_of_along (fun _ step hLocked hStep => locked_jobStep step hLocked hStep)
    (fun _ hLocked => hLocked.exclusive) (locked_start job now) hUndisturbed

/-- A scheduled run, and a manual run that starts while it is executed and is
turned away. -/
def overlapRefused : List JobStep :=
  [.listDue 0 true] ++ claimAndExecute 0 ++ [.runOnce 1, .call 1 .start, .call 1 (.claim none)] ++
    recordAndMark 0

theorem executions_exclusive_sample :
    Throughout (jobStep .default) Exclusive (.start sampleJob 0) overlapRefused := by
  apply executions_exclusive
  refine ⟨trivial, trivial, ?_, trivial, trivial, trivial, trivial, trivial, ?_, trivial, trivial,
    trivial⟩
  · intro call startedAt hCall _ _ _ _
    cases hCall
    rfl
  · intro call startedAt hCall _ hScheduled
    cases hCall
    cases hScheduled

/-- The operator resumes the job while it is executed, and a manual run starts
as well. -/
def resumedDuringRun : List JobStep :=
  [.listDue 0 true, .call 0 .start, .call 0 (.claim none), .call 0 (.countBefore none),
    .operator (.status true .enabled (some (DateTime.seconds 5))), .runOnce 1, .call 1 .start,
    .call 1 (.claim none), .call 1 (.countBefore none)]

/-- Two ticks list the job before either claims it. -/
def listedTwice : List JobStep :=
  [.listDue 0 true, .listDue 1 true] ++ claimAndExecute 0 ++ recordAndMark 0 ++ claimAndExecute 1

/-- Two executions at the same time, and a due time executed twice. -/
theorem executions_overlap_and_repeat :
    ¬Exclusive (run (jobStep .default) (.start sampleJob 0) resumedDuringRun) ∧
      ¬Exclusive (run (jobStep .default) (.start sampleJob 0) listedTwice) := by
  constructor
  · intro hExclusive
    have hFirst : InProgress (run (jobStep .default) (.start sampleJob 0) resumedDuringRun) 0 :=
      ⟨_, _, rfl, rfl⟩
    have hSecond : InProgress (run (jobStep .default) (.start sampleJob 0) resumedDuringRun) 1 :=
      ⟨_, _, rfl, rfl⟩
    exact absurd (hExclusive.once 0 1 hFirst hSecond) (by decide)
  · intro hExclusive
    have hTwice : (run (jobStep .default) (.start sampleJob 0) listedTwice).executionsOf 0 = 2 := by
      decide +kernel
    have hOnce := hExclusive.dueOnce 0
    rw [hTwice] at hOnce
    exact absurd hOnce (by decide)

end AegisQuant.Scheduler
