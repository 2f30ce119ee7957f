import AegisQuant.Scheduler.Calls

/-! The operator's pause. The completion of a run writes back the enabled
column of the row that the run has claimed, and a status that goes with it, so
a pause set in the meantime stands only if that row was disabled already. -/
namespace AegisQuant.Scheduler
open Transition ScheduledResearchJobStatus

/-- While the operator's pause stands the job is never due. -/
def PauseHolds (system : JobSystem) : Prop :=
  system.operatorPaused = true → ∀ now, isDue system.job now = false

/-- A completion written while the pause stands is that of a row claimed
disabled, or the one that pauses the job for its failures. -/
def KeepsPause (policy : ScheduledResearchFailurePolicy) (system : JobSystem) : JobStep → Prop
  | .call id (.markAfterRun none) =>
    system.operatorPaused = true → ∀ call job execution completedAt run,
      system.calls id = some call → call.phase = .recorded job execution completedAt run →
      job.enabled = false ∨ AutoPauses job execution policy
  | _ => True

/-- What keeps a paused job from being due. -/
def PausedRow (system : JobSystem) : Prop :=
  system.operatorPaused = true → system.job.enabled = false ∨ system.job.status.isRunnable = false

section Completion
variable {job : ScheduledResearchJob} {execution : ScheduledJobExecution}
  {policy : ScheduledResearchFailurePolicy}

theorem enabled_jobCompletionUpdate {completedAt : DateTime} :
    (jobCompletionUpdate job execution completedAt policy).enabled = false ↔
      job.enabled = false ∨ AutoPauses job execution policy := by
  simp only [jobCompletionUpdate, AutoPauses]
  split
  · rename_i hFailed
    split
    · rename_i hLimit
      simp [hFailed, hLimit]
    · rename_i hLimit
      simp [hFailed, hLimit]
  · rename_i hFailed
    simp [hFailed]

theorem isDue_of_completion (current : ScheduledResearchJob) (completedAt : DateTime)
    (hEnabled : job.enabled = true) (hPauses : ¬AutoPauses job execution policy) :
    ∃ now, isDue (markScheduledResearchJobAfterRun current completedAt
      (jobCompletionUpdate job execution completedAt policy)) now = true := by
  have hNormal := scheduledResearchNextRunAt_toOption completedAt job.intervalPositive
  by_cases hFailed : execution.status = .failed
  · have hLimit : ¬policy.maxConsecutiveFailures ≤ job.nextFailureCount :=
      fun hLimit => hPauses ⟨hFailed, hLimit⟩
    cases hBackoff : scheduledResearchBackoffUntil completedAt job.nextFailureCount
        policy.backoffBaseSeconds policy.backoffMaxSeconds with
    | none =>
      refine ⟨completedAt + DateTime.seconds job.intervalSeconds, ?_⟩
      simp [isDue, markScheduledResearchJobAfterRun, jobCompletionUpdate, hFailed, hLimit, hBackoff,
        hNormal, hEnabled, isRunnable]
    | some due =>
      refine ⟨due, ?_⟩
      simp [isDue, markScheduledResearchJobAfterRun, jobCompletionUpdate, hFailed, hLimit, hBackoff,
        hEnabled, isRunnable]
  · refine ⟨completedAt + DateTime.seconds job.intervalSeconds, ?_⟩
    simp [isDue, markScheduledResearchJobAfterRun, jobCompletionUpdate, hFailed, hNormal, hEnabled,
      isRunnable]

end Completion

section Steps
variable {policy : ScheduledResearchFailurePolicy} {system : JobSystem}

theorem pauseHolds_of_pausedRow (hRow : PausedRow system) : PauseHolds system := by
  intro hPaused now
  rcases hRow hPaused with hDisabled | hStatus
  · simp [isDue, hDisabled]
  · simp [isDue, hStatus]

theorem pausedRow_operatorUpdate (update : OperatorUpdate) (hRow : PausedRow system) :
    PausedRow (operatorUpdate system update) := by
  cases update with
  | status enabled target nextRunAt =>
    intro hPaused
    have hPause : enabled = false ∨ target = .paused ∨ target = .disabled := by
      simpa [operatorUpdate, OperatorUpdate.isPause, or_assoc] using hPaused
    rcases hPause with rfl | rfl | rfl
    · exact .inl rfl
    · exact .inr rfl
    · exact .inr rfl
  | definition request =>
    simp only [operatorUpdate]
    split
    · rename_i job hUpdate
      intro hPaused
      unfold updateScheduledResearchJobDefinition at hUpdate
      split at hUpdate
      · cases hUpdate
      · cases hUpdate
        left
        simpa [OperatorUpdate.isPause] using hPaused
    · exact hRow
  | resetFailures =>
    intro hPaused
    rcases hRow hPaused with hDisabled | hStatus
    · left
      simp [operatorUpdate, JobSystem.setJob, resetScheduledResearchJobFailures, hDisabled]
    · right
      cases hJob : system.job.status <;>
        simp_all [operatorUpdate, JobSystem.setJob, resetScheduledResearchJobFailures, isRunnable]

theorem pausedRow_jobStep (step : JobStep) (hRow : PausedRow system)
    (hKeeps : KeepsPause policy system step) : PausedRow (jobStep policy system step) := by
  cases step with
  | advance elapsed => exact hRow
  | listDue id withinLimit =>
    simp only [jobStep]
    split
    · exact hRow
    · exact hRow
  | runOnce id =>
    simp only [jobStep]
    split
    · exact hRow
    · exact hRow
  | operator update => exact pausedRow_operatorUpdate update hRow
  | call id event =>
    simp only [jobStep]
    split
    · rename_i call hCall
      rcases callEvent_cases policy system id call event with hSame | hQuiet | hClaimed | hMarked
      · rw [hSame]
        exact hRow
      · obtain ⟨later, runs, hNext, -⟩ := hQuiet
        rw [hNext]
        exact hRow
      · obtain ⟨startedAt, job, -, -, hClaim, hNext⟩ := hClaimed
        obtain ⟨-, -, rfl⟩ := tryClaimScheduledResearchJob_eq_some.mp hClaim
        rw [hNext]
        intro _
        right
        rw [job_setPhase, job_logExecution]
        rfl
      · obtain ⟨job, execution, completedAt, run, rfl, hPhase, hNext⟩ := hMarked
        rw [hNext]
        intro hPaused
        exact .inl (enabled_jobCompletionUpdate.mpr
          (hKeeps hPaused call job execution completedAt run hCall hPhase))
    · exact hRow

theorem keepsPause_of_pauseHolds (step : JobStep) (hHolds : PauseHolds (jobStep policy system step)) :
    KeepsPause policy system step := by
  unfold KeepsPause
  split
  · rename_i id
    intro hPaused call job execution completedAt run hCall hPhase
    by_contra hNeither
    obtain ⟨hEnabled, hPauses⟩ := not_or.mp hNeither
    rw [Bool.not_eq_false] at hEnabled
    obtain ⟨now, hDue⟩ := isDue_of_completion system.job completedAt hEnabled hPauses
    simp only [jobStep, hCall, callEvent, hPhase] at hHolds
    have hNotDue : isDue _ now = false := hHolds hPaused now
    exact absurd (hDue.symm.trans hNotDue) (by decide)
  · trivial

end Steps

/-- The pause of the operator stands in every state of a run exactly when no
completion lifts it. -/
theorem pause_stands_iff (policy : ScheduledResearchFailurePolicy) (job : ScheduledResearchJob)
    (now : DateTime) (steps : List JobStep) :
    Throughout (jobStep policy) PauseHolds (.start job now) steps ↔
      Along (jobStep policy) (KeepsPause policy) (.start job now) steps := by
  have hStart : PausedRow (.start job now) := fun hPaused => by cases hPaused
  have hAgree : ∀ system step, PausedRow system →
      (PauseHolds (jobStep policy system step) ↔ KeepsPause policy system step) :=
    fun system step hRow => ⟨keepsPause_of_pauseHolds step,
      fun hKeeps => pauseHolds_of_pausedRow (pausedRow_jobStep step hRow hKeeps)⟩
  rw [throughout_iff_along, along_iff_of_invariant hAgree
    (fun system step hRow hKeeps => pausedRow_jobStep step hRow hKeeps) steps hStart]
  exact and_iff_right (pauseHolds_of_pausedRow hStart)

def pauseDuringRun : List JobStep :=
  [.listDue 0 true] ++ claimAndExecute 0 ++ [.operator (.status false .paused none)] ++ recordAndMark 0

/-- A pause during a run is gone when the run completes. -/
theorem pause_lifted_by_completion :
    ¬PauseHolds (run (jobStep .default) (.start sampleJob 0) pauseDuringRun) := by
  intro hHolds
  have hPaused : (run (jobStep .default) (.start sampleJob 0) pauseDuringRun).operatorPaused = true := by
    decide +kernel
  have hDue : isDue (run (jobStep .default) (.start sampleJob 0) pauseDuringRun).job
      (DateTime.seconds 60) = true := by
    decide +kernel
  have hNotDue := hHolds hPaused (DateTime.seconds 60)
  rw [hDue] at hNotDue
  cases hNotDue

end AegisQuant.Scheduler
