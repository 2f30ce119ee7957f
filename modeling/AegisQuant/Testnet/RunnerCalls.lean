import AegisQuant.Library.Run
import AegisQuant.Testnet.ShadowRunner
import Mathlib.Algebra.GroupWithZero.Nat

/-! Ticks and control actions of the shadow runner at the same time, one
statement of the database per step. Every call reads the state row, or creates
it if it finds none, and later writes the whole row back, so a write loses
whatever other calls have written since the row was read. -/
namespace AegisQuant.Testnet
open Transition

inductive RunnerCall where
  | view
  | tick (mode : RunnerTickMode)
  | control (action : TestnetShadowRunnerControlAction)

/-- How far a call has come; `loaded` holds the row it has read. -/
inductive RunnerPhase where
  | started
  | creating
  | loaded (state : TestnetShadowRunnerState)
  | returned

/-- What a call brings along when it writes: a tick its configuration, the
outcomes of its runs and the time it was started. -/
structure RunnerWrite where
  config : TestnetShadowRunnerConfig
  outcomes : List (Option String)
  startedAt : DateTime
  now : DateTime

inductive RunnerStep where
  | request (id : Nat) (call : RunnerCall)
  | read (id : Nat)
  | create (id : Nat) (now : DateTime)
  | write (id : Nat) (written : RunnerWrite)
  | crash (id : Nat)

/-- `halted` says that a stop or a pause has been written and neither a start
nor a resume requested since; `ticks` lists the completed runs of each tick
that reached its final write. -/
structure RunnerSystem where
  row : Option TestnetShadowRunnerState
  calls : Nat → Option (RunnerCall × RunnerPhase)
  halted : Bool
  ticks : List Nat

namespace RunnerSystem

def start : RunnerSystem where
  row := none
  calls := fun _ => none
  halted := false
  ticks := []

def setPhase (system : RunnerSystem) (id : Nat) (call : RunnerCall) (phase : RunnerPhase) :
    RunnerSystem :=
  { system with calls := Function.update system.calls id (some (call, phase)) }

end RunnerSystem

def RunnerCall.lifts : RunnerCall → Bool
  | .control .start | .control .resume => true
  | _ => false

def RunnerCall.halts : RunnerCall → Bool
  | .control .stop | .control .pause => true
  | _ => false

/-- The row a call writes, if it gets to a write, and the completed runs it
counts in it. -/
def writtenState (call : RunnerCall) (state : TestnetShadowRunnerState) (written : RunnerWrite) :
    Option (TestnetShadowRunnerState × Option Nat) :=
  match call with
  | .view => none
  | .tick mode =>
    match planTick written.config state mode with
    | .invalid issues => some (failedTickState state issues written.now, none)
    | .noOp _ => none
    | .run pairs =>
      let counts := runPairs pairs written.outcomes
      some (completedTickState state mode counts written.startedAt written.now,
        some counts.completedRuns)
  | .control action =>
    match controlledState state written.now action with
    | .ok updated => some (updated, none)
    | .error _ => none

def writeRow (system : RunnerSystem) (call : RunnerCall) (state : TestnetShadowRunnerState)
    (written : RunnerWrite) : RunnerSystem :=
  match writtenState call state written with
  | none => system
  | some (updated, counted) => { system with
      row := some updated
      halted := system.halted || call.halts
      ticks := system.ticks ++ counted.toList }

def runnerStep (system : RunnerSystem) : RunnerStep → RunnerSystem
  | .request id call =>
    match system.calls id with
    | some _ => system
    | none => { system.setPhase id call .started with halted := system.halted && !call.lifts }
  | .read id =>
    match system.calls id with
    | some (call, .started) => system.setPhase id call (match system.row with
        | some state => .loaded state
        | none => .creating)
    | _ => system
  | .create id now =>
    match system.calls id with
    | some (call, .creating) =>
      { system.setPhase id call (.loaded (defaultTestnetShadowRunnerState now)) with
        row := some (defaultTestnetShadowRunnerState now) }
    | _ => system
  | .write id written =>
    match system.calls id with
    | some (call, .loaded state) => (writeRow system call state written).setPhase id call .returned
    | _ => system
  | .crash id =>
    match system.calls id with
    | some (call, _) => system.setPhase id call .returned
    | none => system

/-- The two counters of a row; without a row nothing is counted. -/
def runnerTotals (row : Option TestnetShadowRunnerState) : Int × Int :=
  match row with
  | none => (0, 0)
  | some state => (state.totalTicks, state.totalRuns)

/-- A stopped or paused runner is not running. -/
def StaysHalted (system : RunnerSystem) : Prop :=
  system.halted = true → ∀ state ∈ system.row, state.status ≠ .running

/-- The row counts the ticks that reached their final write, and their runs. -/
def CountsTicks (system : RunnerSystem) : Prop :=
  runnerTotals system.row = ((system.ticks.length : Int), ((system.ticks.sum : Nat) : Int))

structure RunnerSound (system : RunnerSystem) : Prop where
  halted : StaysHalted system
  counted : CountsTicks system

def Writes (call : RunnerCall) (state : TestnetShadowRunnerState) (config : TestnetShadowRunnerConfig) :
    Prop :=
  match call with
  | .view => False
  | .tick mode => ∀ reason, planTick config state mode ≠ .noOp reason
  | .control .pause => state.status = .running
  | .control .resume => state.status = .paused ∨ state.status = .error
  | .control _ => True

/-- The call is about to run pairs for a row read as running, or to start or
resume the runner. -/
def Reruns (call : RunnerCall) (state : TestnetShadowRunnerState)
    (config : TestnetShadowRunnerConfig) : Prop :=
  match call with
  | .tick mode => state.status = .running ∧ ∃ pairs, planTick config state mode = .run pairs
  | .control .start | .control .resume => True
  | _ => False

/-- A call that writes does so while the counters are those of the row it has
read, or while there are none if it creates the row, and it does not set a
halted runner running. -/
def WritesFresh (system : RunnerSystem) : RunnerStep → Prop
  | .create id _ => ∀ call, system.calls id = some (call, .creating) →
      runnerTotals system.row = (0, 0)
  | .write id written => ∀ call state, system.calls id = some (call, .loaded state) →
      Writes call state written.config →
      runnerTotals system.row = runnerTotals (some state) ∧
        ¬(system.halted = true ∧ Reruns call state written.config)
  | _ => True

section Writes
variable {call : RunnerCall} {state updated : TestnetShadowRunnerState} {written : RunnerWrite}
  {counted : Option Nat}

theorem writtenState_isSome : (writtenState call state written).isSome ↔
    Writes call state written.config := by
  cases call with
  | view => simp [writtenState, Writes]
  | tick mode =>
    simp only [writtenState, Writes]
    cases planTick written.config state mode with
    | invalid issues => simp
    | noOp reason => simp
    | run pairs => simp
  | control action =>
    cases action with
    | start => simp [writtenState, Writes, controlledState]
    | stop => simp [writtenState, Writes, controlledState]
    | pause =>
      by_cases hRunning : state.status = .running
      · simp [writtenState, Writes, controlledState, hRunning]
      · simp [writtenState, Writes, controlledState, hRunning]
    | resume =>
      by_cases hPaused : state.status = .paused ∨ state.status = .error
      · simp [writtenState, Writes, controlledState, hPaused]
      · simp [writtenState, Writes, controlledState, hPaused]

/-- What is written: the counters read plus what the call counts itself, and
the status running only by a call that reruns; a stop or pause writes neither
more. -/
theorem writtenState_eq (hWritten : writtenState call state written = some (updated, counted)) :
    (updated.totalTicks = state.totalTicks + counted.toList.length ∧
      updated.totalRuns = state.totalRuns + counted.toList.sum) ∧
    (updated.status = .running ↔ Reruns call state written.config) := by
  cases call with
  | view => cases hWritten
  | tick mode =>
    simp only [writtenState] at hWritten
    cases hPlan : planTick written.config state mode with
    | noOp reason => simp [hPlan] at hWritten
    | invalid issues =>
      simp only [hPlan, Option.some.injEq, Prod.mk.injEq] at hWritten
      obtain ⟨rfl, rfl⟩ := hWritten
      simp [failedTickState, Reruns, hPlan]
    | run pairs =>
      simp only [hPlan, Option.some.injEq, Prod.mk.injEq] at hWritten
      obtain ⟨rfl, rfl⟩ := hWritten
      rw [status_completedTickState]
      simp [completedTickState, Reruns, hPlan]
  | control action =>
    simp only [writtenState] at hWritten
    cases hControl : controlledState state written.now action with
    | error fault => simp [hControl] at hWritten
    | ok controlled =>
      simp only [hControl, Option.some.injEq, Prod.mk.injEq] at hWritten
      obtain ⟨rfl, rfl⟩ := hWritten
      cases action with
      | start =>
        cases hControl
        simp [Reruns]
      | stop =>
        cases hControl
        simp [Reruns]
      | pause =>
        simp only [controlledState] at hControl
        split at hControl
        · cases hControl
        · cases hControl
          simp [Reruns]
      | resume =>
        simp only [controlledState] at hControl
        split at hControl
        · cases hControl
          simp [Reruns]
        · cases hControl

end Writes

section Steps
variable {system : RunnerSystem}

theorem sound_setPhase_iff (id : Nat) (call : RunnerCall) (phase : RunnerPhase) :
    RunnerSound (system.setPhase id call phase) ↔ RunnerSound system :=
  ⟨fun sound => ⟨sound.halted, sound.counted⟩, fun sound => ⟨sound.halted, sound.counted⟩⟩

theorem not_reruns_of_halts {call : RunnerCall} {state : TestnetShadowRunnerState}
    {config : TestnetShadowRunnerConfig} (hHalts : call.halts = true) :
    ¬Reruns call state config := by
  cases call with
  | view => cases hHalts
  | tick mode => cases hHalts
  | control action => cases action <;> simp_all [RunnerCall.halts, Reruns]

theorem sound_writeRow_iff (sound : RunnerSound system) (call : RunnerCall)
    (state : TestnetShadowRunnerState) (written : RunnerWrite) :
    RunnerSound (writeRow system call state written) ↔ (Writes call state written.config →
        runnerTotals system.row = runnerTotals (some state) ∧
          ¬(system.halted = true ∧ Reruns call state written.config)) := by
  rw [← writtenState_isSome]
  unfold writeRow
  cases hWritten : writtenState call state written with
  | none => simp [sound]
  | some result =>
    obtain ⟨updated, counted⟩ := result
    obtain ⟨⟨hTicks, hRuns⟩, hRunning⟩ := writtenState_eq hWritten
    have hCounted : CountsTicks { system with
          row := some updated
          halted := system.halted || call.halts
          ticks := system.ticks ++ counted.toList } ↔
        runnerTotals system.row = runnerTotals (some state) := by
      rw [show runnerTotals system.row = _ from sound.counted]
      simp only [CountsTicks, runnerTotals, hTicks, hRuns, List.length_append, List.sum_append,
        Nat.cast_add, add_left_inj, Prod.mk.injEq]
      constructor
      · rintro ⟨hFirst, hSecond⟩
        exact ⟨hFirst.symm, hSecond.symm⟩
      · rintro ⟨hFirst, hSecond⟩
        exact ⟨hFirst.symm, hSecond.symm⟩
    have hHalted : StaysHalted { system with
          row := some updated
          halted := system.halted || call.halts
          ticks := system.ticks ++ counted.toList } ↔
        ¬(system.halted = true ∧ Reruns call state written.config) := by
      simp only [StaysHalted, Option.mem_def, Option.some.injEq, forall_eq', Bool.or_eq_true,
        ne_eq, hRunning]
      constructor
      · rintro hStays ⟨hStood, hReruns⟩
        exact hStays (.inl hStood) hReruns
      · rintro hFresh (hStood | hHalts) hReruns
        · exact hFresh ⟨hStood, hReruns⟩
        · exact not_reruns_of_halts hHalts hReruns
    constructor
    · intro next _
      exact ⟨hCounted.mp next.counted, hHalted.mp next.halted⟩
    · intro hFresh
      obtain ⟨hTotals, hNone⟩ := hFresh rfl
      exact ⟨hHalted.mpr hNone, hCounted.mpr hTotals⟩

theorem sound_create_iff (sound : RunnerSound system) (now : DateTime) :
    RunnerSound { system with row := some (defaultTestnetShadowRunnerState now) } ↔
      runnerTotals system.row = (0, 0) := by
  have hTotals : runnerTotals system.row = _ := sound.counted
  constructor
  · intro created
    rw [hTotals]
    exact created.counted.symm
  · intro hNone
    refine ⟨?_, hNone.symm.trans hTotals⟩
    rintro - _ ⟨⟩
    exact nofun

theorem sound_runnerStep_iff (sound : RunnerSound system) (step : RunnerStep) :
    RunnerSound (runnerStep system step) ↔ WritesFresh system step := by
  cases step with
  | request id call =>
    simp only [runnerStep, WritesFresh, iff_true]
    split
    · exact sound
    · refine ⟨fun hHalted => sound.halted ?_, sound.counted⟩
      simp only [Bool.and_eq_true] at hHalted
      exact hHalted.1
  | read id =>
    simp only [runnerStep, WritesFresh, iff_true]
    split
    · exact (sound_setPhase_iff ..).mpr sound
    · exact sound
  | create id now =>
    simp only [runnerStep, WritesFresh]
    split
    · rename_i call hCall
      have hCreate := sound_create_iff sound now
      simp only [hCall, Option.some.injEq, Prod.mk.injEq, and_true, forall_eq']
      rw [← hCreate]
      exact ⟨fun next => ⟨next.halted, next.counted⟩, fun next => ⟨next.halted, next.counted⟩⟩
    · rename_i hOther
      simp only [sound, true_iff]
      intro call hCall
      exact absurd hCall (hOther call)
  | write id written =>
    simp only [runnerStep, WritesFresh]
    split
    · rename_i call state hCall
      rw [sound_setPhase_iff, sound_writeRow_iff sound]
      simp only [hCall, Option.some.injEq, Prod.mk.injEq, RunnerPhase.loaded.injEq]
      constructor
      · rintro hFresh _ _ ⟨rfl, rfl⟩
        exact hFresh
      · intro hFresh
        exact hFresh call state ⟨rfl, rfl⟩
    · rename_i hOther
      simp only [sound, true_iff]
      intro call state hCall
      exact absurd hCall (hOther call state)
  | crash id =>
    simp only [runnerStep, WritesFresh, iff_true]
    split
    · exact (sound_setPhase_iff ..).mpr sound
    · exact sound

end Steps

open RunnerSystem

/-- Throughout a run a stopped or paused runner is not running and the row
counts every tick and every run, exactly if all writes of the run are fresh. -/
theorem runner_sound_iff (steps : List RunnerStep) : Throughout runnerStep RunnerSound start steps ↔
      Along runnerStep WritesFresh start steps := by
  have hStart : RunnerSound start := ⟨nofun, rfl⟩
  rw [throughout_iff_along, and_iff_right hStart]
  exact along_iff_of_invariant (fun _ step sound => sound_runnerStep_iff sound step)
    (fun _ step sound hFresh => (sound_runnerStep_iff sound step).mpr hFresh) steps hStart

def sampleRunnerConfig : TestnetShadowRunnerConfig where
  enabled := true
  intervalSeconds := 60
  strategies := ["momentum_v1"]
  symbols := ["BTCUSDT"]
  timeframe := "1m"
  maxRunsPerTick := 1

def sampleWrite : RunnerWrite := ⟨sampleRunnerConfig, [none], 0, 0⟩

/-- The runner is stopped while a tick that has read it running is at work. -/
def stopDuringTick : List RunnerStep :=
  [.request 0 (.control .start), .read 0, .create 0 0, .write 0 sampleWrite,
    .request 1 (.tick .scheduled), .read 1,
    .request 2 (.control .stop), .read 2, .write 2 sampleWrite,
    .write 1 sampleWrite]

/-- Two ticks that have read the same row count as one. -/
def overlappingTicks : List RunnerStep :=
  [.request 0 (.tick .manualRunOnce), .read 0, .create 0 0,
    .request 1 (.tick .manualRunOnce), .read 1, .write 0 sampleWrite, .write 1 sampleWrite]

theorem stopped_runner_runs_again : (¬∀ steps, StaysHalted (run runnerStep start steps)) ∧
      ¬∀ steps, CountsTicks (run runnerStep start steps) := by
  constructor
  · intro hStays
    have hHalted : (run runnerStep start stopDuringTick).halted = true := by
      decide +kernel
    have hRow : ((run runnerStep start stopDuringTick).row.map (·.status)) =
        some .running := by decide +kernel
    obtain ⟨state, hState, hStatus⟩ := Option.map_eq_some_iff.mp hRow
    exact hStays stopDuringTick hHalted state hState hStatus
  · intro hCounts
    have hCounted := hCounts overlappingTicks
    revert hCounted
    unfold CountsTicks
    decide +kernel

end AegisQuant.Testnet
