import AegisQuant.Core.Strategy

/-! The testnet shadow runner: a tick runs the configured pairs of strategy and
symbol and counts them in the runner's state row, and the control actions set
the status of that row. Both write back the whole row they have read. -/
namespace AegisQuant.Testnet

inductive TestnetShadowRunnerStatus where
  | stopped
  | running
  | paused
  | error
  deriving DecidableEq, Repr

def TestnetShadowRunnerStatus.asStr : TestnetShadowRunnerStatus → String
  | .stopped => "STOPPED"
  | .running => "RUNNING"
  | .paused => "PAUSED"
  | .error => "ERROR"

structure TestnetShadowRunnerConfig where
  enabled : Bool
  intervalSeconds : Int
  strategies : List String
  symbols : List String
  timeframe : String
  maxRunsPerTick : Int

/-- An issue of a configuration: a fixed text, or a symbol with what is wrong
about it. -/
inductive RunnerConfigIssue where
  | text (content : String)
  | invalidSymbol (value : String) (error : CoreError)
  deriving DecidableEq

/-- The error kept in the state row: the issues of the configuration, or the
strategy, the symbol and the error of each failed run. -/
inductive RunnerError where
  | invalidConfig (issues : List RunnerConfigIssue)
  | failedRuns (runs : List (String × String × String))
  deriving DecidableEq

structure TestnetShadowRunnerState where
  status : TestnetShadowRunnerStatus
  lastTickAt : Option DateTime
  lastSuccessAt : Option DateTime
  lastError : Option RunnerError
  totalTicks : Int
  totalRuns : Int
  updatedAt : DateTime
  deriving DecidableEq

def defaultTestnetShadowRunnerState (now : DateTime) : TestnetShadowRunnerState where
  status := .stopped
  lastTickAt := none
  lastSuccessAt := none
  lastError := none
  totalTicks := 0
  totalRuns := 0
  updatedAt := now

def checkSymbol (value : String) : Option RunnerConfigIssue :=
  match Symbol.new value with
  | .ok _ => none
  | .error err => some (.invalidSymbol value err)

def validateTestnetShadowRunnerConfig (config : TestnetShadowRunnerConfig) :
    List RunnerConfigIssue :=
  let strategies := (config.strategies.map fun value => toAsciiLowercase (trim value)).filter
    fun value => value ≠ ""
  let symbols := config.symbols.filterMap fun value => (Symbol.new value).toOption
  (if config.intervalSeconds ≤ 0 then [.text "interval_seconds must be greater than 0"] else []) ++
    (if config.maxRunsPerTick ≤ 0 then [.text "max_runs_per_tick must be greater than 0"] else []) ++
    (if strategies.isEmpty then [.text "at least one strategy is required"] else []) ++
    config.symbols.filterMap checkSymbol ++
    (if symbols.isEmpty then [.text "at least one symbol is required"] else []) ++
    (if (CandleInterval.fromStr (toAsciiLowercase (trim config.timeframe))).isOk then []
      else [.text "timeframe must be a supported candle interval"])

inductive RunnerTickMode where
  | scheduled
  | manualRunOnce
  deriving DecidableEq, Repr

def scheduledTickNoopReason (config : TestnetShadowRunnerConfig) (state : TestnetShadowRunnerState)
    (mode : RunnerTickMode) : Option String :=
  if mode ≠ .scheduled then none
  else if config.enabled = false then some "runner config is disabled"
  else if state.status = .paused ∨ state.status = .stopped then
    some ("runner state is " ++ state.status.asStr)
  else none

def boundedStrategySymbolPairs (config : TestnetShadowRunnerConfig) : List (String × String) :=
  (config.strategies.flatMap fun strategyId => config.symbols.map fun symbol =>
    (strategyId, symbol)).take config.maxRunsPerTick.toNat

structure TickCounts where
  attemptedRuns : Nat
  completedRuns : Nat
  failedRuns : Nat
  errors : List (String × String × String)

/-- Runs the pairs in their order; `outcomes` are the errors of their runs,
none where a run succeeds. -/
def runPairs : List (String × String) → List (Option String) → TickCounts
  | [], _ => ⟨0, 0, 0, []⟩
  | (strategyId, symbol) :: rest, outcomes =>
    let counts := runPairs rest outcomes.tail
    match outcomes.head?.join with
    | none => { counts with
        attemptedRuns := counts.attemptedRuns + 1
        completedRuns := counts.completedRuns + 1 }
    | some err => { counts with
        attemptedRuns := counts.attemptedRuns + 1
        failedRuns := counts.failedRuns + 1
        errors := (strategyId, symbol, err) :: counts.errors }

inductive TestnetShadowRunnerTickStatus where
  | noOp
  | completed
  | partialFailure
  | failed
  deriving DecidableEq, Repr

def tickStatus (counts : TickCounts) : TestnetShadowRunnerTickStatus :=
  if counts.failedRuns = 0 then .completed
  else if counts.completedRuns > 0 then .partialFailure
  else .failed

/-- What a tick goes on to do with the configuration and the state it read. -/
inductive TickPlan where
  | invalid (issues : List RunnerConfigIssue)
  | noOp (reason : String)
  | run (pairs : List (String × String))

def planTick (config : TestnetShadowRunnerConfig) (state : TestnetShadowRunnerState)
    (mode : RunnerTickMode) : TickPlan :=
  match validateTestnetShadowRunnerConfig config with
  | issue :: issues => .invalid (issue :: issues)
  | [] => match scheduledTickNoopReason config state mode with
      | some reason => .noOp reason
      | none => .run (boundedStrategySymbolPairs config)

def failedTickState (state : TestnetShadowRunnerState) (issues : List RunnerConfigIssue)
    (now : DateTime) : TestnetShadowRunnerState :=
  { state with status := .error, lastError := some (.invalidConfig issues), updatedAt := now }

def completedTickState (state : TestnetShadowRunnerState) (mode : RunnerTickMode)
    (counts : TickCounts) (startedAt now : DateTime) : TestnetShadowRunnerState where
  status := if state.status = .error ∧ mode = .scheduled then .error else state.status
  lastTickAt := some startedAt
  lastSuccessAt := if tickStatus counts ≠ .failed then some now else state.lastSuccessAt
  lastError := if counts.errors.isEmpty then none else some (.failedRuns counts.errors)
  totalTicks := state.totalTicks + 1
  totalRuns := state.totalRuns + counts.completedRuns
  updatedAt := now

inductive TestnetShadowRunnerControlAction where
  | start
  | stop
  | pause
  | resume
  deriving DecidableEq, Repr

def controlledState (state : TestnetShadowRunnerState) (now : DateTime) :
    TestnetShadowRunnerControlAction → Except Fault TestnetShadowRunnerState
  | .start => .ok { state with status := .running, lastError := none, updatedAt := now }
  | .stop => .ok { state with status := .stopped, updatedAt := now }
  | .pause =>
    if state.status ≠ .running then .error (.message "runner can only be paused from RUNNING")
    else .ok { state with status := .paused, updatedAt := now }
  | .resume =>
    if state.status = .paused ∨ state.status = .error then
      .ok { state with status := .running, lastError := none, updatedAt := now }
    else .error (.message "runner can only be resumed from PAUSED or ERROR")

section Specifications
variable {state : TestnetShadowRunnerState} {mode : RunnerTickMode} {counts : TickCounts}

theorem status_completedTickState (startedAt now : DateTime) :
    (completedTickState state mode counts startedAt now).status = state.status := by
  simp only [completedTickState]
  split
  · rename_i hError
    exact hError.1.symm
  · rfl

end Specifications

end AegisQuant.Testnet
