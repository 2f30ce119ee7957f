import AegisQuant.Library.Run
import AegisQuant.Migrations.Files

/-! Runs of the migration tool against one database, any number of them at once.
Each statement of a call is a step. What a transaction has inserted is not in the
ledger before it commits, and keeps other transactions from inserting the same
version. -/
namespace AegisQuant.Migrations

def requiredObjects : List String :=
  ["scheduled_research_jobs", "derivatives_funding_rates", "candidate_review_events", "symbols",
    "market_ticks", "candles", "research_batches", "strategy_experiments"]

def candidateObjects : List String := ["research_candidates", "strategy_research_candidates"]

def versionedObjects : List (String × String) :=
  [("symbols", "0001"), ("market_ticks", "0004"), ("candles", "0004"),
    ("strategy_experiments", "0022"), ("strategy_research_candidates", "0026"),
    ("research_candidates", "0029"), ("research_batches", "0038"),
    ("scheduled_research_jobs", "0052"), ("derivatives_funding_rates", "0071"),
    ("candidate_review_events", "0073"), ("microstructure_collector_runs", "0074"),
    ("microstructure_spread_metrics", "0074"), ("microstructure_imbalance_metrics", "0074"),
    ("microstructure_liquidity_metrics", "0074")]

def debugNames (names : List String) : String :=
  "[" ++ String.intercalate ", " (names.map fun name => "\"" ++ name ++ "\"") ++ "]"

/-- `found` are the base tables of the schema. -/
def verifyExistingAegisDatabaseForBaseline (found : List String) (targetVersion : String) :
    Except Fault Unit :=
  let tables := found.filter fun name => name ≠ "schema_migrations" ∧ name ≠ "_sqlx_migrations"
  let missingRequired := requiredObjects.filter (· ∉ tables)
  let hasCandidateTable := candidateObjects.any (· ∈ tables)
  let incompatible := versionedObjects.filter fun object =>
    object.1 ∈ tables ∧ targetVersion < object.2
  if tables.isEmpty then .error (.message "baseline refused: database schema is empty")
  else if ¬missingRequired.isEmpty ∨ ¬hasCandidateTable then
    .error (.message ("baseline refused: database does not look like the expected Aegis production schema; missing_required=" ++
      debugNames missingRequired ++ " has_candidate_table=" ++ toString hasCandidateTable))
  else if ¬incompatible.isEmpty then
    .error (.message ("baseline refused: target version " ++ targetVersion ++
      " is lower than detected schema objects: " ++
      String.intercalate ", " (incompatible.map fun object =>
        object.1 ++ " requires baseline target >= " ++ object.2)))
  else .ok ()

/-- `entries` is what a call finds in the directory. -/
structure MigrationRunConfig where
  entries : List (Except Fault DirEntry)
  appliedBy : Option String

structure MigrationBaselineConfig where
  entries : List (Except Fault DirEntry)
  upTo : String
  confirmProductionBaseline : Bool
  dryRun : Bool
  appliedBy : Option String

structure AppliedMigration where
  version : String
  filename : String
  executionMs : Int

structure SkippedMigration where
  version : String
  filename : String

def MigrationFile.skipped (file : MigrationFile) : SkippedMigration := ⟨file.version, file.filename⟩

structure MigrationRunReport where
  totalMigrations : Nat
  applied : List AppliedMigration
  skipped : List SkippedMigration

structure MigrationBaselineReport where
  targetVersion : String
  dryRun : Bool
  totalConsidered : Nat
  alreadyApplied : List SkippedMigration
  recorded : List SkippedMigration
  wouldRecord : List SkippedMigration

/-- A run that goes through the files of its set. `ledger` is the ledger it has
loaded, and `rest` the files it has not come to. -/
structure RunProgress where
  appliedBy : Option String
  set : MigrationSet
  ledger : Ledger
  applied : List AppliedMigration
  skipped : List SkippedMigration
  rest : List MigrationFile

/-- How far a call has come. -/
inductive Caller where
  | run (config : MigrationRunConfig)
  | runListed (appliedBy : Option String) (set : MigrationSet)
  | running (progress : RunProgress)
  | executed (progress : RunProgress) (file : MigrationFile) (executionMs : Int)
  | recorded (progress : RunProgress) (file : MigrationFile) (executionMs : Int)
  | runEnded (progress : RunProgress) (result : Except Fault MigrationRunReport)
  | baseline (config : MigrationBaselineConfig)
  | baselineListed (config : MigrationBaselineConfig) (set : MigrationSet)
  | baselineVerified (config : MigrationBaselineConfig) (set : MigrationSet)
  | recording (config : MigrationBaselineConfig) (set : MigrationSet) (ledger : Ledger)
      (inserted rest : List MigrationFile)
  | baselineEnded (config : MigrationBaselineConfig) (set : MigrationSet) (ledger : Ledger)
      (report : MigrationBaselineReport)
  | failed (fault : Fault)
  | stopped

/-- `executed` are the files whose SQL has been committed and `baselined` those
that a baseline has recorded, each with the call that did it; `keys` are the
versions that open transactions have inserted. -/
structure MigrationSystem where
  ledger : Ledger
  executed : List (Nat × MigrationFile)
  baselined : List (Nat × MigrationFile)
  keys : String → Option Nat
  callers : Nat → Option Caller

/-- An advancing call takes its next statement; `tables` are the tables a schema
query returns and `executionMs` the time its SQL takes. A call stops where a
statement fails or its process dies. -/
inductive MigrationStep where
  | startRun (id : Nat) (config : MigrationRunConfig)
  | startBaseline (id : Nat) (config : MigrationBaselineConfig)
  | advance (id : Nat) (tables : List String) (executionMs : Int)
  | stop (id : Nat)

namespace MigrationSystem

def empty : MigrationSystem := ⟨Table.empty, [], [], fun _ => none, fun _ => none⟩

def setCaller (system : MigrationSystem) (id : Nat) (caller : Caller) : MigrationSystem :=
  { system with callers := Function.update system.callers id (some caller) }

/-- The end of a transaction frees the versions it has inserted. -/
def release (system : MigrationSystem) (id : Nat) : MigrationSystem :=
  { system with keys := fun version => if system.keys version = some id then none
      else system.keys version }

/-- A call that ends undoes the transaction it has open. -/
def endWith (system : MigrationSystem) (id : Nat) (caller : Caller) : MigrationSystem :=
  (system.release id).setCaller id caller

/-- The insertion of a version that is not committed and that no other
transaction has inserted. It waits for one that has. -/
def insertKey (system : MigrationSystem) (id : Nat) (version : String)
    (taken next : Caller) : MigrationSystem :=
  if (system.ledger.find? version).isSome then system.endWith id taken
  else if (system.keys version).any (· ≠ id) then system
  else { system.setCaller id next with keys := Function.update system.keys version (some id) }

def commitMigration (system : MigrationSystem) (id : Nat) (progress : RunProgress)
    (file : MigrationFile) (executionMs : Int) : MigrationSystem :=
  match system.ledger.insert? (file.recordOf progress.appliedBy (some executionMs)) with
  | none => system.endWith id (.failed (.message "duplicate key value violates unique constraint"))
  | some ledger =>
    { system.endWith id (.running { progress with
        applied := progress.applied ++ [⟨file.version, file.filename, executionMs⟩] }) with
      ledger := ledger
      executed := system.executed ++ [(id, file)] }

def commitBaseline (system : MigrationSystem) (id : Nat) (config : MigrationBaselineConfig)
    (files : List MigrationFile) (ended : Caller) : MigrationSystem :=
  match system.ledger.insertAll? (files.map fun file => file.recordOf config.appliedBy none) with
  | none => system.endWith id (.failed (.message "duplicate key value violates unique constraint"))
  | some ledger =>
    { system.endWith id ended with
      ledger := ledger
      baselined := system.baselined ++ files.map fun file => (id, file) }

end MigrationSystem

def runReport (progress : RunProgress) : MigrationRunReport :=
  ⟨progress.set.files.length, progress.applied, progress.skipped⟩

/-- The files of a baseline. -/
def selected (config : MigrationBaselineConfig) (set : MigrationSet) : List MigrationFile :=
  set.files.filter (·.version ≤ config.upTo)

def inLedger (ledger : Ledger) (file : MigrationFile) : Bool := (ledger.find? file.version).isSome

def toRecord (config : MigrationBaselineConfig) (set : MigrationSet) (ledger : Ledger) :
    List MigrationFile :=
  (selected config set).filter fun file => !inLedger ledger file

def baselineReport (config : MigrationBaselineConfig) (set : MigrationSet) (ledger : Ledger) :
    MigrationBaselineReport where
  targetVersion := config.upTo
  dryRun := config.dryRun
  totalConsidered := (selected config set).length
  alreadyApplied := ((selected config set).filter (inLedger ledger)).map (·.skipped)
  recorded := if config.dryRun then [] else (toRecord config set ledger).map (·.skipped)
  wouldRecord := if config.dryRun then (toRecord config set ledger).map (·.skipped) else []

def verifyChecksums (files : List MigrationFile) (ledger : Ledger) : Except Fault Unit :=
  files.forM fun file => match ledger.find? file.version with
    | some record => verifyChecksum file record
    | none => .ok ()

section Step
variable (sha256Hex : List UInt8 → String)

def advanceRun (system : MigrationSystem) (id : Nat) (progress : RunProgress) (executionMs : Int) :
    MigrationSystem :=
  match progress.rest with
  | [] => system.setCaller id (.runEnded progress (.ok (runReport progress)))
  | file :: rest =>
    match progress.ledger.find? file.version with
    | some record =>
      match verifyChecksum file record with
      | .error fault => system.setCaller id (.runEnded progress (.error fault))
      | .ok _ => system.setCaller id (.running { progress with
          skipped := progress.skipped ++ [file.skipped]
          rest := rest })
    | none => system.setCaller id (.executed { progress with rest := rest } file executionMs)

def startBaseline (config : MigrationBaselineConfig) : Caller :=
  if ¬config.confirmProductionBaseline then
    .failed (.message "baseline refused: pass --confirm-production-baseline explicitly")
  else
    match loadMigrationFiles sha256Hex config.entries with
    | .error fault => .failed fault
    | .ok set =>
      if ¬set.files.any (·.version = config.upTo) then
        .failed (.message ("baseline refused: target migration version " ++ config.upTo ++
          " does not exist"))
      else .baselineListed config set

/-- The ledger of a baseline is loaded and checked, and unless the run is dry its
transaction begins. -/
def loadBaseline (config : MigrationBaselineConfig) (set : MigrationSet) (ledger : Ledger) : Caller :=
  match verifyChecksums (selected config set) ledger with
  | .error fault => .failed fault
  | .ok _ =>
    if config.dryRun then .baselineEnded config set ledger (baselineReport config set ledger)
    else .recording config set ledger [] (toRecord config set ledger)

def advance (system : MigrationSystem) (id : Nat) (tables : List String) (executionMs : Int) :
    Caller → MigrationSystem
  | .run config => system.setCaller id (match loadMigrationFiles sha256Hex config.entries with
      | .error fault => .failed fault
      | .ok set => .runListed config.appliedBy set)
  | .runListed appliedBy set =>
    system.setCaller id (.running ⟨appliedBy, set, system.ledger, [], [], set.files⟩)
  | .running progress => advanceRun system id progress executionMs
  | .executed progress file ms =>
    system.insertKey id file.version
      (.failed (.message "duplicate key value violates unique constraint"))
      (.recorded progress file ms)
  | .recorded progress file ms => system.commitMigration id progress file ms
  | .baseline config => system.setCaller id (startBaseline sha256Hex config)
  | .baselineListed config set => system.setCaller id
      (match verifyExistingAegisDatabaseForBaseline tables config.upTo with
        | .error fault => .failed fault
        | .ok _ => .baselineVerified config set)
  | .baselineVerified config set => system.setCaller id (loadBaseline config set system.ledger)
  | .recording config set ledger inserted [] =>
    system.commitBaseline id config inserted
      (.baselineEnded config set ledger (baselineReport config set ledger))
  | .recording config set ledger inserted (file :: rest) =>
    system.insertKey id file.version
      (.failed (.message "duplicate key value violates unique constraint"))
      (.recording config set ledger (inserted ++ [file]) rest)
  | .runEnded .. | .baselineEnded .. | .failed _ | .stopped => system

def step (system : MigrationSystem) : MigrationStep → MigrationSystem
  | .startRun id config =>
    if (system.callers id).isSome then system else system.setCaller id (.run config)
  | .startBaseline id config =>
    if (system.callers id).isSome then system else system.setCaller id (.baseline config)
  | .advance id tables executionMs =>
    (system.callers id).elim system (advance sha256Hex system id tables executionMs)
  | .stop id => (system.callers id).elim system fun caller => match caller with
      | .runEnded .. | .baselineEnded .. | .failed _ => system
      | _ => system.endWith id .stopped

end Step

end AegisQuant.Migrations
