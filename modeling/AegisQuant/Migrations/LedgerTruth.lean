import AegisQuant.Migrations.TruthfulLedger

/-! What can be read off the ledger. Every version in it has been executed or
recorded once, in the order of the files, and a run that has met a changed file
is over. -/
namespace AegisQuant.Migrations
open Transition List MigrationSystem

section Ended

/-- A step of one call leaves the others where they are. -/
def KeepsOthers (system after : MigrationSystem) (id : Nat) : Prop :=
  ∀ other, other ≠ id → after.callers other = system.callers other ∧
    after.executedBy other = system.executedBy other

variable {sha256Hex : List UInt8 → String} {system after : MigrationSystem} {id : Nat} {caller : Caller}
variable {executionMs : Int} {result : Except Fault MigrationRunReport}

theorem keepsOthers_of_update (hExecuted : after.executed = system.executed)
    (hCallers : after.callers = Function.update system.callers id (some caller)) :
    KeepsOthers system after id := by
  intro other hOther
  rw [hCallers, Function.update_of_ne hOther, executedBy, hExecuted]
  exact ⟨rfl, rfl⟩

theorem setCaller_keepsOthers : KeepsOthers system (system.setCaller id caller) id :=
  keepsOthers_of_update rfl rfl

theorem endWith_keepsOthers : KeepsOthers system (system.endWith id caller) id :=
  keepsOthers_of_update rfl rfl

theorem insertKey_keepsOthers {version : String} {taken next : Caller} :
    KeepsOthers system (system.insertKey id version taken next) id := by
  unfold insertKey
  split
  · exact keepsOthers_of_update rfl rfl
  · split
    · exact fun _ _ => ⟨rfl, rfl⟩
    · exact keepsOthers_of_update rfl rfl

theorem commitMigration_keepsOthers {progress : RunProgress} {file : MigrationFile} :
    KeepsOthers system (system.commitMigration id progress file executionMs) id := by
  unfold commitMigration
  split
  · exact keepsOthers_of_update rfl rfl
  · intro other hOther
    exact ⟨Function.update_of_ne hOther .., loggedBy_append_of_ne system.executed hOther [file]⟩

theorem commitBaseline_keepsOthers {config : MigrationBaselineConfig} {files : List MigrationFile} :
    KeepsOthers system (system.commitBaseline id config files caller) id := by
  unfold commitBaseline
  split
  · exact keepsOthers_of_update rfl rfl
  · exact keepsOthers_of_update rfl rfl

theorem advanceRun_keepsOthers {progress : RunProgress} :
    KeepsOthers system (advanceRun system id progress executionMs) id := by
  unfold advanceRun
  split
  · exact keepsOthers_of_update rfl rfl
  · split
    · split <;> exact keepsOthers_of_update rfl rfl
    · exact keepsOthers_of_update rfl rfl

theorem advance_keepsOthers {tables : List String} :
    KeepsOthers system (advance sha256Hex system id tables executionMs caller) id := by
  cases caller with
  | run | runListed | baseline | baselineListed | baselineVerified =>
    exact keepsOthers_of_update rfl rfl
  | running => exact advanceRun_keepsOthers
  | executed => exact insertKey_keepsOthers
  | recorded => exact commitMigration_keepsOthers
  | recording config set ledger inserted rest =>
    cases rest with
    | nil => exact commitBaseline_keepsOthers
    | cons => exact insertKey_keepsOthers
  | runEnded | baselineEnded | failed | stopped => exact fun _ _ => ⟨rfl, rfl⟩

section
variable {progress : RunProgress} (hEnded : system.callers id = some (.runEnded progress result))
include hEnded

theorem step_ended (input : MigrationStep) :
    (step sha256Hex system input).callers id = system.callers id ∧
      (step sha256Hex system input).executedBy id = system.executedBy id := by
  cases input with
  | startRun other config | startBaseline other config =>
    simp only [step]
    split
    · exact ⟨rfl, rfl⟩
    · rename_i hUnused
      refine setCaller_keepsOthers id fun hSame => hUnused ?_
      rw [← hSame, hEnded]
      rfl
  | advance other tables executionMs =>
    simp only [step]
    by_cases hOther : id = other
    · rw [← hOther, hEnded]
      exact ⟨hEnded, rfl⟩
    · cases hCaller : system.callers other with
      | none => exact ⟨rfl, rfl⟩
      | some caller => exact advance_keepsOthers id hOther
  | stop other =>
    simp only [step]
    by_cases hOther : id = other
    · rw [← hOther, hEnded]
      exact ⟨hEnded, rfl⟩
    · cases hCaller : system.callers other with
      | none => exact ⟨rfl, rfl⟩
      | some caller =>
        simp only [Option.elim]
        split
        · exact ⟨rfl, rfl⟩
        · exact ⟨rfl, rfl⟩
        · exact ⟨rfl, rfl⟩
        · exact endWith_keepsOthers id hOther

theorem run_ended (inputs : List MigrationStep) :
    (run (step sha256Hex) system inputs).executedBy id = system.executedBy id := by
  induction inputs generalizing system with
  | nil => rfl
  | cons input rest ih =>
    have hStep : (step sha256Hex system input).callers id = system.callers id ∧
        (step sha256Hex system input).executedBy id = system.executedBy id :=
      step_ended hEnded input
    exact (ih (hStep.1.trans hEnded)).trans hStep.2

end

end Ended

section Truth

def Caller.progress : Caller → Option RunProgress
  | .running progress | .executed progress .. | .recorded progress .. | .runEnded progress _ =>
    some progress
  | _ => none

/-- A baseline has recorded all it selected that was not in the ledger it had
loaded, or nothing. -/
def AllOrNothing (system : MigrationSystem) (id : Nat) : Prop :=
  system.baselinedBy id = [] ∨ ∃ config set ledger report,
    system.callers id = some (.baselineEnded config set ledger report) ∧
    system.baselinedBy id = toRecord config set ledger ∧
    ∀ file ∈ selected config set, inLedger system.ledger file ∧ checksumMismatch ledger file = none

structure LedgerTruth (system : MigrationSystem) : Prop where
  once : ((system.executed ++ system.baselined).map (·.2.version)).Nodup
  inOrder : system.executed.Pairwise fun earlier later => earlier.2.filename < later.2.filename
  exact : (system.ledger.rows.map (·.version)).Perm
    ((system.executed ++ system.baselined).map (·.2.version))
  matching : ∀ id caller progress, system.callers id = some caller →
    caller.progress = some progress → ∀ changed ∈ progress.set.files,
      checksumMismatch progress.ledger changed ≠ none →
        ∀ file ∈ system.executedBy id, file.filename < changed.filename
  baselines : ∀ id, AllOrNothing system id
  counts : ∀ set, (migrationStatus set system.ledger).appliedCount +
    (migrationStatus set system.ledger).pendingCount = set.files.length

variable {names : List String} {system : MigrationSystem} {id : Nat}

theorem Progressing.executed_before {progress : RunProgress} {done ahead : List MigrationFile}
    (hProgress : Progressing names system id progress done ahead) {changed file : MigrationFile}
    (hMem : changed ∈ progress.set.files) (hChanged : checksumMismatch progress.ledger changed ≠ none)
    (hFile : file ∈ system.executedBy id) : file.filename < changed.filename := by
  have hAscending := hProgress.files ▸ progress.set.ascending
  rw [hProgress.files] at hMem
  rcases mem_append.mp hMem with hDone | hAhead
  · exact absurd (hProgress.matching changed hDone) hChanged
  · exact MigrationFile.filename_lt
      ((pairwise_append.mp hAscending).2.2 file (hProgress.executed file hFile) changed hAhead)

theorem CallerSound.progressing {caller : Caller} (hSound : CallerSound names system id caller)
    {progress : RunProgress} (hProgress : caller.progress = some progress) :
    ∃ done ahead, Progressing names system id progress done ahead := by
  cases caller with
  | running | runEnded =>
    cases hProgress
    obtain ⟨done, hOld⟩ := hSound
    exact ⟨done, _, hOld⟩
  | executed | recorded =>
    cases hProgress
    obtain ⟨-, done, hOld⟩ := hSound
    exact ⟨done, _, hOld⟩
  | run | runListed | baseline | baselineListed | baselineVerified | recording | baselineEnded
  | failed | stopped => cases hProgress

theorem Truthful.allOrNothing (hTruth : Truthful names system) (id : Nat) :
    AllOrNothing system id := by
  cases hCaller : system.callers id with
  | none => exact .inl (hTruth.unused id hCaller).baselined
  | some caller =>
    have hSound := hTruth.callers id caller hCaller
    by_cases hEnded : ∃ config set ledger report, caller = .baselineEnded config set ledger report
    · obtain ⟨config, set, ledger, report, rfl⟩ := hEnded
      cases hDry : config.dryRun with
      | true => exact .inl (hSound.1 hDry)
      | false =>
        have hRecorded := hSound.2 hDry
        exact .inr ⟨config, set, ledger, report, hCaller, hRecorded.baselined,
          fun file hFile => ⟨hRecorded.present file hFile, hRecorded.matching file hFile⟩⟩
    · exact .inl (hSound.baselinedBy_eq_nil fun config set ledger report hSame =>
        hEnded ⟨config, set, ledger, report, hSame⟩)

theorem Truthful.ledgerTruth (hTruth : Truthful names system) : LedgerTruth system where
  once := hTruth.rows.nodup_iff.mp system.ledger.unique
  inOrder := hTruth.ascending.imp MigrationFile.filename_lt
  exact := hTruth.rows
  matching id caller progress hCaller hProgress changed hMem hChanged file hFile := by
    obtain ⟨done, ahead, hRun⟩ := (hTruth.callers id caller hCaller).progressing hProgress
    exact hRun.executed_before hMem hChanged hFile
  baselines := hTruth.allOrNothing
  counts set := appliedCount_add_pendingCount set system.ledger

/-- The ledger tells the truth in every state that calls over one set of names
can reach, and a run that has ended, on a changed file or otherwise, executes
nothing from then on. -/
theorem ledger_tells_truth (sha256Hex : List UInt8 → String) (names : List String)
    (steps : List MigrationStep) (hFinds : ∀ input ∈ steps, FindsFiles names input) :
    Throughout (step sha256Hex) (fun system => LedgerTruth system ∧
      ∀ id progress result later, system.callers id = some (.runEnded progress result) →
        (run (step sha256Hex) system later).executedBy id = system.executedBy id)
      empty steps :=
  throughout_of_along (I := Truthful names) (C := fun _ input => FindsFiles names input)
    (fun _ _ hTruth hInput => step_truthful hTruth hInput)
    (fun _ hTruth => ⟨hTruth.ledgerTruth, fun _ _ _ later hEnded => run_ended hEnded later⟩)
    empty_truthful (along_of_forall hFinds _)

def sampleEntries : List (Except Fault DirEntry) :=
  [.ok ⟨"0002_candles.sql", .ok [2]⟩, .ok ⟨"README.md", .ok []⟩, .ok ⟨"0001_symbols.sql", .ok [1]⟩]

def sampleSteps : List MigrationStep :=
  [.startRun 0 ⟨sampleEntries, none⟩, .startRun 1 ⟨sampleEntries, none⟩, .advance 1 [] 0,
    .advance 1 [] 0, .advance 1 [] 0] ++ replicate 10 (.advance 0 [] 0) ++ [.advance 1 [] 0]

def sampleSha256Hex (contents : List UInt8) : String := toString contents

theorem ledger_tells_truth_sample :
    ((run (step sampleSha256Hex) .empty sampleSteps).executed.map fun entry =>
      (entry.1, entry.2.version)) = [(0, "0001"), (0, "0002")] ∧
    Throughout (step sampleSha256Hex) (fun system => LedgerTruth system ∧
      ∀ id progress result later, system.callers id = some (.runEnded progress result) →
        (run (step sampleSha256Hex) system later).executedBy id = system.executedBy id)
      empty sampleSteps :=
  ⟨by decide +kernel, ledger_tells_truth sampleSha256Hex ["0001_symbols.sql", "0002_candles.sql"]
    sampleSteps (by
      have hNames : (sqlNames sampleEntries).Perm ["0001_symbols.sql", "0002_candles.sql"] := by
        decide +kernel
      intro input hInput
      simp only [sampleSteps, mem_append, mem_cons, mem_replicate, not_mem_nil, or_false] at hInput
      rcases hInput with ((rfl | rfl | rfl | rfl | rfl) | ⟨-, rfl⟩) | rfl
      · exact hNames
      · exact hNames
      all_goals trivial)⟩

end Truth

end AegisQuant.Migrations
