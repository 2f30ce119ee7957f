import AegisQuant.Migrations.Runs

/-! What the ledger says of a database after any number of calls, whatever they
interleave with and wherever they stop. A file is committed only after all files
before it, and its version goes into the ledger with it. -/
namespace AegisQuant.Migrations
open Fallible SortByKey Option MigrationSystem

section SameFiles

/-- The names of the migration files that a call finds in the directory. -/
def sqlNames (entries : List (Except Fault DirEntry)) : List String :=
  ((entries.filterMap (·.toOption)).map (·.name)).filter (pathExtension · = some "sql")

/-- The calls all find the same files, whatever is in them by then. -/
def FindsFiles (names : List String) : MigrationStep → Prop
  | .startRun _ config => (sqlNames config.entries).Perm names
  | .startBaseline _ config => (sqlNames config.entries).Perm names
  | _ => True

def versionsOf (names : List String) : List String :=
  (sort id names).map fun name => (parseMigrationVersion name).toOption.getD ""

variable {sha256Hex : List UInt8 → String} {entries : List (Except Fault DirEntry)}
  {names : List String} {set : MigrationSet}

theorem filename_of_loadMigrationFile {entry : DirEntry} {found : Option MigrationFile}
    (hLoad : loadMigrationFile sha256Hex entry = .ok found) :
    found.toList.map (·.filename) = [entry.name].filter (pathExtension · = some "sql") := by
  unfold loadMigrationFile at hLoad
  split at hLoad
  · rename_i hExtension
    cases hLoad
    simp [hExtension]
  · rename_i hExtension
    rw [not_not] at hExtension
    split at hLoad
    · cases hLoad
    · obtain ⟨contents, -, hFile⟩ := bind_eq_ok.mp hLoad
      rw [pure_eq_ok] at hFile
      rw [← hFile]
      simp [hExtension]

open List

theorem filenames_of_mapM {found : List (Option MigrationFile)}
    (hLoad : entries.mapM (fun entry => entry >>= loadMigrationFile sha256Hex) = .ok found) :
    found.reduceOption.map (·.filename) = sqlNames entries := by
  induction entries generalizing found with
  | nil =>
    rw [mapM_nil, pure_eq_ok] at hLoad
    rw [← hLoad]
    rfl
  | cons entry rest ih =>
    simp only [mapM_cons, bind_eq_ok, pure_eq_ok] at hLoad
    obtain ⟨file, ⟨read, hRead, hFile⟩, files, hFiles, rfl⟩ := hLoad
    have hHead := filename_of_loadMigrationFile hFile
    have hRest := ih hFiles
    have hNames : sqlNames (entry :: rest) =
        [read.name].filter (pathExtension · = some "sql") ++ sqlNames rest := by
      rw [hRead, sqlNames, sqlNames, ← filter_append, singleton_append, ← map_cons]
      rfl
    rw [hNames, ← hHead, ← hRest]
    cases file <;> rfl

/-- A call that loads the files finds them in the order of their names. -/
theorem versions_of_loadMigrationFiles (hLoad : loadMigrationFiles sha256Hex entries = .ok set)
    (hNames : (sqlNames entries).Perm names) : set.files.map (·.version) = versionsOf names := by
  obtain ⟨found, hFound, hSet⟩ := bind_eq_ok.mp hLoad
  have hFiles : (set.files.map (·.filename)).Perm names := by
    simp only at hSet
    split at hSet
    · cases hSet
    · rw [pure_eq_ok] at hSet
      rw [← hSet]
      refine ((perm_sort _ _).map _).trans ?_
      rw [filenames_of_mapM hFound]
      exact hNames
  have hSorted : (set.files.map (·.filename)).Pairwise (· ≤ ·) :=
    pairwise_map.mpr (set.ascending.imp fun hBelow => (MigrationFile.filename_lt hBelow).le)
  have hSame : set.files.map (·.filename) = sort id names := by
    refine (hFiles.trans (perm_sort id names).symm).eq_of_pairwise ?_ hSorted
      (pairwise_sort id names)
    exact fun _ _ _ _ hBelow hAbove => le_antisymm hBelow hAbove
  rw [versionsOf, ← hSame, List.map_map]
  refine map_congr_left fun file _ => ?_
  rw [Function.comp_apply, file.named]
  rfl

end SameFiles

/-- The files that a log has of one call. -/
def loggedBy (log : List (Nat × MigrationFile)) (id : Nat) : List MigrationFile :=
  (log.filter (·.1 = id)).map (·.2)

variable (log : List (Nat × MigrationFile))

theorem loggedBy_append_self (id : Nat) (files : List MigrationFile) :
    loggedBy (log ++ files.map fun file => (id, file)) id = loggedBy log id ++ files := by
  simp only [loggedBy, List.filter_append, List.map_append]
  congr 1
  induction files with
  | nil => rfl
  | cons file rest ih => simpa using ih

theorem loggedBy_append_of_ne {id other : Nat} (hOther : other ≠ id) (files : List MigrationFile) :
    loggedBy (log ++ files.map fun file => (id, file)) other = loggedBy log other := by
  have hNone : (files.map fun file => (id, file)).filter (·.1 = other) = [] := by
    rw [List.filter_eq_nil_iff]
    intro entry hEntry
    obtain ⟨file, -, rfl⟩ := List.mem_map.mp hEntry
    simpa using hOther.symm
  rw [loggedBy, List.filter_append, hNone, List.append_nil, loggedBy]

def MigrationSystem.executedBy (system : MigrationSystem) (id : Nat) : List MigrationFile :=
  loggedBy system.executed id

def MigrationSystem.baselinedBy (system : MigrationSystem) (id : Nat) : List MigrationFile :=
  loggedBy system.baselined id

section Invariant

structure Unlogged (system : MigrationSystem) (id : Nat) : Prop where
  executed : system.executedBy id = []
  baselined : system.baselinedBy id = []

/-- `done` are the files a run has gone through and `ahead` those it has not. -/
structure Progressing (names : List String) (system : MigrationSystem) (id : Nat)
    (progress : RunProgress) (done ahead : List MigrationFile) : Prop where
  versions : progress.set.files.map (·.version) = versionsOf names
  files : progress.set.files = done ++ ahead
  loaded : ∀ file, inLedger progress.ledger file → inLedger system.ledger file
  present : ∀ file ∈ done, inLedger system.ledger file
  matching : ∀ file ∈ done, checksumMismatch progress.ledger file = none
  executed : ∀ file ∈ system.executedBy id, file ∈ done
  baselined : system.baselinedBy id = []

structure Recording (names : List String) (system : MigrationSystem) (id : Nat)
    (config : MigrationBaselineConfig) (set : MigrationSet) (ledger : Ledger)
    (inserted rest : List MigrationFile) : Prop where
  versions : set.files.map (·.version) = versionsOf names
  committed : config.dryRun = false
  files : toRecord config set ledger = inserted ++ rest
  present : ∀ file, inLedger ledger file → inLedger system.ledger file
  matching : ∀ file ∈ selected config set, checksumMismatch ledger file = none
  unlogged : Unlogged system id

/-- What a baseline that is not a dry run has left behind. -/
structure Recorded (system : MigrationSystem) (id : Nat) (config : MigrationBaselineConfig)
    (set : MigrationSet) (ledger : Ledger) : Prop where
  baselined : system.baselinedBy id = toRecord config set ledger
  present : ∀ file ∈ selected config set, inLedger system.ledger file
  matching : ∀ file ∈ selected config set, checksumMismatch ledger file = none

def CallerSound (names : List String) (system : MigrationSystem) (id : Nat) : Caller → Prop
  | .run config => (sqlNames config.entries).Perm names ∧ Unlogged system id
  | .baseline config => (sqlNames config.entries).Perm names ∧ Unlogged system id
  | .runListed _ set | .baselineListed _ set | .baselineVerified _ set =>
    set.files.map (·.version) = versionsOf names ∧ Unlogged system id
  | .running progress | .runEnded progress _ =>
    ∃ done, Progressing names system id progress done progress.rest
  | .executed progress file _ | .recorded progress file _ =>
    progress.ledger.find? file.version = none ∧
      ∃ done, Progressing names system id progress done (file :: progress.rest)
  | .recording config set ledger inserted rest =>
    Recording names system id config set ledger inserted rest
  | .baselineEnded config set ledger _ =>
    (config.dryRun = true → system.baselinedBy id = []) ∧
      (config.dryRun = false → Recorded system id config set ledger)
  | .failed _ | .stopped => system.baselinedBy id = []

/-- The ledger has the versions that have been executed or recorded, and with
each version all that come before it. -/
structure Truthful (names : List String) (system : MigrationSystem) : Prop where
  rows : (system.ledger.rows.map (·.version)).Perm
    ((system.executed ++ system.baselined).map (·.2.version))
  closed : ∀ version ∈ system.ledger.rows.map (·.version), version ∈ versionsOf names ∧
    ∀ earlier ∈ versionsOf names, earlier < version → earlier ∈ system.ledger.rows.map (·.version)
  ascending : system.executed.Pairwise fun earlier later => earlier.2.version < later.2.version
  callers : ∀ id caller, system.callers id = some caller → CallerSound names system id caller
  unused : ∀ id, system.callers id = none → Unlogged system id

variable {names : List String} {system grown : MigrationSystem} {id : Nat}

/-- A call is still in order when the ledger has grown by others. -/
theorem CallerSound.of_grown {caller : Caller} (hSound : CallerSound names system id caller)
    (hLedger : ∀ file, inLedger system.ledger file → inLedger grown.ledger file)
    (hExecuted : grown.executedBy id = system.executedBy id)
    (hBaselined : grown.baselinedBy id = system.baselinedBy id) :
    CallerSound names grown id caller := by
  have hUnlogged (hNone : Unlogged system id) : Unlogged grown id :=
    ⟨hExecuted.trans hNone.executed, hBaselined.trans hNone.baselined⟩
  have hProgress {progress : RunProgress} {done ahead : List MigrationFile}
      (hOld : Progressing names system id progress done ahead) :
      Progressing names grown id progress done ahead :=
    { hOld with
      loaded := fun file hFile => hLedger file (hOld.loaded file hFile)
      present := fun file hFile => hLedger file (hOld.present file hFile)
      executed := hExecuted ▸ hOld.executed
      baselined := hBaselined.trans hOld.baselined }
  cases caller with
  | run | baseline | runListed | baselineListed | baselineVerified =>
    exact ⟨hSound.1, hUnlogged hSound.2⟩
  | running | runEnded =>
    obtain ⟨done, hOld⟩ := hSound
    exact ⟨done, hProgress hOld⟩
  | executed | recorded =>
    obtain ⟨hNew, done, hOld⟩ := hSound
    exact ⟨hNew, done, hProgress hOld⟩
  | recording =>
    exact { hSound with
      present := fun file hFile => hLedger file (hSound.present file hFile)
      unlogged := hUnlogged hSound.unlogged }
  | baselineEnded =>
    refine ⟨fun hDry => hBaselined.trans (hSound.1 hDry), fun hWet => ?_⟩
    have hOld := hSound.2 hWet
    exact ⟨hBaselined.trans hOld.baselined, fun file hFile => hLedger file (hOld.present file hFile),
      hOld.matching⟩
  | failed | stopped => exact hBaselined.trans hSound

theorem CallerSound.baselinedBy_eq_nil {caller : Caller}
    (hSound : CallerSound names system id caller)
    (hOpen : ∀ config set ledger report, caller ≠ .baselineEnded config set ledger report) :
    system.baselinedBy id = [] := by
  cases caller with
  | run | baseline | runListed | baselineListed | baselineVerified => exact hSound.2.baselined
  | running | runEnded =>
    obtain ⟨done, hOld⟩ := hSound
    exact hOld.baselined
  | executed | recorded =>
    obtain ⟨-, done, hOld⟩ := hSound
    exact hOld.baselined
  | recording => exact hSound.unlogged.baselined
  | baselineEnded => exact absurd rfl (hOpen _ _ _ _)
  | failed | stopped => exact hSound

end Invariant

section Moves
variable {names : List String} {system after : MigrationSystem} {id : Nat} {caller : Caller}

theorem sound_of_update (hTruth : Truthful names system)
    (hCallers : after.callers = Function.update system.callers id (some caller))
    (hLedger : ∀ file, inLedger system.ledger file → inLedger after.ledger file)
    (hOthers : ∀ other, other ≠ id → after.executedBy other = system.executedBy other ∧
      after.baselinedBy other = system.baselinedBy other)
    (hSound : CallerSound names after id caller) :
    (∀ other found, after.callers other = some found → CallerSound names after other found) ∧
      ∀ other, after.callers other = none → Unlogged after other := by
  rw [hCallers]
  constructor
  · intro other found hFound
    by_cases hOther : other = id
    · subst hOther
      rw [Function.update_self] at hFound
      cases hFound
      exact hSound
    · rw [Function.update_of_ne hOther] at hFound
      exact (hTruth.callers other found hFound).of_grown hLedger (hOthers other hOther).1
        (hOthers other hOther).2
  · intro other hNone
    by_cases hOther : other = id
    · subst hOther
      rw [Function.update_self] at hNone
      cases hNone
    · rw [Function.update_of_ne hOther] at hNone
      have hOld := hTruth.unused other hNone
      exact ⟨(hOthers other hOther).1.trans hOld.executed, (hOthers other hOther).2.trans hOld.baselined⟩

/-- A step that commits nothing. -/
theorem Truthful.uncommitted (hTruth : Truthful names system) (hLedger : after.ledger = system.ledger)
    (hExecuted : after.executed = system.executed) (hBaselined : after.baselined = system.baselined)
    (hCallers : after.callers = Function.update system.callers id (some caller))
    (hSound : CallerSound names system id caller) : Truthful names after := by
  have hBy (other : Nat) : after.executedBy other = system.executedBy other ∧
      after.baselinedBy other = system.baselinedBy other := by
    rw [executedBy, hExecuted, baselinedBy, hBaselined]
    exact ⟨rfl, rfl⟩
  have hGrown (file : MigrationFile) (hFile : inLedger system.ledger file) :
      inLedger after.ledger file := hLedger ▸ hFile
  obtain ⟨hOthers, hUnused⟩ := sound_of_update hTruth hCallers hGrown (fun other _ => hBy other)
    (hSound.of_grown hGrown (hBy id).1 (hBy id).2)
  exact ⟨by rw [hLedger, hExecuted, hBaselined]; exact hTruth.rows,
    by rw [hLedger]; exact hTruth.closed, by rw [hExecuted]; exact hTruth.ascending, hOthers, hUnused⟩

theorem Truthful.insertKey (hTruth : Truthful names system) {version : String} {next : Caller}
    (hTaken : CallerSound names system id caller) (hNext : CallerSound names system id next) :
    Truthful names (system.insertKey id version caller next) := by
  unfold MigrationSystem.insertKey
  split
  · exact hTruth.uncommitted rfl rfl rfl rfl hTaken
  · split
    · exact hTruth
    · exact hTruth.uncommitted rfl rfl rfl rfl hNext

theorem inLedger_iff {ledger : Ledger} {file : MigrationFile} :
    inLedger ledger file ↔ file.version ∈ ledger.rows.map (·.version) := find?_isSome_iff

theorem Progressing.of_same {progress other : RunProgress} {done ahead : List MigrationFile}
    (hProgress : Progressing names system id progress done ahead) (hSet : other.set = progress.set)
    (hLedger : other.ledger = progress.ledger) :
    Progressing names system id other done ahead :=
  ⟨hSet ▸ hProgress.versions, hSet ▸ hProgress.files, hLedger ▸ hProgress.loaded,
    hProgress.present, hLedger ▸ hProgress.matching, hProgress.executed, hProgress.baselined⟩

section
variable {progress : RunProgress} {done rest : List MigrationFile} {file : MigrationFile}
  (hProgress : Progressing names system id progress done (file :: rest))
include hProgress

theorem Progressing.pass (hPresent : inLedger system.ledger file)
    (hMatching : checksumMismatch progress.ledger file = none) :
    Progressing names system id progress (done ++ [file]) rest := by
  refine ⟨hProgress.versions, ?_, hProgress.loaded, fun other hOther => ?_, fun other hOther => ?_,
    fun other hOther => List.mem_append_left _ (hProgress.executed other hOther),
    hProgress.baselined⟩
  · rw [hProgress.files, List.append_assoc]
    rfl
  · rcases List.mem_append.mp hOther with hDone | hLast
    · exact hProgress.present other hDone
    · rw [List.mem_singleton.mp hLast]
      exact hPresent
  · rcases List.mem_append.mp hOther with hDone | hLast
    · exact hProgress.matching other hDone
    · rw [List.mem_singleton.mp hLast]
      exact hMatching

theorem Progressing.mem_order : file.version ∈ versionsOf names := by
  rw [← hProgress.versions, hProgress.files]
  exact List.mem_map_of_mem (List.mem_append_right _ (List.mem_cons_self ..))

/-- All files before the next one are in the ledger. -/
theorem Progressing.earlier : ∀ earlier ∈ versionsOf names, earlier < file.version →
      earlier ∈ system.ledger.rows.map (·.version) := by
  intro earlier hEarlier hBelow
  have hAscending := hProgress.files ▸ progress.set.ascending
  rw [← hProgress.versions, hProgress.files] at hEarlier
  obtain ⟨other, hOther, rfl⟩ := List.mem_map.mp hEarlier
  rcases List.mem_append.mp hOther with hDone | hAhead
  · exact inLedger_iff.mp (hProgress.present other hDone)
  · rcases List.mem_cons.mp hAhead with rfl | hRest
    · exact absurd hBelow (lt_irrefl _)
    · have hAbove := (List.pairwise_cons.mp (List.pairwise_append.mp hAscending).2.1).1 other hRest
      exact absurd hBelow hAbove.asymm

end

/-- A step that commits versions whose predecessors are there. -/
theorem Truthful.grown (hTruth : Truthful names system) {versions : List String}
    (hVersions : after.ledger.rows.map (·.version) = system.ledger.rows.map (·.version) ++ versions)
    (hLog : ((after.executed ++ after.baselined).map (·.2.version)).Perm
      ((system.executed ++ system.baselined).map (·.2.version) ++ versions))
    (hBefore : ∀ version ∈ versions, version ∈ versionsOf names ∧ ∀ earlier ∈ versionsOf names, earlier < version →
      earlier ∈ after.ledger.rows.map (·.version))
    (hAscending : after.executed.Pairwise fun earlier later => earlier.2.version < later.2.version)
    (hCallers : after.callers = Function.update system.callers id (some caller))
    (hOthers : ∀ other, other ≠ id → after.executedBy other = system.executedBy other ∧
      after.baselinedBy other = system.baselinedBy other)
    (hSound : CallerSound names after id caller) : Truthful names after := by
  have hGrown (file : MigrationFile) (hFile : inLedger system.ledger file) :
      inLedger after.ledger file := by
    rw [inLedger_iff] at hFile ⊢
    rw [hVersions]
    exact List.mem_append_left _ hFile
  obtain ⟨hCallersSound, hUnused⟩ := sound_of_update hTruth hCallers hGrown hOthers hSound
  refine ⟨?_, ?_, hAscending, hCallersSound, hUnused⟩
  · rw [hVersions]
    exact (hTruth.rows.append_right _).trans hLog.symm
  · intro version hVersion
    rw [hVersions] at hVersion
    rcases List.mem_append.mp hVersion with hOld | hNew
    · obtain ⟨hOrder, hEarlier⟩ := hTruth.closed version hOld
      refine ⟨hOrder, fun earlier hMem hBelow => ?_⟩
      rw [hVersions]
      exact List.mem_append_left _ (hEarlier earlier hMem hBelow)
    · exact hBefore version hNew

/-- A run commits a file once all files before it are in the ledger. -/
theorem Truthful.commitMigration (hTruth : Truthful names system) {progress : RunProgress}
    {file : MigrationFile} {executionMs : Int}
    (hSound : CallerSound names system id (.recorded progress file executionMs)) :
    Truthful names (system.commitMigration id progress file executionMs) := by
  obtain ⟨hNew, done, hProgress⟩ := hSound
  unfold MigrationSystem.commitMigration
  split
  · exact hTruth.uncommitted rfl rfl rfl rfl hProgress.baselined
  rename_i ledger hInsert
  obtain ⟨hFresh, hRows⟩ := Table.insert?_eq_some.mp hInsert
  have hAbsent : file.version ∉ system.ledger.rows.map (·.version) := fun hMem => by
    obtain ⟨row, hRow, hVersion⟩ := List.mem_map.mp hMem
    exact Table.find?_eq_none.mp hFresh row hRow hVersion
  have hVersions : ledger.rows.map (·.version) =
      system.ledger.rows.map (·.version) ++ [file.version] := by
    rw [hRows, List.map_append]
    rfl
  have hGrown (other : MigrationFile) (hOther : inLedger system.ledger other) :
      inLedger ledger other := by
    rw [inLedger_iff, hVersions]
    exact List.mem_append_left _ (inLedger_iff.mp hOther)
  have hBelow : ∀ version ∈ system.ledger.rows.map (·.version), version < file.version := by
    intro version hVersion
    rcases lt_trichotomy version file.version with hBelow | hSame | hAbove
    · exact hBelow
    · exact absurd (hSame ▸ hVersion) hAbsent
    · exact absurd ((hTruth.closed version hVersion).2 _ hProgress.mem_order hAbove) hAbsent
  refine hTruth.grown hVersions ?_ ?_ ?_ rfl (fun other hOther => ⟨?_, rfl⟩) ⟨done ++ [file], ?_⟩
  · simp only [List.map_append, List.append_assoc]
    exact List.Perm.append_left _ List.perm_append_comm
  · intro version hVersion
    rw [List.mem_singleton] at hVersion
    subst hVersion
    refine ⟨hProgress.mem_order, fun earlier hMem hEarlier => ?_⟩
    rw [hVersions]
    exact List.mem_append_left _ (hProgress.earlier earlier hMem hEarlier)
  · refine List.pairwise_append.mpr ⟨hTruth.ascending, List.pairwise_singleton _ _, ?_⟩
    intro earlier hEarlier later hLater
    rw [List.mem_singleton] at hLater
    subst hLater
    refine hBelow _ (hTruth.rows.mem_iff.mpr ?_)
    exact List.mem_map_of_mem (List.mem_append_left _ hEarlier)
  · exact loggedBy_append_of_ne system.executed hOther [file]
  · refine ⟨hProgress.versions, ?_, fun other hLoaded => hGrown other (hProgress.loaded other hLoaded),
      ?_, ?_, ?_, hProgress.baselined⟩
    · rw [hProgress.files, List.append_assoc]
      rfl
    · intro other hOther
      rcases List.mem_append.mp hOther with hDone | hLast
      · exact hGrown other (hProgress.present other hDone)
      · rw [List.mem_singleton.mp hLast]
        refine inLedger_iff.mpr ?_
        rw [hVersions]
        exact List.mem_append_right _ (List.mem_singleton_self _)
    · intro other hOther
      rcases List.mem_append.mp hOther with hDone | hLast
      · exact hProgress.matching other hDone
      · rw [List.mem_singleton.mp hLast, checksumMismatch, hNew]
        rfl
    · intro other hOther
      change other ∈ loggedBy (system.executed ++ [file].map fun file => (id, file)) id at hOther
      rw [loggedBy_append_self] at hOther
      rcases List.mem_append.mp hOther with hDone | hLast
      · exact List.mem_append_left _ (hProgress.executed other hDone)
      · exact List.mem_append_right _ hLast

theorem Truthful.commitBaseline (hTruth : Truthful names system) {config : MigrationBaselineConfig}
    {set : MigrationSet} {ledger : Ledger} {inserted : List MigrationFile}
    {report : MigrationBaselineReport}
    (hSound : Recording names system id config set ledger inserted []) :
    Truthful names (system.commitBaseline id config inserted
      (.baselineEnded config set ledger report)) := by
  unfold MigrationSystem.commitBaseline
  split
  · exact hTruth.uncommitted rfl rfl rfl rfl hSound.unlogged.baselined
  rename_i grown hInsert
  have hFiles : toRecord config set ledger = inserted := by rw [hSound.files, List.append_nil]
  have hRows := (Table.insertAll?_eq_some.mp hInsert).2
  have hVersions : grown.rows.map (·.version) =
      system.ledger.rows.map (·.version) ++ inserted.map (·.version) := by
    rw [hRows, List.map_append, List.map_map]
    rfl
  have hSelected : ∀ file ∈ selected config set, file.version ∈ grown.rows.map (·.version) := by
    intro file hFile
    rw [hVersions, List.mem_append]
    by_cases hThere : inLedger ledger file
    · exact .inl (inLedger_iff.mp (hSound.present file hThere))
    · refine .inr (List.mem_map_of_mem ?_)
      rw [← hFiles, toRecord, List.mem_filter]
      exact ⟨hFile, by simpa using hThere⟩
  refine hTruth.grown hVersions ?_ ?_ hTruth.ascending rfl (fun other hOther => ⟨rfl, ?_⟩)
    ⟨fun hDry => ?_, fun _ => ⟨?_, fun file hFile => inLedger_iff.mpr (hSelected file hFile),
      hSound.matching⟩⟩
  · simp only [List.map_append, List.map_map, List.append_assoc]
    exact List.Perm.refl _
  · intro version hVersion
    obtain ⟨file, hFile, rfl⟩ := List.mem_map.mp hVersion
    rw [← hFiles, toRecord, selected, List.filter_filter, List.mem_filter] at hFile
    refine ⟨hSound.versions ▸ List.mem_map_of_mem hFile.1, fun earlier hEarlier hBelow => ?_⟩
    rw [← hSound.versions] at hEarlier
    obtain ⟨other, hOther, rfl⟩ := List.mem_map.mp hEarlier
    have hTarget := of_decide_eq_true (Bool.and_eq_true_iff.mp hFile.2).2
    refine hSelected other (List.mem_filter.mpr ⟨hOther, ?_⟩)
    exact decide_eq_true (hBelow.le.trans hTarget)
  · exact loggedBy_append_of_ne system.baselined hOther inserted
  · rw [hSound.committed] at hDry
    cases hDry
  · change loggedBy (system.baselined ++ inserted.map fun file => (id, file)) id = _
    rw [loggedBy_append_self, hFiles]
    exact (congrArg (· ++ inserted) hSound.unlogged.baselined).trans (List.nil_append _)

end Moves

section Steps
variable {sha256Hex : List UInt8 → String} {names : List String} {system : MigrationSystem} {id : Nat}

theorem checksumMismatch_eq_none {ledger : Ledger} {file : MigrationFile} :
    checksumMismatch ledger file = none ↔
      ∀ record, ledger.find? file.version = some record → verifyChecksum file record = .ok () := by
  unfold checksumMismatch verifyChecksum
  cases ledger.find? file.version with
  | none => simp
  | some record => by_cases hSame : record.checksumSha256 = file.checksumSha256 <;> simp [hSame]

theorem matching_of_verifyChecksums {files : List MigrationFile} {ledger : Ledger}
    (hVerified : verifyChecksums files ledger = .ok ()) :
    ∀ file ∈ files, checksumMismatch ledger file = none := by
  induction files with
  | nil => exact fun file hFile => absurd hFile List.not_mem_nil
  | cons file rest ih =>
    obtain ⟨verified, hFile, hRest⟩ := bind_eq_ok.mp hVerified
    refine List.forall_mem_cons.mpr ⟨?_, ih hRest⟩
    rw [checksumMismatch_eq_none]
    intro record hRecord
    simpa only [hRecord] using hFile

theorem advanceRun_truthful (hTruth : Truthful names system)
    {progress : RunProgress} {done : List MigrationFile} {executionMs : Int}
    (hProgress : Progressing names system id progress done progress.rest) :
    Truthful names (advanceRun system id progress executionMs) := by
  unfold advanceRun
  split
  · exact hTruth.uncommitted rfl rfl rfl rfl ⟨done, hProgress⟩
  rename_i file rest hRest
  split
  · rename_i record hRecord
    split
    · exact hTruth.uncommitted rfl rfl rfl rfl ⟨done, hProgress⟩
    · rename_i verified hVerified
      rw [hRest] at hProgress
      have hMatching : checksumMismatch progress.ledger file = none := by
        rw [checksumMismatch_eq_none, hRecord]
        intro other hSame
        cases hSame
        exact hVerified
      have hPresent := hProgress.loaded file (by rw [inLedger, hRecord]; rfl)
      exact hTruth.uncommitted rfl rfl rfl rfl
        ⟨done ++ [file], (hProgress.pass hPresent hMatching).of_same rfl rfl⟩
  · rename_i hNew
    rw [hRest] at hProgress
    exact hTruth.uncommitted rfl rfl rfl rfl ⟨hNew, done, hProgress.of_same rfl rfl⟩

variable {config : MigrationBaselineConfig}

theorem startBaseline_sound (hFinds : (sqlNames config.entries).Perm names)
    (hUnlogged : Unlogged system id) :
    CallerSound names system id (startBaseline sha256Hex config) := by
  unfold startBaseline
  split
  · exact hUnlogged.baselined
  · split
    · exact hUnlogged.baselined
    · rename_i set hSet
      split
      · exact hUnlogged.baselined
      · exact ⟨versions_of_loadMigrationFiles hSet hFinds, hUnlogged⟩

theorem loadBaseline_sound {set : MigrationSet}
    (hVersions : set.files.map (·.version) = versionsOf names) (hUnlogged : Unlogged system id) :
    CallerSound names system id (loadBaseline config set system.ledger) := by
  unfold loadBaseline
  split
  · exact hUnlogged.baselined
  · rename_i hVerified
    split
    · rename_i hDry
      refine ⟨fun _ => hUnlogged.baselined, fun hWet => ?_⟩
      rw [hDry] at hWet
      cases hWet
    · rename_i hWet
      exact ⟨hVersions, Bool.eq_false_iff.mpr hWet, (List.nil_append _).symm, fun _ hFile => hFile,
        matching_of_verifyChecksums hVerified, hUnlogged⟩

section
variable (hTruth : Truthful names system) {caller : Caller}
  (hSound : CallerSound names system id caller)
include hTruth hSound

theorem advance_truthful (tables : List String) (executionMs : Int) :
    Truthful names (advance sha256Hex system id tables executionMs caller) := by
  cases caller with
  | run config =>
    refine hTruth.uncommitted rfl rfl rfl rfl ?_
    split
    · exact hSound.2.baselined
    · rename_i set hSet
      exact ⟨versions_of_loadMigrationFiles hSet hSound.1, hSound.2⟩
  | runListed appliedBy set =>
    refine hTruth.uncommitted rfl rfl rfl rfl ⟨[], ?_⟩
    refine ⟨hSound.1, rfl, fun _ hFile => hFile, ?_, ?_, ?_, hSound.2.baselined⟩
    · exact fun file hFile => absurd hFile List.not_mem_nil
    · exact fun file hFile => absurd hFile List.not_mem_nil
    · exact fun file hFile => hSound.2.executed ▸ hFile
  | running progress =>
    obtain ⟨done, hProgress⟩ := hSound
    exact advanceRun_truthful hTruth hProgress
  | executed progress file ms =>
    exact hTruth.insertKey (hSound.baselinedBy_eq_nil fun _ _ _ _ h => nomatch h) hSound
  | recorded progress file ms => exact hTruth.commitMigration hSound
  | baseline config =>
    exact hTruth.uncommitted rfl rfl rfl rfl (startBaseline_sound hSound.1 hSound.2)
  | baselineListed config set =>
    refine hTruth.uncommitted rfl rfl rfl rfl ?_
    split
    · exact hSound.2.baselined
    · exact hSound
  | baselineVerified config set =>
    exact hTruth.uncommitted rfl rfl rfl rfl (loadBaseline_sound hSound.1 hSound.2)
  | recording config set ledger inserted rest =>
    cases rest with
    | nil => exact hTruth.commitBaseline hSound
    | cons file rest =>
      refine hTruth.insertKey hSound.unlogged.baselined ?_
      exact { hSound with files := by rw [hSound.files, List.append_assoc]; rfl }
  | runEnded | baselineEnded | failed | stopped => exact hTruth

theorem setCaller_truthful :
    Truthful names (system.setCaller id caller) := hTruth.uncommitted rfl rfl rfl rfl hSound

end

theorem step_truthful (hTruth : Truthful names system) {input : MigrationStep}
    (hFinds : FindsFiles names input) : Truthful names (step sha256Hex system input) := by
  cases input with
  | startRun id config | startBaseline id config =>
    simp only [step]
    split
    · exact hTruth
    · rename_i hUnused
      rw [Bool.not_eq_true, isSome_eq_false_iff, isNone_iff_eq_none] at hUnused
      exact setCaller_truthful hTruth ⟨hFinds, hTruth.unused id hUnused⟩
  | advance id tables executionMs =>
    simp only [step]
    cases hCaller : system.callers id with
    | none => exact hTruth
    | some caller => exact advance_truthful hTruth (hTruth.callers id caller hCaller) ..
  | stop id =>
    simp only [step]
    cases hCaller : system.callers id with
    | none => exact hTruth
    | some caller =>
      have hSound := hTruth.callers id caller hCaller
      simp only [Option.elim]
      split
      · exact hTruth
      · exact hTruth
      · exact hTruth
      · rename_i hOpen _
        exact hTruth.uncommitted rfl rfl rfl rfl (hSound.baselinedBy_eq_nil hOpen)

theorem empty_truthful : Truthful names empty where
  rows := List.Perm.nil
  closed _ hVersion := absurd hVersion List.not_mem_nil
  ascending := List.Pairwise.nil
  callers _ _ hCaller := nomatch hCaller
  unused _ _ := ⟨rfl, rfl⟩

end Steps

end AegisQuant.Migrations
