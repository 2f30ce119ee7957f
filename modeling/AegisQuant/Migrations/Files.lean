import AegisQuant.Core.Basic
import AegisQuant.Library.Fallible
import AegisQuant.Library.SortByKey
import AegisQuant.Library.Table
import Mathlib.Data.List.ReduceOption
import Mathlib.Data.String.Basic

/-! Migration files and the ledger of the migrations a database has. The files
of a directory are ordered by name, and their four-digit versions are then in
order as well. -/
namespace AegisQuant.Migrations
open SortByKey List

/-- The part of a file name after its last dot. A name with no other dot than
its first character has no extension. -/
def pathExtension (name : String) : Option String :=
  let reversed := name.toList.reverse
  match reversed.dropWhile (· ≠ '.') with
  | [] => none
  | [_] => none
  | _ => some (String.ofList (reversed.takeWhile (· ≠ '.')).reverse)

def parseMigrationVersion (filename : String) : Except Fault String :=
  let version := filename.toList.takeWhile (· ≠ '_')
  if '_' ∉ filename.toList then
    .error (.message "migration filename must start with a version prefix like 0001_")
  else if version.length ≠ 4 ∨ ¬version.all Char.isDigit then
    .error (.message ("migration filename " ++ filename ++ " must start with a four-digit version"))
  else .ok (String.ofList version)

structure MigrationFile where
  version : String
  filename : String
  checksumSha256 : String
  named : parseMigrationVersion filename = .ok version
  deriving DecidableEq

section Order

theorem append_lt_append {first second : List Char} (hLength : first.length = second.length)
    (hBelow : first < second) (firstRest secondRest : List Char) :
    first ++ firstRest < second ++ secondRest := by
  induction first generalizing second with
  | nil =>
    rw [eq_nil_of_length_eq_zero hLength.symm] at hBelow
    exact absurd hBelow (lt_irrefl _)
  | cons head rest ih =>
    cases second with
    | nil => cases hLength
    | cons other others =>
      rw [cons_append, cons_append, cons_lt_cons_iff]
      rcases cons_lt_cons_iff.mp hBelow with hHead | ⟨rfl, hRest⟩
      · exact .inl hHead
      · exact .inr ⟨rfl, ih (Nat.succ.inj hLength) hRest⟩

theorem parseMigrationVersion_eq_ok {filename version : String}
    (hVersion : parseMigrationVersion filename = .ok version) :
    version.toList.length = 4 ∧ ∃ rest, filename.toList = version.toList ++ rest := by
  simp only [parseMigrationVersion] at hVersion
  split at hVersion
  · cases hVersion
  · split at hVersion
    · cases hVersion
    · rename_i hDigits
      rw [not_or, not_not] at hDigits
      cases hVersion
      rw [String.toList_ofList]
      exact ⟨hDigits.1, _, takeWhile_append_dropWhile.symm⟩

theorem MigrationFile.filename_lt {first second : MigrationFile}
    (hBelow : first.version < second.version) : first.filename < second.filename := by
  obtain ⟨hFirst, firstRest, hFirstName⟩ := parseMigrationVersion_eq_ok first.named
  obtain ⟨hSecond, secondRest, hSecondName⟩ := parseMigrationVersion_eq_ok second.named
  rw [String.lt_iff_toList_lt, hFirstName, hSecondName]
  exact append_lt_append (hFirst.trans hSecond.symm) (String.lt_iff_toList_lt.mp hBelow) _ _

theorem ascending_of_sorted {files : List MigrationFile}
    (hSorted : files.Pairwise fun first second => first.filename ≤ second.filename)
    (hVersions : (files.map (·.version)).Nodup) :
    files.Pairwise fun first second => first.version < second.version := by
  refine (hSorted.and (pairwise_map.mp hVersions)).imp fun {first second} hBoth => ?_
  rcases lt_trichotomy first.version second.version with hBelow | hSame | hAbove
  · exact hBelow
  · exact absurd hSame hBoth.2
  · exact absurd (MigrationFile.filename_lt hAbove) (not_lt.mpr hBoth.1)

end Order

/-- The migration files of a directory, in the order of their versions. -/
structure MigrationSet where
  files : List MigrationFile
  ascending : files.Pairwise fun first second => first.version < second.version

/-- An entry of a directory, with what reading the file gives. -/
structure DirEntry where
  name : String
  contents : Except Fault (List UInt8)

/-- The version that is met a second time, going through the files. -/
def repeatedVersion (seen : List String) : List MigrationFile → Option String
  | [] => none
  | file :: rest =>
    if file.version ∈ seen then some file.version
    else repeatedVersion (file.version :: seen) rest

theorem repeatedVersion_eq_none {seen : List String} {files : List MigrationFile} :
    repeatedVersion seen files = none ↔
      (files.map (·.version)).Nodup ∧ ∀ file ∈ files, file.version ∉ seen := by
  induction files generalizing seen with
  | nil => simp [repeatedVersion]
  | cons file rest ih =>
    rw [repeatedVersion]
    split
    · rename_i hSeen
      simp [hSeen]
    · rename_i hNew
      rw [ih, map_cons, nodup_cons, forall_mem_cons]
      constructor
      · rintro ⟨hRest, hFresh⟩
        refine ⟨⟨?_, hRest⟩, hNew, fun other hOther => ?_⟩
        · intro hMem
          obtain ⟨other, hOther, hSame⟩ := mem_map.mp hMem
          exact hFresh other hOther (hSame ▸ mem_cons_self ..)
        · exact fun hMem => hFresh other hOther (mem_cons_of_mem _ hMem)
      · rintro ⟨⟨hFile, hRest⟩, -, hFresh⟩
        refine ⟨hRest, fun other hOther hMem => ?_⟩
        rcases mem_cons.mp hMem with hSame | hMem
        · exact hFile (mem_map.mpr ⟨other, hOther, hSame⟩)
        · exact hFresh other hOther hMem

section Load
variable (sha256Hex : List UInt8 → String)

def loadMigrationFile (entry : DirEntry) : Except Fault (Option MigrationFile) :=
  if pathExtension entry.name ≠ some "sql" then .ok none
  else
    match hVersion : parseMigrationVersion entry.name with
    | .error fault => .error fault
    | .ok version => do
        let contents ← entry.contents
        return some ⟨version, entry.name, sha256Hex contents, hVersion⟩

/-- The entries come in any order, and each of them can fail to be read. -/
def loadMigrationFiles (entries : List (Except Fault DirEntry)) : Except Fault MigrationSet := do
  let found ← entries.mapM fun entry => entry >>= loadMigrationFile sha256Hex
  let files := sort MigrationFile.filename found.reduceOption
  match hRepeated : repeatedVersion [] files with
  | some version => .error (.message ("duplicate migration version " ++ version))
  | none => return ⟨files, ascending_of_sorted (pairwise_sort _ _)
      (repeatedVersion_eq_none.mp hRepeated).1⟩

end Load

/-- A row of `schema_migrations`. -/
structure SchemaMigrationRecord where
  version : String
  filename : String
  checksumSha256 : String
  appliedBy : Option String
  executionMs : Option Int
  success : Bool
  deriving DecidableEq

abbrev Ledger := Table SchemaMigrationRecord.version

def MigrationFile.recordOf (file : MigrationFile) (appliedBy : Option String)
    (executionMs : Option Int) : SchemaMigrationRecord :=
  ⟨file.version, file.filename, file.checksumSha256, appliedBy, executionMs, true⟩

def verifyChecksum (file : MigrationFile) (record : SchemaMigrationRecord) : Except Fault Unit :=
  if record.checksumSha256 ≠ file.checksumSha256 then
    .error (.message ("checksum mismatch for migration " ++ file.version ++ " (" ++ file.filename ++
      "): ledger=" ++ record.checksumSha256 ++ " file=" ++ file.checksumSha256))
  else .ok ()

structure ChecksumMismatch where
  version : String
  filename : String
  expectedSha256 : String
  actualSha256 : String
  deriving DecidableEq

structure MigrationStatusReport where
  totalMigrations : Nat
  appliedCount : Nat
  pendingCount : Nat
  latestApplied : Option SchemaMigrationRecord
  checksumMismatches : List ChecksumMismatch
  pending : List MigrationFile

/-- The rows of the ledger that have a file, in the order of their versions. -/
def withFile (set : MigrationSet) (ledger : Ledger) : List SchemaMigrationRecord :=
  (sort SchemaMigrationRecord.version ledger.rows).filter fun record =>
    record.version ∈ set.files.map (·.version)

def pendingFiles (set : MigrationSet) (ledger : Ledger) : List MigrationFile :=
  set.files.filter fun file => (ledger.find? file.version).isNone

def checksumMismatch (ledger : Ledger) (file : MigrationFile) : Option ChecksumMismatch :=
  (ledger.find? file.version).bind fun record =>
    if record.checksumSha256 ≠ file.checksumSha256 then
      some ⟨file.version, file.filename, record.checksumSha256, file.checksumSha256⟩
    else none

def migrationStatus (set : MigrationSet) (ledger : Ledger) : MigrationStatusReport where
  totalMigrations := set.files.length
  appliedCount := (withFile set ledger).length
  pendingCount := (pendingFiles set ledger).length
  latestApplied := (withFile set ledger).getLast?
  checksumMismatches := set.files.filterMap (checksumMismatch ledger)
  pending := pendingFiles set ledger

variable (set : MigrationSet)

theorem MigrationSet.nodup_versions : (set.files.map (·.version)).Nodup :=
  pairwise_map.mpr (set.ascending.imp fun hBelow => ne_of_lt hBelow)

theorem find?_isSome_iff {ledger : Ledger} {version : String} :
    (ledger.find? version).isSome ↔ version ∈ ledger.rows.map (·.version) := by
  rw [Option.isSome_iff_exists, mem_map]
  exact exists_congr fun record => Table.find?_eq_some

theorem length_withFile (ledger : Ledger) : (withFile set ledger).length =
      (set.files.filter fun file => (ledger.find? file.version).isSome).length := by
  have hRows : ((withFile set ledger).map (·.version)).Nodup :=
    (filter_sublist.map _).nodup (nodup_sort ledger.unique)
  have hFiles : ((set.files.filter fun file => (ledger.find? file.version).isSome).map
      (·.version)).Nodup :=
    (filter_sublist.map _).nodup set.nodup_versions
  have hSame := (perm_ext_iff_of_nodup hRows hFiles).mpr fun version => by
    simp only [mem_map, withFile, mem_filter, (perm_sort _ _).mem_iff,
      find?_isSome_iff, decide_eq_true_eq]
    constructor
    · rintro ⟨record, ⟨hRecord, file, hFile, hVersion⟩, rfl⟩
      exact ⟨file, ⟨hFile, record, hRecord, hVersion.symm⟩, hVersion⟩
    · rintro ⟨file, ⟨hFile, record, hRecord, hVersion⟩, rfl⟩
      exact ⟨record, ⟨hRecord, file, hFile, hVersion.symm⟩, hVersion⟩
  simpa only [length_map] using hSame.length_eq

theorem appliedCount_add_pendingCount (ledger : Ledger) :
    (migrationStatus set ledger).appliedCount + (migrationStatus set ledger).pendingCount =
      (migrationStatus set ledger).totalMigrations := by
  have hPending : pendingFiles set ledger =
      set.files.filter fun file => !(ledger.find? file.version).isSome := by
    simp only [pendingFiles, Option.not_isSome]
  simp only [migrationStatus, length_withFile, hPending]
  exact (length_eq_length_filter_add _).symm

end AegisQuant.Migrations
