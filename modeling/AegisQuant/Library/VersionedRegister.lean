import AegisQuant.Library.Run
import AegisQuant.Library.TransitionLog
import Mathlib.Data.List.Infix
import Mathlib.Data.List.Range

/-! A register with a version number, the log of its versions and the audit of
its changes, written by transactions whose statements interleave. A transaction
reads what is committed, takes the lock of the register with its first write,
and undoes all it has written when one of its statements fails. -/
namespace VersionedRegister
open Transition Option
universe u v w

/-- How a register is written and read. `write` gives the row that a call
leaves, from the row it has read and the one that is there, unless the statement
fails, and `readsLog` says whether the number of the next version takes the log
into account. -/
structure Register (Call : Type u) (Value : Type v) (Row : Type w) where
  value : Call → Value
  version : Row → Int
  write : Option Row → Option Row → Call → Int → Option Row
  decode : Row → Option Value
  readsLog : Bool
  version_write : ∀ {existing current call number row},
    write existing current call number = some row → version row = number

/-- How far a transaction has come, and what it has read and written. -/
inductive Phase (Value : Type v) (Row : Type w) where
  | begun
  | hasRead (existing : Option Row)
  | numbered (existing : Option Row) (next : Int)
  | written (existing : Option Row) (next : Int) (row : Row)
  | logged (existing : Option Row) (next : Int) (row : Row)
  | audited (next : Int) (row : Row) (old : Option Value)

structure Writer (Call : Type u) (Value : Type v) (Row : Type w) where
  call : Call
  phase : Phase Value Row

structure Version (Call : Type u) where
  number : Int
  call : Call

structure Change (Call : Type u) (Value : Type v) where
  number : Int
  old : Option Value
  call : Call

/-- What is committed, and the transactions that are not. -/
structure System (Call : Type u) (Value : Type v) (Row : Type w) where
  row : Option Row
  versions : List (Version Call)
  audit : List (Change Call Value)
  lock : Option Nat
  writers : Nat → Option (Writer Call Value Row)

inductive Event (Call : Type u) where
  | start (id : Nat) (call : Call)
  | advance (id : Nat)
  | abort (id : Nat)

variable {Call : Type u} {Value : Type v} {Row : Type w}

def System.empty : System Call Value Row := ⟨none, [], [], none, fun _ => none⟩

def System.setWriter (system : System Call Value Row) (id : Nat)
    (writer : Option (Writer Call Value Row)) : System Call Value Row :=
  { system with writers := Function.update system.writers id writer }

/-- A transaction that ends frees the lock it holds. -/
def System.rollback (system : System Call Value Row) (id : Nat) : System Call Value Row :=
  { system.setWriter id none with
    lock := if system.lock = some id then none else system.lock }

def greatest (versions : List (Version Call)) : Int := (versions.map (·.number)).max?.getD 0

namespace Register
variable (register : Register Call Value Row)

/-- The version of a row, and zero for no row. -/
def number (existing : Option Row) : Int := (existing.map register.version).getD 0

def nextVersion (existing : Option Row) (versions : List (Version Call)) : Int :=
  (if register.readsLog then max (register.number existing) (greatest versions)
    else register.number existing) + 1

/-- The next statement of a transaction. One that finds the register locked
waits, and one that fails undoes the transaction. -/
def advance (system : System Call Value Row) (id : Nat) (writer : Writer Call Value Row) :
    System Call Value Row :=
  match writer.phase with
  | .begun => system.setWriter id (some ⟨writer.call, .hasRead system.row⟩)
  | .hasRead existing => system.setWriter id
      (some ⟨writer.call, .numbered existing (register.nextVersion existing system.versions)⟩)
  | .numbered existing next =>
    if system.lock.isSome then system
    else match register.write existing system.row writer.call next with
      | none => system.rollback id
      | some row =>
        { system.setWriter id (some ⟨writer.call, .written existing next row⟩) with
          lock := some id }
  | .written existing next row =>
    if next ∈ system.versions.map (·.number) then system.rollback id
    else system.setWriter id (some ⟨writer.call, .logged existing next row⟩)
  | .logged existing next row =>
    match existing.mapM register.decode with
    | none => system.rollback id
    | some old => system.setWriter id (some ⟨writer.call, .audited next row old⟩)
  | .audited next row old =>
    { system.rollback id with
      row := some row
      versions := system.versions ++ [⟨next, writer.call⟩]
      audit := system.audit ++ [⟨next, old, writer.call⟩] }

def step (system : System Call Value Row) : Event Call → System Call Value Row
  | .start id call =>
    if (system.writers id).isSome then system else system.setWriter id (some ⟨call, .begun⟩)
  | .advance id => (system.writers id).elim system (register.advance system id)
  | .abort id => system.rollback id

end Register

theorem forall_update {writers : Nat → Option (Writer Call Value Row)} {id : Nat}
    {writer : Option (Writer Call Value Row)} {P : Nat → Writer Call Value Row → Prop}
    (hWriter : ∀ changed ∈ writer, P id changed)
    (hOthers : ∀ other found, other ≠ id → writers other = some found → P other found) :
    ∀ other found, Function.update writers id writer other = some found → P other found := by
  intro other found hFound
  by_cases hOther : other = id
  · subst hOther
    rw [Function.update_self] at hFound
    exact hWriter found hFound
  · rw [Function.update_of_ne hOther] at hFound
    exact hOthers other found hOther hFound

section Numbers
variable (register : Register Call Value Row)
variable {versions : List (Version Call)}

open List

/-- A log with the versions 1 to its length, in this order. -/
def Gapless (versions : List (Version Call)) : Prop :=
  versions.map (·.number) = (range' 1 versions.length).map Int.ofNat

/-- What a transaction knows of the numbers, while `count` versions are
committed. The number it draws is refused by the log unless it is the next one,
and until it ends the lock keeps it so. -/
def PhaseNumbered (count : Nat) (lock : Option Nat) (id : Nat) : Phase Value Row → Prop
  | .begun => True
  | .hasRead existing => 0 ≤ register.number existing ∧ register.number existing ≤ count
  | .numbered _ next => 1 ≤ next ∧ next ≤ count + 1
  | .written _ next row =>
    lock = some id ∧ register.version row = next ∧ 1 ≤ next ∧ next ≤ count + 1
  | .logged _ next row | .audited next row _ =>
    lock = some id ∧ register.version row = next ∧ next = count + 1

structure Numbered (system : System Call Value Row) : Prop where
  gapless : Gapless system.versions
  current : register.number system.row = system.versions.length
  audited : system.audit.map (fun change => (change.number, change.call)) =
    system.versions.map fun version => (version.number, version.call)
  writers : ∀ id writer, system.writers id = some writer →
    PhaseNumbered register system.versions.length system.lock id writer.phase

variable {register} {system : System Call Value Row}

section
variable (hGapless : Gapless versions)
include hGapless

theorem mem_numbers_of_gapless {number : Int} :
    number ∈ versions.map (·.number) ↔ 1 ≤ number ∧ number ≤ versions.length := by
  rw [hGapless, List.mem_map]
  constructor
  · rintro ⟨position, hPosition, rfl⟩
    rw [mem_range'_1] at hPosition
    simp only [Int.ofNat_eq_natCast]
    omega
  · rintro ⟨hLeast, hGreatest⟩
    refine ⟨number.toNat, mem_range'_1.mpr (by omega), ?_⟩
    simp only [Int.ofNat_eq_natCast]
    omega

theorem greatest_of_gapless : greatest versions = versions.length := by
  unfold greatest
  cases hMax : (versions.map (·.number)).max? with
  | none =>
    rw [max?_eq_none_iff, map_eq_nil_iff] at hMax
    rw [hMax]
    rfl
  | some number =>
    have hNumber := (mem_numbers_of_gapless hGapless).mp (max?_mem hMax)
    have hLast := (max?_le_iff hMax).mp (Int.le_refl number) versions.length
      ((mem_numbers_of_gapless hGapless).mpr (by omega))
    rw [getD_some]
    omega

theorem number_getElem {position : Nat} (hPosition : position < versions.length)
    : versions[position].number = position + 1 := by
  have hNumber := congrArg (·[position]?) hGapless
  simp only [getElem?_map, getElem?_eq_getElem hPosition,
    getElem?_range' hPosition, map_some, some.injEq, Int.ofNat_eq_natCast]
    at hNumber
  omega

theorem getLast?_eq_some_iff {version : Version Call} :
    versions.getLast? = some version ↔ version ∈ versions ∧ version.number = versions.length := by
  rw [getLast?_eq_getElem?]
  constructor
  · intro hLast
    obtain ⟨hPosition, rfl⟩ := List.getElem?_eq_some_iff.mp hLast
    refine ⟨getElem_mem hPosition, ?_⟩
    rw [number_getElem hGapless hPosition]
    omega
  · rintro ⟨hVersion, hNumber⟩
    obtain ⟨position, hPosition, rfl⟩ := getElem_of_mem hVersion
    rw [number_getElem hGapless hPosition] at hNumber
    rw [show versions.length - 1 = position by omega]
    exact getElem?_eq_getElem hPosition

theorem gapless_concat {version : Version Call} (hNumber : version.number = versions.length + 1)
    : Gapless (versions ++ [version]) := by
  rw [Gapless, map_append, hGapless, length_append, length_singleton,
    range'_concat, map_append, map_singleton, map_singleton, hNumber]
  congr 2
  simp only [Int.ofNat_eq_natCast]
  omega

end

theorem PhaseNumbered.mono {count : Nat} {lock lock' : Option Nat} {id : Nat}
    {phase : Phase Value Row} (hPhase : PhaseNumbered register count lock id phase)
    (hLock : lock = some id → lock' = some id) :
    PhaseNumbered register count lock' id phase := by
  cases phase with
  | begun => exact trivial
  | hasRead existing => exact hPhase
  | numbered existing next => exact hPhase
  | written existing next row => exact ⟨hLock hPhase.1, hPhase.2⟩
  | logged existing next row => exact ⟨hLock hPhase.1, hPhase.2⟩
  | audited next row old => exact ⟨hLock hPhase.1, hPhase.2⟩

/-- Another transaction commits only while this one does not hold the lock. -/
theorem PhaseNumbered.succ {count : Nat} {lock : Option Nat} {id other : Nat}
    {phase : Phase Value Row} (hPhase : PhaseNumbered register count lock other phase)
    (hLock : lock = some id) (hOther : other ≠ id) :
    PhaseNumbered register (count + 1) none other phase := by
  have hFree : lock ≠ some other := by
    rw [hLock]
    intro hSame
    exact hOther (some.inj hSame).symm
  cases phase with
  | begun => exact trivial
  | hasRead existing =>
    simp only [PhaseNumbered] at hPhase ⊢
    omega
  | numbered existing next =>
    simp only [PhaseNumbered] at hPhase ⊢
    omega
  | written existing next row => exact absurd hPhase.1 hFree
  | logged existing next row => exact absurd hPhase.1 hFree
  | audited next row old => exact absurd hPhase.1 hFree

theorem numbered_empty : Numbered register (System.empty : System Call Value Row) where
  gapless := rfl
  current := rfl
  audited := rfl
  writers := fun id writer hWriter => by cases hWriter

theorem Numbered.rollback (numbered : Numbered register system) (id : Nat) :
    Numbered register (system.rollback id) :=
  { numbered with
    writers := forall_update (fun _ hNone => by cases hNone) fun other found hOther hFound => by
      refine (numbered.writers other found hFound).mono fun hLock => ?_
      rw [System.rollback, hLock]
      exact if_neg fun hSame => hOther (some.inj hSame) }

variable {writer : Writer Call Value Row}

theorem Numbered.setWriter (numbered : Numbered register system) {id : Nat}
    (hPhase : PhaseNumbered register system.versions.length system.lock id writer.phase) :
    Numbered register (system.setWriter id (some writer)) :=
  { numbered with
    writers := forall_update (fun _ hChanged => some.inj hChanged ▸ hPhase)
      fun other found _ hFound => numbered.writers other found hFound }

theorem number_nextVersion (numbered : Numbered register system) {existing : Option Row}
    (hExisting : 0 ≤ register.number existing ∧ register.number existing ≤ system.versions.length) :
    1 ≤ register.nextVersion existing system.versions ∧
      register.nextVersion existing system.versions ≤ system.versions.length + 1 := by
  have hGreatest := greatest_of_gapless numbered.gapless
  unfold Register.nextVersion
  split <;> omega

/-- No statement of any transaction leaves a gap in the log or repeats a
number. -/
theorem Numbered.advance (numbered : Numbered register system) {id : Nat}
    (hWriter : system.writers id = some writer) :
    Numbered register (register.advance system id writer) := by
  have hPhase := numbered.writers id writer hWriter
  obtain ⟨call, phase⟩ := writer
  cases phase with
  | begun =>
    have hCurrent := numbered.current
    exact numbered.setWriter ⟨by omega, by omega⟩
  | hasRead existing => exact numbered.setWriter (number_nextVersion numbered hPhase)
  | numbered existing next =>
    simp only [Register.advance]
    split
    · exact numbered
    · rename_i hLock
      rw [Bool.not_eq_true, isSome_eq_false_iff, isNone_iff_eq_none] at hLock
      cases hWrite : register.write existing system.row call next with
      | none => exact numbered.rollback id
      | some row =>
        exact { numbered with
          writers := forall_update
            (fun changed hChanged => some.inj hChanged ▸
              ⟨rfl, register.version_write hWrite, hPhase⟩)
            fun other found _ hFound => (numbered.writers other found hFound).mono
              fun hHeld => absurd (hLock.symm.trans hHeld) (some_ne_none _).symm }
  | written existing next row =>
    simp only [Register.advance]
    split
    · exact numbered.rollback id
    · rename_i hFresh
      rw [mem_numbers_of_gapless numbered.gapless] at hFresh
      obtain ⟨hLock, hVersion, hLeast, hNext⟩ := hPhase
      exact numbered.setWriter ⟨hLock, hVersion, by omega⟩
  | logged existing next row =>
    simp only [Register.advance]
    split
    · exact numbered.rollback id
    · exact numbered.setWriter hPhase
  | audited next row old =>
    obtain ⟨hLock, hVersion, hNext⟩ := hPhase
    exact
      { gapless := gapless_concat numbered.gapless hNext
        current := by
          simp only [Register.advance, Register.number, map_some, getD_some,
            length_append, length_singleton]
          omega
        audited := by
          simp only [Register.advance, map_append, numbered.audited, map_singleton]
        writers := forall_update (fun _ hNone => by cases hNone) fun other found hOther hFound => by
          simp only [Register.advance, System.rollback, hLock, if_true, length_append,
            length_singleton]
          exact (numbered.writers other found hFound).succ hLock hOther }

theorem Numbered.step (numbered : Numbered register system) (event : Event Call) :
    Numbered register (register.step system event) := by
  cases event with
  | start id call =>
    simp only [Register.step]
    split
    · exact numbered
    · exact numbered.setWriter trivial
  | advance id =>
    simp only [Register.step]
    cases hWriter : system.writers id with
    | none => exact numbered
    | some writer => exact numbered.advance hWriter
  | abort id => exact numbered.rollback id

/-- In every state of every run the log is without gaps, and the row has the
number of the last version. -/
theorem gapless_of_run (events : List (Event Call)) : Throughout register.step
      (fun system => Gapless system.versions ∧ register.number system.row = system.versions.length)
      System.empty events :=
  throughout_of_invariant (fun _ event numbered => numbered.step event)
    (fun _ numbered => ⟨numbered.gapless, numbered.current⟩) events numbered_empty

end Numbers

section History
variable (register : Register Call Value Row)
variable {existing : Option Row}

/-- Every row that a call writes is decoded to its value. -/
def ReadsBack (call : Call) : Prop :=
  ∀ existing current number row, register.write existing current call number = some row →
    register.decode row = some (register.value call)

/-- Calls write values that their row gives back, and a transaction that asks
the log for its greatest version has read the row that is committed then. -/
def Consistent (system : System Call Value Row) : Event Call → Prop
  | .start _ call => ReadsBack register call
  | .advance id => ∀ call existing, system.writers id = some ⟨call, .hasRead existing⟩ →
      register.readsLog = true → existing = system.row
  | .abort _ => True

/-- The row, the log and the audit tell one story. -/
structure History (system : System Call Value Row) : Prop where
  gapless : Gapless system.versions
  current : register.number system.row = system.versions.length
  value : system.row.map register.decode =
    system.versions.getLast?.map fun version => some (register.value version.call)
  audited : system.audit.map (fun change => (change.number, change.call)) =
    system.versions.map fun version => (version.number, version.call)
  first : ∀ change ∈ system.audit.head?, change.old = none
  chained : TransitionLog.Chained Change.old (fun change => register.value change.call)
    system.audit

/-- What a transaction has read is one of the versions of the log. -/
def Seen (versions : List (Version Call)) (existing : Option Row) : Prop :=
  ∀ row ∈ existing, ∃ version ∈ versions, version.number = register.version row ∧
    register.decode row = some (register.value version.call)

/-- What a transaction knows of the values. -/
def PhaseRecorded (versions : List (Version Call)) (call : Call) : Phase Value Row → Prop
  | .begun => True
  | .hasRead existing => Seen register versions existing
  | .numbered existing next =>
    Seen register versions existing ∧ next = register.number existing + 1
  | .written existing next row | .logged existing next row =>
    Seen register versions existing ∧ next = register.number existing + 1 ∧
      register.decode row = some (register.value call)
  | .audited _ row old =>
    register.decode row = some (register.value call) ∧
      old = versions.getLast?.map fun version => register.value version.call

structure Recorded (system : System Call Value Row) : Prop extends Numbered register system where
  value : system.row.map register.decode =
    system.versions.getLast?.map fun version => some (register.value version.call)
  first : ∀ change ∈ system.audit.head?, change.old = none
  chained : TransitionLog.Chained Change.old (fun change => register.value change.call)
    system.audit
  readsBack : ∀ id writer, system.writers id = some writer → ReadsBack register writer.call
  phases : ∀ id writer, system.writers id = some writer →
    PhaseRecorded register system.versions writer.call writer.phase

variable {register} {system : System Call Value Row}

theorem Recorded.history (recorded : Recorded register system) : History register system where
  gapless := recorded.gapless
  current := recorded.current
  value := recorded.value
  audited := recorded.audited
  first := recorded.first
  chained := recorded.chained

variable {versions more : List (Version Call)}

theorem Seen.append (hSeen : Seen register versions existing)
    : Seen register (versions ++ more) existing := by
  intro row hRow
  obtain ⟨version, hVersion, hNumber, hValue⟩ := hSeen row hRow
  exact ⟨version, List.mem_append_left _ hVersion, hNumber, hValue⟩

theorem Recorded.seen_row (recorded : Recorded register system) :
    Seen register system.versions system.row := by
  intro row hRow
  rw [mem_def] at hRow
  have hValue := recorded.value
  have hCurrent := recorded.current
  rw [hRow] at hValue hCurrent
  cases hLast : system.versions.getLast? with
  | none =>
    rw [hLast] at hValue
    cases hValue
  | some version =>
    rw [hLast, map_some, map_some, some.injEq] at hValue
    obtain ⟨hVersion, hNumber⟩ := (getLast?_eq_some_iff recorded.gapless).mp hLast
    exact ⟨version, hVersion, hNumber.trans hCurrent.symm, hValue⟩

/-- The row a transaction has read, if it is the one before the next number,
holds the last version. -/
theorem mapM_decode_of_seen (recorded : Recorded register system)
    (hSeen : Seen register system.versions existing)
    (hNumber : register.number existing = system.versions.length) :
    existing.mapM register.decode =
      some (system.versions.getLast?.map fun version => register.value version.call) := by
  cases existing with
  | none =>
    have hNone : system.versions = [] := List.eq_nil_of_length_eq_zero
      (Int.natCast_eq_zero.mp hNumber.symm)
    rw [hNone]
    rfl
  | some row =>
    obtain ⟨version, hVersion, hSame, hValue⟩ := hSeen row rfl
    have hLast := (getLast?_eq_some_iff recorded.gapless).mpr ⟨hVersion, hSame.trans hNumber⟩
    rw [hLast, mapM_some, hValue]
    rfl

theorem PhaseRecorded.append {call : Call} {count : Nat} {lock : Option Nat} {id other : Nat}
    {phase : Phase Value Row} (hPhase : PhaseRecorded register versions call phase)
    (hNumbered : PhaseNumbered register count lock other phase) (hLock : lock = some id)
    (hOther : other ≠ id) : PhaseRecorded register (versions ++ more) call phase := by
  cases phase with
  | begun => exact trivial
  | hasRead existing => exact Seen.append hPhase
  | numbered existing next => exact ⟨hPhase.1.append, hPhase.2⟩
  | written existing next row => exact ⟨hPhase.1.append, hPhase.2⟩
  | logged existing next row => exact ⟨hPhase.1.append, hPhase.2⟩
  | audited next row old => exact absurd (some.inj (hNumbered.1.symm.trans hLock)) hOther

theorem recorded_empty : Recorded register (System.empty : System Call Value Row) :=
  { numbered_empty with
    value := rfl
    first := fun change hChange => by cases hChange
    chained := List.isChain_nil
    readsBack := fun id writer hWriter => by cases hWriter
    phases := fun id writer hWriter => by cases hWriter }

section
variable (recorded : Recorded register system)
include recorded

theorem Recorded.rollback (id : Nat) : Recorded register (system.rollback id) :=
  { recorded.toNumbered.rollback id with
    value := recorded.value
    first := recorded.first
    chained := recorded.chained
    readsBack := forall_update (fun _ hNone => by cases hNone)
      fun other found _ hFound => recorded.readsBack other found hFound
    phases := forall_update (fun _ hNone => by cases hNone)
      fun other found _ hFound => recorded.phases other found hFound }

variable {writer : Writer Call Value Row}

theorem Recorded.setWriter {id : Nat}
    (numbered : Numbered register (system.setWriter id (some writer)))
    (hReadsBack : ReadsBack register writer.call)
    (hPhase : PhaseRecorded register system.versions writer.call writer.phase) :
    Recorded register (system.setWriter id (some writer)) :=
  { numbered with
    value := recorded.value
    first := recorded.first
    chained := recorded.chained
    readsBack := forall_update (fun _ hChanged => some.inj hChanged ▸ hReadsBack)
      fun other found _ hFound => recorded.readsBack other found hFound
    phases := forall_update (fun _ hChanged => some.inj hChanged ▸ hPhase)
      fun other found _ hFound => recorded.phases other found hFound }

/-- A transaction that draws its number when the row it has read is still the
committed one draws the number after that row's. -/
theorem nextVersion_eq (hCurrent : register.readsLog = true → existing = system.row) :
    register.nextVersion existing system.versions = register.number existing + 1 := by
  unfold Register.nextVersion
  split
  · rename_i hReads
    have hNumber := recorded.current
    have hGreatest := greatest_of_gapless recorded.gapless
    rw [hCurrent hReads]
    omega
  · rfl

theorem Recorded.commit {id : Nat} {call : Call} {next : Int} {row : Row} {old : Option Value}
    (hWriter : system.writers id = some ⟨call, .audited next row old⟩) :
    Recorded register (register.advance system id ⟨call, .audited next row old⟩) := by
  obtain ⟨hDecode, hOld⟩ := recorded.phases id _ hWriter
  have hLock := (recorded.writers id _ hWriter).1
  have hCalls : system.audit.getLast?.map (·.call) = system.versions.getLast?.map (·.call) := by
    have hSame := congrArg (fun list => list.getLast?.map Prod.snd) recorded.audited
    simpa only [List.getLast?_map, map_map, Function.comp_def] using hSame
  exact
    { recorded.toNumbered.advance hWriter with
      value := by
        simp only [Register.advance, map_some, List.getLast?_concat, hDecode]
      first := by
        intro change hChange
        cases hAudit : system.audit with
        | nil =>
          rw [hAudit, List.getLast?_nil, map_none] at hCalls
          have hNone := map_eq_none_iff.mp hCalls.symm
          simp only [Register.advance, hAudit, List.nil_append, List.head?_cons,
            mem_def, some.injEq] at hChange
          rw [← hChange, hOld, hNone]
          rfl
        | cons head rest =>
          simp only [Register.advance, hAudit, List.cons_append, List.head?_cons] at hChange
          exact recorded.first change (by rwa [hAudit, List.head?_cons])
      chained := by
        refine TransitionLog.chained_concat.mpr ⟨recorded.chained, fun last hLast => ?_⟩
        rw [mem_def.mp hLast, map_some] at hCalls
        rw [hOld]
        have hValue := congrArg (Option.map register.value) hCalls
        rw [map_map] at hValue
        exact hValue.symm
      readsBack := forall_update (fun _ hNone => by cases hNone)
        fun other found _ hFound => recorded.readsBack other found hFound
      phases := forall_update (fun _ hNone => by cases hNone) fun other found hOther hFound =>
        (recorded.phases other found hFound).append (recorded.writers other found hFound) hLock
          hOther }

theorem Recorded.advance {id : Nat} (hWriter : system.writers id = some writer)
    (hConsistent : Consistent register system (.advance id)) :
    Recorded register (register.advance system id writer) := by
  have hNumbered := recorded.toNumbered.advance hWriter
  have hPhase := recorded.phases id writer hWriter
  have hNumbers := recorded.writers id writer hWriter
  have hReadsBack := recorded.readsBack id writer hWriter
  obtain ⟨call, phase⟩ := writer
  cases phase with
  | begun => exact recorded.setWriter hNumbered hReadsBack recorded.seen_row
  | hasRead existing =>
    exact recorded.setWriter hNumbered hReadsBack
      ⟨hPhase, nextVersion_eq recorded (hConsistent call existing hWriter)⟩
  | numbered existing next =>
    simp only [Register.advance] at hNumbered ⊢
    split
    · exact recorded
    · rename_i hLock
      rw [if_neg hLock] at hNumbered
      cases hWrite : register.write existing system.row call next with
      | none => exact recorded.rollback id
      | some row =>
        rw [hWrite] at hNumbered
        exact { hNumbered with
          value := recorded.value
          first := recorded.first
          chained := recorded.chained
          readsBack := forall_update (fun _ hChanged => some.inj hChanged ▸ hReadsBack)
            fun other found _ hFound => recorded.readsBack other found hFound
          phases := forall_update
            (fun _ hChanged => some.inj hChanged ▸
              ⟨hPhase.1, hPhase.2, hReadsBack _ _ _ _ hWrite⟩)
            fun other found _ hFound => recorded.phases other found hFound }
  | written existing next row =>
    simp only [Register.advance] at hNumbered ⊢
    split
    · exact recorded.rollback id
    · rename_i hFresh
      rw [if_neg hFresh] at hNumbered
      exact recorded.setWriter hNumbered hReadsBack hPhase
  | logged existing next row =>
    obtain ⟨hSeen, hNext, hDecode⟩ := hPhase
    obtain ⟨-, -, hLast⟩ := hNumbers
    have hOld := mapM_decode_of_seen recorded hSeen (by omega)
    simp only [Register.advance, hOld] at hNumbered ⊢
    exact recorded.setWriter hNumbered hReadsBack ⟨hDecode, rfl⟩
  | audited next row old => exact recorded.commit hWriter

theorem Recorded.step {event : Event Call} (hConsistent : Consistent register system event) :
    Recorded register (register.step system event) := by
  cases event with
  | start id call =>
    simp only [Register.step]
    split
    · exact recorded
    · exact recorded.setWriter (recorded.toNumbered.setWriter trivial) hConsistent trivial
  | advance id =>
    simp only [Register.step]
    cases hWriter : system.writers id with
    | none => exact recorded
    | some writer => exact recorded.advance hWriter hConsistent
  | abort id => exact recorded.rollback id

end

theorem history_of_run {events : List (Event Call)}
    (hAlong : Along register.step (Consistent register) System.empty events) :
    Throughout register.step (History register) System.empty events :=
  throughout_of_along (fun _ _ recorded hStep => recorded.step hStep)
    (fun _ recorded => recorded.history) recorded_empty hAlong

end History

section Uninterrupted

/-- The statements of one call, with nothing between them. -/
def uninterrupted (call : Call) : List (Event Call) :=
  .start 0 call :: List.replicate 6 (.advance 0)

end Uninterrupted

end VersionedRegister
