import AegisQuant.Library.TransitionLog
import AegisQuant.Research.CandidateLifecycle

/-! The events of a candidate form a chain as long as every status update is
made on the status that is still there, and nothing comes between it and its
event. The updates do not check the first, and in an observation or a decision
nothing ensures the second. -/
namespace AegisQuant.Research
open LifecycleSystem Transition TransitionLog List Option

def Decided (status : ResearchCandidateStatus) : Prop :=
  status = .rejected ∨ status = .promotedToShadowConfig

/-- The request has updated the status, and has yet to append the event. -/
def Pending (system : LifecycleSystem) (id : Nat) (event : ResearchCandidateLifecycleEvent)
    (write : StatusWrite) : Prop :=
  system.requests id = some (.hasWritten event (some write))

def Settled (system : LifecycleSystem) : Prop := ∀ id event write, ¬Pending system id event write

/-- The candidate is as the request has read it, and it was not rejected or
promoted since by the last update. -/
structure Fresh (system : LifecycleSystem) (status : ResearchCandidateStatus) (readAt : Nat) :
    Prop where
  status : system.candidate.status = status
  undecided : ∀ last ∈ (system.writtenSince readAt).getLast?, ¬Decided last

/-- A status update finds what was read, with no event of another update still
to come, and its event is stored if and only if it was. -/
def Undisturbed (system : LifecycleSystem) : LifecycleStep → Prop
  | .read _ _ => True
  | .write id stored => ∀ call status readAt,
      system.requests id = some (.hasRead call status readAt) → stored = true →
        (call.change status).isSome → Fresh system status readAt ∧ Settled system
  | .append id stored => ∀ event write,
      system.requests id = some (.hasWritten event write) → stored = write.isSome

/-- Each event starts from the status before the update it records, the last one
ends in the present status, and no update overwrites a rejection or promotion
made since the candidate was read for it. -/
structure LifecycleChain (system : LifecycleSystem) : Prop where
  chained : Chained (·.event.previousStatus) (·.event.nextStatus) system.events
  recorded : ∀ entry ∈ system.events, ∃ write ∈ system.writes,
    entry.write = some write ∧ entry.event.previousStatus = write.before
  current : Settled system → ∃ last, system.events.getLast? = some last ∧
    system.candidate.status = last.event.nextStatus
  decisions : ∀ write ∈ system.writes, ∀ overwritten ∈ write.since.getLast?, ¬Decided overwritten

/-- With what is known of an event that is still to be appended. -/
structure Chaining (system : LifecycleSystem) : Prop where
  chained : Chained (·.event.previousStatus) (·.event.nextStatus) system.events
  recorded : ∀ entry ∈ system.events, ∃ write ∈ system.writes,
    entry.write = some write ∧ entry.event.previousStatus = write.before
  decisions : ∀ write ∈ system.writes, ∀ overwritten ∈ write.since.getLast?, ¬Decided overwritten
  nonempty : system.events ≠ []
  settled : Settled system → EndsIn (·.event.nextStatus) system.events system.candidate.status
  pending : ∀ id event write, Pending system id event write →
    write ∈ system.writes ∧ event.previousStatus = write.before ∧
      event.nextStatus = system.candidate.status ∧
      ∀ last ∈ system.events.getLast?, event.previousStatus = some last.event.nextStatus
  single : ∀ first second firstEvent secondEvent firstWrite secondWrite,
    Pending system first firstEvent firstWrite → Pending system second secondEvent secondWrite →
      first = second

section Steps
variable {system : LifecycleSystem} {id readAt : Nat} {status : ResearchCandidateStatus}
  {change : StatusChange} {event : ResearchCandidateLifecycleEvent}

theorem Chaining.lifecycleChain (hState : Chaining system) : LifecycleChain system where
  chained := hState.chained
  recorded := hState.recorded
  decisions := hState.decisions
  current hSettled := by
    obtain ⟨last, hLast⟩ := isSome_iff_exists.mp (getLast?_isSome.mpr hState.nonempty)
    exact ⟨last, hLast, hState.settled hSettled last hLast⟩

/-- The event of a request goes from the status it read to the one it writes. -/
theorem change_spec (call : CandidateCall)
    (hChange : call.change status = some (change, event)) :
    event.previousStatus = some status ∧ event.nextStatus = change.nextStatus := by
  cases call with
  | observe call =>
    simp only [CandidateCall.change, ObservationCall.change, ite_none_right_eq_some] at hChange
    obtain ⟨⟨-, rfl⟩, hChange⟩ := hChange
    cases hChange
    exact ⟨rfl, rfl⟩
  | review call =>
    obtain ⟨nextStatus, -, hChange⟩ := map_eq_some_iff.mp hChange
    cases hChange
    exact ⟨rfl, rfl⟩
  | decide call =>
    simp only [CandidateCall.change, DecisionCall.change, ite_none_left_eq_some] at hChange
    obtain ⟨-, hChange⟩ := hChange
    split at hChange
    · cases hChange
    · rw [ite_none_left_eq_some] at hChange
      cases hChange.2
      exact ⟨rfl, rfl⟩

theorem pending_setPhase {phase : RequestPhase} {other : Nat} {write : StatusWrite} :
    Pending (system.setPhase id phase) other event write ↔
      other = id ∧ phase = .hasWritten event (some write) ∨
        other ≠ id ∧ Pending system other event write := by
  unfold Pending setPhase
  by_cases hOther : other = id
  · simp only [hOther, Function.update_self, some.injEq, true_and, ne_eq, not_true_eq_false,
      false_and, or_false]
  · simp only [hOther, Function.update_of_ne hOther, false_and, ne_eq, not_false_eq_true, true_and,
      false_or]

section
variable (hState : Chaining system)
include hState

/-- A request that neither had nor has an event to append changes nothing that
matters. -/
theorem Chaining.quiet {phase : RequestPhase}
    (hBefore : ∀ event write, ¬Pending system id event write)
    (hAfter : ∀ event write, phase ≠ .hasWritten event (some write))
    (reviews : List ResearchCandidateReview) :
    Chaining { system.setPhase id phase with reviews := reviews } := by
  have hSame (other : Nat) (event : ResearchCandidateLifecycleEvent) (write : StatusWrite) :
      Pending { system.setPhase id phase with reviews := reviews } other event write ↔
        Pending system other event write := by
    refine pending_setPhase.trans ⟨?_, fun hPending => .inr ⟨?_, hPending⟩⟩
    · rintro (⟨-, hPhase⟩ | ⟨-, hPending⟩)
      · exact absurd hPhase (hAfter event write)
      · exact hPending
    · rintro rfl
      exact hBefore event write hPending
  constructor
  · exact hState.chained
  · exact hState.recorded
  · exact hState.decisions
  · exact hState.nonempty
  · intro hSettled
    exact hState.settled fun other event write hPending =>
      hSettled other event write ((hSame other event write).mpr hPending)
  · intro other event write hPending
    exact hState.pending other event write ((hSame other event write).mp hPending)
  · intro first second firstEvent secondEvent firstWrite secondWrite hFirst hSecond
    exact hState.single first second firstEvent secondEvent firstWrite secondWrite
      ((hSame ..).mp hFirst) ((hSame ..).mp hSecond)

/-- A status update on what was read, with its event still to come. -/
theorem Chaining.update (hFresh : Fresh system status readAt) (hSettled : Settled system)
    (hPrevious : event.previousStatus = some status) (hNext : event.nextStatus = change.nextStatus)
    :
    Chaining ((system.updateResearchCandidateStatus change readAt).setPhase id
      (.hasWritten event (some (system.statusWrite change readAt)))) := by
  have hPending (other : Nat) (found : ResearchCandidateLifecycleEvent) (write : StatusWrite)
      (hFound : Pending ((system.updateResearchCandidateStatus change readAt).setPhase id
        (.hasWritten event (some (system.statusWrite change readAt)))) other found write) :
      other = id ∧ found = event ∧ write = system.statusWrite change readAt := by
    rcases pending_setPhase.mp hFound with ⟨rfl, hPhase⟩ | ⟨-, hOld⟩
    · cases hPhase
      exact ⟨rfl, rfl, rfl⟩
    · exact absurd hOld (hSettled other found write)
  constructor
  · exact hState.chained
  · intro entry hEntry
    obtain ⟨write, hWrite, hRecords⟩ := hState.recorded entry hEntry
    exact ⟨write, mem_append_left _ hWrite, hRecords⟩
  · intro write hWrite
    rcases mem_append.mp hWrite with hOld | hNew
    · exact hState.decisions write hOld
    · rw [mem_singleton.mp hNew]
      exact hFresh.undecided
  · exact hState.nonempty
  · intro hNone
    exact absurd (pending_setPhase.mpr (.inl ⟨rfl, rfl⟩))
      (hNone id event (system.statusWrite change readAt))
  · intro other found write hFound
    obtain ⟨rfl, rfl, rfl⟩ := hPending other found write hFound
    have hBefore : found.previousStatus = some system.candidate.status := by
      rw [hPrevious, hFresh.status]
    refine ⟨mem_append_right _ (mem_singleton_self _), hBefore, hNext, ?_⟩
    intro last hLast
    rw [hBefore, hState.settled hSettled last hLast]
  · intro first second firstEvent secondEvent firstWrite secondWrite hFirst hSecond
    exact (hPending _ _ _ hFirst).1.trans (hPending _ _ _ hSecond).1.symm

theorem Chaining.append {write : StatusWrite} (hPending : Pending system id event write) :
    Chaining ((system.appendResearchCandidateEvent event (some write)).setPhase id .ended) := by
  obtain ⟨hWrite, hPrevious, hNext, hLast⟩ := hState.pending id event write hPending
  have hSettled : Settled
      ((system.appendResearchCandidateEvent event (some write)).setPhase id .ended) := by
    intro other found otherWrite hFound
    rcases pending_setPhase.mp hFound with ⟨-, hPhase⟩ | ⟨hOther, hOld⟩
    · cases hPhase
    · exact hOther (hState.single other id _ _ _ _ hOld hPending)
  constructor
  · exact chained_concat.mpr ⟨hState.chained, hLast⟩
  · intro entry hEntry
    rcases mem_append.mp hEntry with hOld | hNew
    · exact hState.recorded entry hOld
    · rw [mem_singleton.mp hNew]
      exact ⟨write, hWrite, rfl, hPrevious⟩
  · exact hState.decisions
  · exact append_ne_nil_of_right_ne_nil _ (cons_ne_nil _ _)
  · exact fun _ => endsIn_concat.mpr hNext.symm
  · exact fun other found otherWrite hFound => absurd hFound (hSettled other found otherWrite)
  · exact fun _ _ _ _ _ _ hFirst => absurd hFirst (hSettled _ _ _)

theorem Chaining.setPhase {phase : RequestPhase}
    (hBefore : ∀ event write, ¬Pending system id event write)
    (hAfter : ∀ event write, phase ≠ .hasWritten event (some write)) :
    Chaining (system.setPhase id phase) :=
  hState.quiet hBefore hAfter system.reviews

theorem Chaining.review (hFresh : Fresh system status readAt) (hSettled : Settled system)
    {call : ReviewCall} (hChange : call.change status = some (change, event))
    (review : ResearchCandidateReview) :
    Chaining ((system.applyResearchCandidateReview review (some (change, event)) readAt).setPhase id
      .ended) := by
  obtain ⟨hPrevious, hNext⟩ := change_spec (.review call) hChange
  have hUpdated : Chaining ((system.updateResearchCandidateStatus change readAt).setPhase id
      (.hasWritten event (some (system.statusWrite change readAt)))) :=
    hState.update hFresh hSettled hPrevious hNext
  have hAppended := hUpdated.append (pending_setPhase.mpr (.inl ⟨rfl, rfl⟩))
  have hEnded := @Chaining.quiet _ id hAppended .ended
    (fun found write hFound => by
      rcases pending_setPhase.mp hFound with ⟨-, hPhase⟩ | ⟨hOther, -⟩
      · cases hPhase
      · exact hOther rfl)
    (fun _ _ => RequestPhase.noConfusion) (system.reviews ++ [review])
  simpa only [applyResearchCandidateReview, LifecycleSystem.setPhase, appendResearchCandidateEvent,
    updateResearchCandidateStatus, Function.update_idem] using hEnded

theorem Chaining.writeStatus {call : CandidateCall} {stored : Bool}
    (hRequest : system.requests id = some (.hasRead call status readAt))
    (hUndisturbed : stored = true → (call.change status).isSome →
      Fresh system status readAt ∧ Settled system) :
    Chaining (system.writeStatus id call status readAt stored) := by
  have hIdle : ∀ event write, ¬Pending system id event write := by
    intro event write hPending
    rw [Pending, hRequest] at hPending
    cases hPending
  have hEnded : Chaining (system.setPhase id .ended) :=
    hState.setPhase hIdle fun _ _ => RequestPhase.noConfusion
  cases call with
  | observe call =>
    simp only [LifecycleSystem.writeStatus]
    cases hChange : call.change status with
    | none => exact hEnded
    | some changed =>
      obtain ⟨change, event⟩ := changed
      obtain ⟨hPrevious, hNext⟩ := change_spec (.observe call) hChange
      cases stored with
      | false => exact hState.setPhase hIdle fun _ _ hSame => by cases hSame
      | true =>
        obtain ⟨hFresh, hSettled⟩ := hUndisturbed rfl (isSome_of_eq_some hChange)
        exact hState.update hFresh hSettled hPrevious hNext
  | review call =>
    simp only [LifecycleSystem.writeStatus]
    cases call.outcome status with
    | error _ => exact hEnded
    | ok outcome =>
      cases stored with
      | false => exact hEnded
      | true =>
        simp only [if_true]
        cases hChange : call.change status with
        | none => exact hState.quiet hIdle (fun _ _ => RequestPhase.noConfusion) _
        | some changed =>
          obtain ⟨change, event⟩ := changed
          obtain ⟨hFresh, hSettled⟩ := hUndisturbed rfl (isSome_of_eq_some hChange)
          exact hState.review hFresh hSettled hChange _
  | decide call =>
    simp only [LifecycleSystem.writeStatus]
    cases hChange : call.change status with
    | none => exact hEnded
    | some changed =>
      obtain ⟨change, event⟩ := changed
      obtain ⟨hPrevious, hNext⟩ := change_spec (.decide call) hChange
      cases stored with
      | false => exact hEnded
      | true =>
        obtain ⟨hFresh, hSettled⟩ := hUndisturbed rfl (isSome_of_eq_some hChange)
        exact hState.update hFresh hSettled hPrevious hNext

end

theorem chaining_step (system : LifecycleSystem) (input : LifecycleStep) (hState : Chaining system)
    (hInput : Undisturbed system input) : Chaining (system.step input) := by
  cases input with
  | read id call =>
    simp only [step]
    split
    · rename_i hNone
      refine hState.setPhase (fun event write hPending => ?_) fun _ _ => RequestPhase.noConfusion
      rw [Pending, hNone] at hPending
      cases hPending
    · exact hState
  | write id stored =>
    simp only [step]
    split
    · rename_i call status readAt hRequest
      exact hState.writeStatus hRequest (hInput call status readAt hRequest)
    · exact hState
  | append id stored =>
    simp only [step]
    split
    · rename_i event write hRequest
      have hStored := hInput event write hRequest
      cases write with
      | none =>
        rw [hStored]
        refine hState.setPhase (fun found write hPending => ?_) fun _ _ => RequestPhase.noConfusion
        rw [Pending, hRequest] at hPending
        cases hPending
      | some write =>
        rw [hStored]
        exact hState.append hRequest
    · exact hState

end Steps

section
variable (candidate : ResearchCandidateRecord) (legacy : StrategyResearchCandidateRecord)
  (decision : ResearchCandidateDecision) (reason notes : Option String) (actorId : Option Uuid)
  (createdAt : DateTime)

theorem chaining_created :
    Chaining (created candidate legacy decision reason notes actorId createdAt) where
  chained := isChain_singleton _
  recorded entry hEntry := by
    rw [mem_singleton.mp hEntry]
    exact ⟨_, mem_singleton_self _, rfl, rfl⟩
  decisions write hWrite overwritten hLast := by
    rw [mem_singleton.mp hWrite] at hLast
    cases hLast
  nonempty := cons_ne_nil _ _
  settled _ last hLast := by
    cases hLast
    rfl
  pending _ _ _ hPending := by cases hPending
  single _ _ _ _ _ _ hFirst := by cases hFirst

/-- The lifecycle of a candidate is a chain in every state of a run in which
every status update finds the candidate as it was read, and every update is
followed by its event before the next update. -/
theorem lifecycle_chain (inputs : List LifecycleStep)
    (hInputs : Along step Undisturbed
      (created candidate legacy decision reason notes actorId createdAt) inputs) :
    Throughout step LifecycleChain
      (created candidate legacy decision reason notes actorId createdAt) inputs :=
  throughout_of_along chaining_step (fun _ hState => hState.lifecycleChain)
    (chaining_created candidate legacy decision reason notes actorId createdAt) hInputs

end

def sampleCandidateRow : ResearchCandidateRecord := ⟨.discovered, none, none, 0, none⟩

def sampleLegacyRow : StrategyResearchCandidateRecord := ⟨.registered, 0, none, none⟩

def sampleCandidate : LifecycleSystem :=
  created sampleCandidateRow sampleLegacyRow .reopen (some "created") none none 0

def sampleObservation : CandidateCall := .observe ⟨true, none, DateTime.seconds 60, ⟨1⟩⟩

def sampleRejection : CandidateCall :=
  .review ⟨.rejectFromWatchlist, ⟨none, none⟩, some "bad drawdown", none, ⟨7⟩, DateTime.seconds 90,
    ⟨2⟩, none⟩

def sampleMark : List LifecycleStep :=
  [.read 0 sampleObservation, .write 0 true, .append 0 true]

theorem lifecycle_chain_sample :
    (run step sampleCandidate sampleMark).candidate.status = .observing ∧
    Throughout step LifecycleChain sampleCandidate sampleMark := by
  refine ⟨rfl, lifecycle_chain sampleCandidateRow sampleLegacyRow .reopen (some "created") none none
    0 sampleMark ⟨trivial, ?_, ?_, trivial⟩⟩
  · intro call status readAt hRequest _ _
    cases hRequest
    refine ⟨⟨rfl, fun last hLast => by cases hLast⟩, fun id event write hPending => ?_⟩
    rcases pending_setPhase.mp hPending with ⟨-, hPhase⟩ | ⟨-, hOld⟩
    · cases hPhase
    · cases hOld
  · intro event write hRequest
    cases hRequest
    rfl

/-- The candidate is rejected after the observation has read it. -/
def staleMark : List LifecycleStep :=
  [.read 0 sampleObservation, .read 1 sampleRejection, .write 1 true, .write 0 true, .append 0 true]

/-- The observation puts the rejected candidate under observation, and its event
says that it was only discovered before. -/
theorem stale_mark_overwrites_rejection :
    (run step sampleCandidate staleMark).writes.map (·.after) = [.discovered, .rejected, .observing] ∧
    ¬Throughout step LifecycleChain sampleCandidate staleMark := by
  refine ⟨by decide, fun hAll => ?_⟩
  obtain ⟨write, -, hWrite, hPrevious⟩ := (run_of_throughout hAll).recorded _
    (mem_of_mem_getLast? rfl)
  cases hWrite
  cases hPrevious

end AegisQuant.Research
