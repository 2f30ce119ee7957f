import AegisQuant.Library.Run
import AegisQuant.Research.Qualification

/-! The status of a research candidate and the events of its changes. Requests
read the candidate first and go by the status they found. A review writes the
status and its event in one transaction, an observation and a decision in two
statements, between which other requests may write. -/
namespace AegisQuant.Research

inductive ResearchCandidateDecision where
  | acceptForShadow
  | promoteToShadowConfig
  | reject
  | archive
  | reopen
  deriving DecidableEq, Repr

def ResearchCandidateDecision.asStr : ResearchCandidateDecision → String
  | .acceptForShadow => "ACCEPT_FOR_SHADOW"
  | .promoteToShadowConfig => "PROMOTE_TO_SHADOW_CONFIG"
  | .reject => "REJECT"
  | .archive => "ARCHIVE"
  | .reopen => "REOPEN"

inductive ResearchCandidateReviewAction where
  | markReviewed
  | markNeedsMoreObservation
  | markReadyForTestnetReview
  | markInvestigated
  | rejectFromWatchlist
  | archiveFromWatchlist
  deriving DecidableEq, Repr

def ResearchCandidateReviewAction.asStr : ResearchCandidateReviewAction → String
  | .markReviewed => "MARK_REVIEWED"
  | .markNeedsMoreObservation => "MARK_NEEDS_MORE_OBSERVATION"
  | .markReadyForTestnetReview => "MARK_READY_FOR_TESTNET_REVIEW"
  | .markInvestigated => "MARK_INVESTIGATED"
  | .rejectFromWatchlist => "REJECT_FROM_WATCHLIST"
  | .archiveFromWatchlist => "ARCHIVE_FROM_WATCHLIST"

inductive ResearchCandidateReviewStatus where
  | recorded
  | candidateStatusUpdated
  deriving DecidableEq, Repr

inductive ResearchCandidateWatchlistStatus where
  | improving
  | stable
  | degrading
  | newlyQualified
  | lostQualification
  | needsAttention
  | insufficientHistory
  deriving DecidableEq, Repr

inductive StrategyResearchCandidateStatus where
  | draft
  | registered
  | rejected
  | promotedToShadowConfig
  | archived
  deriving DecidableEq, Repr

def legacyStatusForResearchCandidate : ResearchCandidateStatus → StrategyResearchCandidateStatus
  | .discovered | .observing => .registered
  | .acceptedForShadow => .registered
  | .promotedToShadowConfig => .promotedToShadowConfig
  | .rejected => .rejected
  | .archived => .archived

inductive ResearchCandidateError where
  | invalidResearchCandidateTransition (status decision : String)
  | invalidResearchCandidateReviewAction (status action : String)
  | missingResearchCandidateReviewReason (action : String)
  | researchCandidateReviewRequiresQualified (action : String)
  | researchCandidateReviewRequiresInvestigationContext (action : String)
  deriving DecidableEq, Repr

structure ResearchCandidateReviewContext where
  latestQualificationStatus : Option ResearchCandidateQualificationStatus
  latestWatchlistStatus : Option ResearchCandidateWatchlistStatus

structure ResearchCandidateReviewOutcome where
  status : ResearchCandidateReviewStatus
  nextCandidateStatus : Option ResearchCandidateStatus

def hasReason (reason : Option String) : Bool := (reason.map trim).any (· ≠ "")

def reviewOutcomeForReason (action : ResearchCandidateReviewAction) (reason : Option String)
    (nextStatus : ResearchCandidateStatus) :
    Except ResearchCandidateError ResearchCandidateReviewOutcome :=
  if hasReason reason then .ok ⟨.candidateStatusUpdated, some nextStatus⟩
  else .error (.missingResearchCandidateReviewReason action.asStr)

def researchCandidateReviewOutcome (currentStatus : ResearchCandidateStatus)
    (action : ResearchCandidateReviewAction) (context : ResearchCandidateReviewContext)
    (reason : Option String) : Except ResearchCandidateError ResearchCandidateReviewOutcome :=
  match action with
  | .markReviewed => .ok ⟨.recorded, none⟩
  | .markNeedsMoreObservation =>
    match currentStatus with
    | .discovered => .ok ⟨.candidateStatusUpdated, some .observing⟩
    | .observing | .acceptedForShadow => .ok ⟨.recorded, none⟩
    | _ => .error (.invalidResearchCandidateReviewAction currentStatus.asStr action.asStr)
  | .markReadyForTestnetReview =>
    if context.latestQualificationStatus ≠ some .qualified then
      .error (.researchCandidateReviewRequiresQualified action.asStr)
    else .ok ⟨.recorded, none⟩
  | .markInvestigated =>
    if context.latestWatchlistStatus = some .lostQualification ∨
        context.latestWatchlistStatus = some .needsAttention ∨
        context.latestQualificationStatus = some .notQualified then .ok ⟨.recorded, none⟩
    else .error (.researchCandidateReviewRequiresInvestigationContext action.asStr)
  | .rejectFromWatchlist => reviewOutcomeForReason action reason .rejected
  | .archiveFromWatchlist => reviewOutcomeForReason action reason .archived

def researchCandidateNextStatus (currentStatus : ResearchCandidateStatus)
    (decision : ResearchCandidateDecision) :
    Except ResearchCandidateError ResearchCandidateStatus :=
  let refused := .error (.invalidResearchCandidateTransition currentStatus.asStr decision.asStr)
  match decision with
  | .acceptForShadow =>
    match currentStatus with
    | .discovered | .observing => .ok .acceptedForShadow
    | _ => refused
  | .promoteToShadowConfig =>
    match currentStatus with
    | .acceptedForShadow => .ok .promotedToShadowConfig
    | .promotedToShadowConfig => .ok currentStatus
    | _ => refused
  | .reject =>
    match currentStatus with
    | .discovered | .observing | .acceptedForShadow | .promotedToShadowConfig => .ok .rejected
    | _ => refused
  | .archive =>
    match currentStatus with
    | .archived => refused
    | _ => .ok .archived
  | .reopen =>
    match currentStatus with
    | .rejected | .archived => .ok .discovered
    | _ => refused

structure ResearchCandidateRecord where
  status : ResearchCandidateStatus
  rejectionReason : Option String
  notes : Option String
  updatedAt : DateTime
  correlationId : Option Uuid

/-- Those of its row in the older table. -/
structure StrategyResearchCandidateRecord where
  status : StrategyResearchCandidateStatus
  updatedAt : DateTime
  promotedAt : Option DateTime
  correlationId : Option Uuid

structure ResearchCandidateLifecycleEvent where
  previousStatus : Option ResearchCandidateStatus
  nextStatus : ResearchCandidateStatus
  decision : ResearchCandidateDecision
  reason : Option String
  notes : Option String
  actorId : Option Uuid
  createdAt : DateTime
  correlationId : Option Uuid

structure ResearchCandidateReview where
  action : ResearchCandidateReviewAction
  status : ResearchCandidateReviewStatus
  previousCandidateStatus : ResearchCandidateStatus
  nextCandidateStatus : Option ResearchCandidateStatus
  reason : Option String
  notes : Option String
  actorId : Option Uuid
  createdAt : DateTime
  correlationId : Option Uuid
  qualificationEvaluationId : Option Uuid

structure StatusChange where
  nextStatus : ResearchCandidateStatus
  rejectionReason : Option String
  notes : Option String
  updatedAt : DateTime
  correlationId : Option Uuid

def ResearchCandidateRecord.update (record : ResearchCandidateRecord) (change : StatusChange) :
    ResearchCandidateRecord where
  status := change.nextStatus
  rejectionReason := change.rejectionReason
  notes := change.notes.or record.notes
  updatedAt := change.updatedAt
  correlationId := change.correlationId.or record.correlationId

def StrategyResearchCandidateRecord.update (record : StrategyResearchCandidateRecord)
    (change : StatusChange) : StrategyResearchCandidateRecord where
  status := legacyStatusForResearchCandidate change.nextStatus
  updatedAt := change.updatedAt
  promotedAt :=
    if legacyStatusForResearchCandidate change.nextStatus = .promotedToShadowConfig then
      record.promotedAt.or (some change.updatedAt)
    else record.promotedAt
  correlationId := change.correlationId.or record.correlationId

/-- A call of `evaluate_candidate_observation`. -/
structure ObservationCall where
  markObserving : Bool
  createdBy : Option Uuid
  evaluatedAt : DateTime
  correlationId : Uuid

structure ReviewCall where
  action : ResearchCandidateReviewAction
  context : ResearchCandidateReviewContext
  reason : Option String
  notes : Option String
  actorId : Uuid
  now : DateTime
  correlationId : Uuid
  qualificationEvaluationId : Option Uuid

/-- `evidenceAccepted` says that the observation, readiness and walk-forward
evidence does not stand against accepting the candidate. -/
structure DecisionCall where
  decision : ResearchCandidateDecision
  reason : Option String
  notes : Option String
  actorId : Uuid
  evidenceAccepted : Bool
  updatedAt : DateTime
  correlationId : Uuid

inductive CandidateCall where
  | observe (call : ObservationCall)
  | review (call : ReviewCall)
  | decide (call : DecisionCall)

section Changes
variable (status : ResearchCandidateStatus)

def ObservationCall.change (call : ObservationCall) :
    Option (StatusChange × ResearchCandidateLifecycleEvent) :=
  if call.markObserving ∧ status = .discovered then
    some ({
      nextStatus := .observing
      rejectionReason := none
      notes := some "Observation explicitly requested."
      updatedAt := call.evaluatedAt
      correlationId := some call.correlationId }, {
      previousStatus := some .discovered
      nextStatus := .observing
      decision := .reopen
      reason := some "observation_requested"
      notes := some "Candidate moved into OBSERVING after explicit observation request."
      actorId := call.createdBy
      createdAt := call.evaluatedAt
      correlationId := some call.correlationId })
  else none

def ReviewCall.review (call : ReviewCall) (outcome : ResearchCandidateReviewOutcome) :
    ResearchCandidateReview where
  action := call.action
  status := outcome.status
  previousCandidateStatus := status
  nextCandidateStatus := outcome.nextCandidateStatus
  reason := call.reason
  notes := call.notes
  actorId := some call.actorId
  createdAt := call.now
  correlationId := some call.correlationId
  qualificationEvaluationId := call.qualificationEvaluationId

def ReviewCall.changeTo (call : ReviewCall) (nextStatus : ResearchCandidateStatus) :
    StatusChange × ResearchCandidateLifecycleEvent :=
  ({
    nextStatus := nextStatus
    rejectionReason := if nextStatus = .rejected then call.reason else none
    notes := call.notes
    updatedAt := call.now
    correlationId := some call.correlationId }, {
    previousStatus := some status
    nextStatus := nextStatus
    decision := if nextStatus = .rejected then .reject else .archive
    reason := call.reason
    notes := call.notes
    actorId := some call.actorId
    createdAt := call.now
    correlationId := some call.correlationId })

def ReviewCall.outcome (call : ReviewCall) :
    Except ResearchCandidateError ResearchCandidateReviewOutcome :=
  researchCandidateReviewOutcome status call.action call.context call.reason

def ReviewCall.change (call : ReviewCall) :
    Option (StatusChange × ResearchCandidateLifecycleEvent) :=
  ((call.outcome status).toOption.bind (·.nextCandidateStatus)).map (call.changeTo status)

def DecisionCall.change (call : DecisionCall) :
    Option (StatusChange × ResearchCandidateLifecycleEvent) :=
  if call.decision = .reject ∧ ¬hasReason call.reason then none
  else match researchCandidateNextStatus status call.decision with
    | .error _ => none
    | .ok nextStatus =>
      if call.decision = .acceptForShadow ∧ ¬call.evidenceAccepted then none
      else some ({
        nextStatus := nextStatus
        rejectionReason := if nextStatus = .rejected then call.reason else none
        notes := call.notes
        updatedAt := call.updatedAt
        correlationId := some call.correlationId }, {
        previousStatus := some status
        nextStatus := nextStatus
        decision := call.decision
        reason := call.reason
        notes := call.notes
        actorId := some call.actorId
        createdAt := call.updatedAt
        correlationId := some call.correlationId })

/-- The status update and the event of a request that has read `status`, unless
it leaves the candidate as it is. -/
def CandidateCall.change : CandidateCall → Option (StatusChange × ResearchCandidateLifecycleEvent)
  | .observe call => call.change status
  | .review call => call.change status
  | .decide call => call.change status

end Changes

/-- A status update with the status before it, which is none when the candidate
is created, and the statuses written since the request read the candidate. -/
structure StatusWrite where
  before : Option ResearchCandidateStatus
  since : List ResearchCandidateStatus
  after : ResearchCandidateStatus
  deriving DecidableEq

/-- A stored event, and the status update of the same request if there was one. -/
structure RecordedEvent where
  event : ResearchCandidateLifecycleEvent
  write : Option StatusWrite

/-- What a request has done. `readAt` is the number of status updates before it
read the candidate. -/
inductive RequestPhase where
  | hasRead (call : CandidateCall) (status : ResearchCandidateStatus) (readAt : Nat)
  | hasWritten (event : ResearchCandidateLifecycleEvent) (write : Option StatusWrite)
  | ended

structure LifecycleSystem where
  candidate : ResearchCandidateRecord
  legacy : StrategyResearchCandidateRecord
  writes : List StatusWrite
  events : List RecordedEvent
  reviews : List ResearchCandidateReview
  requests : Nat → Option RequestPhase

/-- A database statement of a request, or its transaction, and whether it
succeeds. -/
inductive LifecycleStep where
  | read (id : Nat) (call : CandidateCall)
  | write (id : Nat) (stored : Bool)
  | append (id : Nat) (stored : Bool)

namespace LifecycleSystem
variable (system : LifecycleSystem)

/-- A candidate just created, with the event of its creation. -/
def created (candidate : ResearchCandidateRecord) (legacy : StrategyResearchCandidateRecord)
    (decision : ResearchCandidateDecision) (reason notes : Option String) (actorId : Option Uuid)
    (createdAt : DateTime) : LifecycleSystem where
  candidate := candidate
  legacy := legacy
  writes := [⟨none, [], candidate.status⟩]
  events := [{
    event := {
      previousStatus := none
      nextStatus := candidate.status
      decision := decision
      reason := reason
      notes := notes
      actorId := actorId
      createdAt := createdAt
      correlationId := candidate.correlationId }
    write := some ⟨none, [], candidate.status⟩ }]
  reviews := []
  requests := fun _ => none

def setPhase (id : Nat) (phase : RequestPhase) : LifecycleSystem :=
  { system with requests := Function.update system.requests id (some phase) }

/-- The statuses written after the first `readAt` updates. -/
def writtenSince (readAt : Nat) : List ResearchCandidateStatus :=
  (system.writes.drop readAt).map (·.after)

def statusWrite (change : StatusChange) (readAt : Nat) : StatusWrite where
  before := some system.candidate.status
  since := system.writtenSince readAt
  after := change.nextStatus

def updateResearchCandidateStatus (change : StatusChange) (readAt : Nat) : LifecycleSystem :=
  { system with
    candidate := system.candidate.update change
    legacy := system.legacy.update change
    writes := system.writes ++ [system.statusWrite change readAt] }

def appendResearchCandidateEvent (event : ResearchCandidateLifecycleEvent)
    (write : Option StatusWrite) : LifecycleSystem :=
  { system with events := system.events ++ [⟨event, write⟩] }

def applyResearchCandidateReview (review : ResearchCandidateReview)
    (change : Option (StatusChange × ResearchCandidateLifecycleEvent)) (readAt : Nat) :
    LifecycleSystem :=
  match change with
  | none => { system with reviews := system.reviews ++ [review] }
  | some (change, event) =>
    let updated := system.updateResearchCandidateStatus change readAt
    { updated.appendResearchCandidateEvent event (some (system.statusWrite change readAt)) with
      reviews := system.reviews ++ [review] }

/-- What a request does with the status it has read. A failed update does not
keep an observation from appending its event. -/
def writeStatus (id : Nat) (call : CandidateCall) (status : ResearchCandidateStatus) (readAt : Nat)
    (stored : Bool) : LifecycleSystem :=
  match call with
  | .observe call =>
    match call.change status with
    | none => system.setPhase id .ended
    | some (change, event) =>
      if stored then (system.updateResearchCandidateStatus change readAt).setPhase id
        (.hasWritten event (some (system.statusWrite change readAt)))
      else system.setPhase id (.hasWritten event none)
  | .review call =>
    match call.outcome status with
    | .error _ => system.setPhase id .ended
    | .ok outcome =>
      if stored then
        (system.applyResearchCandidateReview (call.review status outcome) (call.change status)
          readAt).setPhase id .ended
      else system.setPhase id .ended
  | .decide call =>
    match call.change status with
    | none => system.setPhase id .ended
    | some (change, event) =>
      if stored then (system.updateResearchCandidateStatus change readAt).setPhase id
        (.hasWritten event (some (system.statusWrite change readAt)))
      else system.setPhase id .ended

def step : LifecycleStep → LifecycleSystem
  | .read id call =>
    match system.requests id with
    | none => system.setPhase id (.hasRead call system.candidate.status system.writes.length)
    | some _ => system
  | .write id stored =>
    match system.requests id with
    | some (.hasRead call status readAt) => system.writeStatus id call status readAt stored
    | _ => system
  | .append id stored =>
    match system.requests id with
    | some (.hasWritten event write) =>
      if stored then (system.appendResearchCandidateEvent event write).setPhase id .ended
      else system.setPhase id .ended
    | _ => system

end LifecycleSystem

end AegisQuant.Research
