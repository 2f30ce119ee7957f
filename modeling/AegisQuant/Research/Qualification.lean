import AegisQuant.Library.Scorecard
import AegisQuant.Research.ShadowPerformance

/-! `evaluate_research_candidate_qualification`: a list of checks over a
candidate's observation, runner, walk-forward, shadow and readiness evidence.
Each check may take points off, block, or hold the status back. Decimals are
written by the printer given to it. -/
namespace AegisQuant.Research
open List Scorecard

inductive StrategyCandidateObservationStatus where
  | observing
  | readyForReview
  | failed
  | insufficientData
  | archived
  deriving DecidableEq, Repr

inductive ExecutionReadinessStatus where
  | ready
  | notReady
  | degraded
  | unknown
  deriving DecidableEq, Repr

inductive StrategyWalkForwardRobustnessStatus where
  | robust
  | weak
  | overfitRisk
  | insufficientData
  | failed
  deriving DecidableEq, Repr

inductive ResearchShadowPnlRecommendation where
  | promising
  | weak
  | negative
  | insufficientData
  deriving DecidableEq, Repr

inductive ResearchCandidateQualificationStatus where
  | qualified
  | notQualified
  | needsMoreData
  | degraded
  | unknown
  deriving DecidableEq, Repr

inductive ResearchCandidateQualificationSeverity where
  | low
  | medium
  | high
  | critical
  deriving DecidableEq, Repr

inductive ResearchCandidateQualificationRecommendation where
  | refreshCandidateObservation
  | fixRunnerAlignment
  | expandShadowRunnerCoverage
  | gatherMoreShadowRuns
  | generateMoreWouldSubmitEvidence
  | reviewRiskRejections
  | reduceShadowErrorsOrSkips
  | restoreTestnetShadowReadiness
  | reAcceptCandidateForShadow
  | readyForTestnetPromotionConsideration
  deriving DecidableEq, Repr

structure ResearchCandidateQualificationThresholds where
  minShadowRuns : Int
  minWouldSubmitCount : Int
  maxRiskRejectionRatePct : Decimal
  maxErrorOrSkippedRatePct : Decimal
  maxRunnerMismatchCount : Int
  requireFreshObservation : Bool
  requireRunnerAlignment : Bool
  requireReadinessNotNotReady : Bool
  deriving DecidableEq

def ResearchCandidateQualificationThresholds.default : ResearchCandidateQualificationThresholds where
  minShadowRuns := defaultMinShadowRuns
  minWouldSubmitCount := 3
  maxRiskRejectionRatePct := 40
  maxErrorOrSkippedRatePct := 20
  maxRunnerMismatchCount := 0
  requireFreshObservation := true
  requireRunnerAlignment := true
  requireReadinessNotNotReady := true

structure ResearchCandidateQualificationCheck where
  code : String
  name : String
  passed : Bool
  blocking : Bool
  severity : ResearchCandidateQualificationSeverity
  summary : String
  deriving DecidableEq

structure ResearchCandidateWalkForwardEvidence where
  walkForwardRunId : Uuid
  robustnessStatus : StrategyWalkForwardRobustnessStatus
  recommendationAction : Option String
  recommendationReason : Option String
  robustnessScore : Decimal
  consistencyScore : Decimal
  deriving DecidableEq

structure ResearchShadowPnlAttributionResult where
  latestShadowPnlStatus : ResearchShadowPnlRecommendation
  bestHoldingWindow : Option Nat
  bestAvgNetPnlPct : Option Decimal
  negativeAllWindows : Bool
  deriving DecidableEq

structure ResearchCandidateQualificationRequest where
  candidateId : Uuid
  candidateStatus : Option ResearchCandidateStatus
  freshObservation : Bool
  formalObservationStatus : Option StrategyCandidateObservationStatus
  formalObservationStale : Bool
  runnerAlignmentValid : Bool
  shadowRunnerCoversCandidate : Bool
  runnerMismatchCount : Int
  latestReadinessStatus : Option ExecutionReadinessStatus
  walkForwardEvidence : Option ResearchCandidateWalkForwardEvidence
  shadowPerformance : Option ResearchCandidateShadowPerformance
  shadowPnlAttribution : Option ResearchShadowPnlAttributionResult
  thresholds : ResearchCandidateQualificationThresholds
  computedAt : DateTime
  deriving DecidableEq

structure ResearchCandidateQualificationResult where
  candidateId : Uuid
  status : ResearchCandidateQualificationStatus
  score : Int
  freshObservation : Bool
  runnerAlignmentValid : Bool
  latestReadinessStatus : Option ExecutionReadinessStatus
  linkedShadowCompletedCount : Int
  linkedShadowNoSignalCount : Int
  linkedShadowWouldSubmitCount : Int
  linkedShadowRiskRejectedCount : Int
  linkedShadowSkippedCount : Int
  latestValidShadowRunAt : Option DateTime
  latestSkippedShadowRunAt : Option DateTime
  formalObservationStatus : Option StrategyCandidateObservationStatus
  formalObservationStale : Bool
  evidenceInterpretation : String
  walkForwardStatus : Option StrategyWalkForwardRobustnessStatus
  walkForwardRunId : Option Uuid
  walkForwardScore : Option Decimal
  walkForwardConsistencyScore : Option Decimal
  walkForwardRecommendation : Option String
  walkForwardBlockers : List String
  walkForwardWarnings : List String
  readinessPenaltyPoints : Int
  thresholdOverrideBelowDefault : Bool
  thresholdOverridePenaltyPoints : Int
  scoreExplanation : List String
  checks : List ResearchCandidateQualificationCheck
  blockers : List String
  warnings : List String
  recommendations : List ResearchCandidateQualificationRecommendation
  thresholds : ResearchCandidateQualificationThresholds
  shadowPerformance : Option ResearchCandidateShadowPerformance
  latestShadowPnlStatus : Option ResearchShadowPnlRecommendation
  bestHoldingWindow : Option Nat
  bestAvgNetPnlPct : Option Decimal
  negativeAllWindows : Bool
  computedAt : DateTime
  deriving DecidableEq

structure CheckOutcome where
  check : ResearchCandidateQualificationCheck
  points : Scorecard.Entry := .keep
  scoreExplanation : List String := []
  recommendations : List ResearchCandidateQualificationRecommendation := []
  degradedStatusTrigger : Bool := false
  needsMoreDataTrigger : Bool := false
  walkForwardBlockers : List String := []
  walkForwardWarnings : List String := []

/-- A check whose failure costs points. -/
def scoredCheck (check : ResearchCandidateQualificationCheck) (points : Int) (explanation : String)
    (recommendation : ResearchCandidateQualificationRecommendation) (degrades : Bool) :
    CheckOutcome where
  check := check
  points := .loseIf (check.passed = false) points
  scoreExplanation := if check.passed then [] else [explanation]
  recommendations := if check.passed then [] else [recommendation]
  degradedStatusTrigger := !check.passed && degrades

section Checks
variable (display : Decimal → String) (request : ResearchCandidateQualificationRequest)

def ResearchCandidateQualificationRequest.performanceCount
    (count : ResearchCandidateShadowPerformance → Int) : Int :=
  (request.shadowPerformance.map count).getD 0

def thresholdOverrideBelowDefault (thresholds : ResearchCandidateQualificationThresholds) : Bool :=
  decide (thresholds.minShadowRuns < ResearchCandidateQualificationThresholds.default.minShadowRuns) ||
    decide (thresholds.minWouldSubmitCount <
      ResearchCandidateQualificationThresholds.default.minWouldSubmitCount)

def thresholdOverrideWarning : String :=
  "Qualification threshold override is below default; treat result as exploratory."

def checkThresholdOverride : List CheckOutcome :=
  if thresholdOverrideBelowDefault request.thresholds then
    [{ check := ⟨"threshold_override_below_default",
         "Qualification thresholds are not below defaults", false, false, .low,
         thresholdOverrideWarning⟩
       points := .lose 5
       scoreExplanation := [thresholdOverrideWarning ++ " (-5 points)"] }]
  else []

def checkCandidateExists : CheckOutcome :=
  let candidateExists := request.candidateStatus.isSome
  { check := ⟨"candidate_exists", "Candidate exists", candidateExists, true, .critical,
      if candidateExists then "Candidate exists." else "Candidate was not found."⟩
    recommendations := if candidateExists then [] else [.reAcceptCandidateForShadow] }

def ResearchCandidateQualificationRequest.statusIsAccepted : Bool :=
  request.candidateStatus == some .acceptedForShadow ||
    request.candidateStatus == some .promotedToShadowConfig

def checkStatusAccepted : CheckOutcome :=
  scoredCheck ⟨"candidate_status_accepted_for_shadow", "Candidate status is ACCEPTED_FOR_SHADOW",
      request.statusIsAccepted, true, .high,
      if request.statusIsAccepted then "Candidate is accepted for shadow."
      else "Candidate is not accepted for shadow."⟩
    35 "Candidate is not in ACCEPTED_FOR_SHADOW, so qualification lost 35 points."
    .reAcceptCandidateForShadow false

def ResearchCandidateQualificationRequest.statusIsPromoted : Bool :=
  request.candidateStatus == some .promotedToShadowConfig

def checkStatusPromoted : CheckOutcome :=
  scoredCheck ⟨"candidate_status_promoted_to_shadow_config",
      "Candidate status is PROMOTED_TO_SHADOW_CONFIG", request.statusIsPromoted, false, .high,
      if request.statusIsPromoted then "Candidate is promoted to shadow runner config."
      else if request.candidateStatus = some .acceptedForShadow then
        "Candidate is accepted but not promoted to shadow runner config."
      else "Candidate is not promoted to shadow runner config."⟩
    20 "Candidate is accepted but not promoted to shadow runner config. (-20 points)"
    .expandShadowRunnerCoverage false

def ResearchCandidateQualificationRequest.latestValidShadowRunAt : Option DateTime :=
  request.shadowPerformance.bind (·.latestValidShadowRunAt)

def ResearchCandidateQualificationRequest.validShadowEvidenceAvailable : Bool :=
  request.latestValidShadowRunAt.isSome ||
    decide (0 < request.performanceCount (·.completedShadowRuns)) ||
    decide (0 < request.performanceCount (·.wouldSubmitCount)) ||
    decide (0 < request.performanceCount (·.noSignalCount)) ||
    decide (0 < request.performanceCount (·.riskRejectedCount))

def ResearchCandidateQualificationRequest.freshObservationPassed : Bool :=
  !request.thresholds.requireFreshObservation || request.freshObservation

def freshObservationSummary : String :=
  if request.freshObservationPassed then
    if request.freshObservation then "Fresh formal observation is available."
    else "Fresh formal observation is not required by the active thresholds."
  else if request.validShadowEvidenceAvailable then
    "Formal observation is stale or missing, but valid linked shadow evidence exists."
  else "Fresh formal observation is required and no valid linked shadow evidence exists."

def freshObservationExplanation : String :=
  if request.validShadowEvidenceAvailable then
    "Formal observation is stale or missing, but valid linked shadow evidence exists; qualification lost 25 points as a warning."
  else
    "Fresh formal observation is missing or stale and no valid linked shadow evidence exists, so qualification lost 25 points."

def checkFreshObservation : CheckOutcome :=
  scoredCheck ⟨"fresh_observation_required",
      "Candidate has fresh formal observation or valid linked shadow evidence",
      request.freshObservationPassed,
      request.thresholds.requireFreshObservation && !request.validShadowEvidenceAvailable, .high,
      freshObservationSummary request⟩
    25 (freshObservationExplanation request) .refreshCandidateObservation false

def ResearchCandidateQualificationRequest.runnerAlignmentPassed : Bool :=
  !request.thresholds.requireRunnerAlignment || request.runnerAlignmentValid

def checkRunnerAlignment : CheckOutcome :=
  scoredCheck ⟨"runner_alignment_valid", "Runner alignment is valid", request.runnerAlignmentPassed,
      request.thresholds.requireRunnerAlignment, .high,
      if request.runnerAlignmentPassed then "Runner alignment is valid."
      else "Runner alignment is invalid for this candidate."⟩
    25 "Runner alignment is invalid for this candidate, so qualification lost 25 points."
    .fixRunnerAlignment false

def checkRunnerCoverage : CheckOutcome :=
  scoredCheck ⟨"shadow_runner_covers_candidate",
      "Shadow runner covers candidate strategy, symbol, and timeframe",
      request.shadowRunnerCoversCandidate, true, .high,
      if request.shadowRunnerCoversCandidate then "Current shadow runner covers the candidate."
      else "Current shadow runner does not cover the candidate."⟩
    20 "The active shadow runner does not cover this candidate, so qualification lost 20 points."
    .expandShadowRunnerCoverage false

def ResearchCandidateQualificationRequest.mismatchCountPassed : Bool :=
  decide (request.runnerMismatchCount ≤ request.thresholds.maxRunnerMismatchCount)

def checkRunnerMismatch : CheckOutcome :=
  scoredCheck ⟨"runner_mismatch_count", "Runner mismatch count is within threshold",
      request.mismatchCountPassed, decide (request.thresholds.maxRunnerMismatchCount = 0), .medium,
      if request.mismatchCountPassed then "Runner mismatch count is within threshold."
      else "Runner mismatch count " ++ toString request.runnerMismatchCount ++ " exceeded max " ++
        toString request.thresholds.maxRunnerMismatchCount ++ "."⟩
    10 "Runner mismatch count exceeded the configured limit, so qualification lost 10 points."
    .fixRunnerAlignment true

def walkForwardCheck (passed blocking : Bool)
    (severity : ResearchCandidateQualificationSeverity) (summary : String) :
    ResearchCandidateQualificationCheck :=
  ⟨"walk_forward_robustness", "Walk-forward robustness is acceptable", passed, blocking, severity,
    summary⟩

def ResearchCandidateQualificationRequest.walkForwardStatus :
    Option StrategyWalkForwardRobustnessStatus :=
  request.walkForwardEvidence.map (·.robustnessStatus)

def checkWalkForward : CheckOutcome :=
  match request.walkForwardStatus with
  | some .robust => { check := walkForwardCheck true true .low "Walk-forward robustness is ROBUST." }
  | some .overfitRisk =>
    { check := walkForwardCheck false true .high "Walk-forward robustness is OVERFIT_RISK."
      points := .loseToCap 40 40
      walkForwardBlockers := ["Walk-forward robustness is OVERFIT_RISK."]
      scoreExplanation := ["Walk-forward OVERFIT_RISK blocks testnet promotion consideration. (-40 points, score capped at 40)"] }
  | some .failed =>
    { check := walkForwardCheck false true .high "Walk-forward validation failed."
      points := .loseToCap 40 40
      walkForwardBlockers := ["Walk-forward validation failed."]
      scoreExplanation := ["Failed walk-forward validation blocks qualification. (-40 points, score capped at 40)"] }
  | some .insufficientData =>
    { check := walkForwardCheck false false .medium "Walk-forward validation has insufficient data."
      points := .lose 20
      needsMoreDataTrigger := true
      walkForwardWarnings := ["Walk-forward validation has insufficient data."]
      scoreExplanation := ["Walk-forward evidence is insufficient; collect more data before testnet review. (-20 points)"] }
  | some .weak =>
    { check := walkForwardCheck false false .medium "Walk-forward robustness is WEAK."
      points := .lose 15
      degradedStatusTrigger := true
      walkForwardWarnings := ["Walk-forward robustness is WEAK."]
      scoreExplanation := ["Weak walk-forward robustness degrades qualification. (-15 points)"] }
  | none =>
    { check := walkForwardCheck false false .medium "Candidate missing walk-forward validation."
      points := .lose 20
      needsMoreDataTrigger := true
      walkForwardWarnings := ["NO_WALK_FORWARD_EVIDENCE"]
      scoreExplanation := ["Missing walk-forward evidence requires more data before testnet review. (-20 points)"] }

def ResearchCandidateQualificationRequest.enoughShadowRuns : Bool :=
  decide (request.thresholds.minShadowRuns ≤
    request.performanceCount (·.independentShadowObservationCount))

def checkShadowRuns : CheckOutcome :=
  scoredCheck ⟨"enough_linked_shadow_runs", "Enough independent linked shadow observations exist",
      request.enoughShadowRuns, false, .medium,
      if request.enoughShadowRuns then
        "Independent linked shadow observation count meets threshold."
      else "Independent linked shadow observations " ++
        toString (request.performanceCount (·.independentShadowObservationCount)) ++
        " are below min " ++ toString request.thresholds.minShadowRuns ++ "."⟩
    20 "Linked shadow runs are below the configured threshold, so qualification lost 20 points."
    .gatherMoreShadowRuns false

def duplicateRunsWarning : String :=
  toString (request.performanceCount (·.duplicateSameCandleRunsCount)) ++
    " duplicate same-candle shadow runs were treated as operational checks, not independent strategy evidence."

def ResearchCandidateQualificationRequest.hasDuplicateRuns : Bool :=
  decide (0 < request.performanceCount (·.duplicateSameCandleRunsCount))

def checkDuplicateRuns : List CheckOutcome :=
  if request.hasDuplicateRuns then
    [{ check := ⟨"duplicate_same_candle_shadow_runs",
         "Duplicate same-candle shadow runs are not counted as independent evidence", false, false,
         .low, duplicateRunsWarning request⟩
       points := .lose 5
       scoreExplanation := [duplicateRunsWarning request ++ " (-5 points)"] }]
  else []

def ResearchCandidateQualificationRequest.enoughWouldSubmit : Bool :=
  decide (request.thresholds.minWouldSubmitCount ≤ request.performanceCount (·.wouldSubmitCount))

def checkWouldSubmit : CheckOutcome :=
  scoredCheck ⟨"would_submit_count_enough", "WOULD_SUBMIT count is nonzero and meets threshold",
      request.enoughWouldSubmit, request.enoughShadowRuns, .medium,
      if request.enoughWouldSubmit then "WOULD_SUBMIT evidence meets threshold."
      else "WOULD_SUBMIT count " ++ toString (request.performanceCount (·.wouldSubmitCount)) ++
        " is below min " ++ toString request.thresholds.minWouldSubmitCount ++ "."⟩
    20 "WOULD_SUBMIT evidence is below the configured threshold, so qualification lost 20 points."
    .generateMoreWouldSubmitEvidence true

def ResearchCandidateQualificationRequest.riskRejectionRatePct : Decimal :=
  (request.shadowPerformance.map (·.riskRejectionRatePct)).getD 0

def ResearchCandidateQualificationRequest.riskRejectionPassed : Bool :=
  decide (request.riskRejectionRatePct ≤ request.thresholds.maxRiskRejectionRatePct)

def checkRiskRejection : CheckOutcome :=
  scoredCheck ⟨"risk_rejection_rate_acceptable", "Risk rejection rate is within threshold",
      request.riskRejectionPassed, false, .high,
      if request.riskRejectionPassed then "Risk rejection rate is within threshold."
      else "Risk rejection rate " ++ display request.riskRejectionRatePct ++ "% exceeded max " ++
        display request.thresholds.maxRiskRejectionRatePct ++ "%."⟩
    15 "Risk rejection rate exceeded the configured threshold, so qualification lost 15 points."
    .reviewRiskRejections true

def ResearchCandidateQualificationRequest.skippedOrErrorRatePct : Decimal :=
  calculatePercentageRate (request.performanceCount fun value => value.skippedCount + value.errorCount)
    (request.performanceCount (·.totalShadowRuns))

def ResearchCandidateQualificationRequest.skippedErrorPassed : Bool :=
  decide (request.skippedOrErrorRatePct ≤ request.thresholds.maxErrorOrSkippedRatePct)

def checkSkippedOrError : CheckOutcome :=
  scoredCheck ⟨"error_or_skipped_rate_acceptable", "Skipped or error rate is within threshold",
      request.skippedErrorPassed, false, .medium,
      if request.skippedErrorPassed then "Skipped or error rate is within threshold."
      else "Skipped or error rate " ++ display request.skippedOrErrorRatePct ++ "% exceeded max " ++
        display request.thresholds.maxErrorOrSkippedRatePct ++ "%."⟩
    15 "Skipped or error rate exceeded the configured threshold, so qualification lost 15 points."
    .reduceShadowErrorsOrSkips true

def readinessCheck (passed blocking : Bool)
    (severity : ResearchCandidateQualificationSeverity) (summary : String) :
    ResearchCandidateQualificationCheck :=
  ⟨"readiness_status", "TESTNET_SHADOW readiness is READY", passed, blocking, severity, summary⟩

def readinessPenaltyPoints : Option ExecutionReadinessStatus → Int
  | some .ready => 0
  | some .degraded => 12
  | some .notReady => 30
  | some .unknown => 10
  | none => 10

def unknownReadiness : CheckOutcome where
  check := readinessCheck false false .medium "Latest TESTNET_SHADOW readiness is UNKNOWN."
  points := .lose 10
  degradedStatusTrigger := true
  scoreExplanation := ["Latest TESTNET_SHADOW readiness is UNKNOWN. (-10 points)",
    "Collect a fresh readiness result before considering testnet promotion."]
  recommendations := [.restoreTestnetShadowReadiness]

def checkReadiness : CheckOutcome :=
  match request.latestReadinessStatus with
  | some .ready => { check := readinessCheck true false .low "Latest TESTNET_SHADOW readiness is READY." }
  | some .degraded =>
    { check := readinessCheck false false .medium "Latest TESTNET_SHADOW readiness is DEGRADED."
      points := .lose 12
      degradedStatusTrigger := true
      scoreExplanation := ["Latest TESTNET_SHADOW readiness is DEGRADED. (-12 points)",
        "Resolve degraded readiness conditions before considering testnet promotion."]
      recommendations := [.restoreTestnetShadowReadiness] }
  | some .notReady =>
    { check := readinessCheck false true .high "Latest TESTNET_SHADOW readiness is NOT_READY."
      points := .loseToCap 30 40
      scoreExplanation :=
        ["Latest TESTNET_SHADOW readiness is NOT_READY. (-30 points, score capped at 40)",
          "Do not consider testnet promotion until readiness blockers are cleared."]
      recommendations := [.restoreTestnetShadowReadiness] }
  | some .unknown => unknownReadiness
  | none => unknownReadiness

def candidateChecks : List CheckOutcome :=
  checkThresholdOverride request ++
    [checkCandidateExists request, checkStatusAccepted request, checkStatusPromoted request,
      checkFreshObservation request, checkRunnerAlignment request, checkRunnerCoverage request,
      checkRunnerMismatch request, checkWalkForward request]

def shadowChecks : List CheckOutcome :=
  [checkShadowRuns request] ++ checkDuplicateRuns request ++
    [checkWouldSubmit request, checkRiskRejection display request, checkSkippedOrError display request]

def qualificationChecks : List CheckOutcome :=
  candidateChecks request ++ shadowChecks display request ++ [checkReadiness request]

def failedSummaries (blocking : Bool) (checks : List ResearchCandidateQualificationCheck) :
    List String :=
  (checks.filter fun check => !check.passed && check.blocking == blocking).map (·.summary)

def qualificationStatus (outcomes : List CheckOutcome) : ResearchCandidateQualificationStatus :=
  if request.candidateStatus.isNone then .unknown
  else if failedSummaries true (outcomes.map (·.check)) ≠ [] then .notQualified
  else if outcomes.any (·.needsMoreDataTrigger) then .needsMoreData
  else if !request.statusIsPromoted then .needsMoreData
  else if !request.enoughShadowRuns then .needsMoreData
  else if outcomes.any (·.degradedStatusTrigger) then .degraded
  else .qualified

def clampScore (score : Int) : Int := max 0 (min score 100)

/-- The recommendations in the order of the sorted set that collects them. -/
def ResearchCandidateQualificationRecommendation.all :
    List ResearchCandidateQualificationRecommendation :=
  [.refreshCandidateObservation, .fixRunnerAlignment, .expandShadowRunnerCoverage,
    .gatherMoreShadowRuns, .generateMoreWouldSubmitEvidence, .reviewRiskRejections,
    .reduceShadowErrorsOrSkips, .restoreTestnetShadowReadiness, .reAcceptCandidateForShadow,
    .readyForTestnetPromotionConsideration]

def readyForPromotion (status : ResearchCandidateQualificationStatus) : Bool :=
  status == .qualified && !thresholdOverrideBelowDefault request.thresholds &&
    request.latestReadinessStatus == some .ready

def qualificationRecommendations (outcomes : List CheckOutcome) :
    List ResearchCandidateQualificationRecommendation :=
  let inserted := outcomes.flatMap (·.recommendations) ++
    if readyForPromotion request (qualificationStatus request outcomes) then
      [.readyForTestnetPromotionConsideration]
    else []
  ResearchCandidateQualificationRecommendation.all.filter inserted.contains

def explainScore (outcomes : List CheckOutcome) : List String :=
  let explanation := outcomes.flatMap (·.scoreExplanation)
  if explanation = [] then
    ["All qualification checks passed with READY readiness and default thresholds; score remained 100."]
  else explanation

def evidenceInterpretation : String :=
  let wouldSubmit := request.performanceCount (·.wouldSubmitCount)
  let noSignal := toString (request.performanceCount (·.noSignalCount))
  let riskRejected := toString (request.performanceCount (·.riskRejectedCount))
  let skipped := request.performanceCount (·.skippedCount)
  if request.validShadowEvidenceAvailable && decide (wouldSubmit ≤ 0) then
    "Valid linked shadow observation exists (NO_SIGNAL=" ++ noSignal ++ ", RISK_REJECTED=" ++
      riskRejected ++ ", WOULD_SUBMIT=0); pipeline is observing the candidate, but actionable WOULD_SUBMIT evidence is insufficient for testnet readiness."
  else if request.validShadowEvidenceAvailable then
    "Valid linked shadow observation exists (WOULD_SUBMIT=" ++ toString wouldSubmit ++
      ", NO_SIGNAL=" ++ noSignal ++ ", RISK_REJECTED=" ++ riskRejected ++
      "); stale or skipped runs are tracked separately."
  else if 0 < skipped then
    "Only skipped shadow runs are linked (skipped=" ++ toString skipped ++
      "); this is infrastructure/readiness evidence, not valid signal observation evidence."
  else "No valid linked shadow observation evidence is available."

def evaluateResearchCandidateQualification : ResearchCandidateQualificationResult :=
  let outcomes := qualificationChecks display request
  let checks := outcomes.map (·.check)
  { candidateId := request.candidateId
    status := qualificationStatus request outcomes
    score := clampScore (total (outcomes.map (·.points)) 100)
    freshObservation := request.freshObservation
    runnerAlignmentValid := request.runnerAlignmentValid
    latestReadinessStatus := request.latestReadinessStatus
    linkedShadowCompletedCount := request.performanceCount (·.completedShadowRuns)
    linkedShadowNoSignalCount := request.performanceCount (·.noSignalCount)
    linkedShadowWouldSubmitCount := request.performanceCount (·.wouldSubmitCount)
    linkedShadowRiskRejectedCount := request.performanceCount (·.riskRejectedCount)
    linkedShadowSkippedCount := request.performanceCount (·.skippedCount)
    latestValidShadowRunAt := request.latestValidShadowRunAt
    latestSkippedShadowRunAt := request.shadowPerformance.bind (·.latestSkippedShadowRunAt)
    formalObservationStatus := request.formalObservationStatus
    formalObservationStale := request.formalObservationStale
    evidenceInterpretation := evidenceInterpretation request
    walkForwardStatus := request.walkForwardStatus
    walkForwardRunId := request.walkForwardEvidence.map (·.walkForwardRunId)
    walkForwardScore := request.walkForwardEvidence.map (·.robustnessScore)
    walkForwardConsistencyScore := request.walkForwardEvidence.map (·.consistencyScore)
    walkForwardRecommendation := request.walkForwardEvidence.bind fun value =>
      value.recommendationReason.or value.recommendationAction
    walkForwardBlockers := outcomes.flatMap (·.walkForwardBlockers)
    walkForwardWarnings := outcomes.flatMap (·.walkForwardWarnings)
    readinessPenaltyPoints := readinessPenaltyPoints request.latestReadinessStatus
    thresholdOverrideBelowDefault := thresholdOverrideBelowDefault request.thresholds
    thresholdOverridePenaltyPoints := if thresholdOverrideBelowDefault request.thresholds then 5 else 0
    scoreExplanation := explainScore outcomes
    checks := checks
    blockers := failedSummaries true checks
    warnings := failedSummaries false checks
    recommendations := qualificationRecommendations request outcomes
    thresholds := request.thresholds
    shadowPerformance := request.shadowPerformance
    latestShadowPnlStatus := request.shadowPnlAttribution.map (·.latestShadowPnlStatus)
    bestHoldingWindow := request.shadowPnlAttribution.bind (·.bestHoldingWindow)
    bestAvgNetPnlPct := request.shadowPnlAttribution.bind (·.bestAvgNetPnlPct)
    negativeAllWindows := (request.shadowPnlAttribution.map (·.negativeAllWindows)).getD false
    computedAt := request.computedAt }

end Checks

section Verdict
variable (display : Decimal → String) (request : ResearchCandidateQualificationRequest)
variable (check : ResearchCandidateQualificationCheck)

def CheckOutcome.admits (outcome : CheckOutcome) : Bool :=
  outcome.check.passed || !outcome.check.blocking

theorem failedSummaries_eq_nil_iff (outcomes : List CheckOutcome) :
    failedSummaries true (outcomes.map (·.check)) = [] ↔ outcomes.all (·.admits) = true := by
  rw [failedSummaries, map_eq_nil_iff, filter_eq_nil_iff, forall_mem_map, all_eq_true]
  refine forall₂_congr fun outcome _ => ?_
  unfold CheckOutcome.admits
  cases outcome.check.passed <;> cases outcome.check.blocking <;> decide

section
variable (points : Int) (explanation : String)
  (recommendation : ResearchCandidateQualificationRecommendation) (degrades : Bool)

@[simp] theorem admits_scoredCheck :
    (scoredCheck check points explanation recommendation degrades).admits =
      (check.passed || !check.blocking) := rfl

@[simp] theorem points_scoredCheck :
    (scoredCheck check points explanation recommendation degrades).points =
      .loseIf (check.passed = false) points := rfl

@[simp] theorem degrades_scoredCheck :
    (scoredCheck check points explanation recommendation degrades).degradedStatusTrigger =
      (!check.passed && degrades) := rfl

@[simp] theorem needsMoreData_scoredCheck :
    (scoredCheck check points explanation recommendation degrades).needsMoreDataTrigger = false :=
  rfl

end

def ResearchCandidateQualificationRequest.walkForwardAdmits : Bool :=
  request.walkForwardStatus != some .overfitRisk && request.walkForwardStatus != some .failed

def ResearchCandidateQualificationRequest.walkForwardMissing : Bool :=
  request.walkForwardStatus == none || request.walkForwardStatus == some .insufficientData

/-- No check but those on the shadow evidence blocks. -/
def ResearchCandidateQualificationRequest.admitsElsewhere : Bool :=
  request.candidateStatus.isSome && request.statusIsAccepted &&
    (request.runnerAlignmentPassed || !request.thresholds.requireRunnerAlignment) &&
    request.shadowRunnerCoversCandidate &&
    (request.mismatchCountPassed || !decide (request.thresholds.maxRunnerMismatchCount = 0)) &&
    request.walkForwardAdmits && request.latestReadinessStatus != some .notReady

def ResearchCandidateQualificationRequest.observationAdmits : Bool :=
  request.freshObservationPassed || request.validShadowEvidenceAvailable

def ResearchCandidateQualificationRequest.wouldSubmitAdmits : Bool :=
  request.enoughWouldSubmit || !request.enoughShadowRuns

/-- Checks that read no shadow count degrade the status. -/
def ResearchCandidateQualificationRequest.degradedElsewhere : Bool :=
  !request.mismatchCountPassed || request.walkForwardStatus == some .weak ||
    !(request.latestReadinessStatus == some .ready ||
      request.latestReadinessStatus == some .notReady)

def ResearchCandidateQualificationRequest.degradedByShadowRuns : Bool :=
  !request.enoughWouldSubmit || !request.riskRejectionPassed || !request.skippedErrorPassed

open ResearchCandidateQualificationRequest

theorem admits_checkWalkForward : (checkWalkForward request).admits = request.walkForwardAdmits := by
  unfold checkWalkForward walkForwardAdmits
  rcases request.walkForwardStatus with - | status
  · rfl
  · cases status <;> rfl

theorem admits_checkReadiness :
    (checkReadiness request).admits = (request.latestReadinessStatus != some .notReady) := by
  unfold checkReadiness
  rcases request.latestReadinessStatus with - | status
  · rfl
  · cases status <;> rfl

theorem admits_checkFreshObservation :
    (checkFreshObservation request).admits = request.observationAdmits := by
  simp only [checkFreshObservation, admits_scoredCheck, observationAdmits, freshObservationPassed]
  cases request.thresholds.requireFreshObservation <;> cases request.freshObservation <;>
    cases request.validShadowEvidenceAvailable <;> rfl

theorem all_admits_qualificationChecks : (qualificationChecks display request).all (·.admits) =
      (request.admitsElsewhere && request.observationAdmits && request.wouldSubmitAdmits) := by
  have hOverride : (checkThresholdOverride request).all (·.admits) = true := by
    unfold checkThresholdOverride
    split <;> rfl
  have hDuplicates : (checkDuplicateRuns request).all (·.admits) = true := by
    unfold checkDuplicateRuns
    split <;> rfl
  have hExists : (checkCandidateExists request).admits = request.candidateStatus.isSome :=
    Bool.or_false _
  simp only [qualificationChecks, candidateChecks, shadowChecks, all_append, all_cons,
    all_nil, hOverride, hDuplicates, hExists, admits_checkFreshObservation,
    admits_checkWalkForward, admits_checkReadiness, checkStatusAccepted, checkStatusPromoted,
    checkRunnerAlignment, checkRunnerCoverage, checkRunnerMismatch, checkShadowRuns,
    checkWouldSubmit, checkRiskRejection, checkSkippedOrError, admits_scoredCheck,
    admitsElsewhere,
    wouldSubmitAdmits, Bool.not_true, Bool.not_false,
    Bool.or_true, Bool.or_false, Bool.and_true, Bool.true_and]
  ac_rfl

theorem any_needsMoreData_qualificationChecks :
    (qualificationChecks display request).any (·.needsMoreDataTrigger) =
      request.walkForwardMissing := by
  have hOverride : (checkThresholdOverride request).any (·.needsMoreDataTrigger) = false := by
    unfold checkThresholdOverride
    split <;> rfl
  have hDuplicates : (checkDuplicateRuns request).any (·.needsMoreDataTrigger) = false := by
    unfold checkDuplicateRuns
    split <;> rfl
  have hExists : (checkCandidateExists request).needsMoreDataTrigger = false := rfl
  have hReadiness : (checkReadiness request).needsMoreDataTrigger = false := by
    unfold checkReadiness
    split <;> rfl
  have hWalkForward :
      (checkWalkForward request).needsMoreDataTrigger = request.walkForwardMissing := by
    unfold checkWalkForward walkForwardMissing
    rcases request.walkForwardStatus with - | status
    · rfl
    · cases status <;> rfl
  simp only [qualificationChecks, candidateChecks, shadowChecks, any_append, any_cons,
    any_nil, hOverride, hDuplicates, hExists, hReadiness, hWalkForward, checkStatusAccepted,
    checkStatusPromoted, checkFreshObservation, checkRunnerAlignment, checkRunnerCoverage,
    checkRunnerMismatch, checkShadowRuns, checkWouldSubmit, checkRiskRejection,
    checkSkippedOrError, needsMoreData_scoredCheck, Bool.or_false, Bool.false_or]

theorem any_degraded_qualificationChecks :
    (qualificationChecks display request).any (·.degradedStatusTrigger) =
      (request.degradedElsewhere || request.degradedByShadowRuns) := by
  have hOverride : (checkThresholdOverride request).any (·.degradedStatusTrigger) = false := by
    unfold checkThresholdOverride
    split <;> rfl
  have hDuplicates : (checkDuplicateRuns request).any (·.degradedStatusTrigger) = false := by
    unfold checkDuplicateRuns
    split <;> rfl
  have hExists : (checkCandidateExists request).degradedStatusTrigger = false := rfl
  have hReadiness : (checkReadiness request).degradedStatusTrigger =
      !(request.latestReadinessStatus == some .ready ||
        request.latestReadinessStatus == some .notReady) := by
    unfold checkReadiness
    rcases request.latestReadinessStatus with - | status
    · rfl
    · cases status <;> rfl
  have hWalkForward : (checkWalkForward request).degradedStatusTrigger =
      (request.walkForwardStatus == some .weak) := by
    unfold checkWalkForward
    rcases request.walkForwardStatus with - | status
    · rfl
    · cases status <;> rfl
  simp only [qualificationChecks, candidateChecks, shadowChecks, any_append, any_cons,
    any_nil, hOverride, hDuplicates, hExists, hReadiness, hWalkForward, checkStatusAccepted,
    checkStatusPromoted, checkFreshObservation, checkRunnerAlignment, checkRunnerCoverage,
    checkRunnerMismatch, checkShadowRuns, checkWouldSubmit, checkRiskRejection,
    checkSkippedOrError, degrades_scoredCheck, Bool.and_false, Bool.and_true, Bool.or_false,
    Bool.false_or, degradedElsewhere,
    degradedByShadowRuns]
  ac_rfl

theorem evaluate_status : (evaluateResearchCandidateQualification display request).status =
    if request.candidateStatus.isNone then .unknown
    else if !(request.admitsElsewhere && request.observationAdmits && request.wouldSubmitAdmits) then
      .notQualified
    else if request.walkForwardMissing || !request.statusIsPromoted || !request.enoughShadowRuns then
      .needsMoreData
    else if request.degradedElsewhere || request.degradedByShadowRuns then .degraded
    else .qualified := by
  have hBlockers : (failedSummaries true ((qualificationChecks display request).map (·.check)) ≠ []) ↔
      (!(request.admitsElsewhere && request.observationAdmits && request.wouldSubmitAdmits)) = true := by
    rw [ne_eq, failedSummaries_eq_nil_iff, all_admits_qualificationChecks, Bool.not_eq_true,
      Bool.not_eq_true']
  simp only [evaluateResearchCandidateQualification, qualificationStatus, hBlockers,
    any_needsMoreData_qualificationChecks, any_degraded_qualificationChecks]
  cases request.walkForwardMissing <;> cases request.statusIsPromoted <;>
    cases request.enoughShadowRuns <;> rfl

def walkForwardPoints (left : Int) : Option StrategyWalkForwardRobustnessStatus → Int
  | some .robust => left
  | some .weak => left - 15
  | some .overfitRisk => min (left - 40) 40
  | some .failed => min (left - 40) 40
  | some .insufficientData => left - 20
  | none => left - 20

/-- What the checks that read no shadow count leave of the hundred points. -/
def ResearchCandidateQualificationRequest.candidatePoints : Int :=
  walkForwardPoints
    (100 - (if thresholdOverrideBelowDefault request.thresholds then 5 else 0) -
      (if request.statusIsAccepted then 0 else 35) - (if request.statusIsPromoted then 0 else 20) -
      (if request.freshObservationPassed then 0 else 25) -
      (if request.runnerAlignmentPassed then 0 else 25) -
      (if request.shadowRunnerCoversCandidate then 0 else 20) -
      (if request.mismatchCountPassed then 0 else 10)) request.walkForwardStatus

/-- What the shadow counts take off. -/
def ResearchCandidateQualificationRequest.shadowPenalty : Int :=
  (if request.enoughShadowRuns then 0 else 20) + (if request.hasDuplicateRuns then 5 else 0) +
    (if request.enoughWouldSubmit then 0 else 20) + (if request.riskRejectionPassed then 0 else 15) +
    (if request.skippedErrorPassed then 0 else 15)

theorem shadowPenalty_nonneg : 0 ≤ request.shadowPenalty := by
  unfold shadowPenalty
  split_ifs <;> omega

def readinessPoints (left : Int) : Option ExecutionReadinessStatus → Int
  | some .ready => left
  | some .degraded => left - 12
  | some .notReady => min (left - 30) 40
  | some .unknown => left - 10
  | none => left - 10

theorem lost_if_failed (passed : Bool) (points : Int) :
    (if passed = false then points else 0) = if passed then 0 else points := by
  cases passed <;> rfl

theorem total_candidateChecks :
    total ((candidateChecks request).map (·.points)) 100 = request.candidatePoints := by
  have hOverride (start : Int) : total ((checkThresholdOverride request).map (·.points)) start =
        start - if thresholdOverrideBelowDefault request.thresholds then 5 else 0 := by
    unfold checkThresholdOverride
    split <;> simp
  have hWalkForward (start : Int) : (checkWalkForward request).points.apply start =
      walkForwardPoints start request.walkForwardStatus := by
    unfold checkWalkForward walkForwardPoints
    rcases request.walkForwardStatus with - | status
    · rfl
    · cases status <;> simp
  have hExists : (checkCandidateExists request).points = .keep := rfl
  simp only [candidateChecks, map_append, map_cons, map_nil, total_append,
    total_cons, total_nil, hOverride, hWalkForward, hExists,
    Scorecard.Entry.apply_keep, checkStatusAccepted, checkStatusPromoted, checkFreshObservation,
    checkRunnerAlignment, checkRunnerCoverage, checkRunnerMismatch, points_scoredCheck,
    Scorecard.Entry.apply_loseIf, lost_if_failed,
    candidatePoints]

theorem total_shadowChecks (start : Int) :
    total ((shadowChecks display request).map (·.points)) start =
      start - request.shadowPenalty := by
  have hDuplicates (start : Int) : total ((checkDuplicateRuns request).map (·.points)) start =
        start - if request.hasDuplicateRuns then 5 else 0 := by
    unfold checkDuplicateRuns
    split <;> simp
  simp only [shadowChecks, map_append, map_cons, map_nil, total_append,
    total_cons, total_nil, hDuplicates, checkShadowRuns, checkWouldSubmit,
    checkRiskRejection, checkSkippedOrError, points_scoredCheck, Scorecard.Entry.apply_loseIf,
    lost_if_failed, shadowPenalty]
  omega

theorem evaluate_score : (evaluateResearchCandidateQualification display request).score =
    clampScore (readinessPoints (request.candidatePoints - request.shadowPenalty)
      request.latestReadinessStatus) := by
  have hReadiness (start : Int) : (checkReadiness request).points.apply start =
      readinessPoints start request.latestReadinessStatus := by
    unfold checkReadiness readinessPoints
    rcases request.latestReadinessStatus with - | status
    · rfl
    · cases status <;> simp [unknownReadiness]
  simp only [evaluateResearchCandidateQualification, qualificationChecks, map_append,
    total_append, total_candidateChecks, total_shadowChecks, map_cons, map_nil,
    total_cons, total_nil, hReadiness]

end Verdict

end AegisQuant.Research
