import AegisQuant.Research.PromotionThresholds

/-! The score of a qualification. It lies between nought and a hundred, is
capped where the walk-forward run or the readiness blocks, and follows the
evidence, but for one step: a candidate without a readiness result loses less
than one whose readiness is degraded. -/
namespace AegisQuant.Research
open ResearchCandidateQualificationRequest

def candidateRank : Option ResearchCandidateStatus → Nat
  | some .promotedToShadowConfig => 2
  | some .acceptedForShadow => 1
  | _ => 0

def walkForwardRank : Option StrategyWalkForwardRobustnessStatus → Nat
  | some .robust => 3
  | some .weak => 2
  | some .insufficientData => 1
  | none => 1
  | some .overfitRisk => 0
  | some .failed => 0

/-- A missing readiness result is read as an unknown one. -/
def readinessRank : Option ExecutionReadinessStatus → Nat
  | some .ready => 3
  | some .degraded => 2
  | some .unknown => 1
  | none => 1
  | some .notReady => 0

/-- The readiness is no worse, and no degraded one takes the place of an unknown
one. -/
def ReadinessFollowed (worse better : Option ExecutionReadinessStatus) : Prop :=
  readinessRank worse ≤ readinessRank better ∧ ¬(readinessRank worse = 1 ∧ readinessRank better = 2)

/-- Every input of the requirements is at least as good, where `Improves` says
so of the readiness, and the rest of what is scored is the same. -/
structure NoWorse (Improves : Option ExecutionReadinessStatus → Option ExecutionReadinessStatus → Prop)
    (request better : ResearchCandidateQualificationRequest) : Prop where
  thresholds : better.thresholds = request.thresholds
  duplicates : better.performanceCount (·.duplicateSameCandleRunsCount) =
    request.performanceCount (·.duplicateSameCandleRunsCount)
  candidate : candidateRank request.candidateStatus ≤ candidateRank better.candidateStatus
  observed : request.freshObservation = true → better.freshObservation = true
  aligned : request.runnerAlignmentValid = true → better.runnerAlignmentValid = true
  covered : request.shadowRunnerCoversCandidate = true → better.shadowRunnerCoversCandidate = true
  matched : better.runnerMismatchCount ≤ request.runnerMismatchCount
  walkForward : walkForwardRank request.walkForwardStatus ≤ walkForwardRank better.walkForwardStatus
  runs : request.performanceCount (·.independentShadowObservationCount) ≤
    better.performanceCount (·.independentShadowObservationCount)
  wouldSubmit : request.performanceCount (·.wouldSubmitCount) ≤
    better.performanceCount (·.wouldSubmitCount)
  riskRejection : better.riskRejectionRatePct ≤ request.riskRejectionRatePct
  skippedOrError : better.skippedOrErrorRatePct ≤ request.skippedOrErrorRatePct
  readiness : Improves request.latestReadinessStatus better.latestReadinessStatus

section Points
variable {request better : ResearchCandidateQualificationRequest} {left more : Int}
  {Improves : Option ExecutionReadinessStatus → Option ExecutionReadinessStatus → Prop}

/-- A check that passes where it passed before takes no more points off. -/
theorem lost_le_of_imp {passed passedBetter : Bool} {points : Int} (hPoints : 0 ≤ points)
    (hPass : passed = true → passedBetter = true) :
    (if passedBetter then 0 else points) ≤ (if passed then 0 else points) := by
  cases passed with
  | false =>
    cases passedBetter with
    | false => exact le_rfl
    | true => exact hPoints
  | true => rw [hPass rfl]

theorem walkForwardPoints_mono {status betterStatus : Option StrategyWalkForwardRobustnessStatus}
    (hLeft : left ≤ more) (hRank : walkForwardRank status ≤ walkForwardRank betterStatus) :
    walkForwardPoints left status ≤ walkForwardPoints more betterStatus := by
  rcases status with - | status
  · rcases betterStatus with - | betterStatus
    · exact sub_le_sub_right hLeft 20
    · cases betterStatus <;> simp_all only [walkForwardPoints, walkForwardRank] <;> omega
  · rcases betterStatus with - | betterStatus
    · cases status <;> simp_all only [walkForwardPoints, walkForwardRank] <;> omega
    · cases status <;> cases betterStatus <;>
        simp_all only [walkForwardPoints, walkForwardRank] <;> omega

theorem readinessPoints_mono {status betterStatus : Option ExecutionReadinessStatus}
    (hLeft : left ≤ more) (hFollowed : ReadinessFollowed status betterStatus) :
    readinessPoints left status ≤ readinessPoints more betterStatus := by
  obtain ⟨hRank, hStep⟩ := hFollowed
  rcases status with - | status
  · rcases betterStatus with - | betterStatus
    · exact sub_le_sub_right hLeft 10
    · cases betterStatus <;> simp_all [readinessPoints, readinessRank]
      omega
  · rcases betterStatus with - | betterStatus
    · cases status <;> simp_all [readinessPoints, readinessRank]
      omega
    · cases status <;> cases betterStatus <;> simp_all [readinessPoints, readinessRank] <;> omega

section
variable (hNoWorse : NoWorse Improves request better)
include hNoWorse

theorem statusIsAccepted_of_rank (hAccepted : request.statusIsAccepted = true)
    : better.statusIsAccepted = true := by
  have hRank := hNoWorse.candidate
  unfold statusIsAccepted at hAccepted ⊢
  rcases hStatus : request.candidateStatus with - | status
  · simp [hStatus] at hAccepted
  · rcases hBetter : better.candidateStatus with - | betterStatus
    · cases status <;> simp_all [candidateRank]
    · cases status <;> cases betterStatus <;> simp_all [candidateRank]

theorem statusIsPromoted_of_rank (hPromoted : request.statusIsPromoted = true)
    : better.statusIsPromoted = true := by
  have hRank := hNoWorse.candidate
  unfold statusIsPromoted at hPromoted ⊢
  rw [beq_iff_eq] at hPromoted
  rw [hPromoted] at hRank
  rcases hBetter : better.candidateStatus with - | betterStatus
  · simp [hBetter, candidateRank] at hRank
  · cases betterStatus <;> simp_all [candidateRank]

theorem candidatePoints_mono : request.candidatePoints ≤ better.candidatePoints := by
  have hAccepted := lost_le_of_imp (show (0 : Int) ≤ 35 by decide) (statusIsAccepted_of_rank hNoWorse)
  have hPromoted := lost_le_of_imp (show (0 : Int) ≤ 20 by decide) (statusIsPromoted_of_rank hNoWorse)
  have hObserved : (if better.freshObservationPassed then 0 else 25) ≤
      (if request.freshObservationPassed then 0 else (25 : Int)) := by
    apply lost_le_of_imp (by decide)
    simp only [freshObservationPassed, hNoWorse.thresholds, Bool.or_eq_true]
    exact Or.imp_right hNoWorse.observed
  have hAligned : (if better.runnerAlignmentPassed then 0 else 25) ≤
      (if request.runnerAlignmentPassed then 0 else (25 : Int)) := by
    apply lost_le_of_imp (by decide)
    simp only [runnerAlignmentPassed, hNoWorse.thresholds, Bool.or_eq_true]
    exact Or.imp_right hNoWorse.aligned
  have hCovered := lost_le_of_imp (show (0 : Int) ≤ 20 by decide) hNoWorse.covered
  have hMatched : (if better.mismatchCountPassed then 0 else 10) ≤
      (if request.mismatchCountPassed then 0 else (10 : Int)) := by
    apply lost_le_of_imp (by decide)
    simp only [mismatchCountPassed, hNoWorse.thresholds,
      decide_eq_true_eq]
    exact hNoWorse.matched.trans
  rw [candidatePoints, candidatePoints, hNoWorse.thresholds]
  apply walkForwardPoints_mono _ hNoWorse.walkForward
  omega

theorem shadowPenalty_anti : better.shadowPenalty ≤ request.shadowPenalty := by
  have hRuns : (if better.enoughShadowRuns then 0 else 20) ≤
      (if request.enoughShadowRuns then 0 else (20 : Int)) := by
    apply lost_le_of_imp (by decide)
    simp only [enoughShadowRuns, hNoWorse.thresholds,
      decide_eq_true_eq]
    exact fun hRuns => hRuns.trans hNoWorse.runs
  have hWouldSubmit : (if better.enoughWouldSubmit then 0 else 20) ≤
      (if request.enoughWouldSubmit then 0 else (20 : Int)) := by
    apply lost_le_of_imp (by decide)
    simp only [enoughWouldSubmit, hNoWorse.thresholds,
      decide_eq_true_eq]
    exact fun hCount => hCount.trans hNoWorse.wouldSubmit
  have hRisk : (if better.riskRejectionPassed then 0 else 15) ≤
      (if request.riskRejectionPassed then 0 else (15 : Int)) := by
    apply lost_le_of_imp (by decide)
    simp only [riskRejectionPassed, hNoWorse.thresholds,
      decide_eq_true_eq]
    exact hNoWorse.riskRejection.trans
  have hSkipped : (if better.skippedErrorPassed then 0 else 15) ≤
      (if request.skippedErrorPassed then 0 else (15 : Int)) := by
    apply lost_le_of_imp (by decide)
    simp only [skippedErrorPassed, hNoWorse.thresholds,
      decide_eq_true_eq]
    exact hNoWorse.skippedOrError.trans
  have hDuplicates : better.hasDuplicateRuns = request.hasDuplicateRuns := by
    rw [hasDuplicateRuns, hNoWorse.duplicates, hasDuplicateRuns]
  rw [shadowPenalty, shadowPenalty, hDuplicates]
  omega

end

theorem clampScore_mono (hLeft : left ≤ more) : clampScore left ≤ clampScore more := by
  unfold clampScore
  omega

theorem readinessPoints_le (left : Int) (status : Option ExecutionReadinessStatus) :
    readinessPoints left status ≤ left := by
  unfold readinessPoints
  split <;> omega

theorem candidatePoints_le_cap
    (hBlocked : request.walkForwardStatus = some .overfitRisk ∨
      request.walkForwardStatus = some .failed) : request.candidatePoints ≤ 40 := by
  unfold candidatePoints
  rcases hBlocked with hStatus | hStatus
  · rw [hStatus]
    exact min_le_right _ _
  · rw [hStatus]
    exact min_le_right _ _

end Points

section Score
variable (display : Decimal → String) (request : ResearchCandidateQualificationRequest)

theorem score_between : 0 ≤ (evaluateResearchCandidateQualification display request).score ∧
      (evaluateResearchCandidateQualification display request).score ≤ 100 := by
  rw [evaluate_score, clampScore]
  omega

theorem score_le_cap
    (hBlocked : request.walkForwardStatus = some .overfitRisk ∨
      request.walkForwardStatus = some .failed ∨ request.latestReadinessStatus = some .notReady) :
    (evaluateResearchCandidateQualification display request).score ≤ 40 := by
  have hPenalty := shadowPenalty_nonneg request
  have hPoints : readinessPoints (request.candidatePoints - request.shadowPenalty)
      request.latestReadinessStatus ≤ 40 := by
    rcases or_assoc.mpr hBlocked with hWalkForward | hReadiness
    · have hCap := candidatePoints_le_cap hWalkForward
      exact (readinessPoints_le _ _).trans (by omega)
    · rw [hReadiness]
      exact min_le_right _ _
  rw [evaluate_score, clampScore]
  omega

theorem score_mono {request better : ResearchCandidateQualificationRequest}
    (hNoWorse : NoWorse ReadinessFollowed request better) :
    (evaluateResearchCandidateQualification display request).score ≤
      (evaluateResearchCandidateQualification display better).score := by
  rw [evaluate_score, evaluate_score]
  apply clampScore_mono
  apply readinessPoints_mono _ hNoWorse.readiness
  have hCandidate := candidatePoints_mono hNoWorse
  have hShadow := shadowPenalty_anti hNoWorse
  omega

/-- A candidate qualifies when it meets every requirement. The score is within
its bounds, under its cap where a requirement blocks, and follows the evidence
but for a degraded readiness in the place of an unknown one. -/
theorem qualified_iff_and_score_follows :
    ((evaluateResearchCandidateQualification display request).status = .qualified ↔
      PassesOwnThresholds request) ∧
    (0 ≤ (evaluateResearchCandidateQualification display request).score ∧
      (evaluateResearchCandidateQualification display request).score ≤ 100) ∧
    (request.walkForwardStatus = some .overfitRisk ∨ request.walkForwardStatus = some .failed ∨
        request.latestReadinessStatus = some .notReady →
      (evaluateResearchCandidateQualification display request).score ≤ 40) ∧
    ∀ better, NoWorse ReadinessFollowed request better →
      (evaluateResearchCandidateQualification display request).score ≤
        (evaluateResearchCandidateQualification display better).score :=
  ⟨status_eq_qualified_iff display request, score_between display request,
    score_le_cap display request, fun _ hNoWorse => score_mono display hNoWorse⟩

def sampleUnknownReadiness : ResearchCandidateQualificationRequest :=
  { sampleLoosenedRequest with latestReadinessStatus := none }

/-- The same candidate is then found to be degraded, which costs two points
more than to know nothing. -/
theorem degraded_readiness_lowers_score : ¬∀ request better : ResearchCandidateQualificationRequest,
      NoWorse (fun worse better => readinessRank worse ≤ readinessRank better) request better →
        (evaluateResearchCandidateQualification toString request).score ≤
          (evaluateResearchCandidateQualification toString better).score := by
  intro hFollows
  have hScores := hFollows sampleUnknownReadiness
    { sampleUnknownReadiness with latestReadinessStatus := some .degraded }
    ⟨rfl, rfl, le_rfl, id, id, id, le_rfl, le_rfl, le_rfl, le_rfl, le_rfl, le_rfl, by decide⟩
  revert hScores
  decide +kernel

end Score
end AegisQuant.Research
