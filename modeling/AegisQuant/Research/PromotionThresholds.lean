import AegisQuant.Research.Qualification

/-! Which thresholds stand behind the promotion recommendation. A lowered
minimum count marks an evaluation as exploratory; a raised maximum rate, a
raised mismatch limit and a dropped runner alignment do not. -/
namespace AegisQuant.Research
open ResearchCandidateQualificationThresholds
open List ResearchCandidateQualificationRequest ResearchCandidateQualificationRecommendation

section Recommendation
variable (display : Decimal → String) (request : ResearchCandidateQualificationRequest)

structure PassesOwnThresholds (request : ResearchCandidateQualificationRequest) : Prop where
  promoted : request.candidateStatus = some .promotedToShadowConfig
  observed : request.thresholds.requireFreshObservation = true →
    request.freshObservation = true ∨ request.validShadowEvidenceAvailable = true
  aligned : request.thresholds.requireRunnerAlignment = true → request.runnerAlignmentValid = true
  covered : request.shadowRunnerCoversCandidate = true
  matched : request.runnerMismatchCount ≤ request.thresholds.maxRunnerMismatchCount
  robust : request.walkForwardStatus = some .robust
  runs : request.thresholds.minShadowRuns ≤
    request.performanceCount (·.independentShadowObservationCount)
  wouldSubmit : request.thresholds.minWouldSubmitCount ≤ request.performanceCount (·.wouldSubmitCount)
  riskRejection : request.riskRejectionRatePct ≤ request.thresholds.maxRiskRejectionRatePct
  skippedOrError : request.skippedOrErrorRatePct ≤ request.thresholds.maxErrorOrSkippedRatePct
  ready : request.latestReadinessStatus = some .ready

structure KeepsUncheckedDefaults (request : ResearchCandidateQualificationRequest) : Prop where
  aligned : request.runnerAlignmentValid = true
  matched : request.runnerMismatchCount ≤ default.maxRunnerMismatchCount
  riskRejection : request.riskRejectionRatePct ≤ default.maxRiskRejectionRatePct
  skippedOrError : request.skippedOrErrorRatePct ≤ default.maxErrorOrSkippedRatePct

def ResearchCandidateQualificationRequest.withDefaultThresholds
    (request : ResearchCandidateQualificationRequest) : ResearchCandidateQualificationRequest :=
  { request with thresholds := .default }

theorem status_eq_qualified_iff_flags :
    (evaluateResearchCandidateQualification display request).status = .qualified ↔
      (request.admitsElsewhere = true ∧ request.observationAdmits = true ∧
        request.wouldSubmitAdmits = true) ∧
      (request.walkForwardMissing = false ∧ request.statusIsPromoted = true ∧
        request.enoughShadowRuns = true) ∧
      request.degradedElsewhere = false ∧ request.degradedByShadowRuns = false := by
  have hExists (hAdmits : request.admitsElsewhere = true) : request.candidateStatus.isNone = false := by
    simp only [admitsElsewhere, Bool.and_eq_true] at hAdmits
    simpa using hAdmits.1.1.1.1.1.1
  rw [evaluate_status]
  grind

theorem robust_of_walkForward (hAdmits : request.walkForwardAdmits = true)
    (hPresent : request.walkForwardMissing = false) (hWeak : request.walkForwardStatus ≠ some .weak) :
    request.walkForwardStatus = some .robust := by
  unfold walkForwardAdmits at hAdmits
  unfold walkForwardMissing at hPresent
  rcases hStatus : request.walkForwardStatus with - | status
  · simp [hStatus] at hPresent
  · cases status <;> simp_all

theorem status_eq_qualified_iff :
    (evaluateResearchCandidateQualification display request).status = .qualified ↔
      PassesOwnThresholds request := by
  rw [status_eq_qualified_iff_flags]
  constructor
  · rintro ⟨⟨hAdmits, hObserved, hSubmit⟩, ⟨hPresent, hPromoted, hRuns⟩, hElsewhere, hShadow⟩
    simp only [admitsElsewhere, Bool.and_eq_true] at hAdmits
    obtain ⟨⟨⟨⟨⟨-, hAligned⟩, hCovered⟩, -⟩, hWalkForward⟩, hReadiness⟩ := hAdmits
    simp only [degradedElsewhere, Bool.or_eq_false_iff,
      Bool.not_eq_false', Bool.or_eq_true, beq_eq_false_iff_ne, beq_iff_eq] at hElsewhere
    obtain ⟨⟨hMatched, hWeak⟩, hReady⟩ := hElsewhere
    simp only [degradedByShadowRuns, Bool.or_eq_false_iff, Bool.not_eq_false'] at hShadow
    obtain ⟨⟨hEnough, hRisk⟩, hSkipped⟩ := hShadow
    exact {
      promoted := beq_iff_eq.mp hPromoted
      observed := fun hRequired => by
        simpa [observationAdmits, freshObservationPassed, hRequired] using hObserved
      aligned := fun hRequired => by
        simpa [runnerAlignmentPassed, hRequired] using hAligned
      covered := hCovered
      matched := of_decide_eq_true hMatched
      robust := robust_of_walkForward request hWalkForward hPresent hWeak
      runs := of_decide_eq_true hRuns
      wouldSubmit := of_decide_eq_true hEnough
      riskRejection := of_decide_eq_true hRisk
      skippedOrError := of_decide_eq_true hSkipped
      ready := hReady.resolve_right (bne_iff_ne.mp hReadiness) }
  · intro passes
    have hMatched : request.mismatchCountPassed = true := decide_eq_true passes.matched
    have hRuns : request.enoughShadowRuns = true := decide_eq_true passes.runs
    have hSubmit : request.enoughWouldSubmit = true := decide_eq_true passes.wouldSubmit
    have hRisk : request.riskRejectionPassed = true := decide_eq_true passes.riskRejection
    have hSkipped : request.skippedErrorPassed = true := decide_eq_true passes.skippedOrError
    have hAligned : request.runnerAlignmentPassed = true := by
      simpa [runnerAlignmentPassed, Bool.eq_false_imp_eq_true,
        or_iff_not_imp_left] using passes.aligned
    have hObserved : request.observationAdmits = true := by
      simpa [observationAdmits, freshObservationPassed, or_assoc,
        or_iff_not_imp_left] using passes.observed
    simp [admitsElsewhere, statusIsAccepted, statusIsPromoted, walkForwardAdmits,
      walkForwardMissing,
      wouldSubmitAdmits,
      degradedElsewhere,
      degradedByShadowRuns, passes.promoted, passes.covered,
      passes.robust, passes.ready, hMatched, hRuns, hSubmit, hRisk, hSkipped, hAligned, hObserved]

/-- No single check recommends promotion. -/
theorem ready_not_mem_outcomes : readyForTestnetPromotionConsideration ∉
      (qualificationChecks display request).flatMap (·.recommendations) := by
  have hScored (check : ResearchCandidateQualificationCheck) (points : Int) (explanation : String)
      (recommendation : ResearchCandidateQualificationRecommendation) (degrades : Bool) :
      readyForTestnetPromotionConsideration ∈
          (scoredCheck check points explanation recommendation degrades).recommendations →
        recommendation = .readyForTestnetPromotionConsideration := by
    unfold scoredCheck
    cases check.passed <;> simp [eq_comm]
  have hOverride : (checkThresholdOverride request).flatMap (·.recommendations) = [] := by
    unfold checkThresholdOverride
    split <;> rfl
  have hDuplicates : (checkDuplicateRuns request).flatMap (·.recommendations) = [] := by
    unfold checkDuplicateRuns
    split <;> rfl
  have hWalkForward : (checkWalkForward request).recommendations = [] := by
    unfold checkWalkForward
    split <;> rfl
  have hExists : readyForTestnetPromotionConsideration ∉
      (checkCandidateExists request).recommendations := by
    unfold checkCandidateExists
    cases request.candidateStatus.isSome <;> decide
  have hReadiness : readyForTestnetPromotionConsideration ∉
        (checkReadiness request).recommendations := by
    unfold checkReadiness
    split <;> decide
  simp only [qualificationChecks, candidateChecks, shadowChecks, flatMap_append,
    flatMap_cons, flatMap_nil, hOverride, hDuplicates, hWalkForward, mem_append,
    not_mem_nil, hExists, hReadiness, or_false, false_or]
  rintro ((h | h | h | h | h | h) | h | h | h | h) <;>
    exact noConfusion (hScored _ _ _ _ _ h)

theorem ready_mem_recommendations_iff : .readyForTestnetPromotionConsideration ∈
        (evaluateResearchCandidateQualification display request).recommendations ↔
      PassesOwnThresholds request ∧ thresholdOverrideBelowDefault request.thresholds = false := by
  have hMem : .readyForTestnetPromotionConsideration ∈
        (evaluateResearchCandidateQualification display request).recommendations ↔
      readyForPromotion request (evaluateResearchCandidateQualification display request).status =
        true := by
    show _ ∈ qualificationRecommendations request (qualificationChecks display request) ↔
      readyForPromotion request (qualificationStatus request (qualificationChecks display request)) =
        true
    rw [qualificationRecommendations, mem_filter, contains_iff_mem, mem_append,
      or_iff_right (ready_not_mem_outcomes display request)]
    split
    · rename_i hReady
      exact iff_of_true ⟨by decide, mem_singleton_self _⟩ hReady
    · rename_i hReady
      exact iff_of_false (fun h => absurd h.2 not_mem_nil) hReady
  rw [hMem, ← status_eq_qualified_iff display]
  simp only [readyForPromotion, Bool.and_eq_true, beq_iff_eq, Bool.not_eq_true']
  refine ⟨fun h => h.1, fun h => ⟨h, ?_⟩⟩
  exact ((status_eq_qualified_iff display request).mp h.1).ready

/-- The defaults are what the recommendation rests on when the request keeps
to the four defaults that the override flag does not compare. -/
theorem readyForPromotion_keeps_defaults_iff : (.readyForTestnetPromotionConsideration ∈
        (evaluateResearchCandidateQualification display request).recommendations →
      (evaluateResearchCandidateQualification display request.withDefaultThresholds).status =
        .qualified) ↔
      (PassesOwnThresholds request → thresholdOverrideBelowDefault request.thresholds = false →
        KeepsUncheckedDefaults request) := by
  rw [ready_mem_recommendations_iff, status_eq_qualified_iff, and_imp]
  refine imp_congr_right fun passes => imp_congr_right fun hPlain => ?_
  simp only [thresholdOverrideBelowDefault, Bool.or_eq_false_iff, decide_eq_false_iff_not,
    not_lt] at hPlain
  constructor
  · intro passesDefault
    exact ⟨passesDefault.aligned rfl, passesDefault.matched, passesDefault.riskRejection,
      passesDefault.skippedOrError⟩
  · intro keeps
    -- a candidate with the default count of would-submit runs has shadow evidence
    have hSubmit : 0 < request.performanceCount (·.wouldSubmitCount) :=
      lt_of_lt_of_le (by decide) (hPlain.2.trans passes.wouldSubmit)
    have hEvidence : request.validShadowEvidenceAvailable = true := by
      simp [validShadowEvidenceAvailable, hSubmit]
    exact {
      promoted := passes.promoted
      observed := fun _ => .inr hEvidence
      aligned := fun _ => keeps.aligned
      covered := passes.covered
      matched := keeps.matched
      robust := passes.robust
      runs := hPlain.1.trans passes.runs
      wouldSubmit := hPlain.2.trans passes.wouldSubmit
      riskRejection := keeps.riskRejection
      skippedOrError := keeps.skippedOrError
      ready := passes.ready }

end Recommendation

section Sample

def samplePerformance : ResearchCandidateShadowPerformance :=
  evaluateResearchCandidateShadowPerformance ⟨⟨1⟩, "momentum_v1", "BTCUSDT", "1h",
      .promotedToShadowConfig⟩ ⟨0, 100⟩
    { totalShadowRuns := 40, wouldSubmitCount := 20, noSignalCount := 0, riskRejectedCount := 20
      skippedCount := 0, errorCount := 0, lastShadowRunAt := some 90, completedShadowRuns := 40
      independentShadowObservationCount := 40, uniqueEvaluatedCandleCount := 40
      duplicateSameCandleRunsCount := 0, latestEvaluatedCandleOpenTime := some 80
      latestValidShadowRunAt := some 90, latestSkippedShadowRunAt := none } true 100

/-- Half of the shadow runs are rejected by risk, which the raised maximum of
sixty percent allows. -/
def sampleLoosenedRequest : ResearchCandidateQualificationRequest where
  candidateId := ⟨1⟩
  candidateStatus := some .promotedToShadowConfig
  freshObservation := true
  formalObservationStatus := none
  formalObservationStale := false
  runnerAlignmentValid := true
  shadowRunnerCoversCandidate := true
  runnerMismatchCount := 0
  latestReadinessStatus := some .ready
  walkForwardEvidence := some ⟨⟨2⟩, .robust, none, none, 75, 75⟩
  shadowPerformance := some samplePerformance
  shadowPnlAttribution := none
  thresholds := { default with maxRiskRejectionRatePct := 60 }
  computedAt := 100

theorem loosened_rate_recommended : .readyForTestnetPromotionConsideration ∈
        (evaluateResearchCandidateQualification toString sampleLoosenedRequest).recommendations ∧
      (evaluateResearchCandidateQualification toString
        sampleLoosenedRequest.withDefaultThresholds).status = .degraded := by
  decide +kernel

end Sample
end AegisQuant.Research
