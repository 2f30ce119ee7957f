import AegisQuant.Research.PromotionThresholds

/-! A repeated look at one candle. It is no independent observation, yet it
counts among the would-submit runs and in the totals of both rates. -/
namespace AegisQuant.Research
open Testnet List Option ResearchCandidateQualificationRequest

/-- A later run over the same candle, with the same decision and status. -/
structure IsRepeatedLook (run copy : TestnetShadowRunRecord) : Prop where
  decision : copy.decision = run.decision
  status : copy.status = run.status
  candle : copy.evaluatedCandleOpenTime = run.evaluatedCandleOpenTime
  later : run.createdAt < copy.createdAt

def ResearchCandidateQualificationStatus.rank : ResearchCandidateQualificationStatus → Nat
  | .unknown => 0
  | .notQualified => 0
  | .needsMoreData => 1
  | .degraded => 2
  | .qualified => 3

def ResearchCandidateQualificationRequest.withShadowRuns
    (request : ResearchCandidateQualificationRequest) (candidate : ResearchCandidate)
    (window : ResearchCandidateShadowPerformanceWindow) (runnerAlignmentCurrent : Bool)
    (linkedRuns : List TestnetShadowRunRecord) : ResearchCandidateQualificationRequest :=
  { request with
    shadowPerformance := some (getResearchCandidateShadowPerformance linkedRuns candidate window
      runnerAlignmentCurrent request.computedAt) }

section Crossings
variable (seen : Bool) (before after : ResearchCandidateQualificationRequest)

/-- Points that come back when a count reaches its minimum or a rate falls
within its maximum. Observations are gained only by a run whose original was
not counted. -/
def regainedPoints : Int :=
  (if !seen && !before.enoughShadowRuns && after.enoughShadowRuns then 20 else 0) +
    (if !before.enoughWouldSubmit && after.enoughWouldSubmit then 20 else 0) +
    (if !before.riskRejectionPassed && after.riskRejectionPassed then 15 else 0) +
    (if !before.skippedErrorPassed && after.skippedErrorPassed then 15 else 0)

/-- Points that go when the first duplicate appears or the risk rejection rate
leaves its maximum. -/
def lostPoints : Int :=
  (if !before.hasDuplicateRuns && after.hasDuplicateRuns then 5 else 0) +
    (if before.riskRejectionPassed && !after.riskRejectionPassed then 15 else 0)

/-- What the checks before readiness leave. -/
def ResearchCandidateQualificationRequest.pointsLeft
    (request : ResearchCandidateQualificationRequest) : Int :=
  request.candidatePoints - request.shadowPenalty

/-- More points come back than go, and neither the floor of zero nor the cap
of a candidate that is not ready hides them. -/
structure PointsRise : Prop where
  regained : lostPoints before after < regainedPoints seen before after
  aboveFloor : 0 < readinessPoints (before.pointsLeft + regainedPoints seen before after -
    lostPoints before after) before.latestReadinessStatus
  belowCap : before.latestReadinessStatus = some .notReady → before.pointsLeft < 70

/-- A gate that held the status back no longer does: the would-submit count
was short, the only evidence was missing, or the shadow runs degraded it. -/
structure GateOpens : Prop where
  elsewhere : before.admitsElsewhere = true
  observed : after.observationAdmits = true
  wouldSubmit : after.wouldSubmitAdmits = true
  opened : before.wouldSubmitAdmits = false ∨ (seen = false ∧ before.observationAdmits = false) ∨
    ((before.walkForwardMissing = false ∧ before.statusIsPromoted = true ∧
        after.enoughShadowRuns = true) ∧
      ((seen = false ∧ before.enoughShadowRuns = false) ∨
        (before.degradedElsewhere = false ∧ before.degradedByShadowRuns = true ∧
          after.degradedByShadowRuns = false)))

end Crossings

section Arithmetic

theorem candidatePoints_le (request : ResearchCandidateQualificationRequest) :
    request.candidatePoints ≤ 100 := by
  have hWalkForward (left : Int) (status : Option StrategyWalkForwardRobustnessStatus) :
      walkForwardPoints left status ≤ left := by
    unfold walkForwardPoints
    split <;> omega
  refine (hWalkForward _ _).trans ?_
  split_ifs <;> omega

theorem clampScore_readinessPoints_lt_iff {left right : Int} (hRight : right ≤ 100)
    (readiness : Option ExecutionReadinessStatus) :
    clampScore (readinessPoints left readiness) < clampScore (readinessPoints right readiness) ↔
      left < right ∧ 0 < readinessPoints right readiness ∧
        (readiness = some .notReady → left < 70) := by
  rcases readiness with - | status
  · simp only [readinessPoints, clampScore, reduceCtorEq, false_implies, and_true]
    omega
  · cases status <;>
      simp only [readinessPoints, clampScore, reduceCtorEq, some.injEq, false_implies,
        forall_const, and_true] <;>
      omega

end Arithmetic

section Recount
variable {request : ResearchCandidateQualificationRequest} {candidate : ResearchCandidate}
  {window : ResearchCandidateShadowPerformanceWindow} {aligned : Bool}
  {runs : List TestnetShadowRunRecord} {run copy : TestnetShadowRunRecord} {candle : DateTime}

/-- What a recount with one more look keeps. -/
structure Recounted (seen : Bool) (before after : ResearchCandidateQualificationRequest) : Prop where
  runs : before.enoughShadowRuns = true → after.enoughShadowRuns = true
  sameRuns : seen = true → after.enoughShadowRuns = before.enoughShadowRuns
  evidence : seen = true → before.observationAdmits = true
  wouldSubmit : before.enoughWouldSubmit = true → after.enoughWouldSubmit = true
  duplicates : before.hasDuplicateRuns = true → after.hasDuplicateRuns = true
  skippedOrError : before.skippedErrorPassed = true → after.skippedErrorPassed = true

theorem counted_append_of_inside (hInside : window.contains copy = true) :
    (runs ++ [copy]).filter window.contains = runs.filter window.contains ++ [copy] := by
  rw [filter_append, filter_singleton, hInside, cond_true]

theorem counted_append_of_outside (hOutside : window.contains copy = false) :
    (runs ++ [copy]).filter window.contains = runs.filter window.contains := by
  rw [filter_append, filter_singleton, hOutside, cond_false, append_nil]

theorem withShadowRuns_of_outside (hOutside : window.contains copy = false) :
    request.withShadowRuns candidate window aligned (runs ++ [copy]) =
      request.withShadowRuns candidate window aligned runs := by
  simp only [withShadowRuns, getResearchCandidateShadowPerformance, selectShadowRunAggregates,
    counted_append_of_outside hOutside]

theorem Recounted.refl {seen : Bool} {before : ResearchCandidateQualificationRequest}
    (hEvidence : seen = true → before.observationAdmits = true) : Recounted seen before before :=
  ⟨id, fun _ => rfl, hEvidence, id, id, id⟩

theorem not_skipped_of_completed (hCompleted : completedRun run = true) :
    skippedRun run = false ∧ errorRun run = false := by
  simp only [completedRun, observedDecision, Bool.and_eq_true, beq_iff_eq, contains_cons,
    contains_nil, Bool.or_false, Bool.or_eq_true] at hCompleted
  obtain ⟨hStatus, hDecision⟩ := hCompleted
  unfold skippedRun errorRun
  rw [hStatus]
  rcases hDecision with h | h | h <;> rw [h] <;> decide

theorem completedRun_copy (look : IsRepeatedLook run copy) :
    completedRun copy = completedRun run := by
  simp only [completedRun, observedDecision, look.decision, look.status]

theorem validEvidence_of_counted (hRun : run ∈ runs) (hCounted : window.contains run = true)
    (hCompleted : completedRun run = true) :
    (request.withShadowRuns candidate window aligned runs).observationAdmits = true := by
  have hCount : 0 < (request.withShadowRuns candidate window aligned runs).performanceCount
      (·.completedShadowRuns) := by
    have hMem : run ∈ (runs.filter window.contains).filter completedRun :=
      mem_filter.mpr ⟨mem_filter.mpr ⟨hRun, hCounted⟩, hCompleted⟩
    exact Int.natCast_pos.mpr (length_pos_of_mem hMem)
  unfold observationAdmits
    validShadowEvidenceAvailable
  rw [decide_eq_true hCount]
  simp

structure OneMoreLook (seen : Bool) (row next : ShadowRunAggregates) : Prop where
  total : next.totalShadowRuns = row.totalShadowRuns + 1
  skipped : next.skippedCount = row.skippedCount
  errors : next.errorCount = row.errorCount
  wouldSubmit : row.wouldSubmitCount ≤ next.wouldSubmitCount
  observations : row.independentShadowObservationCount ≤ next.independentShadowObservationCount
  sameObservations : seen = true →
    next.independentShadowObservationCount = row.independentShadowObservationCount
  duplicates : row.duplicateSameCandleRunsCount ≤ next.duplicateSameCandleRunsCount

theorem selectShadowRunAggregates_append (hRun : run ∈ runs) (hCompleted : completedRun run = true)
    (hCandle : run.evaluatedCandleOpenTime = some candle) (look : IsRepeatedLook run copy)
    (hInside : window.contains copy = true) :
    OneMoreLook (window.contains run) (selectShadowRunAggregates window runs)
      (selectShadowRunAggregates window (runs ++ [copy])) := by
  have hCopyCompleted : completedRun copy = true := (completedRun_copy look).trans hCompleted
  have hCopyCandle : copy.evaluatedCandleOpenTime = some candle := look.candle.trans hCandle
  obtain ⟨hSkipped, hError⟩ := not_skipped_of_completed hCopyCompleted
  have hObserved : ((runs.filter window.contains) ++ [copy]).filter completedRun =
      (runs.filter window.contains).filter completedRun ++ [copy] := by
    rw [filter_append, filter_singleton, hCopyCompleted, cond_true]
  have hDistinct := countDistinctCandles_append (runs.filter window.contains) hCopyCandle
  have hDistinctCompleted :=
    countDistinctCandles_append ((runs.filter window.contains).filter completedRun) hCopyCandle
  constructor <;>
    simp only [selectShadowRunAggregates, counted_append_of_inside hInside, hObserved,
      countRuns_append, hSkipped, hError, hCopyCandle, length_append, length_singleton,
      isNone_some, isSome_some, Bool.false_eq_true, if_true, if_false, add_zero]
  case total => push_cast; rfl
  case wouldSubmit => split <;> omega
  case observations => omega
  case sameObservations =>
    intro hSeen
    have hMem : candle ∈ evaluatedCandles ((runs.filter window.contains).filter completedRun) :=
      mem_filterMap.mpr ⟨run, mem_filter.mpr
        ⟨mem_filter.mpr ⟨hRun, hSeen⟩, hCompleted⟩, hCandle⟩
    rw [countDistinctCandles_append_of_mem _ hCopyCandle hMem]
  case duplicates => omega

theorem skippedOrErrorRatePct_withShadowRuns :
    (request.withShadowRuns candidate window aligned runs).skippedOrErrorRatePct =
      calculatePercentageRate ((selectShadowRunAggregates window runs).skippedCount +
        (selectShadowRunAggregates window runs).errorCount)
        (selectShadowRunAggregates window runs).totalShadowRuns := rfl

theorem total_pos_or_none_skipped : 0 < (selectShadowRunAggregates window runs).totalShadowRuns ∨
      (selectShadowRunAggregates window runs).skippedCount +
        (selectShadowRunAggregates window runs).errorCount ≤ 0 := by
  simp only [selectShadowRunAggregates]
  cases runs.filter window.contains with
  | nil => exact .inr le_rfl
  | cons first rest => exact .inl (Int.natCast_pos.mpr (Nat.succ_pos _))

theorem recounted (hRun : run ∈ runs) (hCompleted : completedRun run = true)
    (hCandle : run.evaluatedCandleOpenTime = some candle) (look : IsRepeatedLook run copy) :
    Recounted (window.contains run) (request.withShadowRuns candidate window aligned runs)
      (request.withShadowRuns candidate window aligned (runs ++ [copy])) := by
  have hEvidence (hSeen : window.contains run = true) :
      (request.withShadowRuns candidate window aligned runs).observationAdmits = true :=
    validEvidence_of_counted hRun hSeen hCompleted
  cases hInside : window.contains copy with
  | false => rw [withShadowRuns_of_outside hInside]; exact .refl hEvidence
  | true =>
    have more := selectShadowRunAggregates_append hRun hCompleted hCandle look hInside
    exact {
      runs := fun hEnough => decide_eq_true
        ((of_decide_eq_true hEnough).trans (max_le_max_right 0 more.observations))
      sameRuns := fun hSeen =>
        congrArg (fun count => decide (request.thresholds.minShadowRuns ≤ max count 0))
          (more.sameObservations hSeen)
      evidence := hEvidence
      wouldSubmit := fun hEnough =>
        decide_eq_true ((of_decide_eq_true hEnough).trans more.wouldSubmit)
      duplicates := fun hSome => decide_eq_true
        ((of_decide_eq_true hSome).trans_le (max_le_max_right 0 more.duplicates))
      skippedOrError := fun hWithin => decide_eq_true (by
        refine le_trans ?_ (of_decide_eq_true hWithin)
        rw [skippedOrErrorRatePct_withShadowRuns, skippedOrErrorRatePct_withShadowRuns,
          more.skipped, more.errors, more.total]
        exact calculatePercentageRate_antitone total_pos_or_none_skipped (by omega)) }

end Recount

section RepeatedLook
variable {seen : Bool} {before after : ResearchCandidateQualificationRequest}

theorem cost_after_gain {passed passedAfter : Bool} (points : Int)
    (hKept : passed = true → passedAfter = true) :
    (if passedAfter then 0 else points) =
      (if passed then 0 else points) - if !passed && passedAfter then points else 0 := by
  cases passed <;> cases passedAfter <;> simp_all

theorem shadowPenalty_recounted (recounted : Recounted seen before after) :
    after.shadowPenalty = before.shadowPenalty - regainedPoints seen before after +
      lostPoints before after := by
  have hRuns : (if after.enoughShadowRuns then (0 : Int) else 20) =
      (if before.enoughShadowRuns then 0 else 20) -
        if !seen && !before.enoughShadowRuns && after.enoughShadowRuns then 20 else 0 := by
    rw [cost_after_gain 20 recounted.runs]
    cases hSeen : seen with
    | false => rfl
    | true =>
      rw [recounted.sameRuns hSeen]
      cases before.enoughShadowRuns <;> rfl
  have hSubmit := cost_after_gain 20 recounted.wouldSubmit
  have hSkipped := cost_after_gain 15 recounted.skippedOrError
  have hRisk : (if after.riskRejectionPassed then (0 : Int) else 15) =
      (if before.riskRejectionPassed then 0 else 15) -
        (if !before.riskRejectionPassed && after.riskRejectionPassed then 15 else 0) +
        if before.riskRejectionPassed && !after.riskRejectionPassed then 15 else 0 := by
    cases before.riskRejectionPassed <;> cases after.riskRejectionPassed <;> rfl
  have hDuplicates : (if after.hasDuplicateRuns then (5 : Int) else 0) =
      (if before.hasDuplicateRuns then 5 else 0) +
        if !before.hasDuplicateRuns && after.hasDuplicateRuns then 5 else 0 := by
    have hKept := recounted.duplicates
    revert hKept
    cases before.hasDuplicateRuns <;> cases after.hasDuplicateRuns <;> decide
  simp only [shadowPenalty, regainedPoints, lostPoints,
    hRuns, hSubmit, hSkipped, hRisk, hDuplicates]
  omega

/-- A candidate that does not exist ranks with those that are blocked. -/
theorem evaluate_rank (display : Decimal → String)
    (request : ResearchCandidateQualificationRequest) :
    (evaluateResearchCandidateQualification display request).status.rank =
      if !(request.admitsElsewhere && request.observationAdmits && request.wouldSubmitAdmits) then 0
      else if request.walkForwardMissing || !request.statusIsPromoted || !request.enoughShadowRuns then 1
      else if request.degradedElsewhere || request.degradedByShadowRuns then 2
      else 3 := by
  have hExists (hAdmits : request.admitsElsewhere = true) : request.candidateStatus.isNone = false := by
    simp only [admitsElsewhere, Bool.and_eq_true] at hAdmits
    simpa using hAdmits.1.1.1.1.1.1
  rw [evaluate_status]
  split_ifs <;> simp_all [ResearchCandidateQualificationStatus.rank]

variable (before : ResearchCandidateQualificationRequest)

theorem score_lt_iff (performance : Option ResearchCandidateShadowPerformance)
    (recounted : Recounted seen before { before with shadowPerformance := performance })
    (display : Decimal → String) :
    (evaluateResearchCandidateQualification display before).score <
        (evaluateResearchCandidateQualification display
          { before with shadowPerformance := performance }).score ↔
      PointsRise seen before { before with shadowPerformance := performance } := by
  have hLeft : ({ before with shadowPerformance := performance } :
      ResearchCandidateQualificationRequest).pointsLeft = before.pointsLeft +
        regainedPoints seen before { before with shadowPerformance := performance } -
        lostPoints before { before with shadowPerformance := performance } := by
    have hPenalty := shadowPenalty_recounted recounted
    have hSame : ({ before with shadowPerformance := performance } :
      ResearchCandidateQualificationRequest).candidatePoints = before.candidatePoints := rfl
    simp only [pointsLeft, hPenalty, hSame]
    omega
  have hBound : ({ before with shadowPerformance := performance } :
      ResearchCandidateQualificationRequest).pointsLeft ≤ 100 := by
    have hPoints := candidatePoints_le { before with shadowPerformance := performance }
    have hPenalty := shadowPenalty_nonneg { before with shadowPerformance := performance }
    simp only [pointsLeft]
    omega
  rw [evaluate_score, evaluate_score]
  refine (clampScore_readinessPoints_lt_iff hBound _).trans ?_
  rw [hLeft]
  constructor
  · rintro ⟨hLess, hFloor, hCap⟩
    exact ⟨by unfold pointsLeft at hLess; omega, hFloor, hCap⟩
  · rintro ⟨hRegained, hFloor, hCap⟩
    exact ⟨by unfold pointsLeft; omega, hFloor, hCap⟩

theorem rank_lt_iff (performance : Option ResearchCandidateShadowPerformance)
    (recounted : Recounted seen before { before with shadowPerformance := performance })
    (display : Decimal → String) :
    (evaluateResearchCandidateQualification display before).status.rank <
        (evaluateResearchCandidateQualification display
          { before with shadowPerformance := performance }).status.rank ↔
      GateOpens seen before { before with shadowPerformance := performance } := by
  have hElsewhere : ({ before with shadowPerformance := performance } :
    ResearchCandidateQualificationRequest).admitsElsewhere = before.admitsElsewhere := rfl
  have hMissing : ({ before with shadowPerformance := performance } :
    ResearchCandidateQualificationRequest).walkForwardMissing = before.walkForwardMissing := rfl
  have hPromoted : ({ before with shadowPerformance := performance } :
    ResearchCandidateQualificationRequest).statusIsPromoted = before.statusIsPromoted := rfl
  have hDegraded : ({ before with shadowPerformance := performance } :
    ResearchCandidateQualificationRequest).degradedElsewhere = before.degradedElsewhere := rfl
  rw [evaluate_rank, evaluate_rank, hElsewhere, hMissing, hPromoted, hDegraded]
  clear hElsewhere hMissing hPromoted hDegraded
  generalize ({ before with shadowPerformance := performance } :
    ResearchCandidateQualificationRequest) = after at recounted ⊢
  have hSame := recounted.sameRuns
  have hKept := recounted.runs
  constructor
  · intro hRises
    have hAfter : (before.admitsElsewhere && after.observationAdmits && after.wouldSubmitAdmits) =
        true := by
      by_contra hBlocked
      rw [Bool.not_eq_true] at hBlocked
      rw [hBlocked] at hRises
      exact Nat.not_lt_zero _ hRises
    rw [Bool.and_eq_true, Bool.and_eq_true] at hAfter
    obtain ⟨⟨hAdmits, hObserved⟩, hSubmit⟩ := hAfter
    refine ⟨hAdmits, hObserved, hSubmit, ?_⟩
    cases hSubmitBefore : before.wouldSubmitAdmits with
    | false => exact .inl rfl
    | true =>
      cases hObservedBefore : before.observationAdmits with
      | false =>
        refine .inr (.inl ⟨?_, rfl⟩)
        cases hSeen : seen with
        | false => rfl
        | true => exact absurd (recounted.evidence hSeen) (by simp [hObservedBefore])
      | true =>
        simp only [hAdmits, hObserved, hSubmit, hSubmitBefore, hObservedBefore, Bool.and_true,
          Bool.not_true, Bool.false_eq_true, if_false] at hRises
        grind
  · rintro ⟨hAdmits, hObserved, hSubmit, hOpened⟩
    grind

/-- A repeated look raises neither the score nor the status exactly when it
carries no count over a threshold that makes a difference. -/
theorem repeatedLook_no_gain_iff (display : Decimal → String)
    (request : ResearchCandidateQualificationRequest) (candidate : ResearchCandidate)
    (window : ResearchCandidateShadowPerformanceWindow) (aligned : Bool)
    (runs : List TestnetShadowRunRecord) (run copy : TestnetShadowRunRecord) (candle : DateTime)
    (hRun : run ∈ runs) (hCompleted : completedRun run = true)
    (hCandle : run.evaluatedCandleOpenTime = some candle) (look : IsRepeatedLook run copy) :
    ((evaluateResearchCandidateQualification display
          (request.withShadowRuns candidate window aligned (runs ++ [copy]))).score ≤
        (evaluateResearchCandidateQualification display
          (request.withShadowRuns candidate window aligned runs)).score ∧
      (evaluateResearchCandidateQualification display
          (request.withShadowRuns candidate window aligned (runs ++ [copy]))).status.rank ≤
        (evaluateResearchCandidateQualification display
          (request.withShadowRuns candidate window aligned runs)).status.rank) ↔
      ¬PointsRise (window.contains run) (request.withShadowRuns candidate window aligned runs)
          (request.withShadowRuns candidate window aligned (runs ++ [copy])) ∧
        ¬GateOpens (window.contains run) (request.withShadowRuns candidate window aligned runs)
          (request.withShadowRuns candidate window aligned (runs ++ [copy])) := by
  have facts : Recounted (window.contains run)
      (request.withShadowRuns candidate window aligned runs)
      (request.withShadowRuns candidate window aligned (runs ++ [copy])) :=
    recounted hRun hCompleted hCandle look
  have hGate := rank_lt_iff (request.withShadowRuns candidate window aligned runs) _ facts display
  have hPoints := score_lt_iff (request.withShadowRuns candidate window aligned runs) _ facts display
  rw [← not_lt, ← not_lt]
  exact and_congr (not_congr hPoints) (not_congr hGate)

end RepeatedLook

section Sample

def sampleRun (index : Nat) : TestnetShadowRunRecord where
  id := ⟨BitVec.ofNat 128 index⟩
  strategyId := "momentum_v1"
  symbol := "BTCUSDT"
  timeframe := "1h"
  decision := if index < 2 then "WOULD_SUBMIT" else "NO_SIGNAL"
  signalId := none
  riskDecisionId := none
  wouldSubmitPayload := none
  priceSource := none
  resolvedPrice := none
  reasons := []
  status := "COMPLETED"
  evaluatedCandleOpenTime := some (index * 10)
  createdAt := index * 10 + 1
  correlationId := none

def sampleRuns : List TestnetShadowRunRecord := (range 30).map sampleRun

def sampleCopy (index : Nat) : TestnetShadowRunRecord :=
  { sampleRun index with id := ⟨1000⟩, createdAt := 400 }

def sampleQualification (linkedRuns : List TestnetShadowRunRecord) :
    ResearchCandidateQualificationRequest :=
  sampleLoosenedRequest.withDefaultThresholds.withShadowRuns
    ⟨⟨1⟩, "momentum_v1", "BTCUSDT", "1h", .promotedToShadowConfig⟩ ⟨0, 1000⟩ true linkedRuns

/-- The third would-submit run is a second look at the first candle. -/
theorem repeated_look_qualifies : (sampleRun 0 ∈ sampleRuns ∧ completedRun (sampleRun 0) = true ∧
      IsRepeatedLook (sampleRun 0) (sampleCopy 0)) ∧
    ((evaluateResearchCandidateQualification toString (sampleQualification sampleRuns)).status =
        .notQualified ∧
      (evaluateResearchCandidateQualification toString (sampleQualification sampleRuns)).score = 80) ∧
    ((evaluateResearchCandidateQualification toString
        (sampleQualification (sampleRuns ++ [sampleCopy 0]))).status = .qualified ∧
      (evaluateResearchCandidateQualification toString
        (sampleQualification (sampleRuns ++ [sampleCopy 0]))).score = 95) :=
  ⟨⟨by decide +kernel, by decide +kernel, ⟨rfl, rfl, rfl, by decide⟩⟩, by decide +kernel,
    by decide +kernel⟩

theorem repeatedLook_no_gain_sample : ¬PointsRise true (sampleQualification sampleRuns)
        (sampleQualification (sampleRuns ++ [sampleCopy 5])) ∧
      ¬GateOpens true (sampleQualification sampleRuns)
        (sampleQualification (sampleRuns ++ [sampleCopy 5])) :=
  (repeatedLook_no_gain_iff toString sampleLoosenedRequest.withDefaultThresholds
    ⟨⟨1⟩, "momentum_v1", "BTCUSDT", "1h", .promotedToShadowConfig⟩ ⟨0, 1000⟩ true sampleRuns
    (sampleRun 5) (sampleCopy 5) 50 (by decide +kernel) (by decide +kernel) (by decide +kernel)
    ⟨rfl, rfl, rfl, by decide⟩).mp (by decide +kernel)

end Sample

end AegisQuant.Research
