import AegisQuant.Readiness.Targets

/-! The readiness of a strategy for promotion when the risk engine rejects most
of its signals. The rate of the performance summary is a fraction, and the
check compares it with a percentage. -/
namespace AegisQuant.Readiness
open AegisQuant.Analytics Fallible List Option

structure BlocksMostlyRejected (performance : StrategyPerformanceSummary)
    (result : ExecutionReadinessResult) : Prop where
  blocked : performance.approvedRiskDecisions < performance.rejectedRiskDecisions →
    (∃ check ∈ result.checks, check.code = "risk_rejection_rate_acceptable" ∧ check.passed = false) ∧
      .highRiskRejectionRate ∈ result.blockingReasons ∧ result.score ≤ 40 ∧
      result.status ≠ .ready ∧ result.status ≠ .degraded
  allowed : performance.rejectedRiskDecisions ≤ performance.approvedRiskDecisions →
    ∀ check ∈ result.checks, check.code = "risk_rejection_rate_acceptable" → check.passed = true

section Rate
variable {facts : ReadinessFacts} {context : ReadinessContext}

theorem calculateStrategyRejectionRate_le_one {approved rejected : Int} (hApproved : 0 ≤ approved) :
    calculateStrategyRejectionRate rejected (approved + rejected) ≤ 1 := by
  unfold calculateStrategyRejectionRate
  split
  · exact zero_le_one
  · rename_i hSome
    have hTotal : (0 : Decimal) < (approved + rejected : Int) := by
      exact_mod_cast not_le.mp hSome
    rw [div_le_one hTotal]
    exact_mod_cast Int.le_add_of_nonneg_left hApproved

theorem approvedRiskDecisions_performance : 0 ≤ (performance facts context).approvedRiskDecisions := by
  have hSum : (performance facts context).approvedRiskDecisions =
      (facts.performanceRows.shadowRuns.countP fun run =>
        run.riskDecisionId.isSome && run.decision != "RISK_REJECTED" : Nat) + 0 +
      (facts.performanceRows.counts.approvedDecisions : Int) := rfl
  rw [hSum]
  omega

theorem riskRejectionRate_performance : (performance facts context).riskRejectionRate ≤ 1 := by
  have hRate : (performance facts context).riskRejectionRate =
      calculateStrategyRejectionRate (performance facts context).rejectedRiskDecisions
        ((performance facts context).approvedRiskDecisions +
          (performance facts context).rejectedRiskDecisions) := rfl
  rw [hRate]
  exact calculateStrategyRejectionRate_le_one approvedRiskDecisions_performance

theorem riskRejectionRateAcceptable_passed : (riskRejectionRateAcceptable facts context).passed = true := by
  have hBelow : (performance facts context).riskRejectionRate ≤ 50 :=
    riskRejectionRate_performance.trans (by norm_num)
  exact decide_eq_true hBelow

end Rate

section Codes
variable {facts : ReadinessFacts} {request : ExecutionReadinessRequest} {context : ReadinessContext}
  {strategyConfig : Option StrategyConfig} {actor : Option UserRole} {check : ExecutionReadinessCheck}

def codes (steps : List Step) : List String := (steps.flatMap Step.checks).map (·.code)

@[simp] theorem codes_nil : codes [] = [] := rfl

@[simp] theorem codes_cons (step : Step) (steps : List Step) :
    codes (step :: steps) = step.checks.map (·.code) ++ codes steps := by
  simp [codes]

@[simp] theorem codes_append (first second : List Step) :
    codes (first ++ second) = codes first ++ codes second := by
  simp [codes]

@[simp] theorem codes_ite (condition : Prop) [Decidable condition] (first second : List Step) :
    codes (if condition then first else second) = if condition then codes first else codes second := by
  split <;> rfl

@[simp] theorem codes_check (requirement : Requirement) :
    (Step.check requirement).checks.map (·.code) = [requirement.code] := rfl

@[simp] theorem codes_required (code name : String) (passed : Bool)
    (passSummary failSummary : String) (blocker : ExecutionReadinessBlockingReason)
    (recommendation : ExecutionReadinessRecommendation) :
    (required code name passed passSummary failSummary blocker recommendation).checks.map
      (·.code) = [code] := rfl

@[simp] theorem codes_warn (code name : String)
    (severity : ExecutionReadinessCheckSeverity) (summary : String) :
    (warn code name severity summary).checks.map (·.code) = [code] := rfl

@[simp] theorem codes_recommend (recommendation : ExecutionReadinessRecommendation) :
    (Step.recommend recommendation).checks.map (·.code) = [] := rfl

@[simp] theorem codes_push (check : ExecutionReadinessCheck) :
    (Step.push check).checks.map (·.code) = [check.code] := rfl

theorem code_ne_of_codes {code : String} {steps : List Step} (hCodes : code ∉ codes steps)
    (hCheck : check ∈ steps.flatMap Step.checks) : check.code ≠ code :=
  fun hCode => hCodes (hCode ▸ mem_map_of_mem hCheck)

theorem codes_systemSteps :
    "risk_rejection_rate_acceptable" ∉ codes (systemSteps facts request) := by
  simp [systemSteps]

theorem codes_feedSteps : "risk_rejection_rate_acceptable" ∉ codes (feedSteps facts context) := by
  unfold feedSteps
  split
  · simp
  · simp

theorem codes_authSteps : "risk_rejection_rate_acceptable" ∉ codes (authSteps facts request) := by
  simp [authSteps]

theorem codes_priceSteps : "risk_rejection_rate_acceptable" ∉ codes (priceSteps facts context) := by
  simp [priceSteps]

theorem codes_strategySteps :
    "risk_rejection_rate_acceptable" ∉ codes (strategySteps facts request strategyConfig) := by
  unfold strategySteps
  simp only [codes_append, codes_ite, codes_cons, codes_nil, codes_required]
  split <;> split <;> simp

theorem codes_closingSteps :
    "risk_rejection_rate_acceptable" ∉ codes (closingSteps facts request) := by
  unfold closingSteps
  simp only [codes_append, codes_ite, codes_cons, codes_nil, codes_warn, codes_recommend, codes_push]
  split <;> split <;> simp

theorem check_of_testnetPromotionSteps
    (hCheck : check ∈ (testnetPromotionSteps facts context).flatMap Step.checks)
    (hCode : check.code = "risk_rejection_rate_acceptable") :
    check = (riskRejectionRateAcceptable facts context).check := by
  unfold testnetPromotionSteps at hCheck
  simp only [flatMap_append, mem_append] at hCheck
  rcases hCheck with ((((hCheck | hCheck) | hCheck) | hCheck) | hCheck) | hCheck
  · exact absurd hCode (code_ne_of_codes (by simp) hCheck)
  · exact absurd hCode (code_ne_of_codes (by simp) hCheck)
  · simp only [flatMap_cons, flatMap_nil, append_nil, mem_append] at hCheck
    rcases hCheck with hCheck | hCheck
    · rw [mem_singleton.mp hCheck] at hCode
      exact absurd hCode (by simp [Requirement.check])
    · exact mem_singleton.mp hCheck
  · exact absurd hCode (code_ne_of_codes (by simp) hCheck)
  · exact absurd hCode (code_ne_of_codes (by simp) hCheck)
  · exact absurd hCode (code_ne_of_codes (by simp) hCheck)

theorem check_of_readinessSteps (hTarget : request.target = .testnetPromotion)
    (hCheck : check ∈ (draftOf (readinessSteps facts request context strategyConfig actor)).checks)
    (hCode : check.code = "risk_rejection_rate_acceptable") :
    check = (riskRejectionRateAcceptable facts context).check := by
  rw [checks_draftOf, readinessSteps] at hCheck
  simp only [flatMap_append, mem_append] at hCheck
  rcases hCheck with (((((hCheck | hCheck) | hCheck) | hCheck) | hCheck) | hCheck) | hCheck
  · exact absurd hCode (code_ne_of_codes codes_systemSteps hCheck)
  · exact absurd hCode (code_ne_of_codes codes_feedSteps hCheck)
  · exact absurd hCode (code_ne_of_codes codes_authSteps hCheck)
  · exact absurd hCode (code_ne_of_codes codes_priceSteps hCheck)
  · exact absurd hCode (code_ne_of_codes codes_strategySteps hCheck)
  · rw [targetSteps, hTarget] at hCheck
    exact check_of_testnetPromotionSteps hCheck hCode
  · exact absurd hCode (code_ne_of_codes codes_closingSteps hCheck)

end Codes

section
variable {facts : ReadinessFacts} {now : DateTime} {actor : Option UserRole}
  {request : ExecutionReadinessRequest} {context : ReadinessContext}
  {result : ExecutionReadinessResult} (hTarget : request.target = .testnetPromotion)
  (hContext : resolveContext facts now request = .ok context)
  (hResult : computeExecutionReadiness facts now actor request = .ok result)
include hTarget hContext hResult

/-- A run for a promotion, with the context it has resolved. -/
theorem computeExecutionReadiness_eq_ok :
    ∃ strategyConfig, result = finalizeReadinessResult .testnetPromotion
      (draftOf (readinessSteps facts request context strategyConfig actor)) context.now := by
  unfold computeExecutionReadiness at hResult
  rw [hContext, ok_bind] at hResult
  obtain ⟨strategyId, -, hResult⟩ := bind_eq_ok.mp hResult
  rw [hTarget] at hResult
  exact ⟨_, (pure_eq_ok.mp hResult).symm⟩

theorem check_passes :
    ∀ check ∈ result.checks, check.code = "risk_rejection_rate_acceptable" → check.passed = true := by
  obtain ⟨strategyConfig, rfl⟩ := computeExecutionReadiness_eq_ok hTarget hContext hResult
  intro check hCheck hCode
  rw [check_of_readinessSteps hTarget hCheck hCode]
  exact riskRejectionRateAcceptable_passed

end

/-- The run for a promotion keeps the promise exactly where the strategy is not
mostly rejected: the check passes for every count of decisions. -/
theorem mostly_rejected_blocked_iff (facts : ReadinessFacts) (now : DateTime)
    (actor : Option UserRole) (request : ExecutionReadinessRequest) (context : ReadinessContext)
    (result : ExecutionReadinessResult) (hTarget : request.target = .testnetPromotion)
    (hContext : resolveContext facts now request = .ok context)
    (hResult : computeExecutionReadiness facts now actor request = .ok result) :
    BlocksMostlyRejected (performance facts context) result ↔
      (performance facts context).rejectedRiskDecisions ≤
        (performance facts context).approvedRiskDecisions := by
  have hPasses := check_passes hTarget hContext hResult
  constructor
  · intro hBlocks
    by_contra hMostly
    obtain ⟨⟨check, hCheck, hCode, hFailed⟩, -⟩ := hBlocks.blocked (not_le.mp hMostly)
    rw [hPasses check hCheck hCode] at hFailed
    cases hFailed
  · intro hFew
    constructor
    case blocked => exact fun hMostly => absurd hFew (not_le.mpr hMostly)
    case allowed => exact fun _ => hPasses

section Witness

def sampleFacts (approved rejected : Nat) : ReadinessFacts where
  dbHealthy := true
  killSwitchEnabled := false
  riskConfig := some (.ok .default)
  exchange := "binance"
  feeds := [⟨"binance", "BTCUSDT", "CONNECTED", .fresh, some 0⟩]
  authDisabled := false
  environment := "production"
  latestPriceAt := fun _ => some 0
  strategyConfig := fun _ => none
  defaultSymbols := []
  defaultTimeframe := .oneMinute
  closedCandles := 0
  paperAccount := none
  shadowRunner := none
  promotionFunnel := ⟨5, 0, 100⟩
  performanceRows := {
    backtestRuns := []
    counts := ⟨approved + rejected, approved, rejected, 0⟩
    positions := []
    drawdowns := []
    shadowRuns := []
    backtestAt := 0
    paperAt := 0
    shadowAt := 0
    combinedAt := 0 }
  testnetConfigured := true
  privateStream := none
  orderStates := []
  reconciliationRuns := []
  repairFailures := 0
  promotion := fun _ => none
  riskDecision := fun _ => none
  backtestCount := 1

def sampleReadinessRequest : ExecutionReadinessRequest where
  target := .testnetPromotion
  symbol := some "BTCUSDT"
  strategyId := some "momentum_v1"
  timeframe := some "1m"
  promotionId := none
  riskDecisionId := none
  startTime := none
  endTime := none

def sampleReadinessContext : ReadinessContext where
  strategyId := "momentum_v1"
  symbol := "BTCUSDT"
  timeframe := .oneMinute
  windowStart := -DateTime.seconds 86400
  windowEnd := 0
  now := 0

theorem resolveContext_sample (approved rejected : Nat) :
    resolveContext (sampleFacts approved rejected) 0 sampleReadinessRequest =
      .ok sampleReadinessContext := by
  have hTimeframe : CandleInterval.fromStr "1m" = .ok .oneMinute :=
    CandleInterval.fromStr_asStr .oneMinute
  unfold resolveContext
  simp only [sampleReadinessRequest, some_or, getD_some, getD_none, hTimeframe]
  rfl

theorem exists_readiness_sample (approved rejected : Nat) :
    ∃ result, computeExecutionReadiness (sampleFacts approved rejected) 0 none
      sampleReadinessRequest = .ok result := by
  have hStrategy : StrategyId.fromStr sampleReadinessContext.strategyId = .ok .momentumV1 :=
    StrategyId.fromStr_asStr .momentumV1
  unfold computeExecutionReadiness
  rw [resolveContext_sample, ok_bind, hStrategy]
  exact ⟨_, rfl⟩

/-- With one rejection for two approvals the promise is kept. -/
theorem mostly_approved_not_blocked : ∃ result,
    computeExecutionReadiness (sampleFacts 2 1) 0 none sampleReadinessRequest = .ok result ∧
      BlocksMostlyRejected (performance (sampleFacts 2 1) sampleReadinessContext) result := by
  obtain ⟨result, hResult⟩ := exists_readiness_sample 2 1
  exact ⟨result, hResult, (mostly_rejected_blocked_iff (sampleFacts 2 1) 0 none
    sampleReadinessRequest sampleReadinessContext result rfl (resolveContext_sample 2 1) hResult).mpr
      (by decide +kernel)⟩

/-- Ninety-nine rejections for one approval do not block the promotion. -/
theorem mostly_rejected_not_blocked :
    ¬∀ (facts : ReadinessFacts) (now : DateTime) (actor : Option UserRole)
        (request : ExecutionReadinessRequest) (context : ReadinessContext)
        (result : ExecutionReadinessResult),
      request.target = .testnetPromotion → resolveContext facts now request = .ok context →
      computeExecutionReadiness facts now actor request = .ok result →
      BlocksMostlyRejected (performance facts context) result := by
  intro hAll
  obtain ⟨result, hResult⟩ := exists_readiness_sample 1 99
  have hContext := resolveContext_sample 1 99
  have hMostly : (performance (sampleFacts 1 99) sampleReadinessContext).approvedRiskDecisions <
      (performance (sampleFacts 1 99) sampleReadinessContext).rejectedRiskDecisions := by
    decide +kernel
  obtain ⟨⟨check, hCheck, hCode, hFailed⟩, -⟩ :=
    (hAll (sampleFacts 1 99) 0 none sampleReadinessRequest _ result rfl hContext hResult).blocked hMostly
  rw [check_passes rfl hContext hResult check hCheck hCode] at hFailed
  cases hFailed

end Witness

end AegisQuant.Readiness
