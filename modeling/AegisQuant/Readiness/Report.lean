import AegisQuant.Library.SortByKey
import AegisQuant.Research.Qualification

/-! The report of an execution readiness run. The checks are pushed one after
the other, a failed blocking one leaves its reason, and the score, the status
and the warnings are read off the checks at the end. -/
namespace AegisQuant.Readiness
open List
open AegisQuant.Research (ExecutionReadinessStatus)

inductive ExecutionReadinessTarget where
  | paperPipeline
  | testnetShadow
  | testnetPromotion
  | testnetSubmit
  deriving DecidableEq, Repr

inductive ExecutionReadinessCheckSeverity where
  | low
  | medium
  | high
  | critical
  deriving DecidableEq, Repr

def ExecutionReadinessCheckSeverity.scorePenalty : ExecutionReadinessCheckSeverity → Int
  | .low => 3
  | .medium => 8
  | .high => 15
  | .critical => 0

inductive ExecutionReadinessBlockingReason where
  | dbUnhealthy
  | killSwitchActive
  | missingValidatedRiskConfig
  | staleMarketFeed
  | authDisabled
  | missingRecentMarketPrice
  | strategyDisabled
  | strategyConfigInvalid
  | missingRecentClosedCandles
  | riskConfigInvalid
  | paperAccountMissing
  | paperAccountUnhealthy
  | shadowRunnerError
  | zeroShadowWouldSubmitCount
  | promotionFunnelHighRejectionRate
  | staleLocalPrice
  | highRiskRejectionRate
  | testnetAdapterNotConfigured
  | privateStreamStale
  | privateStreamDisconnected
  | unresolvedReconciliationMismatches
  | reconciliationRequiredOrdersPresent
  | unknownExchangeStateOrdersPresent
  | recentRepairFailures
  | promotionExpired
  | promotionNotPreviewed
  | missingApprovedRiskDecision
  | nonOwnerActor
  deriving DecidableEq, Repr

/-- In the order in which the set of recommendations is read. -/
inductive ExecutionReadinessRecommendation where
  | restoreDatabaseHealth
  | resumeFromKillSwitch
  | validateRiskConfig
  | refreshMarketFeed
  | enableAuth
  | seedRecentMarketPrice
  | enableStrategy
  | fixStrategyConfig
  | backfillClosedCandles
  | createOrRepairPaperAccount
  | reviewPaperPnl
  | restartShadowRunner
  | increaseShadowCoverage
  | reducePromotionRejections
  | reduceRiskRejections
  | configureTestnetAdapter
  | reconnectPrivateStream
  | reconcileTestnetOrders
  | resolveRepairFailures
  | previewOrRenewPromotion
  | approveRiskDecision
  | useOwnerActor
  | runRecentBacktest
  | verifyRunnerState
  deriving DecidableEq, Repr

structure ExecutionReadinessCheck where
  code : String
  name : String
  passed : Bool
  blocking : Bool
  severity : ExecutionReadinessCheckSeverity
  summary : String
  deriving DecidableEq

structure ExecutionReadinessResult where
  target : ExecutionReadinessTarget
  status : ExecutionReadinessStatus
  score : Int
  blockingReasons : List ExecutionReadinessBlockingReason
  warnings : List ExecutionReadinessCheck
  checks : List ExecutionReadinessCheck
  recommendations : List ExecutionReadinessRecommendation
  computedAt : DateTime

def scoreExecutionReadiness (checks : List ExecutionReadinessCheck) : Int :=
  let score := (checks.filter fun check => !check.passed && !check.blocking).foldl
    (fun score check => score - check.severity.scorePenalty) 100
  max 0 (min score 100)

/-- The three collections that the checks are pushed to. -/
structure Draft where
  checks : List ExecutionReadinessCheck
  blockers : List ExecutionReadinessBlockingReason
  recommendations : List ExecutionReadinessRecommendation

def Draft.empty : Draft := ⟨[], [], []⟩

def Draft.recommend (draft : Draft) (recommendation : ExecutionReadinessRecommendation) : Draft :=
  if recommendation ∈ draft.recommendations then draft
  else { draft with recommendations := draft.recommendations ++ [recommendation] }

/-- A check with both of its summaries. -/
structure Requirement where
  code : String
  name : String
  passed : Bool
  blocking : Bool := true
  severity : ExecutionReadinessCheckSeverity := .high
  passSummary : String
  failSummary : String
  blocker : ExecutionReadinessBlockingReason
  recommendation : ExecutionReadinessRecommendation

def Requirement.check (requirement : Requirement) : ExecutionReadinessCheck where
  code := requirement.code
  name := requirement.name
  passed := requirement.passed
  blocking := requirement.blocking
  severity := requirement.severity
  summary := if requirement.passed then requirement.passSummary else requirement.failSummary

def pushCheck (draft : Draft) (requirement : Requirement) : Draft :=
  let draft := if requirement.passed then draft
    else
      let draft := draft.recommend requirement.recommendation
      if requirement.blocking ∧ requirement.blocker ∉ draft.blockers then
        { draft with blockers := draft.blockers ++ [requirement.blocker] }
      else draft
  { draft with checks := draft.checks ++ [requirement.check] }

structure Warning where
  code : String
  name : String
  severity : ExecutionReadinessCheckSeverity
  summary : String

def pushWarning (draft : Draft) (warning : Warning) : Draft :=
  { draft with checks := draft.checks ++
      [⟨warning.code, warning.name, false, false, warning.severity, warning.summary⟩] }

/-- What a readiness run does with its draft, step by step. -/
inductive Step where
  | check (requirement : Requirement)
  | warning (warning : Warning)
  | recommend (recommendation : ExecutionReadinessRecommendation)
  | push (check : ExecutionReadinessCheck)

def Draft.apply (draft : Draft) : Step → Draft
  | .check requirement => pushCheck draft requirement
  | .warning warning => pushWarning draft warning
  | .recommend recommendation => draft.recommend recommendation
  | .push check => { draft with checks := draft.checks ++ [check] }

def draftOf (steps : List Step) : Draft := steps.foldl Draft.apply .empty

def hasCriticalFailure (checks : List ExecutionReadinessCheck) : Bool :=
  checks.any fun check => !check.passed && check.blocking && check.severity = .critical

def finalizeReadinessResult (target : ExecutionReadinessTarget) (draft : Draft)
    (computedAt : DateTime) : ExecutionReadinessResult :=
  let score := scoreExecutionReadiness draft.checks
  let score := if draft.blockers = [] then score else min score 40
  let status : ExecutionReadinessStatus :=
    if hasCriticalFailure draft.checks then .unknown
    else if draft.blockers ≠ [] ∨ score < 60 then .notReady
    else if 85 ≤ score then .ready
    else .degraded
  { target := target
    status := status
    score := score
    blockingReasons := draft.blockers
    warnings := draft.checks.filter fun check => !check.passed && !check.blocking
    checks := draft.checks
    recommendations := SortByKey.sort (·.ctorIdx) draft.recommendations
    computedAt := computedAt }

section Draft
variable {draft : Draft} {step : Step} {steps : List Step} {check : ExecutionReadinessCheck}

def Step.checks : Step → List ExecutionReadinessCheck
  | .check requirement => [requirement.check]
  | .warning pushed =>
    [⟨pushed.code, pushed.name, false, false, pushed.severity, pushed.summary⟩]
  | .recommend _ => []
  | .push check => [check]

variable (draft : Draft)

@[simp] theorem recommend_checks (recommendation : ExecutionReadinessRecommendation) :
    (draft.recommend recommendation).checks = draft.checks := by
  unfold Draft.recommend
  split <;> rfl

theorem checks_apply (step : Step) : (draft.apply step).checks = draft.checks ++ step.checks := by
  cases step with
  | check requirement =>
    simp only [Draft.apply, pushCheck, Step.checks]
    split
    · rfl
    · split <;> simp
  | warning warning => rfl
  | recommend recommendation => simp [Draft.apply, Step.checks]
  | push check => rfl

theorem checks_foldl (steps : List Step) :
    (steps.foldl Draft.apply draft).checks = draft.checks ++ steps.flatMap Step.checks := by
  induction steps generalizing draft with
  | nil => simp
  | cons step rest ih => rw [foldl_cons, ih, checks_apply, flatMap_cons, append_assoc]

theorem checks_draftOf (steps : List Step) : (draftOf steps).checks = steps.flatMap Step.checks :=
  checks_foldl .empty steps

end Draft

end AegisQuant.Readiness
