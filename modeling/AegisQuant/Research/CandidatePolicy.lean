import AegisQuant.Research.Robustness

/-! `preview_cross_asset_candidate_creation_policy`: the requirements a
package has to meet before a candidate is created by hand. Decimals are
written by the printer given to it. -/
namespace AegisQuant.Research
open Exchange (contains)

inductive CrossAssetCandidateGateCheckStatus where
  | pass
  | warn
  | block
  deriving DecidableEq, Repr

inductive CrossAssetCandidateCreationPolicyStrictness where
  | conservative
  | balanced
  | experimental
  deriving DecidableEq, Repr

inductive CrossAssetCandidateCreationPolicyStatus where
  | policyBlocked
  | policyNeedsReview
  | policyReadyForManualCreate
  | policyNotApplicable
  deriving DecidableEq, Repr

structure CrossAssetCandidateCreationPolicyPreviewRequest where
  packageId : String
  runId : Option Uuid
  matrixId : Option Uuid
  strictness : CrossAssetCandidateCreationPolicyStrictness
  deriving DecidableEq

structure CrossAssetCandidateCreationRequirement where
  code : String
  status : CrossAssetCandidateGateCheckStatus
  message : String
  observedValue : Option String
  threshold : Option String
  deriving DecidableEq

structure CrossAssetCandidateCreationRisk where
  code : String
  severity : String
  message : String
  deriving DecidableEq

structure CrossAssetCandidateGatePreviewResult where
  blockers : List String
  warnings : List String
  deriving DecidableEq

/-- What the preview reads of the supporting run. -/
structure CrossAssetResearchResult where
  runId : Uuid
  totalTrades : Int
  maxDrawdownPct : Decimal
  worstWindowPnlPct : Decimal
  symbolDistribution : List (String × Int)
  maxSymbolConcentrationPct : Decimal
  deriving DecidableEq

structure CrossAssetRobustnessMatrixResult where
  runId : Uuid
  status : CrossAssetRobustnessStatus
  rankings : List CrossAssetRobustnessRanking
  deriving DecidableEq

structure CrossAssetCandidateCreationPolicyPreviewResult where
  packageId : String
  runId : Option Uuid
  matrixId : Option Uuid
  strictness : CrossAssetCandidateCreationPolicyStrictness
  status : CrossAssetCandidateCreationPolicyStatus
  hardRequirements : List CrossAssetCandidateCreationRequirement
  reviewRequirements : List CrossAssetCandidateCreationRequirement
  risks : List CrossAssetCandidateCreationRisk
  warnings : List String
  recommendedAction : String
  forbiddenActions : List String
  previewOnly : Bool
  noCandidateCreated : Bool
  generatedAt : DateTime
  deriving DecidableEq

structure CrossAssetStrategyPackageIdentity where
  strategyId : String
  scope : String
  longOnly : Bool
  oneActivePosition : Bool
  portfolioCrossSectional : Bool
  liveExecutable : Bool
  paperExecutable : Bool
  testnetExecutable : Bool
  deriving DecidableEq

def relativeStrengthContinuationV1Id : String := "relative_strength_continuation_v1"

def relativeStrengthContinuationV1Identity : CrossAssetStrategyPackageIdentity where
  strategyId := relativeStrengthContinuationV1Id
  scope := "cross_asset_research_only"
  longOnly := true
  oneActivePosition := true
  portfolioCrossSectional := true
  liveExecutable := false
  paperExecutable := false
  testnetExecutable := false

def relativeStrengthContinuationV1ForbiddenActions : List String :=
  ["no_accept_shadow", "no_promote_shadow", "no_paper", "no_testnet", "no_live"]

/-- What the preview is called with, apart from the cells. -/
structure PolicyEvidence where
  request : CrossAssetCandidateCreationPolicyPreviewRequest
  gatePreview : CrossAssetCandidateGatePreviewResult
  supportingRun : Option CrossAssetResearchResult
  matrix : Option CrossAssetRobustnessMatrixResult
  existingActiveCandidateCount : Int
  routeEnabled : Bool
  executionAuthorityNone : Bool
  deriving DecidableEq

abbrev Requirement := CrossAssetCandidateCreationRequirement

def requirePassed (code : String) (passed : Bool) (passMessage blockMessage : String)
    (observedValue threshold : Option String) : Requirement where
  code := code
  status := if passed then .pass else .block
  message := if passed then passMessage else blockMessage
  observedValue := observedValue
  threshold := threshold

def boolText (value : Bool) : String := if value then "true" else "false"

section Requirements
variable (display : Decimal → String) (evidence : PolicyEvidence)

def supportedPackage : Requirement :=
  requirePassed "supported_strategy_package"
    (evidence.request.packageId == relativeStrengthContinuationV1Id)
    "Strategy package is supported by the candidate creation policy preview."
    "Candidate creation policy preview currently supports only relative_strength_continuation_v1."
    (some evidence.request.packageId) (some relativeStrengthContinuationV1Id)

def gateHasNoBlockers : Requirement :=
  requirePassed "package_gate_preview_has_no_blockers" evidence.gatePreview.blockers.isEmpty
    "Package gate preview has no blockers." "Package gate preview still has blockers."
    (some (toString evidence.gatePreview.blockers.length)) (some "0")

def matrixStatus : Requirement :=
  match evidence.matrix with
  | some matrix =>
    requirePassed "matrix_status_robust_or_promising"
      (matrix.status == .robust || matrix.status == .promising)
      "Matrix status is acceptable for candidate creation policy review."
      "Matrix status is not strong enough for candidate creation policy review."
      (some matrix.status.asStr) (some "ROBUST or PROMISING")
  | none =>
    ⟨"matrix_present", .block,
      "A robustness matrix is required before candidate creation policy review.", none, none⟩

def noExecutionAuthority : Requirement :=
  requirePassed "execution_authority_none" evidence.executionAuthorityNone
    "Policy preview has no paper, testnet, or live execution authority."
    "Candidate creation policy preview must not run with execution authority."
    (some (if evidence.executionAuthorityNone then "NONE" else "NOT_NONE")) (some "NONE")

def packageIsResearchOnly : Requirement :=
  let identity := relativeStrengthContinuationV1Identity
  let message :=
    "Package must remain research-only before candidate creation can be manually considered."
  requirePassed "package_is_research_only"
    (identity.scope == "cross_asset_research_only" && !identity.paperExecutable &&
      !identity.testnetExecutable && !identity.liveExecutable) message message
    (some ("scope=" ++ identity.scope ++ ",paper=" ++ boolText identity.paperExecutable ++
      ",testnet=" ++ boolText identity.testnetExecutable ++ ",live=" ++
      boolText identity.liveExecutable)) (some "research-only and no execution routes")

def noExistingCandidate : Requirement :=
  let message := "No active candidate may already exist for the same package/config."
  requirePassed "no_existing_active_candidate_for_same_package_config"
    (evidence.existingActiveCandidateCount == 0) message message
    (some (toString evidence.existingActiveCandidateCount)) (some "0")

def noRouteEnabled : Requirement :=
  let message := "No paper, testnet, or live route may be enabled for this research package."
  requirePassed "no_paper_testnet_live_route_enabled" (!evidence.routeEnabled) message message
    (some (boolText evidence.routeEnabled)) (some "false")

def PolicyEvidence.topRanking (evidence : PolicyEvidence) : Option CrossAssetRobustnessRanking :=
  evidence.matrix.bind (·.rankings.head?)

/-- A figure of the top ranking, or else of the supporting run. -/
def PolicyEvidence.figure {α : Type} (evidence : PolicyEvidence)
    (ofRanking : CrossAssetRobustnessRanking → α) (ofRun : CrossAssetResearchResult → α) : Option α :=
  (evidence.topRanking.map ofRanking).or (evidence.supportingRun.map ofRun)

def requireFigure (code : String) (figure : Option Decimal) (within : Decimal → Bool)
    (passMessage blockMessage missingMessage threshold : String) : Requirement :=
  match figure with
  | some value =>
    requirePassed code (within value) passMessage blockMessage (some (display value))
      (some threshold)
  | none => ⟨code, .block, missingMessage, none, some threshold⟩

def maxDrawdownWithin : Requirement :=
  requireFigure display "max_drawdown_lte_10_pct"
    (evidence.figure (·.maxDrawdownPct) (·.maxDrawdownPct)) (fun value => decide (-10 ≤ value))
    "Maximum drawdown is within the candidate creation policy threshold."
    "Maximum drawdown exceeds the candidate creation policy threshold."
    "Maximum drawdown evidence is missing." ">= -10"

def worstWindowWithin : Requirement :=
  requireFigure display "worst_window_gte_minus_5_pct"
    (evidence.figure (·.worstWindowPnlPct) (·.worstWindowPnlPct)) (fun value => decide (-5 ≤ value))
    "Worst window is within the candidate creation policy threshold."
    "Worst window breaches the candidate creation policy threshold."
    "Worst-window evidence is missing." ">= -5"

def symbolConcentrationWithin : Requirement :=
  requireFigure display "max_symbol_concentration_lte_50_pct"
    (evidence.figure (·.maxSymbolConcentrationPct) (·.maxSymbolConcentrationPct))
    (fun value => decide (value ≤ 50))
    "Maximum symbol concentration is within the candidate creation policy threshold."
    "Maximum symbol concentration exceeds the candidate creation policy threshold."
    "Symbol concentration evidence is missing." "<= 50"

def PolicyEvidence.topConfigCells (evidence : PolicyEvidence)
    (cells : List CrossAssetRobustnessMatrixCell) : List CrossAssetRobustnessMatrixCell :=
  cells.filter fun cell => evidence.topRanking.all fun ranking =>
    cell.configIndex == ranking.configIndex

/-- `label.contains("2023") || window_start.year() < 2025`. -/
def CrossAssetRobustnessMatrixCell.isEarly (cell : CrossAssetRobustnessMatrixCell) : Bool :=
  contains cell.windowLabel "2023" || decide (cell.windowStart < year2025)

def requirePositiveCell (code : String) (cell : Option CrossAssetRobustnessMatrixCell)
    (passMessage blockMessage missingMessage : String) : Requirement :=
  requireFigure display code (cell.map (·.compoundedPnlPct)) (fun value => decide (0 < value))
    passMessage blockMessage missingMessage "> 0"

def positive2023To2024 (cells : List CrossAssetRobustnessMatrixCell) : Requirement :=
  requirePositiveCell display "positive_2023_2024" (cells.find? (·.isEarly))
    "2023-2024 evidence is positive." "2023-2024 evidence is not positive."
    "2023-2024 evidence cell is missing."

def positive2025Plus (cells : List CrossAssetRobustnessMatrixCell) : Requirement :=
  requirePositiveCell display "positive_2025_plus" (cells.find? (·.isLate))
    "2025+ evidence is positive." "2025+ evidence is not positive."
    "2025+ evidence cell is missing."

def oneWindowDominatesPreviewCells (cells : List CrossAssetRobustnessMatrixCell) : Bool :=
  oneWindowDominatesPnl cells

def noSevereDominance (cells : List CrossAssetRobustnessMatrixCell) : Requirement :=
  let code := "no_severe_one_window_dominance"
  if oneWindowDominatesPreviewCells cells then
    ⟨code, .block, "One window contributes more than 70% of positive window PnL.", some "> 70%",
      some "<= 70%"⟩
  else if !cells.isEmpty then
    ⟨code, .pass, "Positive window PnL is not severely dominated by one window.", some "<= 70%",
      some "<= 70%"⟩
  else ⟨code, .block, "Window-level evidence is missing.", none, some "<= 70%"⟩

/-- A review requirement that fails blocks under the conservative policy only. -/
def strictStatus (condition : Bool) (strictness : CrossAssetCandidateCreationPolicyStrictness) :
    CrossAssetCandidateGateCheckStatus :=
  if condition then .pass else if strictness = .conservative then .block else .warn

def lateCellReview (strictness : CrossAssetCandidateCreationPolicyStrictness)
    (lateCell : Option CrossAssetRobustnessMatrixCell) : List Requirement :=
  match lateCell with
  | some cell =>
    [⟨"twenty_25_plus_median_trade_positive",
        strictStatus (decide (0 < cell.medianTradePnlPct)) strictness,
        "2025+ median trade should be positive before manually creating a research candidate.",
        some (display cell.medianTradePnlPct), some "> 0"⟩,
      ⟨"twenty_25_plus_trade_count_comfortably_above_minimum",
        strictStatus (decide (60 < cell.totalTrades)) strictness,
        "2025+ trade count should be comfortably above the minimum, not barely over it.",
        some (toString cell.totalTrades), some "> 60"⟩]
  | none =>
    [⟨"twenty_25_plus_review_cell_present", strictStatus false strictness,
        "2025+ review cell is missing.", none, none⟩]

def btcPct (btcTradeCount totalTrades : Int) : Decimal :=
  if 0 < totalTrades then btcTradeCount * 100 / totalTrades else 0

def btcParticipation : List Requirement :=
  match evidence.figure (·.btcTradeCount) (fun run => tradesOf run.symbolDistribution "BTCUSDT"),
      evidence.figure (·.totalTrades) (·.totalTrades) with
  | some btc, some total =>
    [⟨"btc_participation_at_least_5_pct",
        strictStatus (decide (5 ≤ btcPct btc total)) evidence.request.strictness,
        "BTC participation should be at least 5% for cross-asset generalization.",
        some (display (roundDp 4 (btcPct btc total))), some ">= 5"⟩]
  | _, _ => []

def standingReviews : List Requirement :=
  [⟨"live_shadow_observations_exist", .warn,
      "Live shadow observations are optional for research candidate creation but must remain visible.",
      some "0", some "> 0 optional"⟩,
    ⟨"direct_execution_unsupported", .warn,
      "Direct execution is unsupported for this research package.", some "false", some "false"⟩]

def packageRequirements : List Requirement :=
  [supportedPackage evidence, gateHasNoBlockers evidence, matrixStatus evidence,
    noExecutionAuthority evidence, packageIsResearchOnly, noExistingCandidate evidence,
    noRouteEnabled evidence, maxDrawdownWithin display evidence, worstWindowWithin display evidence,
    symbolConcentrationWithin display evidence]

def hardRequirements (cells : List CrossAssetRobustnessMatrixCell) : List Requirement :=
  packageRequirements display evidence ++
    [positive2023To2024 display (evidence.topConfigCells cells),
      positive2025Plus display (evidence.topConfigCells cells),
      noSevereDominance (evidence.topConfigCells cells)]

def reviewRequirements (cells : List CrossAssetRobustnessMatrixCell) : List Requirement :=
  lateCellReview display evidence.request.strictness
      ((evidence.topConfigCells cells).find? (·.isLate)) ++
    btcParticipation display evidence ++ standingReviews

end Requirements

def hasBlock (requirements : List Requirement) : Bool := requirements.any (·.status == .block)

def hasWarning (requirements : List Requirement) : Bool := requirements.any (·.status == .warn)

def policyStatus (request : CrossAssetCandidateCreationPolicyPreviewRequest)
    (hard review : List Requirement) : CrossAssetCandidateCreationPolicyStatus :=
  if request.packageId ≠ relativeStrengthContinuationV1Id then .policyNotApplicable
  else if hasBlock hard || hasBlock review then .policyBlocked
  else if request.strictness == .balanced && hasWarning review then .policyNeedsReview
  else if request.strictness == .experimental && !hasBlock hard then .policyReadyForManualCreate
  else if hasWarning review then .policyNeedsReview
  else .policyReadyForManualCreate

def policyAction (hard : List Requirement) : CrossAssetCandidateCreationPolicyStatus → String
  | .policyBlocked => if hasBlock hard then "RUN_MORE_OUT_OF_SAMPLE" else "DO_NOT_CREATE_CANDIDATE"
  | .policyNeedsReview => "HUMAN_REVIEW_CANDIDATE_POLICY"
  | .policyReadyForManualCreate => "HUMAN_REVIEW_CANDIDATE_POLICY"
  | .policyNotApplicable => "DO_NOT_CREATE_CANDIDATE"

def requirementRisk (requirement : Requirement) : Option CrossAssetCandidateCreationRisk :=
  match requirement.status with
  | .block => some ⟨requirement.code, "HIGH", requirement.message⟩
  | .warn => some ⟨requirement.code, "MEDIUM", requirement.message⟩
  | .pass => none

def addGateWarning (warnings : List String) (code : String) : List String :=
  if warnings.contains code then warnings else warnings ++ [code]

def previewCrossAssetCandidateCreationPolicy (display : Decimal → String) (now : DateTime)
    (evidence : PolicyEvidence) (cells : List CrossAssetRobustnessMatrixCell) :
    CrossAssetCandidateCreationPolicyPreviewResult :=
  let hard := hardRequirements display evidence cells
  let review := reviewRequirements display evidence cells
  let status := policyStatus evidence.request hard review
  let failed := ((hard ++ review).filter (·.status != .pass)).map (·.code)
  { packageId := evidence.request.packageId
    runId := (evidence.supportingRun.map (·.runId)).or evidence.request.runId
    matrixId := (evidence.matrix.map (·.runId)).or evidence.request.matrixId
    strictness := evidence.request.strictness
    status := status
    hardRequirements := hard
    reviewRequirements := review
    risks := (hard ++ review).filterMap requirementRisk
    warnings := sortDedup (evidence.gatePreview.warnings.foldl addGateWarning failed)
    recommendedAction := policyAction hard status
    forbiddenActions := sortDedup (relativeStrengthContinuationV1ForbiddenActions ++
      ["no_auto_candidate_creation", "no_candidate_acceptance", "no_shadow_promotion",
        "no_runner_config_change", "no_scheduled_job_enablement", "no_ready_for_testnet_mark"])
    previewOnly := true
    noCandidateCreated := true
    generatedAt := now }

end AegisQuant.Research
