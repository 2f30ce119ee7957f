import Mathlib.Data.List.Destutter
import AegisQuant.Exchange.Reconciliation
import AegisQuant.Research.CrossAsset

/-! `rank_cross_asset_robustness_configs`: the cells of a robustness matrix,
one for each configuration and window, ranked by configuration. -/
namespace AegisQuant.Research
open SortByKey
open Exchange (contains)

structure CrossAssetRobustnessConfig where
  rankingLookbackHours : Nat
  rankMetric : CrossAssetRankMetric
  minRankSpreadPct : Decimal
  holdingHours : Nat
  sizingMode : CrossAssetSizingMode
  marketFilter : CrossAssetMarketFilter
  volFilter : CrossAssetVolFilter
  overextensionFilter : CrossAssetOverextensionFilter
  exitRule : CrossAssetExitRule
  deriving DecidableEq

inductive CrossAssetRobustnessStatus where
  | robust
  | promising
  | weak
  | overfitRisk
  | negative
  | tooSparse
  deriving DecidableEq, Repr

def CrossAssetRobustnessStatus.asStr : CrossAssetRobustnessStatus → String
  | .robust => "ROBUST"
  | .promising => "PROMISING"
  | .weak => "WEAK"
  | .overfitRisk => "OVERFIT_RISK"
  | .negative => "NEGATIVE"
  | .tooSparse => "TOO_SPARSE"

structure CrossAssetRobustnessFinding where
  severity : String
  code : String
  message : String
  deriving DecidableEq

/-- What the ranking and the policy preview read of a cell. The symbol
distribution is a map from symbols to counts of trades. -/
structure CrossAssetRobustnessMatrixCell where
  configIndex : Int
  config : CrossAssetRobustnessConfig
  windowLabel : String
  windowStart : DateTime
  status : CrossAssetRobustnessStatus
  totalTrades : Int
  compoundedPnlPct : Decimal
  medianTradePnlPct : Decimal
  maxDrawdownPct : Decimal
  worstWindowPnlPct : Decimal
  feeSlippageDragPct : Decimal
  symbolDistribution : List (String × Int)
  maxSymbolConcentrationPct : Decimal
  findings : List CrossAssetRobustnessFinding
  deriving DecidableEq

structure CrossAssetRobustnessRanking where
  rank : Int
  configIndex : Int
  config : CrossAssetRobustnessConfig
  status : CrossAssetRobustnessStatus
  robustnessScore : Decimal
  totalTrades : Int
  combinedPnlPct : Decimal
  medianCellPnlPct : Decimal
  worstWindowPnlPct : Decimal
  maxDrawdownPct : Decimal
  maxSymbolConcentrationPct : Decimal
  btcTradeCount : Int
  skippedWindowCount : Int
  warnings : List String
  findings : List CrossAssetRobustnessFinding
  deriving DecidableEq

def year2025 : DateTime := DateTime.seconds 1735689600

/-- `label.contains("2025") || window_start.year() >= 2025`. -/
def CrossAssetRobustnessMatrixCell.isLate (cell : CrossAssetRobustnessMatrixCell) : Bool :=
  contains cell.windowLabel "2025" || decide (year2025 ≤ cell.windowStart)

def CrossAssetRobustnessMatrixCell.isCombined (cell : CrossAssetRobustnessMatrixCell) : Bool :=
  cell.windowLabel == "combined"

def tradesOf (distribution : List (String × Int)) (symbol : String) : Int :=
  (distribution.lookup symbol).getD 0

def medianDecimalVec (floats : FloatArithmetic) (values : List Decimal) : Decimal :=
  (percentileDecimal floats values 50).getD 0

def oneWindowDominatesPnl (cells : List CrossAssetRobustnessMatrixCell) : Bool :=
  let positives := (cells.filter fun cell => !cell.isCombined).map fun cell =>
    max cell.compoundedPnlPct 0
  let totalPositive := positives.sum
  if totalPositive ≤ 0 then false
  else match positives.max? with
    | none => false
    | some value => decide (7 / 10 < value / totalPositive)

def cellScore (cell : CrossAssetRobustnessMatrixCell) : Decimal :=
  (if 0 < cell.compoundedPnlPct then if cell.isLate then 20 else 15
    else if cell.isLate then -35 else -15) +
  (if cell.isLate && cell.status == .tooSparse then -30 else 0) +
  (if cell.maxDrawdownPct < -10 then -20 else 8) +
  (if cell.worstWindowPnlPct < -5 || cell.compoundedPnlPct < -5 then -15 else 0) +
  (if 50 < cell.maxSymbolConcentrationPct then -15 else 8) +
  (if cell.totalTrades < 30 then -15 else if cell.totalTrades < 50 then -8 else 10) -
  min (cell.feeSlippageDragPct / 2) 10

def cellWarnings (cell : CrossAssetRobustnessMatrixCell) : List String :=
  (if !decide (0 < cell.compoundedPnlPct) && cell.isLate then ["2025_plus_negative"] else []) ++
  (if cell.isLate && cell.status == .tooSparse then ["2025_plus_too_sparse"] else []) ++
  (if cell.maxDrawdownPct < -10 then ["drawdown_gt_10_pct"] else []) ++
  (if cell.worstWindowPnlPct < -5 || cell.compoundedPnlPct < -5 then
    ["worst_window_below_minus_5_pct"] else []) ++
  (if 50 < cell.maxSymbolConcentrationPct then ["symbol_concentration_gt_50_pct"] else [])

def classifyCrossAssetRobustnessRanking (cells : List CrossAssetRobustnessMatrixCell)
    (score combinedPnlPct medianCellPnlPct worstWindowPnlPct maxDrawdownPct
      maxSymbolConcentrationPct : Decimal) : CrossAssetRobustnessStatus :=
  let late := cells.find? (·.isLate)
  if late.any (·.status == .tooSparse) then .tooSparse
  else if combinedPnlPct ≤ 0 || late.any (·.compoundedPnlPct ≤ 0) then .negative
  else if 50 < maxSymbolConcentrationPct || medianCellPnlPct ≤ 0 || oneWindowDominatesPnl cells then
    .overfitRisk
  else if maxDrawdownPct < -10 || worstWindowPnlPct < -5 then .weak
  else if 115 ≤ score then .robust
  else .promising

def sortDedup (texts : List String) : List String := (sort id texts).destutter (· ≠ ·)

def sortDedupFindings (findings : List CrossAssetRobustnessFinding) :
    List CrossAssetRobustnessFinding :=
  (sort (·.code) findings).destutter fun left right =>
    ¬(left.code = right.code ∧ left.message = right.message)

def combinedCell (cells : List CrossAssetRobustnessMatrixCell) :
    Option CrossAssetRobustnessMatrixCell :=
  (cells.find? (·.isCombined)).or cells.getLast?

section Ranking
variable (floats : FloatArithmetic)

/-- The ranking of one configuration, before ranks are given. -/
def rankConfig (configIndex : Int) (first : CrossAssetRobustnessMatrixCell)
    (rest : List CrossAssetRobustnessMatrixCell) : CrossAssetRobustnessRanking :=
  let cells := first :: rest
  let combinedPnlPct := ((combinedCell cells).getD first).compoundedPnlPct
  let medianCellPnlPct := medianDecimalVec floats (cells.map (·.compoundedPnlPct))
  let worstWindowPnlPct :=
    ((cells.map fun cell => min cell.worstWindowPnlPct cell.compoundedPnlPct).min?).getD 0
  let maxDrawdownPct := (cells.map (·.maxDrawdownPct)).min?.getD 0
  let maxSymbolConcentrationPct := (cells.map (·.maxSymbolConcentrationPct)).max?.getD 0
  let btcTradeCount := (cells.map fun cell => tradesOf cell.symbolDistribution "BTCUSDT").sum
  let dominates := oneWindowDominatesPnl cells
  let score := cells.foldl (fun score cell => score + cellScore cell) 50 -
    (if btcTradeCount = 0 then 5 else 0) + (if 0 < medianCellPnlPct then 8 else 0) -
    (if dominates then 15 else 0)
  { rank := 0
    configIndex := configIndex
    config := first.config
    status := classifyCrossAssetRobustnessRanking cells score combinedPnlPct medianCellPnlPct
      worstWindowPnlPct maxDrawdownPct maxSymbolConcentrationPct
    robustnessScore := score
    totalTrades := (cells.map (·.totalTrades)).sum
    combinedPnlPct := combinedPnlPct
    medianCellPnlPct := medianCellPnlPct
    worstWindowPnlPct := worstWindowPnlPct
    maxDrawdownPct := maxDrawdownPct
    maxSymbolConcentrationPct := maxSymbolConcentrationPct
    btcTradeCount := btcTradeCount
    skippedWindowCount := cells.countP (·.status == .tooSparse)
    warnings := sortDedup (cells.flatMap cellWarnings ++
      (if btcTradeCount = 0 then ["btc_zero_participation"] else []) ++
      (if dominates then ["one_window_dominates_pnl"] else []))
    findings := sortDedupFindings (cells.flatMap (·.findings)) }

def rankGroup : Int × List CrossAssetRobustnessMatrixCell → Option CrossAssetRobustnessRanking
  | (_, []) => none
  | (configIndex, first :: rest) => some (rankConfig floats configIndex first rest)

/-- The best score comes first, and of equal scores the lowest index. -/
def rankCrossAssetRobustnessConfigs (cells : List CrossAssetRobustnessMatrixCell) :
    List CrossAssetRobustnessRanking :=
  let rankings := (Groups.group (·.configIndex) cells).filterMap (rankGroup floats)
  let sorted := sort
    (fun ranking => toLex (OrderDual.toDual ranking.robustnessScore, ranking.configIndex)) rankings
  sorted.mapIdx fun index ranking => { ranking with rank := index + 1 }

end Ranking

end AegisQuant.Research
