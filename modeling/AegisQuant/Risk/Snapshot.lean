import AegisQuant.Risk.Engine
import AegisQuant.Store.Database

/-! `load_risk_state_snapshot`: the figures the risk rules act on, as queries
over the stored rows. -/
namespace AegisQuant.Risk
open Paper

def dateTruncDay (time : DateTime) : DateTime := time - time % DateTime.seconds 86400

/-- Weeks start on Monday; the epoch is a Thursday. -/
def dateTruncWeek (time : DateTime) : DateTime :=
  time - (time + DateTime.seconds (3 * 86400)) % DateTime.seconds (7 * 86400)

/-- `SELECT COUNT(*) … WHERE status = 'OPEN'`, if it fits 32 bits. -/
def openPositionsCount (db : Database) : Option Nat :=
  let count := db.paperPositions.rows.countP fun record => record.status = "OPEN"
  if count < 2 ^ 32 then some count else none

/-- The absolute sum of the negative `pnl` values written since `start`. -/
def realizedLossSince (journal : List PaperTradeJournalEntry) (start : DateTime) : Decimal :=
  |((journal.filter fun entry => entry.pnl.any (· < 0) && start ≤ entry.createdAt).filterMap
    (·.pnl)).sum|

def dailyRealizedLoss (db : Database) (now : DateTime) : Decimal :=
  realizedLossSince db.paperTradeJournal (dateTruncDay now)

def weeklyRealizedLoss (db : Database) (now : DateTime) : Decimal :=
  realizedLossSince db.paperTradeJournal (dateTruncWeek now)

/-- `ORDER BY created_at DESC`. -/
def newestEntryFirst (first second : PaperTradeJournalEntry) : Prop :=
  second.createdAt ≤ first.createdAt

instance : DecidableRel newestEntryFirst :=
  fun first second => inferInstanceAs (Decidable (second.createdAt ≤ first.createdAt))

instance : Std.Total newestEntryFirst :=
  ⟨fun first second => le_total second.createdAt first.createdAt⟩

instance : IsTrans PaperTradeJournalEntry newestEntryFirst :=
  ⟨fun _ _ _ hFirst hSecond => le_trans hSecond hFirst⟩

/-- The latest twenty `pnl` values that are not null. -/
def recentPnls (order : RowOrder newestEntryFirst) (db : Database) : List Decimal :=
  ((order.arrange (db.paperTradeJournal.filter (·.pnl.isSome))).take 20).filterMap (·.pnl)

def consecutiveLosses (order : RowOrder newestEntryFirst) (db : Database) : Nat :=
  ((recentPnls order db).takeWhile (· < 0)).length

def lastTradeAt (db : Database) : Option DateTime :=
  ((db.orders.rows.filter fun order =>
    order.executionState ∈ ["PAPER_CREATED", "PAPER_FILLED"]).map fun order =>
      (order.filledAt.or order.submittedAt).getD order.createdAt).max?

def lossPct (loss : Decimal) (currentEquity : Option Decimal) : Option Decimal :=
  match currentEquity with
  | some equity => if equity > 0 then some (loss / equity * 100) else none
  | none => none

def loadRiskStateSnapshot (order : RowOrder newestEntryFirst) (db : Database) (now : DateTime) :
    RiskStateSnapshot where
  killSwitchEnabled := db.systemState.killSwitchEnabled
  killSwitchReason := db.systemState.killSwitchReason
  openPositionsCount := openPositionsCount db
  dailyLossPct := lossPct (dailyRealizedLoss db now) (db.paperAccount.map (·.currentEquity))
  weeklyLossPct := lossPct (weeklyRealizedLoss db now) (db.paperAccount.map (·.currentEquity))
  consecutiveLosses := some (consecutiveLosses order db)
  latestMarketDataAt := (db.marketFeeds.filterMap (·.lastEventAt)).max?
  lastTradeAt := lastTradeAt db

end AegisQuant.Risk
