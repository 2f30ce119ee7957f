import AegisQuant.Library.Run
import AegisQuant.Library.Table
import AegisQuant.Paper.RoundTrip

/-! One account with open positions in several symbols, under fills, closes
and marks. A mark sums over all open positions; a fill or a close rebuilds the
account from the one position it touches and leaves the others out. -/
namespace AegisQuant.Paper
open Transition PaperPosition

/-- An account and its open positions, one per symbol. -/
structure PaperLedger where
  account : PaperAccount
  positions : Table symbol

inductive LedgerOperation where
  | fill (freshId : Uuid) (fill : PaperFill)
  | close (symbol : String) (exitPrice quantity : Decimal) (closedAt : DateTime)
      (feesAndSlippage : Decimal)
  | mark (prices : List PaperMarkPriceInput) (snapshotAt : DateTime)

def PaperLedger.put (positions : Table symbol) (position : PaperPosition) : Table symbol :=
  positions.upsert position (fun current => { position with symbol := current.symbol }) fun _ => rfl

/-- The positions after a close; one that is closed leaves the ledger. -/
def PaperLedger.settle (positions : Table symbol) (position : PaperPosition) : Table symbol :=
  match position.status with
  | .open => put positions position
  | .closed => positions.erase position.symbol

def PaperLedger.mark (ledger : PaperLedger) (prices : List PaperMarkPriceInput)
    (snapshotAt : DateTime) : PaperLedger :=
  let marked := markPositionsToMarket ledger.account ledger.positions.rows prices snapshotAt
  { account := ledger.account.withSummary marked.summary snapshotAt
    positions := {
      rows := marked.positions
      unique := by
        have hSymbols : marked.positions.map (·.symbol) = ledger.positions.rows.map (·.symbol) := by
          simp only [marked, markPositionsToMarket, List.map_map, Function.comp_def,
            markedPosition_symbol]
        rw [hSymbols]
        exact ledger.positions.unique } }

def handleLedgerOperation (ledger : PaperLedger) : LedgerOperation → PaperLedger
  | .fill freshId fill =>
    match applyPaperOrderFill freshId ledger.account (ledger.positions.find? fill.symbol) fill with
    | .ok application => ⟨application.account, PaperLedger.put ledger.positions application.position⟩
    | .error _ => ledger
  | .close symbol exitPrice quantity closedAt feesAndSlippage =>
    match ledger.positions.find? symbol with
    | none => ledger
    | some position =>
      match closePosition ledger.account position exitPrice quantity closedAt
          feesAndSlippage with
      | .ok (account, updated, _) => ⟨account, PaperLedger.settle ledger.positions updated⟩
      | .error _ => ledger
  | .mark prices snapshotAt => ledger.mark prices snapshotAt

/-- What the open positions are worth above their entry prices. -/
def PaperLedger.unrealized (ledger : PaperLedger) : Decimal :=
  (ledger.positions.rows.map (·.unrealizedPnl)).sum

/-- The same without the position in `symbol`. -/
def PaperLedger.unrealizedBesides (ledger : PaperLedger) (symbol : String) : Decimal :=
  ((ledger.positions.rest symbol).map (·.unrealizedPnl)).sum

structure EquityCovers (ledger : PaperLedger) : Prop where
  unrealized : ledger.account.unrealizedPnl = ledger.unrealized
  equity : ledger.account.currentEquity =
    ledger.account.initialEquity + ledger.account.realizedPnl + ledger.unrealized

/-- At an accepted fill or close the other open positions are worth what they
were bought for, taken together. -/
def OthersFlat (ledger : PaperLedger) : LedgerOperation → Prop
  | .fill _ fill =>
    0 < fill.quantity → (∀ current, ledger.positions.find? fill.symbol = some current →
        0 < current.quantity + fill.quantity) →
      ledger.unrealizedBesides fill.symbol = 0
  | .close symbol _ quantity _ _ =>
    ∀ position, ledger.positions.find? symbol = some position → 0 < quantity →
      quantity ≤ position.quantity → ledger.unrealizedBesides symbol = 0
  | .mark _ _ => True

section Steps
variable {ledger : PaperLedger}

theorem PaperLedger.unrealized_put (ledger : PaperLedger) (account : PaperAccount)
    (position : PaperPosition) :
    (PaperLedger.mk account (put ledger.positions position)).unrealized =
      ledger.unrealizedBesides position.symbol + position.unrealizedPnl :=
  Table.sum_upsert unrealizedPnl ledger.positions position fun _ _ => rfl

theorem equityCovers_rebuilt_iff {account : PaperAccount} {realizedPnl unrealizedPnl : Decimal}
    {at_ : DateTime} {positions : Table symbol} {others : Decimal}
    (hTotal : (PaperLedger.mk (account.withSummary (rebuildAccountSummary account.initialEquity
      realizedPnl unrealizedPnl) at_) positions).unrealized = others + unrealizedPnl) :
    EquityCovers ⟨account.withSummary (rebuildAccountSummary account.initialEquity realizedPnl
      unrealizedPnl) at_, positions⟩ ↔ others = 0 := by
  constructor
  · intro hCovers
    have hSame : unrealizedPnl = others + unrealizedPnl := hCovers.unrealized.trans hTotal
    linarith
  · rintro rfl
    rw [zero_add] at hTotal
    refine ⟨hTotal.symm, ?_⟩
    rw [hTotal]
    rfl

theorem equityCovers_fill_iff (covers : EquityCovers ledger) (freshId : Uuid) (fill : PaperFill) :
    EquityCovers (handleLedgerOperation ledger (.fill freshId fill)) ↔
      OthersFlat ledger (.fill freshId fill) := by
  simp only [handleLedgerOperation, OthersFlat, applyPaperOrderFill_eq]
  cases hFill : openPositionFromBuy freshId ledger.account (ledger.positions.find? fill.symbol)
      fill with
  | error fault =>
    refine iff_of_true covers fun hQuantity hTotal => ?_
    have hAccepted : openPositionFromBuy freshId ledger.account
        (ledger.positions.find? fill.symbol) fill = .ok _ :=
      openPositionFromBuy_eq_ok.mpr ⟨hQuantity, hTotal, rfl⟩
    rw [hFill] at hAccepted
    cases hAccepted
  | ok application =>
    obtain ⟨hQuantity, hTotal, rfl⟩ := openPositionFromBuy_eq_ok.mp hFill
    have hSymbol : (boughtPosition freshId ledger.account (ledger.positions.find? fill.symbol)
        fill).symbol = fill.symbol := by
      cases hFind : ledger.positions.find? fill.symbol with
      | none => rfl
      | some current =>
        have hKey : current.symbol = fill.symbol := Table.key_of_find? hFind
        exact hKey
    have hPut := ledger.unrealized_put (buyApplication freshId ledger.account
      (ledger.positions.find? fill.symbol) fill).account (boughtPosition freshId ledger.account
        (ledger.positions.find? fill.symbol) fill)
    rw [hSymbol] at hPut
    rw [forall_prop_of_true hQuantity, forall_prop_of_true hTotal]
    exact equityCovers_rebuilt_iff hPut

theorem equityCovers_close_iff (covers : EquityCovers ledger) (symbol : String)
    (exitPrice quantity : Decimal) (closedAt : DateTime) (feesAndSlippage : Decimal) :
    EquityCovers (handleLedgerOperation ledger
        (.close symbol exitPrice quantity closedAt feesAndSlippage)) ↔
      OthersFlat ledger (.close symbol exitPrice quantity closedAt feesAndSlippage) := by
  simp only [handleLedgerOperation, OthersFlat]
  cases hFind : ledger.positions.find? symbol with
  | none => exact iff_of_true covers (by simp)
  | some position =>
    simp only [closePosition, Option.some.injEq, forall_eq']
    by_cases hQuantity : quantity ≤ 0 ∨ quantity > position.quantity
    · rw [if_pos hQuantity]
      refine iff_of_true covers fun hPositive hWithin => ?_
      rcases hQuantity with hQuantity | hQuantity
      · exact absurd hPositive (not_lt.mpr hQuantity)
      · exact absurd hWithin (not_le.mpr hQuantity)
    rw [if_neg hQuantity]
    rw [not_or, not_le, not_lt] at hQuantity
    rw [forall_prop_of_true hQuantity.1, forall_prop_of_true hQuantity.2]
    apply equityCovers_rebuilt_iff
    obtain rfl : position.symbol = symbol := Table.key_of_find? hFind
    by_cases hRemaining : position.quantity - quantity = 0
    · simp only [hRemaining, if_true, PaperLedger.settle]
      exact (add_zero _).symm
    · simp only [hRemaining, if_false, PaperLedger.settle]
      exact ledger.unrealized_put _ _

theorem equityCovers_mark (prices : List PaperMarkPriceInput) (snapshotAt : DateTime) :
    EquityCovers (handleLedgerOperation ledger (.mark prices snapshotAt)) :=
  ⟨rfl, rfl⟩

theorem equityCovers_step_iff (covers : EquityCovers ledger) (operation : LedgerOperation) :
    EquityCovers (handleLedgerOperation ledger operation) ↔ OthersFlat ledger operation := by
  cases operation with
  | fill freshId fill => exact equityCovers_fill_iff covers freshId fill
  | close symbol exitPrice quantity closedAt feesAndSlippage =>
    exact equityCovers_close_iff covers symbol exitPrice quantity closedAt feesAndSlippage
  | mark prices snapshotAt => exact iff_of_true (equityCovers_mark prices snapshotAt) trivial

end Steps

/-- From an account that covers its positions, it covers them in every state
of a sequence of fills, closes and marks precisely if every accepted fill or
close meets other positions whose unrealized profits and losses cancel out. -/
theorem equity_covers_positions_iff (ledger : PaperLedger) (operations : List LedgerOperation)
    (hCovers : EquityCovers ledger) :
    Throughout handleLedgerOperation EquityCovers ledger operations ↔
      Along handleLedgerOperation OthersFlat ledger operations := by
  rw [throughout_iff_along, and_iff_right hCovers]
  exact along_iff_of_invariant (fun _ operation covers => equityCovers_step_iff covers operation)
    (fun _ operation covers hFlat => (equityCovers_step_iff covers operation).mpr hFlat)
    operations hCovers

def emptyLedger : PaperLedger := ⟨sampleAccount, .empty⟩

def buyOne (symbol : String) (fillId : Uuid) : LedgerOperation :=
  .fill fillId { sampleFill 0 with symbol := symbol }

def markBitcoin : LedgerOperation := .mark [⟨"BTCUSDT", some 110000, .live⟩] 0

/-- A purchase, a mark and a partial close in one symbol. -/
theorem equity_covers_positions_one_symbol :
    Throughout handleLedgerOperation EquityCovers emptyLedger
      [buyOne "BTCUSDT" ⟨6⟩, markBitcoin, .close "BTCUSDT" 120000 (1 / 2) 0 0] := by
  refine (equity_covers_positions_iff emptyLedger _ ⟨rfl, by decide +kernel⟩).mpr
    ⟨?_, trivial, ?_, trivial⟩
  · intro _ _
    decide +kernel
  · intro _ _ _ _
    decide +kernel

def twoSymbols : List LedgerOperation :=
  [buyOne "BTCUSDT" ⟨6⟩, markBitcoin, buyOne "ETHUSDT" ⟨7⟩]

/-- A purchase in a second symbol takes the 10000 that the first position has
gained out of the account. -/
theorem equity_drops_other_positions :
    (run handleLedgerOperation emptyLedger twoSymbols).account.currentEquity = 1000000 ∧
      (run handleLedgerOperation emptyLedger twoSymbols).unrealized = 10000 ∧
      ¬Throughout handleLedgerOperation EquityCovers emptyLedger twoSymbols := by
  have hUnrealized : (run handleLedgerOperation emptyLedger twoSymbols).unrealized = 10000 := by
    decide +kernel
  have hAccount : (run handleLedgerOperation emptyLedger twoSymbols).account.unrealizedPnl = 0 := by
    decide +kernel
  refine ⟨by decide +kernel, hUnrealized, ?_⟩
  rintro ⟨-, -, -, covers⟩
  have hSame : (run handleLedgerOperation emptyLedger twoSymbols).account.unrealizedPnl =
      (run handleLedgerOperation emptyLedger twoSymbols).unrealized := covers.unrealized
  rw [hAccount, hUnrealized] at hSame
  exact absurd hSame (by decide)

end AegisQuant.Paper
