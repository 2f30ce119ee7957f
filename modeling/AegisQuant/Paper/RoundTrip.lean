import AegisQuant.Paper.Accounting
import Mathlib.Algebra.Order.BigOperators.Group.List
import Mathlib.Tactic.LinearCombination
import Mathlib.Tactic.Linarith
import Mathlib.Tactic.Ring

/-! A round trip through the paper books: a sequence of buy fills averaged
into one position, then a full close. Entry costs enter the average entry
price and are also charged to the account at the fill, so the trip reports
them twice; it conserves money precisely when there are none. -/
namespace AegisQuant.Paper
open List

def totalQuantity (fills : List PaperFill) : Decimal := (fills.map (·.quantity)).sum

def totalNotional (fills : List PaperFill) : Decimal := (fills.map (·.notional)).sum

def totalCost (fills : List PaperFill) : Decimal := (fills.map (·.tradeCost)).sum

/-- The fills applied one after the other, each to the books the previous one
left. -/
def applyBuys (freshId : Uuid) (books : PaperAccount × Option PaperPosition)
    (fills : List PaperFill) : Except Fault (PaperAccount × Option PaperPosition) :=
  fills.foldlM (fun current fill => do
    let application ← openPositionFromBuy freshId current.1 current.2 fill
    return (application.account, some application.position)) books

/-- Fills an averaging sequence can consist of. -/
def AdmissibleFill (fill : PaperFill) : Prop :=
  0 < fill.quantity ∧ 0 ≤ fill.fee ∧ 0 ≤ fill.slippageCost

/-- The trip succeeds, changes the realized profit by the proceeds less the
notionals, the entry costs and the exit costs, each taken once, and leaves a
position without open profit and an equity without it. -/
def ConservesMoney (freshId : Uuid) (account : PaperAccount) (fills : List PaperFill)
    (close : MarketClose) : Prop :=
  ∃ bought position application,
    applyBuys freshId (account, none) fills = .ok (bought, some position) ∧
    closePositionMarketSimulated bought position close = .ok application ∧
    application.account.realizedPnl - account.realizedPnl =
      close.exitPrice * totalQuantity fills - totalNotional fills - totalCost fills -
        (close.fee + close.slippageCost) ∧
    application.position.unrealizedPnl = 0 ∧
    application.account.currentEquity =
      application.account.initialEquity + application.account.realizedPnl

section Averaging
variable {freshId : Uuid} {account : PaperAccount} {fills : List PaperFill}

/-- What the books hold after some fills, measured from `account`. -/
structure Averaged (account : PaperAccount) (fills : List PaperFill) (bought : PaperAccount)
    (position : PaperPosition) : Prop where
  quantity : position.quantity = totalQuantity fills
  gross : position.entryPrice * position.quantity = totalNotional fills + totalCost fills
  realized : bought.realizedPnl = account.realizedPnl - totalCost fills
  initial : bought.initialEquity = account.initialEquity
  status : position.status = .open

theorem averaged_opened (freshId : Uuid) (account : PaperAccount) {fill : PaperFill}
    (hQuantity : 0 < fill.quantity) :
    Averaged account [fill] (buyApplication freshId account none fill).account
      (openedPosition freshId account fill) where
  quantity := by simp [openedPosition, totalQuantity]
  gross := by
    simp [openedPosition, totalNotional, totalCost, div_mul_cancel₀ _ hQuantity.ne']
  realized := by
    simp [buyApplication, buySummary, PaperAccount.withSummary, rebuildAccountSummary, totalCost]
  initial := rfl
  status := rfl

/-- One more fill moves quantity, gross cost and realized profit by its own
quantity, gross cost and costs. -/
theorem Averaged.buy {done : List PaperFill} {bought : PaperAccount} {position : PaperPosition}
    (averaged : Averaged account done bought position) (freshId : Uuid) {fill : PaperFill}
    (hTotal : 0 < position.quantity + fill.quantity) :
    Averaged account (done ++ [fill]) (buyApplication freshId bought (some position) fill).account
      (averagedPosition position fill) where
  quantity := by simp [averagedPosition, averaged.quantity, totalQuantity]
  gross := by
    simp only [averagedPosition, div_mul_cancel₀ _ hTotal.ne', averaged.gross]
    simp only [totalNotional, totalCost, map_append, map_cons, map_nil,
      sum_append, sum_cons, sum_nil]
    ring
  realized := by
    simp only [buyApplication, buySummary, PaperAccount.withSummary, rebuildAccountSummary,
      averaged.realized, totalCost, map_append, map_cons, map_nil,
      sum_append, sum_cons, sum_nil]
    ring
  initial := averaged.initial
  status := rfl

theorem totalQuantity_pos (hFills : ∀ fill ∈ fills, 0 < fill.quantity) (hNonempty : fills ≠ []) :
    0 < totalQuantity fills := by
  apply sum_pos
  · simpa using hFills
  · simpa using hNonempty

theorem applyBuys_cons (books : PaperAccount × Option PaperPosition) (fill : PaperFill)
    (rest : List PaperFill)
    (hQuantity : 0 < fill.quantity)
    (hTotal : ∀ current, books.2 = some current → 0 < current.quantity + fill.quantity) :
    applyBuys freshId books (fill :: rest) =
      applyBuys freshId ((buyApplication freshId books.1 books.2 fill).account,
        some (boughtPosition freshId books.1 books.2 fill)) rest := by
  have hBuy : openPositionFromBuy freshId books.1 books.2 fill =
      .ok (buyApplication freshId books.1 books.2 fill) :=
    openPositionFromBuy_eq_ok.mpr ⟨hQuantity, hTotal, rfl⟩
  simp only [applyBuys, foldlM_cons, hBuy]
  rfl

/-- Fills after the first: the averaging invariant is carried to the end, and
no fill is refused. -/
theorem Averaged.applyBuys {done : List PaperFill} {bought : PaperAccount}
    {position : PaperPosition} (averaged : Averaged account done bought position) (freshId : Uuid)
    (hDone : ∀ fill ∈ done, 0 < fill.quantity) (hNonempty : done ≠ [])
    (hFills : ∀ fill ∈ fills, 0 < fill.quantity) :
    ∃ finalAccount finalPosition,
      applyBuys freshId (bought, some position) fills = .ok (finalAccount, some finalPosition) ∧
      Averaged account (done ++ fills) finalAccount finalPosition := by
  induction fills generalizing done bought position with
  | nil => exact ⟨bought, position, rfl, by simpa using averaged⟩
  | cons fill rest ih =>
    have hFill := hFills fill (mem_cons_self ..)
    have hTotal : 0 < position.quantity + fill.quantity := by
      rw [averaged.quantity]
      exact add_pos (totalQuantity_pos hDone hNonempty) hFill
    have hNext := averaged.buy freshId hTotal
    obtain ⟨finalAccount, finalPosition, hApply, hFinal⟩ := ih hNext
      (by
        intro other hOther
        rcases mem_append.mp hOther with hOld | hNew
        · exact hDone other hOld
        · exact mem_singleton.mp hNew ▸ hFill)
      (by simp) (fun other hOther => hFills other (mem_cons_of_mem _ hOther))
    refine ⟨finalAccount, finalPosition, ?_, by simpa using hFinal⟩
    rw [applyBuys_cons _ _ _ hFill (by rintro _ ⟨⟩; exact hTotal)]
    exact hApply

theorem applyBuys_averaged (freshId : Uuid) (account : PaperAccount)
    (hFills : ∀ fill ∈ fills, 0 < fill.quantity)
    (hNonempty : fills ≠ []) :
    ∃ bought position, applyBuys freshId (account, none) fills = .ok (bought, some position) ∧
      Averaged account fills bought position := by
  cases fills with
  | nil => exact absurd rfl hNonempty
  | cons fill rest =>
    have hFill := hFills fill (mem_cons_self ..)
    obtain ⟨bought, position, hApply, averaged⟩ :=
      (averaged_opened freshId account hFill).applyBuys freshId (by simpa using hFill) (by simp)
        (fun other hOther => hFills other (mem_cons_of_mem _ hOther))
    refine ⟨bought, position, ?_, by simpa using averaged⟩
    rw [applyBuys_cons _ _ _ hFill (by simp)]
    exact hApply

end Averaging

variable {freshId : Uuid} {account : PaperAccount} {fills : List PaperFill} {close : MarketClose}

theorem realized_after_close {bought : PaperAccount} {position : PaperPosition}
    (averaged : Averaged account fills bought position) {application : ClosePositionApplication}
    (hClose : closePositionMarketSimulated bought position close = .ok application) :
    application.account.realizedPnl - account.realizedPnl =
      close.exitPrice * totalQuantity fills - totalNotional fills - 2 * totalCost fills -
        (close.fee + close.slippageCost) := by
  obtain ⟨_, _, hAccount, _, _⟩ := closePositionMarketSimulated_ok hClose
  have hGross := averaged.gross
  rw [averaged.quantity] at hGross
  simp only [hAccount, PaperAccount.withSummary, closeSummary, rebuildAccountSummary,
    realizedOnClose, averaged.realized, averaged.quantity]
  linear_combination -hGross

theorem conservesMoney_iff_totalCost (hNonempty : fills ≠ [])
    (hFills : ∀ fill ∈ fills, AdmissibleFill fill) (hExit : 0 < close.exitPrice)
    (hFee : 0 ≤ close.fee) (hSlippage : 0 ≤ close.slippageCost) :
    ConservesMoney freshId account fills close ↔ totalCost fills = 0 := by
  have hPositive : ∀ fill ∈ fills, 0 < fill.quantity := fun fill hFill => (hFills fill hFill).1
  obtain ⟨bought, position, hApply, averaged⟩ :=
    applyBuys_averaged freshId account hPositive hNonempty
  have hQuantity : 0 < position.quantity :=
    averaged.quantity ▸ totalQuantity_pos hPositive hNonempty
  obtain ⟨application, hClose⟩ := closePositionMarketSimulated_succeeds bought
    averaged.status hQuantity hExit hFee hSlippage
  have hRealized := realized_after_close averaged hClose
  constructor
  · rintro ⟨bought', position', application', hApply', hClose', hConserved, _⟩
    rw [hApply, Except.ok.injEq, Prod.mk.injEq, Option.some.injEq] at hApply'
    obtain ⟨rfl, rfl⟩ := hApply'
    rw [hClose, Except.ok.injEq] at hClose'
    subst hClose'
    linarith
  · intro hCost
    obtain ⟨_, _, hAccount, hPosition, _⟩ := closePositionMarketSimulated_ok hClose
    refine ⟨bought, position, application, hApply, hClose, ?_, ?_, ?_⟩
    · linarith
    · rw [hPosition]
      rfl
    · simp [hAccount, PaperAccount.withSummary, closeSummary, rebuildAccountSummary]

theorem totalCost_eq_zero_iff (hFills : ∀ fill ∈ fills, AdmissibleFill fill) :
    totalCost fills = 0 ↔ ∀ fill ∈ fills, fill.fee = 0 ∧ fill.slippageCost = 0 := by
  have hCost (fill : PaperFill) (hFill : AdmissibleFill fill) : 0 ≤ fill.tradeCost :=
    add_nonneg hFill.2.1 hFill.2.2
  induction fills with
  | nil => simp [totalCost]
  | cons fill rest ih =>
    obtain ⟨hFill, hRest⟩ := forall_mem_cons.mp hFills
    have hSum : 0 ≤ totalCost rest := sum_nonneg (by
      simpa using fun other hMember => hCost other (hRest other hMember))
    rw [totalCost, map_cons, sum_cons, ← totalCost,
      add_eq_zero_iff_of_nonneg (hCost fill hFill) hSum, forall_mem_cons]
    exact and_congr (add_eq_zero_iff_of_nonneg hFill.2.1 hFill.2.2) (ih hRest)

def sampleAccount : PaperAccount where
  id := ⟨1⟩
  initialEquity := 1000000
  currentEquity := 1000000
  realizedPnl := 0
  unrealizedPnl := 0
  status := .active
  createdAt := 0
  updatedAt := 0

def sampleFill (fee : Decimal) : PaperFill where
  id := ⟨2⟩
  accountId := ⟨1⟩
  orderId := ⟨3⟩
  positionId := none
  symbol := "BTCUSDT"
  side := .long
  price := 100000
  quantity := 1
  notional := 100000
  fee := fee
  slippageCost := 0
  filledAt := 0
  strategyId := none
  signalId := none
  riskDecisionId := none

def sampleClose : MarketClose where
  orderId := ⟨4⟩
  closeFillId := ⟨5⟩
  exitPrice := 101000
  fee := 0
  slippageCost := 0
  closedAt := 0

theorem sampleFill_admissible {fee : Decimal} (hFee : 0 ≤ fee) :
    ∀ fill ∈ [sampleFill fee], AdmissibleFill fill := by
  simp [AdmissibleFill, sampleFill, hFee]

end AegisQuant.Paper
