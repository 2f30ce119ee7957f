import AegisQuant.Library.Run
import AegisQuant.Paper.RoundTrip

/-! The record of one position over any mixture of averaging buys and partial
or full closes. Quantity, status and closing time agree in every state such a
run reaches. The notional is recomputed by a buy only: a close leaves the one
of the quantity held before it. -/
namespace AegisQuant.Paper

open Transition Fallible Option

inductive PositionStep where
  | buy (freshId : Uuid) (fill : PaperFill)
  | close (exitPrice quantity : Decimal) (closedAt : DateTime) (feesAndSlippage : Decimal)

/-- The account and its one position, with the quantities bought and closed
so far. -/
structure PositionBooks where
  account : PaperAccount
  position : Option PaperPosition
  bought : Decimal
  closed : Decimal

def PositionBooks.start (account : PaperAccount) : PositionBooks where
  account := account
  position := none
  bought := 0
  closed := 0

/-- Without a position there is nothing to close. -/
def positionStep (books : PositionBooks) : PositionStep → Except Fault PositionBooks
  | .buy freshId fill => do
      let application ← openPositionFromBuy freshId books.account books.position fill
      return {
        account := application.account
        position := some application.position
        bought := books.bought + fill.quantity
        closed := books.closed }
  | .close exitPrice quantity closedAt feesAndSlippage => do
      let position ← ofOption books.position (.message "paper position not found")
      let (account, updated, _) ←
        closePosition books.account position exitPrice quantity closedAt feesAndSlippage
      return {
        account := account
        position := some updated
        bought := books.bought
        closed := books.closed + quantity }

def afterStep (books : PositionBooks) (step : PositionStep) : PositionBooks :=
  (positionStep books step).toOption.getD books

def Accepted (books : PositionBooks) (step : PositionStep) : Prop :=
  ∃ next, positionStep books step = .ok next

/-- Quantity, status and closing time tell the same story. -/
structure LifecycleAgrees (books : PositionBooks) (position : PaperPosition) : Prop where
  status : 0 < position.quantity ↔ position.status = .open
  closedAt : position.status = .open ↔ position.closedAt = none
  quantity : position.quantity = books.bought - books.closed
  nonneg : 0 ≤ position.quantity

def LifecycleInvariant (books : PositionBooks) : Prop :=
  (books.position = none → books.bought = 0 ∧ books.closed = 0) ∧
    ∀ position, books.position = some position → LifecycleAgrees books position

def NotionalAgrees (books : PositionBooks) : Prop :=
  ∀ position, books.position = some position →
    position.notional = position.entryPrice * position.quantity

def PositionInvariant (books : PositionBooks) : Prop :=
  LifecycleInvariant books ∧ NotionalAgrees books

/-- The step does not close a position that has an entry price. -/
def KeepsNotional (books : PositionBooks) : PositionStep → Prop
  | .buy _ _ => True
  | .close _ _ _ _ => ∀ position, books.position = some position → position.entryPrice = 0

/-- The position a close of `quantity` leaves. -/
def reducedPosition (position : PaperPosition) (exitPrice quantity : Decimal)
    (closedAt : DateTime) (feesAndSlippage : Decimal) : PaperPosition :=
  let remainingQuantity := position.quantity - quantity
  { position with
    quantity := remainingQuantity
    markPrice := some exitPrice
    priceStatus := .live
    realizedPnl := position.realizedPnl + computeRealizedPnl position.side position.entryPrice
      exitPrice quantity feesAndSlippage
    unrealizedPnl := if remainingQuantity = 0 then 0 else
      computeUnrealizedPnl position.side position.entryPrice (some exitPrice) remainingQuantity
    status := if remainingQuantity = 0 then .closed else .open
    closedAt := if remainingQuantity = 0 then some closedAt else none
    updatedAt := closedAt }

def reducedSummary (account : PaperAccount) (position : PaperPosition)
    (exitPrice quantity : Decimal) (closedAt : DateTime) (feesAndSlippage : Decimal) :
    PaperPnlSummary :=
  rebuildAccountSummary account.initialEquity
    (account.realizedPnl + computeRealizedPnl position.side position.entryPrice exitPrice quantity
      feesAndSlippage)
    (reducedPosition position exitPrice quantity closedAt feesAndSlippage).unrealizedPnl

section Steps
variable {account : PaperAccount} {position : PaperPosition} {exitPrice quantity : Decimal}
  {closedAt : DateTime} {feesAndSlippage : Decimal}
variable {step : PositionStep}

theorem closePosition_eq_ok {result : PaperAccount × PaperPosition × PaperPnlSummary} :
    closePosition account position exitPrice quantity closedAt feesAndSlippage = .ok result ↔
      0 < quantity ∧ quantity ≤ position.quantity ∧
      result = (account.withSummary
          (reducedSummary account position exitPrice quantity closedAt feesAndSlippage) closedAt,
        reducedPosition position exitPrice quantity closedAt feesAndSlippage,
        reducedSummary account position exitPrice quantity closedAt feesAndSlippage) := by
  unfold closePosition
  rw [error_else_eq_ok, not_or, not_le, not_lt, and_assoc, Except.ok.injEq, eq_comm (b := result)]
  exact Iff.rfl

variable {books next : PositionBooks}

theorem positionStep_cases (hStep : positionStep books step = .ok next) :
    (∃ freshId fill, step = .buy freshId fill ∧ 0 < fill.quantity ∧
      (∀ current, books.position = some current → 0 < current.quantity + fill.quantity) ∧
      next.position = some (boughtPosition freshId books.account books.position fill) ∧
      next.bought = books.bought + fill.quantity ∧ next.closed = books.closed) ∨
    (∃ exitPrice quantity closedAt feesAndSlippage position,
      step = .close exitPrice quantity closedAt feesAndSlippage ∧ books.position = some position ∧
      0 < quantity ∧ quantity ≤ position.quantity ∧
      next.position = some (reducedPosition position exitPrice quantity closedAt feesAndSlippage) ∧
      next.bought = books.bought ∧ next.closed = books.closed + quantity) := by
  cases step with
  | buy freshId fill =>
    rw [positionStep, bind_eq_ok] at hStep
    obtain ⟨application, hBuy, hNext⟩ := hStep
    obtain ⟨hQuantity, hTotal, rfl⟩ := openPositionFromBuy_eq_ok.mp hBuy
    rw [pure_eq_ok] at hNext
    subst hNext
    exact .inl ⟨freshId, fill, rfl, hQuantity, hTotal, rfl, rfl, rfl⟩
  | close exitPrice quantity closedAt feesAndSlippage =>
    rw [positionStep, bind_eq_ok] at hStep
    obtain ⟨position, hPosition, hClose⟩ := hStep
    rw [bind_eq_ok] at hClose
    obtain ⟨result, hClose, hNext⟩ := hClose
    obtain ⟨hPositive, hHeld, rfl⟩ := closePosition_eq_ok.mp hClose
    rw [pure_eq_ok] at hNext
    subst hNext
    exact .inr ⟨exitPrice, quantity, closedAt, feesAndSlippage, position, rfl,
      ofOption_eq_ok.mp hPosition, hPositive, hHeld, rfl, rfl, rfl⟩

theorem afterStep_of_ok (hStep : positionStep books step = .ok next) :
    afterStep books step = next := by
  rw [afterStep, hStep]
  rfl

theorem accepted_of_isOk (hOk : (positionStep books step).isOk) : Accepted books step := by
  cases hStep : positionStep books step with
  | error fault =>
    rw [hStep] at hOk
    cases hOk
  | ok next => exact ⟨next, hStep⟩

theorem lifecycleInvariant_start (account : PaperAccount) :
    LifecycleInvariant (PositionBooks.start account) :=
  ⟨fun _ => ⟨rfl, rfl⟩, fun position hPosition => by cases hPosition⟩

theorem lifecycleAgrees_bought {freshId : Uuid} {fill : PaperFill}
    (hBooks : LifecycleInvariant books) (hQuantity : 0 < fill.quantity)
    (hBought : next.bought = books.bought + fill.quantity) (hClosed : next.closed = books.closed) :
    LifecycleAgrees next (boughtPosition freshId books.account books.position fill) := by
  cases hPosition : books.position with
  | none =>
    obtain ⟨hNone, hZero⟩ := hBooks.1 hPosition
    exact {
      status := iff_of_true hQuantity rfl
      closedAt := iff_of_true rfl rfl
      quantity := by rw [hBought, hClosed, hNone, hZero, zero_add, sub_zero]; rfl
      nonneg := hQuantity.le }
  | some current =>
    have hCurrent := hBooks.2 current hPosition
    have hTotal : 0 < current.quantity + fill.quantity :=
      add_pos_of_nonneg_of_pos hCurrent.nonneg hQuantity
    exact {
      status := iff_of_true hTotal rfl
      closedAt := iff_of_true rfl rfl
      quantity := by
        show current.quantity + fill.quantity = _
        rw [hBought, hClosed, hCurrent.quantity]
        ring
      nonneg := hTotal.le }

theorem lifecycleAgrees_reduced (hCurrent : LifecycleAgrees books position)
    (hHeld : quantity ≤ position.quantity) (hBought : next.bought = books.bought)
    (hClosed : next.closed = books.closed + quantity) :
    LifecycleAgrees next
      (reducedPosition position exitPrice quantity closedAt feesAndSlippage) := by
  have hNonneg : 0 ≤ position.quantity - quantity := sub_nonneg.mpr hHeld
  have hQuantity : position.quantity - quantity = next.bought - next.closed := by
    rw [hBought, hClosed, hCurrent.quantity]
    ring
  by_cases hRest : position.quantity - quantity = 0
  · exact {
      status := by simp [reducedPosition, hRest]
      closedAt := by simp [reducedPosition, hRest]
      quantity := hQuantity
      nonneg := hNonneg }
  · have hPositive : 0 < position.quantity - quantity := lt_of_le_of_ne hNonneg (Ne.symm hRest)
    exact {
      status := by simp [reducedPosition, hRest, hPositive]
      closedAt := by simp [reducedPosition, hRest]
      quantity := hQuantity
      nonneg := hNonneg }

theorem lifecycleInvariant_afterStep (step : PositionStep) (hBooks : LifecycleInvariant books) :
    LifecycleInvariant (afterStep books step) := by
  cases hStep : positionStep books step with
  | error fault =>
    rw [afterStep, hStep]
    exact hBooks
  | ok next =>
    rw [afterStep_of_ok hStep]
    obtain ⟨freshId, fill, -, hQuantity, -, hPosition, hBought, hClosed⟩ |
      ⟨exitPrice, quantity, closedAt, costs, position, -, hCurrent, -, hHeld, hPosition, hBought,
        hClosed⟩ := positionStep_cases hStep
    · refine ⟨fun hNone => by simp [hPosition] at hNone, fun position hSome => ?_⟩
      obtain rfl := some.inj (hPosition.symm.trans hSome)
      exact lifecycleAgrees_bought hBooks hQuantity hBought hClosed
    · refine ⟨fun hNone => by simp [hPosition] at hNone, fun updated hSome => ?_⟩
      obtain rfl := some.inj (hPosition.symm.trans hSome)
      exact lifecycleAgrees_reduced (hBooks.2 position hCurrent) hHeld hBought hClosed

theorem boughtPosition_notional (freshId : Uuid) (account : PaperAccount)
    {existing : Option PaperPosition} {fill : PaperFill} (hQuantity : 0 < fill.quantity) :
    (boughtPosition freshId account existing fill).notional =
      (boughtPosition freshId account existing fill).entryPrice *
        (boughtPosition freshId account existing fill).quantity := by
  cases existing with
  | none => exact (div_mul_cancel₀ _ hQuantity.ne').symm
  | some current => rfl

/-- A close keeps notional and entry price, so that the notional agrees with
the smaller quantity at an entry price of zero only. -/
theorem reducedPosition_notional (hAgrees : position.notional =
    position.entryPrice * position.quantity) (hPositive : 0 < quantity) :
    (reducedPosition position exitPrice quantity closedAt feesAndSlippage).notional =
      (reducedPosition position exitPrice quantity closedAt feesAndSlippage).entryPrice *
        (reducedPosition position exitPrice quantity closedAt feesAndSlippage).quantity ↔
      position.entryPrice = 0 := by
  show position.notional = position.entryPrice * (position.quantity - quantity) ↔ _
  rw [hAgrees, mul_sub, eq_comm, sub_eq_self, mul_eq_zero, or_iff_left hPositive.ne']

theorem positionInvariant_afterStep_iff (hBooks : PositionInvariant books)
    (hAccepted : Accepted books step) :
    PositionInvariant (afterStep books step) ↔ KeepsNotional books step := by
  have hLifecycle := lifecycleInvariant_afterStep step hBooks.1
  rw [PositionInvariant, and_iff_right hLifecycle]
  obtain ⟨next, hStep⟩ := hAccepted
  rw [afterStep_of_ok hStep]
  obtain ⟨freshId, fill, rfl, hQuantity, -, hPosition, -, -⟩ |
    ⟨exitPrice, quantity, closedAt, costs, position, rfl, hCurrent, hPositive, -, hPosition, -,
      -⟩ := positionStep_cases hStep
  · apply iff_of_true _ trivial
    intro position hSome
    obtain rfl := some.inj (hPosition.symm.trans hSome)
    exact boughtPosition_notional freshId books.account hQuantity
  · simp only [NotionalAgrees, KeepsNotional, hPosition, hCurrent, some.injEq, forall_eq']
    exact reducedPosition_notional (hBooks.2 position hCurrent) hPositive

end Steps

/-- A purchase of one unit and the close of `quantity` of it. -/
def sampleSteps (quantity : Decimal) : List PositionStep :=
  [.buy ⟨6⟩ (sampleFill 0), .close 101000 quantity 1 0]

theorem sampleSteps_accepted :
    Along afterStep Accepted (PositionBooks.start sampleAccount) (sampleSteps (1 / 2)) := by
  have hBuy : (positionStep (PositionBooks.start sampleAccount) (.buy ⟨6⟩ (sampleFill 0))).isOk := by
    decide +kernel
  have hClose : (positionStep
      (afterStep (PositionBooks.start sampleAccount) (.buy ⟨6⟩ (sampleFill 0)))
      (.close 101000 (1 / 2) 1 0)).isOk := by
    decide +kernel
  exact ⟨accepted_of_isOk hBuy, accepted_of_isOk hClose, trivial⟩

theorem sampleSteps_notional :
    (run afterStep (PositionBooks.start sampleAccount) (sampleSteps (1 / 2))).position.map
      (fun position => (position.notional, position.entryPrice * position.quantity)) =
        some (100000, 50000) := by
  decide +kernel

theorem sampleSteps_close_at_entry_price :
    ¬ Along afterStep KeepsNotional (PositionBooks.start sampleAccount) (sampleSteps (1 / 2)) := by
  have hEntry : (afterStep (PositionBooks.start sampleAccount)
      (.buy ⟨6⟩ (sampleFill 0))).position.map (·.entryPrice) = some 100000 := by
    decide +kernel
  obtain ⟨position, hPosition, hPrice⟩ := map_eq_some_iff.mp hEntry
  rintro ⟨-, hKeeps, -⟩
  exact absurd ((hKeeps position hPosition).symm.trans hPrice) (by decide)

end AegisQuant.Paper
