import AegisQuant.Paper.PositionRecord

/-! How operations on one position compose. Buy fills average to the same
quantity and entry price in every order, since both have a closed form in the
totals of the fills. Closes at one price add up: any number of them leaves
what one close of their total quantity at their total cost does. -/
namespace AegisQuant.Paper
open List

/-- Quantity and entry price of the position held, if there is one. -/
def heldAverages (books : PaperAccount × Option PaperPosition) : Option (Decimal × Decimal) :=
  books.2.map fun position => (position.quantity, position.entryPrice)

/-- The quantity bought and what it cost on average, costs included. -/
def averagesOf (fills : List PaperFill) : Except Fault (Option (Decimal × Decimal)) :=
  if ∀ fill ∈ fills, 0 < fill.quantity then
    .ok (if fills = [] then none else
      some (totalQuantity fills, (totalNotional fills + totalCost fills) / totalQuantity fills))
  else .error (.message "paper fill quantity must be greater than zero")

/-- Two closes at one price, the second of what the first leaves. -/
def closeTwice (account : PaperAccount) (position : PaperPosition) (exitPrice : Decimal)
    (quantity : Decimal) (closedAt : DateTime) (feesAndSlippage : Decimal)
    (quantity' : Decimal) (closedAt' : DateTime) (feesAndSlippage' : Decimal) :
    Except Fault (PaperAccount × PaperPosition × PaperPnlSummary) := do
  let (account, position, _) ←
    closePosition account position exitPrice quantity closedAt feesAndSlippage
  closePosition account position exitPrice quantity' closedAt' feesAndSlippage'

section Buys
variable {freshId : Uuid} {account : PaperAccount} {fills other : List PaperFill}

theorem averagesOf_perm (hPerm : other.Perm fills) : averagesOf other = averagesOf fills := by
  have hAll : (∀ fill ∈ other, 0 < fill.quantity) ↔ ∀ fill ∈ fills, 0 < fill.quantity := by
    simp only [hPerm.mem_iff]
  have hEmpty : other = [] ↔ fills = [] := by
    rw [← length_eq_zero_iff, hPerm.length_eq, length_eq_zero_iff]
  simp only [averagesOf, hAll, hEmpty, totalQuantity, totalNotional, totalCost,
    (hPerm.map _).sum_eq]

/-- A fill without a quantity is refused wherever it comes, whatever was held
before it. -/
theorem applyBuys_refused {books : PaperAccount × Option PaperPosition}
    (hBooks : ∀ current, books.2 = some current → 0 < current.quantity)
    (hRefused : ¬ ∀ fill ∈ fills, 0 < fill.quantity) :
    applyBuys freshId books fills =
      .error (.message "paper fill quantity must be greater than zero") := by
  induction fills generalizing books with
  | nil => exact absurd (fun fill hFill => absurd hFill not_mem_nil) hRefused
  | cons fill rest ih =>
    by_cases hQuantity : 0 < fill.quantity
    · have hTotal (current : PaperPosition) (hHeld : books.2 = some current) :
          0 < current.quantity + fill.quantity :=
        add_pos (hBooks current hHeld) hQuantity
      rw [applyBuys_cons books fill rest hQuantity hTotal]
      apply ih
      · rintro _ ⟨⟩
        cases hHeld : books.2 with
        | none => exact hQuantity
        | some current => exact hTotal current hHeld
      · intro hRest
        exact hRefused (forall_mem_cons.mpr ⟨hQuantity, hRest⟩)
    · simp only [applyBuys, foldlM_cons, openPositionFromBuy, if_pos (not_lt.mp hQuantity)]
      rfl

theorem Averaged.entryPrice {bought : PaperAccount} {position : PaperPosition}
    (averaged : Averaged account fills bought position) (hQuantity : 0 < totalQuantity fills) :
    position.entryPrice = (totalNotional fills + totalCost fills) / totalQuantity fills := by
  rw [eq_div_iff hQuantity.ne', ← averaged.quantity, averaged.gross]

theorem applyBuys_averages (freshId : Uuid) (account : PaperAccount) (fills : List PaperFill) :
    (applyBuys freshId (account, none) fills).map heldAverages = averagesOf fills := by
  unfold averagesOf
  split_ifs with hPositive hEmpty
  · rw [hEmpty]
    rfl
  · obtain ⟨bought, position, hApply, averaged⟩ :=
      applyBuys_averaged freshId account hPositive hEmpty
    have hEntry := averaged.entryPrice (totalQuantity_pos hPositive hEmpty)
    rw [hApply, ← hEntry, ← averaged.quantity]
    rfl
  · rw [applyBuys_refused (by simp) hPositive]
    rfl

end Buys

section Closes
variable {account : PaperAccount} {position : PaperPosition} {exitPrice : Decimal}

theorem computeRealizedPnl_add (side : PositionSide)
    (entryPrice exitPrice quantity quantity' costs costs' : Decimal) :
    computeRealizedPnl side entryPrice exitPrice quantity costs +
        computeRealizedPnl side entryPrice exitPrice quantity' costs' =
      computeRealizedPnl side entryPrice exitPrice (quantity + quantity') (costs + costs') := by
  cases side
  simp only [computeRealizedPnl]
  ring

theorem reducedPosition_merge (position : PaperPosition) (exitPrice quantity : Decimal)
    (closedAt : DateTime) (costs quantity' : Decimal) (closedAt' : DateTime) (costs' : Decimal) :
    reducedPosition (reducedPosition position exitPrice quantity closedAt costs) exitPrice quantity'
        closedAt' costs' =
      reducedPosition position exitPrice (quantity + quantity') closedAt' (costs + costs') := by
  simp only [reducedPosition, sub_sub, add_assoc, computeRealizedPnl_add]

theorem reducedSummary_merge (account : PaperAccount) (position : PaperPosition)
    (exitPrice quantity : Decimal) (closedAt : DateTime) (costs quantity' : Decimal)
    (closedAt' : DateTime) (costs' : Decimal) :
    reducedSummary
        (account.withSummary (reducedSummary account position exitPrice quantity closedAt costs)
          closedAt)
        (reducedPosition position exitPrice quantity closedAt costs) exitPrice quantity' closedAt'
        costs' =
      reducedSummary account position exitPrice (quantity + quantity') closedAt'
        (costs + costs') := by
  rw [reducedSummary, reducedPosition_merge]
  show rebuildAccountSummary account.initialEquity
    (account.realizedPnl + computeRealizedPnl _ _ _ _ _ + computeRealizedPnl _ _ _ _ _) _ = _
  rw [add_assoc]
  show rebuildAccountSummary account.initialEquity (account.realizedPnl +
    (computeRealizedPnl position.side position.entryPrice exitPrice quantity costs +
      computeRealizedPnl position.side position.entryPrice exitPrice quantity' costs')) _ = _
  rw [computeRealizedPnl_add]
  rfl

/-- Two closes that together take no more than is held leave exactly what one
close of both quantities at both costs leaves. -/
theorem closeTwice_eq (account : PaperAccount) (exitPrice : Decimal) {quantity quantity' : Decimal}
    (hFirst : 0 < quantity) (hSecond : 0 < quantity')
    (hHeld : quantity + quantity' ≤ position.quantity) (closedAt closedAt' : DateTime)
    (costs costs' : Decimal) :
    ∃ result,
      closeTwice account position exitPrice quantity closedAt costs quantity' closedAt' costs' =
        .ok result ∧
      closePosition account position exitPrice (quantity + quantity') closedAt' (costs + costs') =
        .ok result := by
  have hBefore : quantity ≤ position.quantity := (le_add_of_nonneg_right hSecond.le).trans hHeld
  have hRest : quantity' ≤ position.quantity - quantity := le_sub_iff_add_le'.mpr hHeld
  refine ⟨_, ?_, closePosition_eq_ok.mpr ⟨add_pos hFirst hSecond, hHeld, rfl⟩⟩
  rw [closeTwice, closePosition_eq_ok.mpr ⟨hFirst, hBefore, rfl⟩, Fallible.ok_bind,
    closePosition_eq_ok]
  refine ⟨hSecond, hRest, ?_⟩
  rw [reducedSummary_merge, reducedPosition_merge]
  rfl

end Closes

/-- The fills matter as a multiset, and only their totals do; and a close may
be split in two at one price, with its costs, without a trace in the account,
the position or the summary. -/
theorem averages_and_closes_compose :
    (∀ (freshId : Uuid) (account : PaperAccount) (fills : List PaperFill),
      (applyBuys freshId (account, none) fills).map heldAverages = averagesOf fills) ∧
    (∀ fills other : List PaperFill, other.Perm fills → averagesOf other = averagesOf fills) ∧
    ∀ (account : PaperAccount) (position : PaperPosition)
      (exitPrice quantity quantity' costs costs' : Decimal) (closedAt closedAt' : DateTime),
      0 < quantity → 0 < quantity' → quantity + quantity' ≤ position.quantity →
      ∃ result,
        closeTwice account position exitPrice quantity closedAt costs quantity' closedAt' costs' =
          .ok result ∧
        closePosition account position exitPrice (quantity + quantity') closedAt'
          (costs + costs') = .ok result := by
  refine ⟨applyBuys_averages, fun fills other hPerm => averagesOf_perm hPerm, ?_⟩
  intro account position exitPrice quantity quantity' costs costs' closedAt closedAt' hFirst hSecond
    hHeld
  exact closeTwice_eq account exitPrice hFirst hSecond hHeld closedAt closedAt' costs costs'

/-- Half a unit closed in two parts. -/
theorem averages_and_closes_compose_sample :
    averagesOf [sampleFill 1, sampleFill 3] = averagesOf [sampleFill 3, sampleFill 1] ∧
    ∃ result,
      closeTwice sampleAccount (openedPosition ⟨6⟩ sampleAccount (sampleFill 1)) 101000 (1 / 4) 1 2
        (1 / 4) 5 3 = .ok result ∧
      closePosition sampleAccount (openedPosition ⟨6⟩ sampleAccount (sampleFill 1)) 101000
        (1 / 4 + 1 / 4) 5 (2 + 3) = .ok result := by
  have hHeld : (1 / 4 + 1 / 4 : Decimal) ≤
      (openedPosition ⟨6⟩ sampleAccount (sampleFill 1)).quantity := by
    norm_num [openedPosition, sampleFill]
  obtain ⟨-, hPerm, hSplit⟩ := averages_and_closes_compose
  exact ⟨hPerm _ _ (List.Perm.swap _ _ _),
    hSplit sampleAccount _ 101000 (1 / 4) (1 / 4) 2 3 1 5 (by norm_num) (by norm_num) hHeld⟩

end AegisQuant.Paper
