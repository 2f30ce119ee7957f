import AegisQuant.Risk.Limits
import AegisQuant.Risk.LossFigures

/-! Further losing closes against the two loss limits. The losses of the day
only grow and the equity they are divided by only shrinks, so a broken limit
stays broken until the equity is used up: from there on the percentages are
unknown, and an unknown percentage breaks no limit. -/
namespace AegisQuant.Risk
open Paper List Option

/-- A losing close of the day of `now`: the rows it writes to the journal and
the loss it takes from the equity. -/
structure LosingClose (now : DateTime) where
  entries : List PaperTradeJournalEntry
  loss : Decimal
  loss_pos : 0 < loss
  journalled : loss ≤ journalLoss entries
  sameDay : ∀ entry ∈ entries, dateTruncDay entry.createdAt = dateTruncDay now

def totalLost {now : DateTime} (closes : List (LosingClose now)) : Decimal :=
  (closes.map (·.loss)).sum

/-- `after` is `db` with the rows of the closes in its journal and their
losses taken from its equity. The other tables may differ. -/
structure AddsLosses {now : DateTime} (db : Database) (closes : List (LosingClose now))
    (after : Database) : Prop where
  journal : after.paperTradeJournal = db.paperTradeJournal ++ closes.flatMap (·.entries)
  equity : after.paperAccount.map (·.currentEquity) =
    db.paperAccount.map fun account => account.currentEquity - totalLost closes

section Figures
variable {journal rows : List PaperTradeJournalEntry} {start now : DateTime}

theorem realizedLossSince_eq_recent : realizedLossSince journal start =
    journalLoss (journal.filter fun entry => start ≤ entry.createdAt) := by
  have hRecent : ∀ entry ∈ journal.filter fun entry => start ≤ entry.createdAt,
      start ≤ entry.createdAt := by
    intro entry hEntry
    exact of_decide_eq_true (mem_filter.mp hEntry).2
  rw [← realizedLossSince_eq hRecent]
  simp only [realizedLossSince, List.filter_filter, Bool.and_assoc, Bool.and_self]

theorem journalLoss_nonneg (journal : List PaperTradeJournalEntry) : 0 ≤ journalLoss journal :=
  totalLoss_nonneg _

theorem realizedLossSince_nonneg : 0 ≤ realizedLossSince journal start := abs_nonneg _

theorem realizedLossSince_le_append :
    realizedLossSince journal start ≤ realizedLossSince (journal ++ rows) start := by
  rw [realizedLossSince_eq_recent, realizedLossSince_eq_recent, filter_append, journalLoss_append]
  exact le_add_of_nonneg_right (journalLoss_nonneg _)

theorem totalLost_nonneg (closes : List (LosingClose now)) : 0 ≤ totalLost closes := by
  apply sum_nonneg
  intro loss hLoss
  obtain ⟨close, _, rfl⟩ := mem_map.mp hLoss
  exact close.loss_pos.le

theorem lossPct_eq_some_iff {loss pct : Decimal} {currentEquity : Option Decimal} :
    lossPct loss currentEquity = some pct ↔
      ∃ equity, currentEquity = some equity ∧ 0 < equity ∧ loss / equity * 100 = pct := by
  cases currentEquity with
  | none => simp [lossPct]
  | some equity =>
    by_cases hPositive : 0 < equity
    · simp [lossPct, hPositive]
    · simp [lossPct, hPositive]

theorem lossPct_mono {loss loss' equity equity' : Decimal} (hLoss : 0 ≤ loss)
    (hMore : loss ≤ loss') (hLess : equity' ≤ equity) (hPositive : 0 < equity') :
    loss / equity * 100 ≤ loss' / equity' * 100 := by
  have hQuotient : loss / equity ≤ loss' / equity' :=
    div_le_div₀ (hLoss.trans hMore) hMore hPositive hLess
  exact mul_le_mul_of_nonneg_right hQuotient (by norm_num)

/-- A percentage at its limit stays there exactly while the equity, which only
shrinks, is positive. -/
theorem lossPct_beyond_iff {loss loss' equity equity' limit : Decimal} (hLoss : 0 ≤ loss)
    (hMore : loss ≤ loss') (hLess : equity' ≤ equity)
    (hBeyond : ∃ pct ∈ lossPct loss (some equity), limit ≤ pct) :
    (∃ pct ∈ lossPct loss' (some equity'), limit ≤ pct) ↔ 0 < equity' := by
  constructor
  · rintro ⟨pct, hPct, -⟩
    obtain ⟨_, hEquity, hPositive, -⟩ := lossPct_eq_some_iff.mp hPct
    cases hEquity
    exact hPositive
  · intro hPositive
    obtain ⟨pct, hPct, hLimit⟩ := hBeyond
    obtain ⟨_, hEquity, -, rfl⟩ := lossPct_eq_some_iff.mp hPct
    cases hEquity
    exact ⟨loss' / equity' * 100, lossPct_eq_some_iff.mpr ⟨equity', rfl, hPositive, rfl⟩,
      hLimit.trans (lossPct_mono hLoss hMore hLess hPositive)⟩

end Figures

section Closes
variable {config : RiskConfig} {context : RiskCheckContext} {now : DateTime}
  {db after : Database} {closes : List (LosingClose now)} {order order' : RowOrder newestEntryFirst}
variable {limit : RiskRejectionReason} {account : PaperAccount}

def IsLossLimit (limit : RiskRejectionReason) : Prop :=
  limit = .maxDailyLossExceeded ∨ limit = .maxWeeklyLossExceeded

theorem lossLimitBroken_iff (config : RiskConfig) (context : RiskCheckContext) (now : DateTime)
    (hLimit : IsLossLimit limit) :
    ∃ start maximum, ∀ (db : Database) (order : RowOrder newestEntryFirst),
      LimitBroken config context (loadRiskStateSnapshot order db now) limit ↔
        ∃ pct ∈ lossPct (realizedLossSince db.paperTradeJournal start)
          (db.paperAccount.map (·.currentEquity)), maximum ≤ pct := by
  rcases hLimit with rfl | rfl
  · exact ⟨_, config.maxDailyLossPct, fun _ _ => Iff.rfl⟩
  · exact ⟨_, config.maxWeeklyLossPct, fun _ _ => Iff.rfl⟩

theorem account_of_lossLimitBroken (hLimit : IsLossLimit limit)
    (hBroken : LimitBroken config context (loadRiskStateSnapshot order db now) limit) :
    ∃ account, db.paperAccount = some account := by
  obtain ⟨start, maximum, hIff⟩ := lossLimitBroken_iff config context now hLimit
  obtain ⟨pct, hPct, -⟩ := (hIff db order).mp hBroken
  obtain ⟨equity, hEquity, -⟩ := lossPct_eq_some_iff.mp hPct
  obtain ⟨account, hAccount, -⟩ := map_eq_some_iff.mp hEquity
  exact ⟨account, hAccount⟩

theorem AddsLosses.account_equity (adds : AddsLosses db closes after)
    (hAccount : db.paperAccount = some account) :
    after.paperAccount.map (·.currentEquity) = some (account.currentEquity - totalLost closes) := by
  rw [adds.equity, hAccount, map_some]

theorem AddsLosses.lossLimit_iff (adds : AddsLosses db closes after)
    (hAccount : db.paperAccount = some account) (hLimit : IsLossLimit limit)
    (hBroken : LimitBroken config context (loadRiskStateSnapshot order db now) limit) :
    LimitBroken config context (loadRiskStateSnapshot order' after now) limit ↔
      totalLost closes < account.currentEquity := by
  have hLess : account.currentEquity - totalLost closes ≤ account.currentEquity :=
    sub_le_self _ (totalLost_nonneg closes)
  have hMore (start : DateTime) : realizedLossSince db.paperTradeJournal start ≤
      realizedLossSince after.paperTradeJournal start := by
    rw [adds.journal]
    exact realizedLossSince_le_append
  obtain ⟨start, maximum, hIff⟩ := lossLimitBroken_iff config context now hLimit
  rw [hIff, hAccount] at hBroken
  rw [hIff, adds.account_equity hAccount, ← sub_pos]
  exact lossPct_beyond_iff realizedLossSince_nonneg (hMore start) hLess hBroken

theorem AddsLosses.lossLimits_unbroken (adds : AddsLosses db closes after)
    (hAccount : db.paperAccount = some account) (hNone : account.currentEquity ≤ totalLost closes)
    (hLimit : IsLossLimit limit) :
    ¬LimitBroken config context (loadRiskStateSnapshot order' after now) limit := by
  obtain ⟨start, maximum, hIff⟩ := lossLimitBroken_iff config context now hLimit
  rw [hIff, adds.account_equity hAccount]
  rintro ⟨pct, hPct, -⟩
  obtain ⟨equity, hEquity, hPositive, -⟩ := lossPct_eq_some_iff.mp hPct
  cases hEquity
  exact absurd (sub_pos.mp hPositive) (not_lt.mpr hNone)

theorem lossLimitBroken_of_reason {riskDecisionId : Uuid} {snapshot : RiskStateSnapshot}
    {reason : RiskRejectionReason} (hReason : IsLossLimit reason)
    (hGiven : reason ∈ (evaluate config riskDecisionId context snapshot).reasons) :
    ∃ limit, IsLossLimit limit ∧ LimitBroken config context snapshot limit := by
  rw [reasons_evaluate] at hGiven
  obtain ⟨limit, -, hNamed⟩ := mem_filterMap.mp hGiven
  obtain ⟨hBroken, hName⟩ := ite_none_right_eq_some.mp hNamed
  refine ⟨limit, ?_, hBroken⟩
  cases some.inj hName
  cases limit <;> simp_all [IsLossLimit, namedReason]

end Closes

section Results
variable {config : RiskConfig} {context : RiskCheckContext} {now : DateTime}
  {db after : Database} {closes : List (LosingClose now)} {order order' : RowOrder newestEntryFirst}

/-- A signal rejected for its losses is still rejected after further losing
closes exactly if they leave some equity or leave a limit on something else
broken. -/
theorem further_losses_rejected_iff (riskDecisionId riskDecisionId' : Uuid)
    (adds : AddsLosses db closes after)
    {reason : RiskRejectionReason} (hReason : IsLossLimit reason)
    (hGiven : reason ∈
      (evaluate config riskDecisionId context (loadRiskStateSnapshot order db now)).reasons) :
    (evaluate config riskDecisionId' context (loadRiskStateSnapshot order' after now)).decision =
        .rejected ↔
      (∃ account, db.paperAccount = some account ∧ totalLost closes < account.currentEquity) ∨
        ∃ limit, ¬IsLossLimit limit ∧
          LimitBroken config context (loadRiskStateSnapshot order' after now) limit := by
  obtain ⟨lossLimit, hLossLimit, hBroken⟩ := lossLimitBroken_of_reason hReason hGiven
  obtain ⟨account, hAccount⟩ := account_of_lossLimitBroken hLossLimit hBroken
  rw [evaluate_rejected_iff_broken]
  constructor
  · rintro ⟨limit, hAfter⟩
    by_cases hLimit : IsLossLimit limit
    · refine .inl ⟨account, hAccount, not_le.mp fun hNone => ?_⟩
      exact adds.lossLimits_unbroken hAccount hNone hLimit hAfter
    · exact .inr ⟨limit, hLimit, hAfter⟩
  · rintro (⟨found, hFound, hLeft⟩ | ⟨limit, -, hAfter⟩)
    · cases hAccount.symm.trans hFound
      exact ⟨lossLimit, (adds.lossLimit_iff hAccount hLossLimit hBroken).mpr hLeft⟩
    · exact ⟨limit, hAfter⟩

def sampleEntry (eventType : String) (pnl : Decimal) (createdAt : DateTime) :
    PaperTradeJournalEntry where
  accountId := ⟨1⟩
  positionId := some ⟨2⟩
  orderId := some ⟨3⟩
  eventType := eventType
  symbol := some "BTCUSDT"
  pnl := some pnl
  createdAt := createdAt

/-- The three rows of a close that leaves `equity`. -/
def closeEntries (loss equity : Decimal) (createdAt : DateTime) : List PaperTradeJournalEntry :=
  [sampleEntry "paper.fill.created" (-loss) createdAt,
    sampleEntry "paper.position.closed" (-loss) createdAt,
    sampleEntry "paper.equity.updated" equity createdAt]

/-- An account that started the day with an equity of 1000. -/
def lossBooks (equity : Decimal) (journal : List PaperTradeJournalEntry) : Database :=
  { Database.empty with
    paperAccount := some {
      id := ⟨1⟩
      initialEquity := 1000
      currentEquity := equity
      realizedPnl := equity - 1000
      unrealizedPnl := 0
      status := .active
      createdAt := 0
      updatedAt := 0 }
    paperTradeJournal := journal }

def afterFirstLoss : Database := lossBooks 800 (closeEntries 200 800 0)

def afterSecondLoss (loss : Decimal) : Database :=
  lossBooks (800 - loss) (closeEntries 200 800 0 ++ closeEntries loss (800 - loss) 1)

def secondLoss (loss : Decimal) (hPositive : 0 < loss) : LosingClose (DateTime.seconds 101) where
  entries := closeEntries loss (800 - loss) 1
  loss := loss
  loss_pos := hPositive
  journalled := by
    have hPart : (-loss)⁻ = loss := by rw [negPart_of_nonpos (by linarith), neg_neg]
    have hRest := negPart_nonneg (800 - loss)
    simp only [journalLoss, totalLoss, closeEntries, sampleEntry, filterMap_cons,
      filterMap_nil, map_cons, map_nil, sum_cons, sum_nil, hPart]
    linarith
  sameDay := by
    intro entry hEntry
    have hTime : entry.createdAt = 1 := by
      simp only [closeEntries, mem_cons, not_mem_nil, or_false] at hEntry
      rcases hEntry with rfl | rfl | rfl <;> rfl
    rw [hTime]
    decide

theorem secondLoss_adds (loss : Decimal) (hPositive : 0 < loss) :
    AddsLosses afterFirstLoss [secondLoss loss hPositive] (afterSecondLoss loss) :=
  ⟨rfl, by simp [afterFirstLoss, afterSecondLoss, lossBooks, totalLost, secondLoss]⟩

/-- Losing 300 of the 800 that are left keeps the signal rejected. -/
theorem further_losses_rejected_sample :
    (evaluate .default ⟨4⟩ sampleSignal (loadRiskStateSnapshot (RowOrder.stable newestEntryFirst)
      (afterSecondLoss 300) (DateTime.seconds 101))).decision = .rejected := by
  have hGiven : .maxDailyLossExceeded ∈ (evaluate .default ⟨3⟩ sampleSignal
      (loadRiskStateSnapshot (RowOrder.stable newestEntryFirst) afterFirstLoss
        (DateTime.seconds 101))).reasons := by
    decide +kernel
  apply (further_losses_rejected_iff ⟨3⟩ ⟨4⟩ (secondLoss_adds 300 (by norm_num)) (.inl rfl)
    hGiven).mpr
  refine .inl ⟨_, rfl, ?_⟩
  simp only [totalLost, secondLoss, map_cons, map_nil, sum_cons, sum_nil]
  norm_num

/-- Losing all 800 that are left turns the rejection into an approval. -/
theorem losing_everything_reopens_trading :
    ¬∀ (config : RiskConfig) (context : RiskCheckContext) (now : DateTime) (db after : Database)
        (closes : List (LosingClose now)) (order : RowOrder newestEntryFirst)
        (riskDecisionId : Uuid) (reason : RiskRejectionReason),
      config.validate = .ok () → AddsLosses db closes after → IsLossLimit reason →
      reason ∈
        (evaluate config riskDecisionId context (loadRiskStateSnapshot order db now)).reasons →
      (evaluate config riskDecisionId context (loadRiskStateSnapshot order after now)).decision =
        .rejected := by
  intro hKept
  have hRejected := hKept .default sampleSignal (DateTime.seconds 101) afterFirstLoss
    (afterSecondLoss 800) [secondLoss 800 (by norm_num)] (RowOrder.stable newestEntryFirst) ⟨3⟩
    .maxDailyLossExceeded (by decide +kernel) (secondLoss_adds 800 (by norm_num)) (.inl rfl)
    (by decide +kernel)
  revert hRejected
  decide +kernel

end Results

end AegisQuant.Risk
