import AegisQuant.Replay.Iterations
import Mathlib.Algebra.Order.Field.Basic
import Mathlib.Tactic.Linarith
import Mathlib.Tactic.Ring

/-! A position from its entry to its exit. It spends the suggested notional, or
what the cash pays for together with the fee, and the cash stays as it is
until the position is closed. -/
namespace AegisQuant.Replay
open Fallible

section Entry
variable {config : BacktestConfig} {strategyConfig : StrategyConfig} {candle : Candle}
  {cash : Decimal} {position : BacktestPosition}

/-- What an entry spends, its fee apart. -/
def targetNotional (config : BacktestConfig) (strategyConfig : StrategyConfig) (cash : Decimal) :
    Decimal :=
  min strategyConfig.suggestedNotional (cash / (1 + config.feeBps / bpsDenominator))

/-- A position as it was entered. -/
structure Bought (config : BacktestConfig) (strategyConfig : StrategyConfig) (candle : Candle)
    (cash : Decimal) (position : BacktestPosition) : Prop where
  target_pos : 0 < targetNotional config strategyConfig cash
  entryPrice_pos : 0 < position.entryPrice
  side : position.side = .buy
  entryPrice : position.entryPrice = applyEntrySlippage candle.open config.slippageBps
  quantity : position.quantity = targetNotional config strategyConfig cash / position.entryPrice
  notional : position.notional = targetNotional config strategyConfig cash
  feePaid : position.feePaid = feeAmount (targetNotional config strategyConfig cash) config.feeBps
  remainingHoldingCandles : position.remainingHoldingCandles = config.holdingCandles
  stopLossPrice : position.stopLossPrice =
    strategyConfig.stopLossPct.map fun pct => position.entryPrice * (1 - pct)
  takeProfitPrice : position.takeProfitPrice =
    strategyConfig.takeProfitPct.map fun pct => position.entryPrice * (1 + pct / 100)

theorem checkedDiv_eq_ok {left right quotient : Decimal} :
    checkedDiv left right = .ok quotient ↔ right ≠ 0 ∧ left / right = quotient := by
  unfold checkedDiv
  split
  · rename_i hZero
    simp [hZero]
  · rename_i hNonzero
    simp [hNonzero]

theorem bought_of_maybeOpenPosition
    (hOpen : maybeOpenPosition config strategyConfig candle cash = .ok (some position)) :
    Bought config strategyConfig candle cash position := by
  simp only [maybeOpenPosition, bind_eq_ok, checkedDiv_eq_ok] at hOpen
  obtain ⟨_, ⟨-, rfl⟩, hOpen⟩ := hOpen
  split at hOpen
  · cases hOpen
  · rename_i hTarget
    rw [bind_eq_ok] at hOpen
    obtain ⟨quantity, hQuantity, hOpen⟩ := hOpen
    obtain ⟨hPrice, rfl⟩ := checkedDiv_eq_ok.mp hQuantity
    split at hOpen
    · cases hOpen
    · rename_i hPositive
      cases hOpen
      have hTargetPos : 0 < targetNotional config strategyConfig cash := not_le.mp hTarget
      have hNotional : targetNotional config strategyConfig cash /
          applyEntrySlippage candle.open config.slippageBps *
            applyEntrySlippage candle.open config.slippageBps =
              targetNotional config strategyConfig cash := div_mul_cancel₀ _ hPrice
      refine ⟨hTargetPos, ?_, rfl, rfl, rfl, hNotional, ?_, rfl, rfl, rfl⟩
      · exact (div_pos_iff_of_pos_left hTargetPos).mp (not_le.mp hPositive)
      · exact congrArg (feeAmount · config.feeBps) hNotional

theorem Bought.paid (hBought : Bought config strategyConfig candle cash position)
    (hFee : 0 < 1 + config.feeBps / bpsDenominator) : position.notional + position.feePaid ≤ cash := by
  have hLimit : targetNotional config strategyConfig cash ≤
      cash / (1 + config.feeBps / bpsDenominator) := min_le_right ..
  rw [le_div_iff₀ hFee] at hLimit
  calc position.notional + position.feePaid
      = targetNotional config strategyConfig cash * (1 + config.feeBps / bpsDenominator) := by
        rw [hBought.notional, hBought.feePaid, feeAmount]
        ring
    _ ≤ cash := hLimit

theorem Bought.quantity_pos (hBought : Bought config strategyConfig candle cash position) :
    0 < position.quantity := by
  rw [hBought.quantity]
  exact div_pos hBought.target_pos hBought.entryPrice_pos

/-- An entry divides by nothing else than the fee and the price. -/
theorem maybeOpenPosition_isOk (hFee : 1 + config.feeBps / bpsDenominator ≠ 0)
    (hPrice : applyEntrySlippage candle.open config.slippageBps ≠ 0) :
    ∃ opened, maybeOpenPosition config strategyConfig candle cash = .ok opened := by
  simp only [maybeOpenPosition, checkedDiv, hFee, hPrice, if_false, ok_bind]
  split
  · exact ⟨_, rfl⟩
  · split
    · exact ⟨_, rfl⟩
    · exact ⟨_, rfl⟩

theorem maybeOpenPosition_opens (hFee : 1 + config.feeBps / bpsDenominator ≠ 0)
    (hTarget : 0 < targetNotional config strategyConfig cash)
    (hPrice : 0 < applyEntrySlippage candle.open config.slippageBps) :
    ∃ position, maybeOpenPosition config strategyConfig candle cash = .ok (some position) := by
  have hQuantity : 0 < targetNotional config strategyConfig cash /
      applyEntrySlippage candle.open config.slippageBps := div_pos hTarget hPrice
  unfold targetNotional at hTarget hQuantity
  simp only [maybeOpenPosition, checkedDiv, hFee, hPrice.ne', if_false, ok_bind,
    not_le.mpr hTarget, not_le.mpr hQuantity]
  exact ⟨_, rfl⟩

theorem one_add_bps_pos {bps : Decimal} (hBps : -bpsDenominator < bps) :
    0 < 1 + bps / bpsDenominator := by
  have hDenominator : (0 : Decimal) < bpsDenominator := by norm_num [bpsDenominator]
  have hRatio := (lt_div_iff₀ hDenominator).mpr ((neg_one_mul bpsDenominator).trans_lt hBps)
  linarith

theorem applyEntrySlippage_pos {price slippageBps : Decimal} (hPrice : 0 < price)
    (hSlippage : -bpsDenominator < slippageBps) : 0 < applyEntrySlippage price slippageBps :=
  mul_pos hPrice (one_add_bps_pos hSlippage)

end Entry

section Exit
variable {sim : Simulation} {candle : Candle} {state : SimulationState}

/-- A position is as it was bought from the cash there, apart from the candles
it has been held for. -/
def Held (sim : Simulation) (state : SimulationState) : Prop :=
  ∀ position, state.position = some position → ∃ entered, ∃ candle ∈ sim.candles,
    Bought sim.request.config sim.strategyConfig candle state.cash entered ∧
    position = { entered with remainingHoldingCandles := position.remainingHoldingCandles }

theorem held_of_none (hPosition : state.position = none) : Held sim state := by
  intro position hSome
  rw [hPosition] at hSome
  cases hSome

theorem Held.exitPhase (hHeld : Held sim state) : Held sim (exitPhase sim candle state) := by
  apply exitPhase_rule sim candle state
  · exact fun _ => hHeld
  · exact fun _ _ _ _ _ => held_of_none rfl
  · intro position hPosition held hSome
    cases hSome
    obtain ⟨entered, entryCandle, hMember, hBought, hSame⟩ := hHeld position hPosition
    refine ⟨entered, entryCandle, hMember, hBought, ?_⟩
    rw [hSame]

variable {rules : StrategyRules} {strategyId : StrategyId} {symbol : Symbol}

theorem Held.simulateAt {next : SimulationState} {index : Nat} (hHeld : Held sim state)
    (hCandle : sim.candles[index]? = some candle)
    (hStep : simulateAt rules sim strategyId symbol state index = .ok next) : Held sim next := by
  obtain ⟨-, hCash, hPosition⟩ := simulateAt_cases hCandle hStep
  intro position hSome
  rw [hCash]
  rcases hPosition with ⟨hSame, -⟩ | ⟨-, -, opened, ⟨entryIndex, entry, -, hEntry, hOpen⟩, hOpened⟩
  · rw [hSame] at hSome
    exact hHeld.exitPhase position hSome
  · rw [hOpened] at hSome
    cases hSome
    exact ⟨position, entry, List.mem_of_getElem? hEntry, bought_of_maybeOpenPosition hOpen, rfl⟩

theorem loopTo_held {count : Nat} (hLength : count ≤ sim.candles.length)
    (hState : loopTo rules sim strategyId symbol count = .ok state) : Held sim state := by
  induction count generalizing state with
  | zero =>
    cases hState
    exact held_of_none rfl
  | succ count ih =>
    obtain ⟨before, hBefore, hStep⟩ := loopTo_succ_eq_ok.mp hState
    exact (ih (by omega) hBefore).simulateAt
      (List.getElem?_eq_getElem (show count < sim.candles.length by omega)) hStep

end Exit

end AegisQuant.Replay
