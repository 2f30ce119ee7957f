import AegisQuant.Core.Basic
import AegisQuant.Library.Run
import Mathlib.Algebra.BigOperators.Group.List.Basic
import Mathlib.Tactic.Linarith

/-! The live candle builder. Trades of one symbol come in one by one; a trade
in the bucket of the active candle updates it, a later one closes it and opens
the next. The whole history is compared with the accepted trades. -/
namespace AegisQuant
open DateTime

/-- In nanoseconds. -/
def CandleInterval.duration : CandleInterval → Int
  | .oneMinute => seconds 60
  | .fiveMinutes => seconds 300
  | .fifteenMinutes => seconds 900
  | .oneHour => seconds 3600
  | .fourHours => seconds 14400

end AegisQuant

namespace AegisQuant.Market
open Transition

structure MarketTrade where
  price : Decimal
  quantity : Decimal
  tradeTime : DateTime

inductive CandleBuilderError where
  | invalidPrice
  | invalidQuantity
  | outOfOrderTrade (tradeTime activeOpenTime : DateTime)

structure CandleUpdate where
  active : Candle
  closed : Option Candle

structure CandleBuilder where
  symbol : Symbol
  interval : CandleInterval
  active : Option Candle

def CandleBuilder.new (symbol : Symbol) (interval : CandleInterval) : CandleBuilder :=
  ⟨symbol, interval, none⟩

/-- Whole seconds, cut down to a multiple of the interval with the truncated
remainder. -/
def floorTime (timestamp : DateTime) (interval : CandleInterval) : DateTime :=
  let seconds := interval.duration / 1000000000
  let timestamp := timestamp / 1000000000
  DateTime.seconds (timestamp - timestamp.tmod seconds)

def newCandle (symbol : Symbol) (interval : CandleInterval) (openTime closeTime : DateTime)
    (trade : MarketTrade) (quoteVolume : Decimal) : Candle where
  symbol := symbol
  interval := interval
  openTime := openTime
  closeTime := closeTime
  «open» := trade.price
  high := trade.price
  low := trade.price
  close := trade.price
  volume := trade.quantity
  quoteVolume := some quoteVolume
  tradeCount := 1
  isClosed := false

def updateCandle (candle : Candle) (trade : MarketTrade) (quoteVolume : Decimal) : Candle :=
  { candle with
    high := max candle.high trade.price
    low := min candle.low trade.price
    close := trade.price
    volume := candle.volume + trade.quantity
    quoteVolume := some (candle.quoteVolume.getD 0 + quoteVolume)
    tradeCount := candle.tradeCount + 1 }

def CandleBuilder.applyTrade (builder : CandleBuilder) (trade : MarketTrade) :
    CandleBuilder × Except CandleBuilderError CandleUpdate :=
  if trade.price ≤ 0 then (builder, .error .invalidPrice)
  else if trade.quantity ≤ 0 then (builder, .error .invalidQuantity)
  else
    let openTime := floorTime trade.tradeTime builder.interval
    let closeTime := openTime + builder.interval.duration
    let quoteVolume := trade.price * trade.quantity
    let opened := newCandle builder.symbol builder.interval openTime closeTime trade quoteVolume
    match builder.active with
    | none => ({ builder with active := some opened }, .ok ⟨opened, none⟩)
    | some active =>
      if trade.tradeTime < active.openTime then
        (builder, .error (.outOfOrderTrade trade.tradeTime active.openTime))
      else if openTime = active.openTime then
        let updated := updateCandle active trade quoteVolume
        ({ builder with active := some updated }, .ok ⟨updated, none⟩)
      else ({ builder with active := some opened },
        .ok ⟨opened, some { active with isClosed := true }⟩)

/-- What a builder has seen and done: the candles it has emitted as closed and
the trades it has accepted, the latest last. -/
structure CandleHistory where
  builder : CandleBuilder
  emitted : List Candle
  accepted : List MarketTrade

def CandleHistory.start (symbol : Symbol) (interval : CandleInterval) : CandleHistory :=
  ⟨.new symbol interval, [], []⟩

def CandleHistory.candles (history : CandleHistory) : List Candle :=
  history.emitted ++ history.builder.active.toList

def feedTrade (history : CandleHistory) (trade : MarketTrade) : CandleHistory :=
  match history.builder.applyTrade trade with
  | (builder, .ok update) =>
    ⟨builder, history.emitted ++ update.closed.toList, history.accepted ++ [trade]⟩
  | (builder, .error _) => { history with builder := builder }

/-- The trades of the bucket that starts at `openTime`. -/
def bucketTrades (interval : CandleInterval) (trades : List MarketTrade) (openTime : DateTime) :
    List MarketTrade :=
  trades.filter fun trade => floorTime trade.tradeTime interval = openTime

/-- The candle holds first, last, greatest and least price and the sums of the
trades. -/
structure Summarizes (candle : Candle) (trades : List MarketTrade) : Prop where
  «open» : trades.head?.map (·.price) = some candle.open
  close : trades.getLast?.map (·.price) = some candle.close
  high : candle.high ∈ trades.map (·.price) ∧ ∀ trade ∈ trades, trade.price ≤ candle.high
  low : candle.low ∈ trades.map (·.price) ∧ ∀ trade ∈ trades, candle.low ≤ trade.price
  volume : candle.volume = (trades.map (·.quantity)).sum
  quoteVolume : candle.quoteVolume = some (trades.map fun trade => trade.price * trade.quantity).sum
  tradeCount : candle.tradeCount = trades.length

/-- The candles so far are the buckets of the accepted trades, in order, and
only the last is open. -/
structure FoldsAccepted (history : CandleHistory) : Prop where
  increasing : history.candles.Pairwise fun first second => first.openTime < second.openTime
  buckets : ∀ openTime, (∃ candle ∈ history.candles, candle.openTime = openTime) ↔
    ∃ trade ∈ history.accepted, floorTime trade.tradeTime history.builder.interval = openTime
  summarizes : ∀ candle ∈ history.candles, Summarizes candle
    (bucketTrades history.builder.interval history.accepted candle.openTime)
  closed : ∀ candle ∈ history.emitted, candle.isClosed = true
  active : ∀ candle, history.builder.active = some candle → candle.isClosed = false

section Buckets

variable (interval : CandleInterval) {timestamp : DateTime}

theorem duration_pos : 0 < interval.duration := by
  cases interval <;> decide

theorem exists_durationSeconds :
    ∃ seconds : Int, 0 < seconds ∧ interval.duration = seconds * 1000000000 := by
  cases interval
  · exact ⟨60, by decide, rfl⟩
  · exact ⟨300, by decide, rfl⟩
  · exact ⟨900, by decide, rfl⟩
  · exact ⟨3600, by decide, rfl⟩
  · exact ⟨14400, by decide, rfl⟩

theorem seconds_sub_emod (timestamp : DateTime) : DateTime.seconds (timestamp / 1000000000 -
        timestamp / 1000000000 % (interval.duration / 1000000000)) =
      timestamp / interval.duration * interval.duration := by
  obtain ⟨seconds, -, hDuration⟩ := exists_durationSeconds interval
  have hQuotient : timestamp / (seconds * 1000000000) = timestamp / 1000000000 / seconds := by
    rw [mul_comm, Int.ediv_ediv_of_nonneg (by decide)]
  have hMultiple : timestamp / 1000000000 - timestamp / 1000000000 % seconds =
      timestamp / 1000000000 / seconds * seconds := by
    rw [Int.emod_def, sub_sub_cancel, mul_comm]
  rw [DateTime.seconds, hDuration, Int.mul_ediv_cancel seconds (by decide), hQuotient, hMultiple,
    mul_assoc]

/-- From the epoch on, the bucket of an instant starts at the last multiple of
the interval. -/
theorem floorTime_eq (hTime : 0 ≤ timestamp) :
    floorTime timestamp interval = timestamp / interval.duration * interval.duration := by
  rw [floorTime, Int.tmod_eq_emod_of_nonneg (Int.ediv_nonneg hTime (by decide))]
  exact seconds_sub_emod interval timestamp

theorem floorTime_mono {first second : DateTime} (hFirst : 0 ≤ first) (hOrder : first ≤ second) :
    floorTime first interval ≤ floorTime second interval := by
  rw [floorTime_eq interval hFirst, floorTime_eq interval (hFirst.trans hOrder)]
  exact Int.mul_le_mul_of_nonneg_right (Int.ediv_le_ediv (duration_pos interval) hOrder)
    (duration_pos interval).le

theorem floorTime_nonneg (hTime : 0 ≤ timestamp) : 0 ≤ floorTime timestamp interval := by
  rw [floorTime_eq interval hTime]
  exact Int.mul_nonneg (Int.ediv_nonneg hTime (duration_pos interval).le) (duration_pos interval).le

theorem floorTime_floorTime (hTime : 0 ≤ timestamp) :
    floorTime (floorTime timestamp interval) interval = floorTime timestamp interval := by
  rw [floorTime_eq interval (floorTime_nonneg interval hTime), floorTime_eq interval hTime,
    Int.mul_ediv_cancel _ (duration_pos interval).ne']

end Buckets

section Summaries
variable {candle : Candle} {trades : List MarketTrade}

theorem summarizes_newCandle (symbol : Symbol) (interval : CandleInterval)
    (openTime closeTime : DateTime) (trade : MarketTrade) :
    Summarizes (newCandle symbol interval openTime closeTime trade (trade.price * trade.quantity))
      [trade] := by
  refine ⟨rfl, rfl, ?_, ?_, ?_, ?_, rfl⟩
  · simp [newCandle]
  · simp [newCandle]
  · simp [newCandle]
  · simp [newCandle]

open List

theorem Summarizes.updateCandle (summary : Summarizes candle trades) (trade : MarketTrade) :
    Summarizes (updateCandle candle trade (trade.price * trade.quantity)) (trades ++ [trade]) where
  «open» := by
    have hOpen := summary.open
    cases trades with
    | nil => cases hOpen
    | cons first rest => exact hOpen
  close := by
    rw [getLast?_append]
    rfl
  high := by
    obtain ⟨hMember, hGreatest⟩ := summary.high
    constructor
    · rw [map_append, mem_append]
      rcases max_choice candle.high trade.price with hMax | hMax
      · exact .inl (by simpa [Market.updateCandle, hMax] using hMember)
      · exact .inr (by simp [Market.updateCandle, hMax])
    · intro other hOther
      rcases mem_append.mp hOther with hOther | hOther
      · exact (hGreatest other hOther).trans (le_max_left _ _)
      · rw [mem_singleton.mp hOther]
        exact le_max_right _ _
  low := by
    obtain ⟨hMember, hLeast⟩ := summary.low
    constructor
    · rw [map_append, mem_append]
      rcases min_choice candle.low trade.price with hMin | hMin
      · exact .inl (by simpa [Market.updateCandle, hMin] using hMember)
      · exact .inr (by simp [Market.updateCandle, hMin])
    · intro other hOther
      rcases mem_append.mp hOther with hOther | hOther
      · exact (min_le_left _ _).trans (hLeast other hOther)
      · rw [mem_singleton.mp hOther]
        exact min_le_right _ _
  volume := by simp [Market.updateCandle, summary.volume]
  quoteVolume := by simp [Market.updateCandle, summary.quoteVolume]
  tradeCount := by simp [Market.updateCandle, summary.tradeCount]

open Option

/-- First and last price lie between the least and the greatest. -/
theorem Summarizes.within (summary : Summarizes candle trades) :
    candle.low ≤ candle.open ∧ candle.open ≤ candle.high ∧
      candle.low ≤ candle.close ∧ candle.close ≤ candle.high := by
  obtain ⟨first, hFirst, hOpen⟩ := map_eq_some_iff.mp summary.open
  obtain ⟨last, hLast, hClose⟩ := map_eq_some_iff.mp summary.close
  have hFirstMem := mem_of_mem_head? hFirst
  have hLastMem := mem_of_mem_getLast? hLast
  rw [← hOpen, ← hClose]
  exact ⟨summary.low.2 first hFirstMem, summary.high.2 first hFirstMem,
    summary.low.2 last hLastMem, summary.high.2 last hLastMem⟩

theorem Summarizes.close_candle (summary : Summarizes candle trades) :
    Summarizes { candle with isClosed := true } trades :=
  ⟨summary.open, summary.close, summary.high, summary.low, summary.volume, summary.quoteVolume,
    summary.tradeCount⟩

end Summaries

section Feeding
variable {history : CandleHistory} {trade : MarketTrade}

/-- The builder accepts a trade with a positive price and quantity that does
not come before the active candle. -/
structure Accepts (builder : CandleBuilder) (trade : MarketTrade) : Prop where
  price : 0 < trade.price
  quantity : 0 < trade.quantity
  inOrder : ∀ active, builder.active = some active → active.openTime ≤ trade.tradeTime

/-- A trade is refused, with the builder as it was, or it starts the first
candle, updates the active one or closes it and starts the next. -/
theorem applyTrade_cases (builder : CandleBuilder) (trade : MarketTrade) :
    (¬Accepts builder trade ∧ ∃ error, builder.applyTrade trade = (builder, .error error)) ∨
    Accepts builder trade ∧
      let openTime := floorTime trade.tradeTime builder.interval
      let opened := newCandle builder.symbol builder.interval openTime
        (openTime + builder.interval.duration) trade (trade.price * trade.quantity)
      (builder.active = none ∧
        builder.applyTrade trade = ({ builder with active := some opened }, .ok ⟨opened, none⟩)) ∨
      ∃ active, builder.active = some active ∧ ((openTime = active.openTime ∧
          let updated := updateCandle active trade (trade.price * trade.quantity)
          builder.applyTrade trade = ({ builder with active := some updated },
            .ok ⟨updated, none⟩)) ∨
        (openTime ≠ active.openTime ∧
          builder.applyTrade trade = ({ builder with active := some opened },
            .ok ⟨opened, some { active with isClosed := true }⟩))) := by
  unfold CandleBuilder.applyTrade
  by_cases hPrice : trade.price ≤ 0
  · exact .inl ⟨fun hAccepts => absurd hPrice (not_le.mpr hAccepts.price), _, if_pos hPrice⟩
  by_cases hQuantity : trade.quantity ≤ 0
  · refine .inl ⟨fun hAccepts => absurd hQuantity (not_le.mpr hAccepts.quantity), .invalidQuantity, ?_⟩
    rw [if_neg hPrice, if_pos hQuantity]
  simp only [hPrice, hQuantity, if_false]
  cases hActive : builder.active with
  | none =>
    exact .inr ⟨⟨not_le.mp hPrice, not_le.mp hQuantity, by simp [hActive]⟩, .inl ⟨rfl, rfl⟩⟩
  | some active =>
    by_cases hLate : trade.tradeTime < active.openTime
    · refine .inl ⟨fun hAccepts => absurd (hAccepts.inOrder active hActive) (not_le.mpr hLate),
        .outOfOrderTrade trade.tradeTime active.openTime, ?_⟩
      simp [hLate]
    · refine .inr ⟨⟨not_le.mp hPrice, not_le.mp hQuantity, ?_⟩, .inr ⟨active, rfl, ?_⟩⟩
      · rintro _ hSame
        cases hActive.symm.trans hSame
        exact not_lt.mp hLate
      · by_cases hBucket : floorTime trade.tradeTime builder.interval = active.openTime
        · exact .inl ⟨hBucket, by simp [hLate, hBucket]⟩
        · exact .inr ⟨hBucket, by simp [hLate, hBucket]⟩

structure HistorySound (history : CandleHistory) : Prop extends FoldsAccepted history where
  times : ∀ trade ∈ history.accepted, 0 ≤ trade.tradeTime
  idle : history.builder.active = none → history.emitted = [] ∧ history.accepted = []

theorem HistorySound.start (symbol : Symbol) (interval : CandleInterval) :
    HistorySound (.start symbol interval) where
  increasing := .nil
  buckets := by simp [CandleHistory.start, CandleHistory.candles, CandleBuilder.new]
  summarizes := by simp [CandleHistory.start, CandleHistory.candles, CandleBuilder.new]
  closed := by simp [CandleHistory.start]
  active := by simp [CandleHistory.start, CandleBuilder.new]
  times := by simp [CandleHistory.start]
  idle := fun _ => ⟨rfl, rfl⟩

theorem bucketTrades_append (interval : CandleInterval) (trades : List MarketTrade)
    (trade : MarketTrade) (openTime : DateTime) :
    bucketTrades interval (trades ++ [trade]) openTime = bucketTrades interval trades openTime ++
        if floorTime trade.tradeTime interval = openTime then [trade] else [] := by
  rw [bucketTrades, List.filter_append, bucketTrades]
  by_cases hBucket : floorTime trade.tradeTime interval = openTime
  · simp [hBucket]
  · simp [hBucket]

section
variable (sound : HistorySound history)
include sound

/-- The buckets of the candles are those of the trades after one more trade if
its bucket is the only one the candles have gained. -/
theorem HistorySound.buckets_append {candles : List Candle}
    (hCandles : ∀ openTime, (∃ candle ∈ candles, candle.openTime = openTime) ↔
      (∃ candle ∈ history.candles, candle.openTime = openTime) ∨
        floorTime trade.tradeTime history.builder.interval = openTime) (openTime : DateTime) :
    (∃ candle ∈ candles, candle.openTime = openTime) ↔ ∃ other ∈ history.accepted ++ [trade],
        floorTime other.tradeTime history.builder.interval = openTime := by
  rw [hCandles, sound.buckets]
  simp only [List.mem_append, List.mem_singleton, or_and_right, exists_or, exists_eq_left]

theorem HistorySound.times_append (hTime : 0 ≤ trade.tradeTime) :
    ∀ other ∈ history.accepted ++ [trade], 0 ≤ other.tradeTime := by
  intro other hOther
  rcases List.mem_append.mp hOther with hOther | hOther
  · exact sound.times other hOther
  · rw [List.mem_singleton.mp hOther]
    exact hTime

open CandleHistory

theorem HistorySound.first (hTime : 0 ≤ trade.tradeTime) (hIdle : history.builder.active = none)
    (closeTime : DateTime) :
    HistorySound ⟨{ history.builder with
        active := some (newCandle history.builder.symbol history.builder.interval
          (floorTime trade.tradeTime history.builder.interval) closeTime trade
          (trade.price * trade.quantity)) },
      history.emitted, history.accepted ++ [trade]⟩ := by
  obtain ⟨hEmitted, hAccepted⟩ := sound.idle hIdle
  rw [hEmitted, hAccepted]
  refine ⟨⟨List.pairwise_singleton _ _, ?_, ?_, by simp, ?_⟩, ?_, by simp⟩
  · simp [candles, newCandle]
  · simp only [candles, List.nil_append, Option.toList_some, List.mem_singleton, forall_eq]
    have hBucket : bucketTrades history.builder.interval [trade]
        (floorTime trade.tradeTime history.builder.interval) = [trade] := by simp [bucketTrades]
    simp only [newCandle] at hBucket ⊢
    rw [hBucket]
    exact summarizes_newCandle _ _ _ _ trade
  · rintro candle ⟨⟩
    rfl
  · simpa using hTime

variable {active : Candle}

theorem HistorySound.before_active (hActive : history.builder.active = some active) :
    history.candles = history.emitted ++ [active] ∧
      ∀ candle ∈ history.emitted, candle.openTime < active.openTime := by
  have hCandles : history.candles = history.emitted ++ [active] := by
    rw [candles, hActive, Option.toList_some]
  refine ⟨hCandles, fun candle hCandle => ?_⟩
  have hIncreasing := sound.increasing
  rw [hCandles, List.pairwise_append] at hIncreasing
  exact hIncreasing.2.2 candle hCandle active (List.mem_singleton_self _)

theorem HistorySound.update (hTime : 0 ≤ trade.tradeTime)
    (hActive : history.builder.active = some active)
    (hBucket : floorTime trade.tradeTime history.builder.interval = active.openTime) :
    HistorySound ⟨{ history.builder with
        active := some (updateCandle active trade (trade.price * trade.quantity)) },
      history.emitted, history.accepted ++ [trade]⟩ := by
  obtain ⟨hCandles, hBefore⟩ := sound.before_active hActive
  have hActiveMem : active ∈ history.candles := by simp [hCandles]
  refine ⟨⟨?_, ?_, ?_, sound.closed, ?_⟩, ?_, by simp⟩
  · have hIncreasing := sound.increasing
    rw [hCandles, List.pairwise_append] at hIncreasing
    refine List.pairwise_append.mpr ⟨hIncreasing.1, List.pairwise_singleton _ _, ?_⟩
    intro candle hCandle last hLast
    rw [Option.toList_some, List.mem_singleton] at hLast
    rw [hLast]
    exact hBefore candle hCandle
  · refine sound.buckets_append fun openTime => ?_
    -- The candle keeps its open time, which is the bucket of the trade.
    simp only [candles, hActive, Option.toList_some, List.mem_append,
      List.mem_singleton, or_and_right, exists_or, exists_eq_left, updateCandle, hBucket, or_assoc,
      or_self]
  · intro candle hCandle
    rw [candles, Option.toList_some, List.mem_append, List.mem_singleton] at hCandle
    rw [bucketTrades_append]
    rcases hCandle with hCandle | rfl
    · rw [if_neg (by rw [hBucket]; exact (hBefore candle hCandle).ne'), List.append_nil]
      exact sound.summarizes candle (by simp [hCandles, hCandle])
    · have hOwn : floorTime trade.tradeTime history.builder.interval =
          (updateCandle active trade (trade.price * trade.quantity)).openTime := hBucket
      rw [if_pos hOwn]
      exact (sound.summarizes active hActiveMem).updateCandle trade
  · rintro candle ⟨⟩
    exact sound.active active hActive
  · exact sound.times_append hTime

/-- A trade in a later bucket closes the active candle and starts another. -/
theorem HistorySound.roll (hTime : 0 ≤ trade.tradeTime)
    (hActive : history.builder.active = some active) (hOrder : active.openTime ≤ trade.tradeTime)
    (hBucket : floorTime trade.tradeTime history.builder.interval ≠ active.openTime)
    (closeTime : DateTime) :
    HistorySound ⟨{ history.builder with
        active := some (newCandle history.builder.symbol history.builder.interval
          (floorTime trade.tradeTime history.builder.interval) closeTime trade
          (trade.price * trade.quantity)) },
      history.emitted ++ [{ active with isClosed := true }], history.accepted ++ [trade]⟩ := by
  obtain ⟨hCandles, hBefore⟩ := sound.before_active hActive
  have hActiveMem : active ∈ history.candles := by simp [hCandles]
  -- The active candle starts in a bucket of an accepted trade, so the later trade is in a later one.
  have hLater : active.openTime < floorTime trade.tradeTime history.builder.interval := by
    obtain ⟨other, hOther, hOpen⟩ := (sound.buckets active.openTime).mp ⟨active, hActiveMem, rfl⟩
    have hOtherTime := sound.times other hOther
    refine lt_of_le_of_ne ?_ (Ne.symm hBucket)
    rw [← hOpen, ← floorTime_floorTime _ hOtherTime]
    exact floorTime_mono _ (floorTime_nonneg _ hOtherTime) (hOpen ▸ hOrder)
  have hNone : bucketTrades history.builder.interval history.accepted
      (floorTime trade.tradeTime history.builder.interval) = [] := by
    rw [bucketTrades, List.filter_eq_nil_iff]
    intro other hOther hSame
    obtain ⟨candle, hCandle, hOpen⟩ := (sound.buckets _).mpr ⟨other, hOther, of_decide_eq_true hSame⟩
    rw [hCandles, List.mem_append, List.mem_singleton] at hCandle
    rcases hCandle with hCandle | rfl
    · exact absurd ((hBefore candle hCandle).trans hLater) (by rw [hOpen]; exact lt_irrefl _)
    · exact absurd hLater (by rw [hOpen]; exact lt_irrefl _)
  refine ⟨⟨?_, ?_, ?_, ?_, ?_⟩, ?_, by simp⟩
  · have hIncreasing := sound.increasing
    rw [hCandles, List.pairwise_append] at hIncreasing
    simp only [candles, Option.toList_some, List.append_assoc, List.singleton_append,
      List.pairwise_append, List.pairwise_cons, List.mem_cons, List.not_mem_nil, or_false,
      forall_eq, List.Pairwise.nil, and_true, forall_eq_or_imp]
    refine ⟨hIncreasing.1, ⟨hLater, by simp⟩, fun candle hCandle => ?_⟩
    exact ⟨hBefore candle hCandle, (hBefore candle hCandle).trans hLater⟩
  · refine sound.buckets_append fun openTime => ?_
    simp only [candles, hActive, Option.toList_some, List.mem_append,
      List.mem_singleton, or_and_right, exists_or, exists_eq_left, newCandle]
  · intro candle hCandle
    simp only [candles, Option.toList_some, List.mem_append, List.mem_singleton]
      at hCandle
    rw [bucketTrades_append]
    rcases hCandle with (hCandle | rfl) | rfl
    · rw [if_neg ((hBefore candle hCandle).trans hLater).ne', List.append_nil]
      exact sound.summarizes candle (by simp [hCandles, hCandle])
    · rw [if_neg hLater.ne', List.append_nil]
      exact (sound.summarizes active hActiveMem).close_candle
    · simp only [newCandle, if_true]
      rw [hNone]
      exact summarizes_newCandle _ _ _ _ trade
  · intro candle hCandle
    rcases List.mem_append.mp hCandle with hCandle | hCandle
    · exact sound.closed candle hCandle
    · rw [List.mem_singleton.mp hCandle]
  · rintro candle ⟨⟩
    rfl
  · exact sound.times_append hTime

theorem HistorySound.feedTrade (hTime : 0 ≤ trade.tradeTime) :
    HistorySound (feedTrade history trade) := by
  unfold Market.feedTrade
  rcases applyTrade_cases history.builder trade with ⟨-, error, hRefused⟩ |
    ⟨hAccepts, ⟨hIdle, hFirst⟩ | ⟨active, hActive, ⟨hBucket, hUpdated⟩ | ⟨hBucket, hRolled⟩⟩⟩
  · rw [hRefused]
    exact sound
  · rw [hFirst]
    simp only [Option.toList_none, List.append_nil]
    exact sound.first hTime hIdle _
  · rw [hUpdated]
    simp only [Option.toList_none, List.append_nil]
    exact sound.update hTime hActive hBucket
  · rw [hRolled]
    exact sound.roll hTime hActive (hAccepts.inOrder active hActive) hBucket _

end

end Feeding

/-- Whatever trades are fed from the epoch on: the candles are the buckets of
the accepted trades in order, each with the figures of its bucket, only the
last is open, and a trade that is not accepted leaves the builder as it was. -/
theorem live_candles_fold_accepted_trades (symbol : Symbol) (interval : CandleInterval)
    (trades : List MarketTrade) (hTimes : ∀ trade ∈ trades, 0 ≤ trade.tradeTime) :
    Throughout feedTrade
        (fun history => FoldsAccepted history ∧
          ∀ candle ∈ history.candles, candle.low ≤ candle.open ∧ candle.open ≤ candle.high ∧
            candle.low ≤ candle.close ∧ candle.close ≤ candle.high)
        (.start symbol interval) trades ∧
      Along feedTrade
        (fun history trade =>
          (Accepts history.builder trade → (feedTrade history trade).accepted =
            history.accepted ++ [trade]) ∧
          (¬Accepts history.builder trade → feedTrade history trade = history ∧
            ∃ error, history.builder.applyTrade trade = (history.builder, .error error)))
        (.start symbol interval) trades := by
  have hInputs : Along feedTrade (fun _ trade => 0 ≤ trade.tradeTime) (.start symbol interval)
      trades := along_of_forall hTimes _
  refine ⟨throughout_of_along (I := HistorySound) (fun _ _ sound hTime => sound.feedTrade hTime) ?_
    (.start symbol interval) hInputs, along_of_forall_step _ _ ?_⟩
  · intro history sound
    exact ⟨sound.toFoldsAccepted, fun candle hCandle => (sound.summarizes candle hCandle).within⟩
  · intro history trade
    unfold feedTrade
    rcases applyTrade_cases history.builder trade with ⟨hRefused, error, hResult⟩ |
      ⟨hAccepts, ⟨-, hResult⟩ | ⟨active, -, ⟨-, hResult⟩ | ⟨-, hResult⟩⟩⟩
    · rw [hResult]
      exact ⟨fun hAccepts => absurd hAccepts hRefused, fun _ => ⟨rfl, error, rfl⟩⟩
    · rw [hResult]
      exact ⟨fun _ => rfl, fun hRefused => absurd hAccepts hRefused⟩
    · rw [hResult]
      exact ⟨fun _ => rfl, fun hRefused => absurd hAccepts hRefused⟩
    · rw [hResult]
      exact ⟨fun _ => rfl, fun hRefused => absurd hAccepts hRefused⟩

def sampleTrades : List MarketTrade :=
  [⟨100, 2, DateTime.seconds 1⟩, ⟨110, 1, DateTime.seconds 59⟩, ⟨95, 3, DateTime.seconds 130⟩,
    ⟨99, 1, DateTime.seconds 60⟩, ⟨0, 1, DateTime.seconds 140⟩, ⟨97, 1, DateTime.seconds 125⟩]

theorem live_candles_sample :
    FoldsAccepted (run feedTrade (.start .btcusdt .oneMinute) sampleTrades) ∧
      (run feedTrade (.start .btcusdt .oneMinute) sampleTrades).candles.map
          (fun candle => (candle.openTime, candle.open, candle.close, candle.volume)) =
        [(0, 100, 110, 3), (DateTime.seconds 120, 95, 97, 4)] := by
  have hTimes : ∀ trade ∈ sampleTrades, 0 ≤ trade.tradeTime := by decide
  obtain ⟨-, -, -, -, -, -, hFolds, -⟩ :=
    (live_candles_fold_accepted_trades .btcusdt .oneMinute sampleTrades hTimes).1
  exact ⟨hFolds, by decide +kernel⟩

end AegisQuant.Market
