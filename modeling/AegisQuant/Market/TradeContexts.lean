import AegisQuant.Market.DerivativesHistory
import AegisQuant.Store.Candles
import Mathlib.Data.Multiset.MapFold

/-! The derivatives context of a research trade, looked up by its entry time. Of
the rows of other tables a look-up takes the latest by the entry; of the candles
it takes the latest that has opened, which need not have closed. -/
namespace AegisQuant.Market
open Store List

section Rows

def DerivativesFundingRateInput.key (row : DerivativesFundingRateInput) :
    String × String × DateTime :=
  (row.exchange, row.symbol, row.fundingTime)

def DerivativesOpenInterestInput.key (row : DerivativesOpenInterestInput) :
    String × String × String × DateTime :=
  (row.exchange, row.symbol, row.period, row.timestamp)

def DerivativesPositioningInput.key (row : DerivativesPositioningInput) :
    String × String × String × String × DateTime :=
  (row.exchange, row.symbol, row.metric, row.period, row.timestamp)

end Rows

def hours (count : Int) : DateTime := DateTime.seconds (3600 * count)

/-- The tables that the report reads, with their unique keys. Whoever writes a
candle of four hours gives it a close within them. -/
structure MarketData where
  fundingRates : Table DerivativesFundingRateInput.key
  openInterest : Table DerivativesOpenInterestInput.key
  positioning : Table DerivativesPositioningInput.key
  candles : Table CandleRecord.key
  withinInterval : ∀ row ∈ candles.rows, row.interval = "4h" → row.closeTime ≤ row.openTime + hours 4

inductive FundingBucket where
  | extremeNegative
  | negative
  | neutral
  | positive
  | extremePositive
  | unknown
  deriving DecidableEq, Repr

def FundingBucket.classify (rate zscore : Option Decimal) : FundingBucket :=
  if zscore.any (· ≤ -2) then extremeNegative
  else if zscore.any (2 ≤ ·) then extremePositive
  else match rate with
    | some value => if value < 0 then negative else if 0 < value then positive else neutral
    | none => unknown

inductive PriceOiRegime where
  | priceUpOiUp
  | priceUpOiDown
  | priceDownOiUp
  | priceDownOiDown
  | unknown
  deriving DecidableEq, Repr

def PriceOiRegime.classify (priceChangePct oiChangePct : Option Decimal) : PriceOiRegime :=
  match priceChangePct, oiChangePct with
  | some price, some oi =>
    if 0 ≤ price then if 0 ≤ oi then priceUpOiUp else priceUpOiDown
    else if 0 ≤ oi then priceDownOiUp else priceDownOiDown
  | _, _ => unknown

/-- A row of `cross_asset_research_trades`, with the columns that the report
reads. -/
structure ResearchTradeRow where
  runId : Uuid
  tradeId : Uuid
  tradeIndex : Int
  symbol : String
  entryTime : DateTime
  netPnlPct : Decimal

structure RsV1DerivativesTradeContext where
  runId : Uuid
  tradeId : Uuid
  tradeIndex : Int
  symbol : String
  entryTime : DateTime
  netPnlPct : Decimal
  winner : Bool
  fundingRate : Option Decimal
  fundingZscore : Option Decimal
  fundingBucket : FundingBucket
  openInterest : Option Decimal
  oi24hChangePct : Option Decimal
  oi72hChangePct : Option Decimal
  price24hChangePct : Option Decimal
  priceOiRegime : PriceOiRegime
  longShortRatio : Option Decimal
  buySellRatio : Option Decimal

structure Aggregates where
  avg : Multiset Decimal → Decimal
  stddevPop : Multiset Decimal → Decimal

namespace MarketData
variable (data : MarketData) (symbol : String) (time : DateTime)

def fundingBy (row : DerivativesFundingRateInput) : Bool :=
  row.exchange = "binance" && row.symbol = symbol && row.fundingTime ≤ time

def openInterestBy (row : DerivativesOpenInterestInput) : Bool :=
  row.exchange = "binance" && row.symbol = symbol && row.period = "4h" && row.timestamp ≤ time

def positioningBy (metric : String) (row : DerivativesPositioningInput) : Bool :=
  row.exchange = "binance" && row.symbol = symbol && row.metric = metric && row.period = "4h" &&
    row.timestamp ≤ time

def openedBy (row : CandleRecord) : Bool :=
  row.exchange = "binance" && row.symbol = symbol && row.interval = "4h" && row.openTime ≤ time &&
    row.isClosed

def fundingRateAt : Option Decimal :=
  (data.fundingRates.latest (·.fundingTime) (fundingBy symbol time)).map (·.fundingRate)

def recentFundingRates : Multiset Decimal :=
  ((data.fundingRates.rows.filter fun row =>
    fundingBy symbol time row && time - hours (24 * 90) ≤ row.fundingTime).map (·.fundingRate) :
      List Decimal)

def fundingZscoreAt (aggregates : Aggregates) : Option Decimal :=
  let rates := data.recentFundingRates symbol time
  if 20 ≤ rates.card ∧ 0 < aggregates.stddevPop rates then
    (data.fundingRateAt symbol time).map fun rate =>
      (rate - aggregates.avg rates) / aggregates.stddevPop rates
  else none

def openInterestAt : Option Decimal :=
  (data.openInterest.latest (·.timestamp) (openInterestBy symbol time)).map (·.openInterest)

def positioningAt (metric : String) : Option DerivativesPositioningInput :=
  data.positioning.latest (·.timestamp) (positioningBy symbol time metric)

def closeAt : Option Decimal :=
  (data.candles.latest (·.openTime) (openedBy symbol time)).map (·.close)

end MarketData

def changePct (now before : Option Decimal) : Option Decimal :=
  match now, before with
  | some now, some before => if before ≠ 0 then some ((now - before) / before * 100) else none
  | _, _ => none

/-- A row of the report's query for a trade, as it is mapped. -/
def tradeContext (aggregates : Aggregates) (data : MarketData) (trade : ResearchTradeRow) :
    RsV1DerivativesTradeContext :=
  let symbol := trade.symbol
  let entry := trade.entryTime
  let fundingRate := data.fundingRateAt symbol entry
  let fundingZscore := data.fundingZscoreAt symbol entry aggregates
  let openInterest := data.openInterestAt symbol entry
  let oi24hChangePct := changePct openInterest (data.openInterestAt symbol (entry - hours 24))
  let price24hChangePct :=
    changePct (data.closeAt symbol entry) (data.closeAt symbol (entry - hours 24))
  { runId := trade.runId
    tradeId := trade.tradeId
    tradeIndex := trade.tradeIndex
    symbol := symbol
    entryTime := entry
    netPnlPct := trade.netPnlPct
    winner := 0 < trade.netPnlPct
    fundingRate := fundingRate
    fundingZscore := fundingZscore
    fundingBucket := .classify fundingRate fundingZscore
    openInterest := openInterest
    oi24hChangePct := oi24hChangePct
    oi72hChangePct := changePct openInterest (data.openInterestAt symbol (entry - hours 72))
    price24hChangePct := price24hChangePct
    priceOiRegime := .classify price24hChangePct oi24hChangePct
    longShortRatio := (data.positioningAt symbol entry "global-long-short").bind (·.longShortRatio)
    buySellRatio := (data.positioningAt symbol entry "taker-buy-sell").bind (·.buySellRatio) }

/-- The data sets have the same rows up to the time. A candle counts when it has
closed. -/
structure SameUntil (time : DateTime) (first second : MarketData) : Prop where
  fundingRates : ∀ row, row.fundingTime ≤ time →
    (row ∈ first.fundingRates.rows ↔ row ∈ second.fundingRates.rows)
  openInterest : ∀ row, row.timestamp ≤ time →
    (row ∈ first.openInterest.rows ↔ row ∈ second.openInterest.rows)
  positioning : ∀ row, row.timestamp ≤ time →
    (row ∈ first.positioning.rows ↔ row ∈ second.positioning.rows)
  candles : ∀ row, row.isClosed → row.closeTime ≤ time →
    (row ∈ first.candles.rows ↔ row ∈ second.candles.rows)

section Agreement
variable {first second : MarketData} {symbol metric : String} {time entry : DateTime}
  {aggregates : Aggregates}

theorem sub_hours_le (entry : Int) {count : Int} (hCount : 0 ≤ count) :
    entry - hours count ≤ entry := by
  unfold hours DateTime.seconds
  omega

theorem day_before_closes (entry : Int) : entry - hours 24 + hours 4 ≤ entry := by
  unfold hours DateTime.seconds
  omega

section
variable (hSame : SameUntil entry first second) (hTime : time ≤ entry)
include hSame hTime

open MarketData

theorem fundingRateAt_eq : first.fundingRateAt symbol time = second.fundingRateAt symbol time := by
  unfold fundingRateAt
  rw [Table.latest_congr]
  · intro row hRow
    simp only [fundingBy, Bool.and_eq_true, decide_eq_true_eq] at hRow
    exact hSame.fundingRates row (hRow.2.trans hTime)
  · intro row other hRow hOther hTied
    simp only [fundingBy, Bool.and_eq_true, decide_eq_true_eq] at hRow hOther
    simp only [DerivativesFundingRateInput.key, hRow.1, hOther.1, hTied]

theorem fundingZscoreAt_eq :
    first.fundingZscoreAt symbol time aggregates = second.fundingZscoreAt symbol time aggregates := by
  have hRates : first.recentFundingRates symbol time = second.recentFundingRates symbol time := by
    refine Multiset.coe_eq_coe.mpr ((Table.perm_filter fun row hRow => ?_).map _)
    simp only [fundingBy, Bool.and_eq_true, decide_eq_true_eq] at hRow
    exact hSame.fundingRates row (hRow.1.2.trans hTime)
  simp only [fundingZscoreAt, hRates, fundingRateAt_eq hSame hTime]

theorem openInterestAt_eq :
    first.openInterestAt symbol time = second.openInterestAt symbol time := by
  unfold openInterestAt
  rw [Table.latest_congr]
  · intro row hRow
    simp only [openInterestBy, Bool.and_eq_true, decide_eq_true_eq] at hRow
    exact hSame.openInterest row (hRow.2.trans hTime)
  · intro row other hRow hOther hTied
    simp only [openInterestBy, Bool.and_eq_true, decide_eq_true_eq] at hRow hOther
    simp only [DerivativesOpenInterestInput.key, hRow.1, hOther.1, hTied]

theorem positioningAt_eq :
    first.positioningAt symbol time metric = second.positioningAt symbol time metric := by
  unfold positioningAt
  rw [Table.latest_congr]
  · intro row hRow
    simp only [positioningBy, Bool.and_eq_true, decide_eq_true_eq] at hRow
    exact hSame.positioning row (hRow.2.trans hTime)
  · intro row other hRow hOther hTied
    simp only [positioningBy, Bool.and_eq_true, decide_eq_true_eq] at hRow hOther
    simp only [DerivativesPositioningInput.key, hRow.1, hOther.1, hTied]

end

theorem closeAt_eq (hSame : SameUntil entry first second)
    (hFirst : ∀ row ∈ first.candles.rows, MarketData.openedBy symbol time row →
      row.closeTime ≤ entry)
    (hSecond : ∀ row ∈ second.candles.rows, MarketData.openedBy symbol time row →
      row.closeTime ≤ entry) :
    first.closeAt symbol time = second.closeAt symbol time := by
  unfold MarketData.closeAt
  rw [Table.latest_congr]
  · intro row hRow
    have hClosed : row.isClosed := by
      simp only [MarketData.openedBy, Bool.and_eq_true, decide_eq_true_eq] at hRow
      exact hRow.2
    constructor
    · intro hMem
      exact (hSame.candles row hClosed (hFirst row hMem hRow)).mp hMem
    · intro hMem
      exact (hSame.candles row hClosed (hSecond row hMem hRow)).mpr hMem
  · intro row other hRow hOther hTied
    simp only [MarketData.openedBy, Bool.and_eq_true, decide_eq_true_eq] at hRow hOther
    simp only [CandleRecord.key, hRow.1.1, hOther.1.1, hTied]

theorem closed_of_openedDayBefore (data : MarketData) (entry : DateTime) :
    ∀ row ∈ data.candles.rows, MarketData.openedBy symbol (entry - hours 24) row →
      row.closeTime ≤ entry := by
  intro row hRow hOpened
  simp only [MarketData.openedBy, Bool.and_eq_true, decide_eq_true_eq] at hOpened
  have hClose := data.withinInterval row hRow hOpened.1.1.2
  exact (hClose.trans (Int.add_le_add_right hOpened.1.2 _)).trans (day_before_closes entry)

theorem changePct_eq_iff {now now' before : Option Decimal} :
    changePct now before = changePct now' before ↔ now = now' ∨ ∀ value ∈ before, value = 0 := by
  cases before with
  | none => simp [changePct]
  | some before =>
    by_cases hZero : before = 0
    · cases now <;> cases now' <;> simp [changePct, hZero]
    · cases now <;> cases now' <;> simp [changePct, hZero]

end Agreement

/-- Of two data sets that agree on what was known at the entry, a trade has one
context if and only if the latest four-hour candle that has opened by the entry
has one close in both, or there is no close a day before to compare it with. -/
theorem trade_context_known_iff (aggregates : Aggregates) (trade : ResearchTradeRow)
    (first second : MarketData) (hSame : SameUntil trade.entryTime first second) :
    tradeContext aggregates first trade = tradeContext aggregates second trade ↔
      first.closeAt trade.symbol trade.entryTime = second.closeAt trade.symbol trade.entryTime ∨
        ∀ before ∈ first.closeAt trade.symbol (trade.entryTime - hours 24), before = 0 := by
  have hBefore : first.closeAt trade.symbol (trade.entryTime - hours 24) =
      second.closeAt trade.symbol (trade.entryTime - hours 24) :=
    closeAt_eq hSame (closed_of_openedDayBefore first _) (closed_of_openedDayBefore second _)
  rw [← changePct_eq_iff]
  constructor
  · intro hContext
    have hPrice := congrArg (·.price24hChangePct) hContext
    simp only [tradeContext, ← hBefore] at hPrice
    exact hPrice
  · intro hPrice
    simp only [tradeContext, ← hBefore, hPrice, fundingRateAt_eq hSame le_rfl,
      fundingZscoreAt_eq hSame le_rfl, openInterestAt_eq hSame le_rfl,
      openInterestAt_eq hSame (sub_hours_le trade.entryTime (by decide : (0 : Int) ≤ 24)),
      openInterestAt_eq hSame (sub_hours_le trade.entryTime (by decide : (0 : Int) ≤ 72)),
      positioningAt_eq hSame le_rfl]

def sampleFourHours (openTime : DateTime) (close : Decimal) : CandleRecord where
  id := ⟨1⟩
  exchange := "binance"
  symbol := "BTCUSDT"
  interval := "4h"
  openTime := openTime
  closeTime := openTime + hours 4
  «open» := 100
  high := 200
  low := 50
  close := close
  volume := 1
  quoteVolume := none
  tradeCount := 1
  isClosed := true
  createdAt := 0
  updatedAt := 0

def sampleData (openTime : DateTime) (hOpen : openTime ≠ hours (-24)) (close : Decimal) :
    MarketData where
  fundingRates := .empty
  openInterest := .empty
  positioning := .empty
  candles := ⟨[sampleFourHours (hours (-24)) 100, sampleFourHours openTime close], by
    simp [CandleRecord.key, sampleFourHours, hOpen.symm]⟩
  withinInterval := by
    intro row hRow _
    simp only [mem_cons, not_mem_nil, or_false] at hRow
    rcases hRow with rfl | rfl
    · exact le_rfl
    · exact le_rfl

theorem sameUntil_sampleData {openTime : DateTime} (hOpen : openTime ≠ hours (-24))
    {close close' : Decimal} (hLate : (0 : DateTime) < openTime + hours 4) :
    SameUntil 0 (sampleData openTime hOpen close) (sampleData openTime hOpen close') where
  fundingRates := fun _ _ => Iff.rfl
  openInterest := fun _ _ => Iff.rfl
  positioning := fun _ _ => Iff.rfl
  candles := by
    intro row _ hClosed
    have hOther (other : Decimal) : row ≠ sampleFourHours openTime other := by
      rintro rfl
      exact absurd hClosed (not_le.mpr hLate)
    simp [sampleData, hOther]

def sampleTradeRow : ResearchTradeRow := ⟨⟨1⟩, ⟨2⟩, 0, "BTCUSDT", 0, 1⟩

/-- Candles that open after the entry do not matter. -/
theorem trade_context_known_sample :
    tradeContext ⟨fun _ => 0, fun _ => 0⟩ (sampleData (hours 1) (by decide) 110) sampleTradeRow =
      tradeContext ⟨fun _ => 0, fun _ => 0⟩ (sampleData (hours 1) (by decide) 120) sampleTradeRow :=
  (trade_context_known_iff _ sampleTradeRow _ _
    (sameUntil_sampleData (by decide) (by decide))).mpr (.inl (by decide +kernel))

/-- The close of the candle that opens at the entry is in the context. -/
theorem trade_context_sees_open_candle :
    ¬∀ aggregates trade first second, SameUntil trade.entryTime first second →
      tradeContext aggregates first trade = tradeContext aggregates second trade := by
  intro hKnown
  have hContext := hKnown ⟨fun _ => 0, fun _ => 0⟩ sampleTradeRow
    (sampleData (hours 0) (by decide) 110) (sampleData (hours 0) (by decide) 120)
    (sameUntil_sampleData (by decide) (by decide))
  have hPrice := congrArg (·.price24hChangePct) hContext
  exact absurd hPrice (by decide +kernel)

end AegisQuant.Market
