import AegisQuant.Core.Basic
import AegisQuant.Library.KeyedText
import AegisQuant.Library.Run
import Mathlib.Algebra.Group.Prod
import Mathlib.Algebra.Order.BigOperators.Group.List
import Mathlib.Algebra.Order.Field.Basic
import Mathlib.Data.Prod.Lex
import Mathlib.Data.String.Basic
import Mathlib.Tactic.Linarith

/-! Microstructure metrics of a futures stream. Book tickers, depth snapshots,
aggregate trades and forced orders are added up in buckets of one symbol and one
span of seconds, and each bucket becomes a row of its spread, its imbalance and
its liquidity. -/
namespace AegisQuant.Market
open KeyedText List Transition

structure DepthLevel where
  price : Decimal
  qty : Decimal
  deriving DecidableEq

/-- The best prices and quantities of a symbol, as the last message stated them. -/
structure SymbolState where
  bestBid : Option DepthLevel := none
  bestAsk : Option DepthLevel := none

/-- What a decoded message says; the sides and symbols are in upper case. -/
inductive Observation where
  | bookTicker (symbol : String) (bid ask : DepthLevel)
  | depth (symbol : String) (bids asks : List DepthLevel)
  | aggregateTrade (symbol : String) (price quantity : Decimal) (buyerIsMaker : Bool)
  | forceOrder (symbol side : String) (price quantity : Decimal)

/-- The trades and liquidations of a bucket, which its row of liquidity repeats. -/
structure TakerFlow where
  aggressiveBuyNotional : Decimal := 0
  aggressiveSellNotional : Decimal := 0
  aggressiveBuyCount : Nat := 0
  aggressiveSellCount : Nat := 0
  sweepBuyCount : Nat := 0
  sweepSellCount : Nat := 0
  liquidationBuyCount : Nat := 0
  liquidationSellCount : Nat := 0
  liquidationBuyNotional : Decimal := 0
  liquidationSellNotional : Decimal := 0

structure BucketAccumulator extends TakerFlow where
  bucketStart : DateTime
  bestBidPrice : Option Decimal := none
  bestAskPrice : Option Decimal := none
  midPrice : Option Decimal := none
  spreadAbs : Option Decimal := none
  spreadBps : Option Decimal := none
  spreadBpsSum : Decimal := 0
  spreadHighBps : Option Decimal := none
  spreadLowBps : Option Decimal := none
  updateCount : Nat := 0
  lockedCount : Nat := 0
  crossedCount : Nat := 0
  bids : List DepthLevel := []
  asks : List DepthLevel := []

namespace BucketAccumulator
variable (bucket : BucketAccumulator)

def recordSpread (bestBidPrice bestAskPrice : Decimal) : BucketAccumulator :=
  let midPrice := (bestBidPrice + bestAskPrice) / 2
  let spreadAbs := bestAskPrice - bestBidPrice
  let spreadBps := if 0 < midPrice then spreadAbs / midPrice * 10000 else 0
  { bucket with
    bestBidPrice := some bestBidPrice
    bestAskPrice := some bestAskPrice
    midPrice := some midPrice
    spreadAbs := some spreadAbs
    spreadBps := some spreadBps
    spreadBpsSum := bucket.spreadBpsSum + spreadBps
    spreadHighBps := some ((bucket.spreadHighBps.map (max · spreadBps)).getD spreadBps)
    spreadLowBps := some ((bucket.spreadLowBps.map (min · spreadBps)).getD spreadBps)
    updateCount := bucket.updateCount + 1
    lockedCount := bucket.lockedCount + if spreadAbs = 0 then 1 else 0
    crossedCount := bucket.crossedCount + if spreadAbs < 0 then 1 else 0 }

def recordDepth (bids asks : List DepthLevel) : BucketAccumulator :=
  { bucket with bids := bids, asks := asks }

/-- A trade sweeps a side if it takes at least the best quantity at the best
price or beyond it. -/
def recordTrade (state : SymbolState) (price quantity : Decimal) (buyerIsMaker : Bool) :
    BucketAccumulator :=
  if buyerIsMaker then
    { bucket with
      aggressiveSellNotional := bucket.aggressiveSellNotional + price * quantity
      aggressiveSellCount := bucket.aggressiveSellCount + 1
      sweepSellCount := bucket.sweepSellCount +
        if state.bestBid.any fun bid => price ≤ bid.price && bid.qty ≤ quantity then 1 else 0 }
  else
    { bucket with
      aggressiveBuyNotional := bucket.aggressiveBuyNotional + price * quantity
      aggressiveBuyCount := bucket.aggressiveBuyCount + 1
      sweepBuyCount := bucket.sweepBuyCount +
        if state.bestAsk.any fun ask => ask.price ≤ price && ask.qty ≤ quantity then 1 else 0 }

def recordLiquidation (side : String) (notional : Decimal) : BucketAccumulator :=
  match side with
  | "BUY" =>
    { bucket with
      liquidationBuyCount := bucket.liquidationBuyCount + 1
      liquidationBuyNotional := bucket.liquidationBuyNotional + notional }
  | "SELL" =>
    { bucket with
      liquidationSellCount := bucket.liquidationSellCount + 1
      liquidationSellNotional := bucket.liquidationSellNotional + notional }
  | _ => bucket

end BucketAccumulator

/-- Keys are compared as they are ordered. -/
instance : BEq (String ×ₗ DateTime) := @instBEqOfDecidableEq _ LinearOrder.toDecidableEq

structure MicrostructureAggregator where
  exchange : String
  marketType : String
  symbols : List String
  bucketSeconds : Int
  symbolState : String → SymbolState := fun _ => {}
  buckets : List ((String ×ₗ DateTime) × BucketAccumulator) := []

/-- A bucket that would start before the range of `chrono` starts at the second itself. -/
def floorToBucket (timestamp : DateTime) (bucketSeconds : Int) : DateTime :=
  let seconds := timestamp / 1000000000
  let bucket := seconds - seconds % bucketSeconds
  DateTime.seconds (if -8334601228800 ≤ bucket then bucket else seconds)

namespace MicrostructureAggregator
variable (aggregator : MicrostructureAggregator)

def bucketKey (symbol : String) (time : DateTime) : String ×ₗ DateTime :=
  toLex (symbol, floorToBucket time aggregator.bucketSeconds)

/-- The bucket of a key, which is new unless it is there. -/
def bucketAt (key : String ×ₗ DateTime) : BucketAccumulator :=
  (aggregator.buckets.lookup key).getD { bucketStart := (ofLex key).2 }

def updateBucket (symbol : String) (time : DateTime)
    (record : BucketAccumulator → BucketAccumulator) : MicrostructureAggregator :=
  let key := aggregator.bucketKey symbol time
  { aggregator with
    buckets := KeyedText.insert key (record (aggregator.bucketAt key)) aggregator.buckets }

def setBest (symbol : String) (bid ask : DepthLevel) : MicrostructureAggregator :=
  { aggregator with
    symbolState := Function.update aggregator.symbolState symbol ⟨some bid, some ask⟩ }

/-- A snapshot without bids or without asks is passed over. -/
def apply (time : DateTime) : Observation → MicrostructureAggregator
  | .bookTicker symbol bid ask => (aggregator.setBest symbol bid ask).updateBucket symbol time
      (·.recordSpread bid.price ask.price)
  | .depth symbol (bid :: bids) (ask :: asks) =>
    (aggregator.setBest symbol bid ask).updateBucket symbol time fun bucket =>
      (bucket.recordSpread bid.price ask.price).recordDepth (bid :: bids) (ask :: asks)
  | .depth _ _ _ => aggregator
  | .aggregateTrade symbol price quantity buyerIsMaker => aggregator.updateBucket symbol time
      (·.recordTrade (aggregator.symbolState symbol) price quantity buyerIsMaker)
  | .forceOrder symbol side price quantity => aggregator.updateBucket symbol time
      (·.recordLiquidation side (price * quantity))

end MicrostructureAggregator

/-- The columns that every row starts with. -/
structure MicrostructureBucketId where
  exchange : String
  marketType : String
  symbol : String
  bucketStart : DateTime
  bucketSeconds : Int

structure MicrostructureSpreadMetricInput extends MicrostructureBucketId where
  bestBidPrice : Decimal
  bestAskPrice : Decimal
  midPrice : Decimal
  spreadAbs : Decimal
  spreadBps : Decimal
  spreadAvgBps : Decimal
  spreadHighBps : Decimal
  spreadLowBps : Decimal
  updateCount : Nat
  lockedCount : Nat
  crossedCount : Nat

structure MicrostructureImbalanceMetricInput extends MicrostructureBucketId where
  depthLevels : Nat
  bidQty : Decimal
  askQty : Decimal
  bidNotional : Decimal
  askNotional : Decimal
  qtyImbalance : Decimal
  notionalImbalance : Decimal
  depthSkewBps : Decimal

structure MicrostructureLiquidityMetricInput extends MicrostructureBucketId, TakerFlow where
  bidNotional10bps : Decimal
  askNotional10bps : Decimal
  bidNotional25bps : Decimal
  askNotional25bps : Decimal
  bidNotional50bps : Decimal
  askNotional50bps : Decimal
  liquidityVacuumScore : Decimal

def sumQty (levels : List DepthLevel) : Decimal := (levels.map (·.qty)).sum

def sumNotional (levels : List DepthLevel) : Decimal :=
  (levels.map fun level => level.price * level.qty).sum

def ratioDifference (left right : Decimal) : Decimal :=
  if left + right ≤ 0 then 0 else (left - right) / (left + right)

def sideNotionalWithinBps (levels : List DepthLevel) (midPrice bps : Decimal) (isBid : Bool) :
    Decimal :=
  if midPrice ≤ 0 then 0
  else sumNotional (levels.filter fun level =>
    if isBid then level.price ≤ midPrice && (midPrice - level.price) / midPrice ≤ bps / 10000
    else midPrice ≤ level.price && (level.price - midPrice) / midPrice ≤ bps / 10000)

def liquidityVacuumScore (inner outer : Decimal) : Decimal :=
  if outer ≤ 0 then 10000 else max 0 ((1 - inner / outer) * 10000)

namespace BucketAccumulator
variable (bucket : BucketAccumulator) (id : MicrostructureBucketId)

def spreadMetric : Option MicrostructureSpreadMetricInput := do
  guard (bucket.updateCount ≠ 0)
  return {
    toMicrostructureBucketId := id
    bestBidPrice := ← bucket.bestBidPrice
    bestAskPrice := ← bucket.bestAskPrice
    midPrice := ← bucket.midPrice
    spreadAbs := ← bucket.spreadAbs
    spreadBps := ← bucket.spreadBps
    spreadAvgBps := bucket.spreadBpsSum / bucket.updateCount
    spreadHighBps := ← bucket.spreadHighBps
    spreadLowBps := ← bucket.spreadLowBps
    updateCount := bucket.updateCount
    lockedCount := bucket.lockedCount
    crossedCount := bucket.crossedCount }

def imbalanceMetric : Option MicrostructureImbalanceMetricInput :=
  if bucket.bids.isEmpty || bucket.asks.isEmpty then none
  else
    let notionalImbalance := ratioDifference (sumNotional bucket.bids) (sumNotional bucket.asks)
    some {
      toMicrostructureBucketId := id
      notionalImbalance
      depthLevels := min bucket.bids.length bucket.asks.length
      bidQty := sumQty bucket.bids
      askQty := sumQty bucket.asks
      bidNotional := sumNotional bucket.bids
      askNotional := sumNotional bucket.asks
      qtyImbalance := ratioDifference (sumQty bucket.bids) (sumQty bucket.asks)
      depthSkewBps := notionalImbalance * 10000 }

def liquidityMetric : MicrostructureLiquidityMetricInput :=
  let midPrice := bucket.midPrice.getD
    (match bucket.bestBidPrice, bucket.bestAskPrice with
    | some bid, some ask => (bid + ask) / 2
    | _, _ => 0)
  let bid bps := sideNotionalWithinBps bucket.bids midPrice bps true
  let ask bps := sideNotionalWithinBps bucket.asks midPrice bps false
  { toMicrostructureBucketId := id
    toTakerFlow := bucket.toTakerFlow
    bidNotional10bps := bid 10
    askNotional10bps := ask 10
    bidNotional25bps := bid 25
    askNotional25bps := ask 25
    bidNotional50bps := bid 50
    askNotional50bps := ask 50
    liquidityVacuumScore := liquidityVacuumScore (bid 25 + ask 25) (bid 50 + ask 50) }

end BucketAccumulator

structure MicrostructurePersistBatch where
  spread : List MicrostructureSpreadMetricInput
  imbalance : List MicrostructureImbalanceMetricInput
  liquidity : List MicrostructureLiquidityMetricInput

namespace MicrostructureAggregator
variable (aggregator : MicrostructureAggregator)

/-- The buckets in the order in which the batch goes through them. -/
def requestedBuckets : List ((String ×ₗ DateTime) × BucketAccumulator) :=
  aggregator.symbols.flatMap fun symbol =>
    aggregator.buckets.filter fun entry => (ofLex entry.1).1 = symbol

def bucketId (entry : (String ×ₗ DateTime) × BucketAccumulator) : MicrostructureBucketId :=
  ⟨aggregator.exchange, aggregator.marketType, (ofLex entry.1).1, entry.2.bucketStart,
    aggregator.bucketSeconds⟩

def buildPersistBatch : MicrostructurePersistBatch where
  spread := aggregator.requestedBuckets.filterMap fun entry =>
    entry.2.spreadMetric (aggregator.bucketId entry)
  imbalance := aggregator.requestedBuckets.filterMap fun entry =>
    entry.2.imbalanceMetric (aggregator.bucketId entry)
  liquidity := aggregator.requestedBuckets.map fun entry =>
    entry.2.liquidityMetric (aggregator.bucketId entry)

end MicrostructureAggregator

namespace Observation

def symbol : Observation → String
  | .bookTicker symbol .. | .depth symbol .. | .aggregateTrade symbol .. | .forceOrder symbol .. =>
    symbol

/-- What an observation of a symbol in this state records in its bucket. -/
def record (state : SymbolState) (bucket : BucketAccumulator) : Observation → BucketAccumulator
  | .bookTicker _ bid ask => bucket.recordSpread bid.price ask.price
  | .depth _ (bid :: bids) (ask :: asks) =>
    (bucket.recordSpread bid.price ask.price).recordDepth (bid :: bids) (ask :: asks)
  | .depth .. => bucket
  | .aggregateTrade _ price quantity buyerIsMaker =>
    bucket.recordTrade state price quantity buyerIsMaker
  | .forceOrder _ side price quantity => bucket.recordLiquidation side (price * quantity)

theorem record_bucketStart (state : SymbolState) (bucket : BucketAccumulator)
    (observation : Observation) :
    (observation.record state bucket).bucketStart = bucket.bucketStart := by
  unfold record
  split
  · rfl
  · rfl
  · rfl
  · unfold BucketAccumulator.recordTrade
    split <;> rfl
  · unfold BucketAccumulator.recordLiquidation
    split <;> rfl

end Observation

namespace MicrostructureAggregator
variable {aggregator : MicrostructureAggregator} {time : DateTime} {observation : Observation}
  {key : String ×ₗ DateTime}

theorem buckets_apply : let key := aggregator.bucketKey observation.symbol time
    let bucket := observation.record (aggregator.symbolState observation.symbol)
      (aggregator.bucketAt key)
    (aggregator.apply time observation).buckets = KeyedText.insert key bucket aggregator.buckets ∨
      (aggregator.apply time observation).buckets = aggregator.buckets ∧
        bucket = aggregator.bucketAt key := by
  match observation with
  | .depth _ [] _ | .depth _ (_ :: _) [] => exact .inr ⟨rfl, rfl⟩
  | .bookTicker .. | .depth _ (_ :: _) (_ :: _) | .aggregateTrade .. | .forceOrder .. =>
    exact .inl rfl

theorem apply_frame : (aggregator.apply time observation).symbols = aggregator.symbols ∧
    (aggregator.apply time observation).bucketSeconds = aggregator.bucketSeconds := by
  match observation with
  | .bookTicker .. | .depth _ [] _ | .depth _ (_ :: _) [] | .depth _ (_ :: _) (_ :: _)
  | .aggregateTrade .. | .forceOrder .. => exact ⟨rfl, rfl⟩

theorem bucketAt_apply : (aggregator.apply time observation).bucketAt key =
    if aggregator.bucketKey observation.symbol time = key then
      observation.record (aggregator.symbolState observation.symbol) (aggregator.bucketAt key)
    else aggregator.bucketAt key := by
  split_ifs with hKey
  · subst hKey
    rcases buckets_apply with hInsert | ⟨hSame, hBucket⟩
    · rw [bucketAt, hInsert, lookup_insert_self, Option.getD_some]
    · rw [hBucket, bucketAt, hSame, bucketAt]
  · rcases buckets_apply with hInsert | ⟨hSame, -⟩
    · rw [bucketAt, hInsert, lookup_insert_of_ne (Ne.symm hKey), bucketAt]
    · rw [bucketAt, hSame, bucketAt]

/-- What holds of a new bucket and is kept by every record holds of every bucket. -/
theorem forall_apply {P : String ×ₗ DateTime → BucketAccumulator → Prop}
    (hNew : ∀ key, P key { bucketStart := (ofLex key).2 })
    (hRecord : ∀ key state bucket, P key bucket → P key (observation.record state bucket))
    (hAll : ∀ entry ∈ aggregator.buckets, P entry.1 entry.2) :
    ∀ entry ∈ (aggregator.apply time observation).buckets, P entry.1 entry.2 := by
  have hBucket (key : String ×ₗ DateTime) : P key (aggregator.bucketAt key) := by
    unfold bucketAt
    cases hFound : aggregator.buckets.lookup key with
    | none => exact hNew key
    | some bucket =>
      obtain ⟨before, after, hBuckets, -⟩ := lookup_eq_some_iff.mp hFound
      exact hAll (key, bucket) (hBuckets ▸ mem_append_right _ mem_cons_self)
  rcases buckets_apply with hInsert | ⟨hSame, -⟩
  · intro entry hEntry
    rw [hInsert] at hEntry
    rcases mem_insert hEntry with rfl | hOld
    · exact hRecord _ _ _ (hBucket _)
    · exact hAll entry hOld
  · rwa [hSame]

/-- The buckets are in the order of their keys, and each starts where its key says. -/
structure Keyed (aggregator : MicrostructureAggregator) : Prop where
  sorted : aggregator.buckets.Pairwise (·.1 < ·.1)
  starts : ∀ entry ∈ aggregator.buckets, entry.2.bucketStart = (ofLex entry.1).2

theorem Keyed.apply (keyed : aggregator.Keyed) : (aggregator.apply time observation).Keyed where
  sorted := by
    rcases buckets_apply with hInsert | ⟨hSame, -⟩
    · rw [hInsert]
      exact sorted_insert keyed.sorted
    · rw [hSame]
      exact keyed.sorted
  starts := forall_apply (P := fun key bucket => bucket.bucketStart = (ofLex key).2)
    (fun _ => rfl) (fun _ _ _ hStart => (observation.record_bucketStart ..).trans hStart)
    keyed.starts

end MicrostructureAggregator

/-- What the updates keep of a bucket. Its spreads have either not begun, or
their sum lies between as many times the least and the greatest of them. -/
structure BucketSound (bucket : BucketAccumulator) : Prop where
  crossings : bucket.lockedCount + bucket.crossedCount ≤ bucket.updateCount
  spreads : bucket.updateCount = 0 ∧ bucket.spreadBpsSum = 0 ∧ bucket.spreadLowBps = none ∧
      bucket.spreadHighBps = none ∨
    ∃ low high, bucket.spreadLowBps = some low ∧ bucket.spreadHighBps = some high ∧
      bucket.updateCount * low ≤ bucket.spreadBpsSum ∧
        bucket.spreadBpsSum ≤ bucket.updateCount * high
  bids : ∀ level ∈ bucket.bids, 0 ≤ level.price ∧ 0 ≤ level.qty
  asks : ∀ level ∈ bucket.asks, 0 ≤ level.price ∧ 0 ≤ level.qty
  sweeps : bucket.sweepBuyCount ≤ bucket.aggressiveBuyCount ∧
    bucket.sweepSellCount ≤ bucket.aggressiveSellCount

namespace BucketSound
variable {bucket : BucketAccumulator} (sound : BucketSound bucket)
include sound

theorem recordSpread (bid ask : Decimal) : BucketSound (bucket.recordSpread bid ask) where
  crossings := by
    have hBefore := sound.crossings
    dsimp only [BucketAccumulator.recordSpread]
    split_ifs with hLocked hCrossed
    · exact absurd hLocked hCrossed.ne
    all_goals omega
  spreads := by
    dsimp only [BucketAccumulator.recordSpread]
    generalize (if 0 < (bid + ask) / 2 then (ask - bid) / ((bid + ask) / 2) * 10000 else 0) = bps
    refine .inr ⟨_, _, rfl, rfl, ?_⟩
    rcases sound.spreads with ⟨hCount, hSum, hLow, hHigh⟩ | ⟨low, high, hLow, hHigh, hLower, hUpper⟩
    · simp [hCount, hSum, hLow, hHigh]
    · have hCount : (0 : Decimal) ≤ bucket.updateCount := Nat.cast_nonneg _
      have hLeast := mul_le_mul_of_nonneg_left (min_le_left low bps) hCount
      have hGreatest := mul_le_mul_of_nonneg_left (le_max_left high bps) hCount
      rw [hLow, hHigh]
      simp only [Option.map_some, Option.getD_some, Nat.cast_add, Nat.cast_one, add_mul, one_mul]
      exact ⟨add_le_add (hLeast.trans hLower) (min_le_right low bps),
        add_le_add (hUpper.trans hGreatest) (le_max_right high bps)⟩
  bids := sound.bids
  asks := sound.asks
  sweeps := sound.sweeps

theorem recordDepth {bids asks : List DepthLevel}
    (hLevels : ∀ level ∈ bids ++ asks, 0 ≤ level.price ∧ 0 ≤ level.qty) :
    BucketSound (bucket.recordDepth bids asks) where
  crossings := sound.crossings
  spreads := sound.spreads
  bids := (forall_mem_append.mp hLevels).1
  asks := (forall_mem_append.mp hLevels).2
  sweeps := sound.sweeps

theorem recordTrade (state : SymbolState) (price quantity : Decimal) (buyerIsMaker : Bool) :
    BucketSound (bucket.recordTrade state price quantity buyerIsMaker) := by
  have hSweeps := sound.sweeps
  unfold BucketAccumulator.recordTrade
  split
  all_goals
    refine ⟨sound.crossings, sound.spreads, sound.bids, sound.asks, ?_⟩
    dsimp only
    split <;> omega

theorem recordLiquidation (side : String) (notional : Decimal) :
    BucketSound (bucket.recordLiquidation side notional) := by
  unfold BucketAccumulator.recordLiquidation
  split <;> exact ⟨sound.crossings, sound.spreads, sound.bids, sound.asks, sound.sweeps⟩

end BucketSound

/-- A depth snapshot states no negative price or quantity. -/
def Observation.LevelsNonneg : Observation → Prop
  | .depth _ bids asks => ∀ level ∈ bids ++ asks, 0 ≤ level.price ∧ 0 ≤ level.qty
  | _ => True

structure SpreadRowSound (row : MicrostructureSpreadMetricInput) : Prop where
  crossings : row.lockedCount + row.crossedCount ≤ row.updateCount
  average : row.spreadLowBps ≤ row.spreadAvgBps ∧ row.spreadAvgBps ≤ row.spreadHighBps

structure ImbalanceRowSound (row : MicrostructureImbalanceMetricInput) : Prop where
  qty : |row.qtyImbalance| ≤ 1
  notional : |row.notionalImbalance| ≤ 1
  skew : |row.depthSkewBps| ≤ 10000

structure LiquidityRowSound (row : MicrostructureLiquidityMetricInput) : Prop where
  bids : row.bidNotional10bps ≤ row.bidNotional25bps ∧ row.bidNotional25bps ≤ row.bidNotional50bps
  asks : row.askNotional10bps ≤ row.askNotional25bps ∧ row.askNotional25bps ≤ row.askNotional50bps
  score : 0 ≤ row.liquidityVacuumScore ∧ row.liquidityVacuumScore ≤ 10000
  sweeps : row.sweepBuyCount ≤ row.aggressiveBuyCount ∧
    row.sweepSellCount ≤ row.aggressiveSellCount

section Levels
variable {levels : List DepthLevel} (hLevels : ∀ level ∈ levels, 0 ≤ level.price ∧ 0 ≤ level.qty)
include hLevels

theorem sumNotional_nonneg : 0 ≤ sumNotional levels :=
  sum_nonneg (forall_mem_map.mpr fun level hLevel =>
    mul_nonneg (hLevels level hLevel).1 (hLevels level hLevel).2)

theorem sumQty_nonneg : 0 ≤ sumQty levels :=
  sum_nonneg (forall_mem_map.mpr fun level hLevel => (hLevels level hLevel).2)

theorem sideNotionalWithinBps_nonneg (midPrice bps : Decimal) (isBid : Bool) :
    0 ≤ sideNotionalWithinBps levels midPrice bps isBid := by
  unfold sideNotionalWithinBps
  split
  · exact le_rfl
  · exact sumNotional_nonneg fun level hLevel => hLevels level (mem_of_mem_filter hLevel)

/-- A wider band holds the levels of a narrower one. -/
theorem sideNotionalWithinBps_mono (midPrice : Decimal) {near far : Decimal} (hFar : near ≤ far)
    (isBid : Bool) : sideNotionalWithinBps levels midPrice near isBid ≤
      sideNotionalWithinBps levels midPrice far isBid := by
  have hBand : near / 10000 ≤ far / 10000 := div_le_div_of_nonneg_right hFar (by norm_num)
  unfold sideNotionalWithinBps
  split
  · exact le_rfl
  · refine Sublist.sum_le_sum (Sublist.map _ (monotone_filter_right levels fun level hNear => ?_))
      (forall_mem_map.mpr fun level hLevel => ?_)
    · cases isBid
      all_goals
        simp only [Bool.false_eq_true, if_true, if_false, Bool.and_eq_true,
          decide_eq_true_eq] at hNear ⊢
        exact ⟨hNear.1, hNear.2.trans hBand⟩
    · obtain ⟨hPrice, hQty⟩ := hLevels level (mem_of_mem_filter hLevel)
      exact mul_nonneg hPrice hQty

end Levels

theorem abs_ratioDifference_le {left right : Decimal} (hLeft : 0 ≤ left) (hRight : 0 ≤ right) :
    |ratioDifference left right| ≤ 1 := by
  unfold ratioDifference
  split_ifs with hTotal
  · simp
  · rw [abs_le, le_div_iff₀ (not_le.mp hTotal), div_le_iff₀ (not_le.mp hTotal)]
    constructor <;> linarith

theorem liquidityVacuumScore_between {inner outer : Decimal} (hInner : 0 ≤ inner) :
    0 ≤ liquidityVacuumScore inner outer ∧ liquidityVacuumScore inner outer ≤ 10000 := by
  unfold liquidityVacuumScore
  split_ifs with hOuter
  · norm_num
  · have hRatio := div_nonneg hInner (not_le.mp hOuter).le
    exact ⟨le_max_left _ _, max_le (by norm_num) (by linarith)⟩

namespace BucketSound
variable {bucket : BucketAccumulator} (sound : BucketSound bucket) (id : MicrostructureBucketId)
include sound

theorem spreadMetric : ∀ row ∈ bucket.spreadMetric id, SpreadRowSound row := by
  intro row hRow
  simp only [BucketAccumulator.spreadMetric, Option.mem_def, Option.bind_eq_bind,
    Option.bind_eq_some_iff] at hRow
  obtain ⟨_, hGuard, _, -, _, -, _, -, _, -, _, -, high, hHigh, low, hLow, hRow⟩ := hRow
  have hUpdated : bucket.updateCount ≠ 0 := by
    by_contra hNone
    simp [guard, hNone] at hGuard
  cases hRow
  refine ⟨sound.crossings, ?_⟩
  rcases sound.spreads with ⟨hNone, -⟩ | ⟨low', high', hLow', hHigh', hLower, hUpper⟩
  · exact absurd hNone hUpdated
  · cases hLow'.symm.trans hLow
    cases hHigh'.symm.trans hHigh
    have hCount : (0 : Decimal) < bucket.updateCount :=
      Nat.cast_pos.mpr (Nat.pos_of_ne_zero hUpdated)
    rw [le_div_iff₀' hCount, div_le_iff₀' hCount]
    exact ⟨hLower, hUpper⟩

theorem imbalanceMetric : ∀ row ∈ bucket.imbalanceMetric id, ImbalanceRowSound row := by
  have hNotional := abs_ratioDifference_le (sumNotional_nonneg sound.bids) (sumNotional_nonneg sound.asks)
  intro row hRow
  unfold BucketAccumulator.imbalanceMetric at hRow
  split at hRow
  · cases hRow
  · cases hRow
    refine ⟨abs_ratioDifference_le (sumQty_nonneg sound.bids) (sumQty_nonneg sound.asks), hNotional, ?_⟩
    rw [abs_mul]
    norm_num
    linarith

theorem liquidityMetric : LiquidityRowSound (bucket.liquidityMetric id) := by
  refine ⟨⟨?_, ?_⟩, ⟨?_, ?_⟩, liquidityVacuumScore_between (add_nonneg ?_ ?_), sound.sweeps⟩
  · exact sideNotionalWithinBps_mono sound.bids _ (by norm_num) _
  · exact sideNotionalWithinBps_mono sound.bids _ (by norm_num) _
  · exact sideNotionalWithinBps_mono sound.asks _ (by norm_num) _
  · exact sideNotionalWithinBps_mono sound.asks _ (by norm_num) _
  · exact sideNotionalWithinBps_nonneg sound.bids ..
  · exact sideNotionalWithinBps_nonneg sound.asks ..

end BucketSound

theorem BucketSound.record {bucket : BucketAccumulator} (sound : BucketSound bucket)
    (state : SymbolState) {observation : Observation} (hNonneg : observation.LevelsNonneg) :
    BucketSound (observation.record state bucket) := by
  unfold Observation.record
  split
  · exact sound.recordSpread ..
  · exact (sound.recordSpread ..).recordDepth hNonneg
  · exact sound
  · exact sound.recordTrade ..
  · exact sound.recordLiquidation ..

/-- The aggregator after the observations that came before the deadline. -/
def collected (exchange marketType : String) (symbols : List String) (bucketSeconds : Int)
    (events : List (DateTime × Observation)) : MicrostructureAggregator :=
  run (fun aggregator event => aggregator.apply event.1 event.2)
    { exchange, marketType, symbols, bucketSeconds } events

section Collected
open MicrostructureAggregator
variable (exchange marketType : String) (symbols : List String) (bucketSeconds : Int)
  (events : List (DateTime × Observation))

theorem keyed_collected : (collected exchange marketType symbols bucketSeconds events).Keyed :=
  run_invariant (fun _ _ keyed => keyed.apply) events ⟨.nil, by simp⟩

theorem symbols_collected :
    (collected exchange marketType symbols bucketSeconds events).symbols = symbols :=
  run_invariant (I := fun aggregator : MicrostructureAggregator => aggregator.symbols = symbols)
    (fun _ _ hSymbols => apply_frame.1.trans hSymbols) events rfl

/-- The trades and liquidations by side, each with their notional. -/
abbrev Totals := (Nat × Decimal) × (Nat × Decimal) × (Nat × Decimal) × (Nat × Decimal)

def TakerFlow.totals (flow : TakerFlow) : Totals :=
  ((flow.aggressiveBuyCount, flow.aggressiveBuyNotional),
    (flow.aggressiveSellCount, flow.aggressiveSellNotional),
    (flow.liquidationBuyCount, flow.liquidationBuyNotional),
    flow.liquidationSellCount, flow.liquidationSellNotional)

def Observation.totals : Observation → Totals
  | .aggregateTrade _ price quantity buyerIsMaker =>
    if buyerIsMaker then (0, (1, price * quantity), 0) else ((1, price * quantity), 0)
  | .forceOrder _ "BUY" price quantity => (0, 0, (1, price * quantity), 0)
  | .forceOrder _ "SELL" price quantity => (0, 0, 0, 1, price * quantity)
  | _ => 0

theorem Observation.totals_record (state : SymbolState) (bucket : BucketAccumulator)
    (observation : Observation) : (observation.record state bucket).totals =
      bucket.totals + observation.totals := by
  unfold record
  split
  · exact (add_zero bucket.totals).symm
  · exact (add_zero bucket.totals).symm
  · exact (add_zero bucket.totals).symm
  · unfold BucketAccumulator.recordTrade totals
    dsimp only
    split <;> simp [TakerFlow.totals]
  · unfold BucketAccumulator.recordLiquidation totals
    split <;> simp_all [TakerFlow.totals]

theorem totals_run (aggregator : MicrostructureAggregator) (key : String ×ₗ DateTime) :
    ((run (fun aggregator event => aggregator.apply event.1 event.2) aggregator
      events).bucketAt key).totals = (aggregator.bucketAt key).totals +
        ((events.filter fun event => aggregator.bucketKey event.2.symbol event.1 = key).map
          (·.2.totals)).sum := by
  induction events generalizing aggregator with
  | nil => simp
  | cons event rest ih =>
    have hKey (symbol : String) (time : DateTime) :
        (aggregator.apply event.1 event.2).bucketKey symbol time =
          aggregator.bucketKey symbol time := by
      rw [bucketKey, apply_frame.2, bucketKey]
    simp only [run_cons, ih, hKey, bucketAt_apply, filter_cons]
    split_ifs <;> simp_all [Observation.totals_record, add_assoc]

/-- A bucket has one row of liquidity if and only if its symbol is requested once. -/
theorem microstructure_rows_once_iff :
    ((collected exchange marketType symbols bucketSeconds events).buildPersistBatch.liquidity.map
        fun row => (row.symbol, row.bucketStart)).Nodup ↔
      ∀ entry ∈ (collected exchange marketType symbols bucketSeconds events).buckets,
        symbols.count (ofLex entry.1).1 ≤ 1 := by
  set aggregator := collected exchange marketType symbols bucketSeconds events
  have hKeyed : aggregator.Keyed := keyed_collected ..
  have hRows : (aggregator.buildPersistBatch.liquidity.map fun row =>
      (row.symbol, row.bucketStart)) = (symbols.flatMap fun symbol =>
        (aggregator.buckets.map (·.1)).filter fun key => (ofLex key).1 = symbol).map ofLex := by
    have hSymbols : aggregator.symbols = symbols := symbols_collected ..
    simp only [buildPersistBatch, requestedBuckets, hSymbols, map_map, map_flatMap, filter_map]
    refine flatMap_congr fun symbol _ => map_congr_left fun entry hEntry => ?_
    exact Prod.ext rfl (hKeyed.starts entry (mem_of_mem_filter hEntry))
  have hNodup : (aggregator.buckets.map (·.1)).Nodup :=
    pairwise_map.mpr (hKeyed.sorted.imp ne_of_lt)
  rw [hRows, nodup_map_iff ofLex.injective, nodup_flatMap_filter hNodup, forall_mem_map]

end Collected

end AegisQuant.Market
