import Mathlib.Data.List.DropRight
import Mathlib.Algebra.Order.Ring.Rat

/-! Values shared by every crate: exact decimals, instants, identifiers and
the normalized text of enumerations and symbols. Decimal arithmetic is exact
rational arithmetic; only division can fail, as it panics on a zero divisor. -/
namespace AegisQuant
open List

abbrev Decimal := ℚ

/-- Nanoseconds since the Unix epoch. -/
abbrev DateTime := Int

def DateTime.seconds (count : Int) : Int := count * 1000000000

def DateTime.milliseconds (count : Int) : Int := count * 1000000

def DateTime.timestampMillis (time : DateTime) : Int := time / 1000000

structure Uuid where
  value : BitVec 128
  deriving DecidableEq, Repr

/-- The Unicode `White_Space` characters, which `str::trim` removes. -/
def isWhitespace (c : Char) : Bool :=
  (9 ≤ c.toNat && c.toNat ≤ 13) || c.toNat == 32 || c.toNat == 0x85 || c.toNat == 0xA0 ||
    c.toNat == 0x1680 || (0x2000 ≤ c.toNat && c.toNat ≤ 0x200A) || c.toNat == 0x2028 ||
    c.toNat == 0x2029 || c.toNat == 0x202F || c.toNat == 0x205F || c.toNat == 0x3000

def trim (text : String) : String :=
  String.ofList ((text.toList.dropWhile isWhitespace).reverse.dropWhile isWhitespace).reverse

def toAsciiUppercase (text : String) : String := String.ofList (text.toList.map Char.toUpper)

def toAsciiLowercase (text : String) : String := String.ofList (text.toList.map Char.toLower)

inductive CoreError where
  | emptySymbol
  | unsupportedStrategyId (value : String)
  | unsupportedStrategyMode (value : String)
  | unsupportedCandleInterval (value : String)
  | unsupportedSignalSide (value : String)
  | unsupportedPositionStatus (value : String)
  | unsupportedPositionSide (value : String)
  | unsupportedTestnetExecutionState (value : String)
  | unsupportedUserRole (value : String)
  | unsupportedUserStatus (value : String)
  | invalidSignalConfidence (value : Decimal)
  | invalidStrategyNotional
  | invalidStrategyMaxSignalAgeMs (value : Int)
  | emptyStrategySymbols
  | invalidRiskConfig (message : String)
  | emptyIdempotencyKey
  | invalidOrderQuantity
  | invalidLimitPrice
  | emptyClientOrderId
  | liveExchangeEnvironmentRejected
  | invalidExchangeQuantity
  | invalidExchangeNotional
  | missingExchangeQuantityOrNotional
  | missingExchangeLimitPrice
  | invalidExchangeLimitPrice
  | missingExchangeTimeInForce
  | invalidExchangeReconciliationLimit (value : Int)
  | exchangeReconciliationLimitTooHigh (value : Int)
  | invalidExchangeReconciliationStatusFilter
  | emptyCandleBackfillSymbol
  | invalidCandleBackfillTimeRange
  | invalidCandleBackfillEstimate
  | invalidMarketDataRepairMaxRanges
  | invalidCrossAssetResearchRequest (message : String)
  | invalidCrossAssetRobustnessMatrixRequest (message : String)
  | emptyBacktestStrategyId
  | emptyBacktestSymbol
  | emptyBacktestTimeframe
  | invalidBacktestTimeRange
  | invalidBacktestInitialCapital
  | invalidHoldingCandles
  | invalidBacktestBps (field : String)
  | emptyScheduledResearchJobName
  | invalidScheduledResearchJobInterval
  | invalidScheduledResearchJobMaxRuns
  | emptyStrategyExperimentStrategyId
  | emptyStrategyExperimentSymbol
  | emptyStrategyExperimentTimeframe
  | invalidStrategyExperimentTimeRange
  | invalidStrategyExperimentInitialCapital
  | emptyStrategyExperimentCandidates
  | invalidStrategyExperimentMaxRuns
  | emptyStrategyWalkForwardStrategyId
  | emptyStrategyWalkForwardSymbol
  | emptyStrategyWalkForwardTimeframe
  | invalidStrategyWalkForwardTimeRange
  | invalidStrategyWalkForwardWindowSize (field : String)
  | invalidStrategyWalkForwardStepSize
  | invalidStrategyWalkForwardInitialCapital
  | emptyStrategyWalkForwardCandidateLookback
  | invalidStrategyWalkForwardMinRequiredWindows
  deriving DecidableEq, Repr

/-- Why a computation does not return normally: a typed error, an `anyhow`
message, or the panic of a decimal division by zero. -/
inductive Fault where
  | core (error : CoreError)
  | message (text : String)
  | divisionByZero
  deriving DecidableEq, Repr

def checkedDiv (left right : Decimal) : Except Fault Decimal :=
  if right = 0 then .error .divisionByZero else .ok (left / right)

/-- Half to even, the rounding of `round_dp`. -/
def roundDp (places : Nat) (value : Decimal) : Decimal :=
  let scaled := value * 10 ^ places
  let floor := scaled.floor
  let rest := scaled - floor
  let rounded := if rest < 1 / 2 then floor
    else if 1 / 2 < rest then floor + 1
    else if floor % 2 = 0 then floor else floor + 1
  rounded / 10 ^ places

def normalizeSymbol (text : String) : String := toAsciiUppercase (trim text)

section Normalization

theorem toUpper_of_not_ascii {c : Char} (hLarge : 128 ≤ c.toNat) : c.toUpper = c := by
  unfold Char.toUpper
  rw [dif_neg]
  rintro ⟨-, hSmall⟩
  rw [UInt32.le_iff_toNat_le] at hSmall
  exact absurd (hLarge.trans hSmall) (by decide)

theorem toUpper_spec (c : Char) :
    c.toUpper.toUpper = c.toUpper ∧ isWhitespace c.toUpper = isWhitespace c := by
  have hTable : ∀ code < 128, (Char.ofNat code).toUpper.toUpper = (Char.ofNat code).toUpper ∧
      isWhitespace (Char.ofNat code).toUpper = isWhitespace (Char.ofNat code) := by decide
  by_cases hAscii : c.toNat < 128
  · simpa using hTable c.toNat hAscii
  · simp [toUpper_of_not_ascii (not_lt.mp hAscii)]

/-- The characters that `trim` keeps. -/
def inner (p : Char → Bool) (chars : List Char) : List Char := (chars.dropWhile p).rdropWhile p

variable (text : String)

theorem trim_eq_inner : trim text = String.ofList (inner isWhitespace text.toList) :=
  rfl

theorem inner_inner (p : Char → Bool) (chars : List Char) :
    inner p (inner p chars) = inner p chars := by
  have hFront : (inner p chars).dropWhile p = inner p chars := by
    rw [dropWhile_eq_self_iff]
    intro hLength
    have hPrefix : inner p chars <+: chars.dropWhile p := rdropWhile_prefix p _
    rw [hPrefix.getElem hLength]
    exact dropWhile_get_zero_not p chars (hLength.trans_le hPrefix.length_le)
  rw [inner, hFront, inner, rdropWhile_idempotent]

theorem trim_trim : trim (trim text) = trim text := by
  rw [trim_eq_inner, trim_eq_inner, String.toList_ofList, inner_inner]

theorem inner_map_toUpper (chars : List Char) :
    inner isWhitespace (chars.map Char.toUpper) = (inner isWhitespace chars).map Char.toUpper := by
  have hSpace : isWhitespace ∘ Char.toUpper = isWhitespace := funext fun c => (toUpper_spec c).2
  simp only [inner, rdropWhile, dropWhile_map, ← map_reverse, hSpace]

theorem normalizeSymbol_eq_empty {text : String} : normalizeSymbol text = "" ↔ trim text = "" := by
  rw [normalizeSymbol, toAsciiUppercase, ← String.toList_inj, String.toList_ofList,
    ← String.toList_inj]
  exact map_eq_nil_iff

theorem toAsciiUppercase_toAsciiUppercase :
    toAsciiUppercase (toAsciiUppercase text) = toAsciiUppercase text := by
  rw [toAsciiUppercase, toAsciiUppercase, String.toList_ofList, map_map]
  exact congrArg String.ofList (map_congr_left fun c _ => (toUpper_spec c).1)

theorem trim_normalizeSymbol : trim (normalizeSymbol text) = normalizeSymbol text := by
  simp only [normalizeSymbol, toAsciiUppercase, trim_eq_inner, String.toList_ofList,
    inner_map_toUpper, inner_inner]

theorem normalizeSymbol_normalizeSymbol :
    normalizeSymbol (normalizeSymbol text) = normalizeSymbol text := by
  rw [normalizeSymbol, trim_normalizeSymbol, normalizeSymbol, toAsciiUppercase_toAsciiUppercase]

end Normalization

/-- A market symbol is trimmed, non-empty text in upper case; `Symbol.new` is
the only way to obtain one. -/
structure Symbol where
  text : String
  normal : normalizeSymbol text = text
  nonempty : text ≠ ""
  deriving DecidableEq

theorem Symbol.trim_text (symbol : Symbol) : trim symbol.text = symbol.text := by
  rw [← symbol.normal, trim_normalizeSymbol]

theorem Symbol.toAsciiUppercase_text (symbol : Symbol) :
    toAsciiUppercase symbol.text = symbol.text := by
  rw [← symbol.normal, normalizeSymbol, toAsciiUppercase_toAsciiUppercase]

def Symbol.btcusdt : Symbol := ⟨"BTCUSDT", by decide, by decide⟩

def Symbol.new (text : String) : Except CoreError Symbol :=
  if h : normalizeSymbol text = "" then .error .emptySymbol
  else .ok ⟨normalizeSymbol text, normalizeSymbol_normalizeSymbol text, h⟩

theorem Symbol.text_of_new {text : String} {symbol : Symbol} (h : Symbol.new text = .ok symbol) :
    symbol.text = normalizeSymbol text := by
  unfold Symbol.new at h
  split at h
  · simp at h
  · rw [← Except.ok.inj h]

inductive Side where
  | buy
  | sell
  deriving DecidableEq, Repr

def Side.asStr : Side → String
  | .buy => "BUY"
  | .sell => "SELL"

inductive CandleInterval where
  | oneMinute
  | fiveMinutes
  | fifteenMinutes
  | oneHour
  | fourHours
  deriving DecidableEq, Repr

def CandleInterval.asStr : CandleInterval → String
  | .oneMinute => "1m"
  | .fiveMinutes => "5m"
  | .fifteenMinutes => "15m"
  | .oneHour => "1h"
  | .fourHours => "4h"

def CandleInterval.fromStr (value : String) : Except CoreError CandleInterval :=
  match toAsciiLowercase (trim value) with
  | "1m" => .ok .oneMinute
  | "5m" => .ok .fiveMinutes
  | "15m" => .ok .fifteenMinutes
  | "1h" => .ok .oneHour
  | "4h" => .ok .fourHours
  | other => .error (.unsupportedCandleInterval other)

@[simp] theorem CandleInterval.fromStr_asStr (interval : CandleInterval) :
    CandleInterval.fromStr interval.asStr = .ok interval := by
  cases interval <;> decide +kernel

structure Candle where
  symbol : Symbol
  interval : CandleInterval
  openTime : DateTime
  closeTime : DateTime
  «open» : Decimal
  high : Decimal
  low : Decimal
  close : Decimal
  volume : Decimal
  quoteVolume : Option Decimal
  tradeCount : Int
  isClosed : Bool
  deriving DecidableEq

end AegisQuant
