import AegisQuant.Core.Basic
import AegisQuant.Library.Fallible
import Mathlib.Tactic.Linarith
import Mathlib.Tactic.Ring

/-! How table columns hold the values the code binds to them: casts between
unsigned and signed counters, decimals of fixed scale, and lists of symbols in
one text. -/
namespace AegisQuant
open List

section Counters

/-- `value as i32` of a `u32`. -/
def asI32 (value : Nat) : Int := (value : Int).bmod (2 ^ 32)

/-- `value as u32` of an `i32`. -/
def asU32 (value : Int) : Nat := (value % (2 ^ 32 : Nat)).toNat

theorem toNat_bmod_emod {value size : Nat} (hValue : value < size) :
    ((value : Int).bmod size % size).toNat = value := by
  rw [Int.bmod_emod, Int.emod_eq_of_lt (Int.natCast_nonneg value) (Int.ofNat_lt.mpr hValue),
    Int.toNat_natCast]

theorem asU32_asI32 {value : Nat} (hValue : value < 2 ^ 32) : asU32 (asI32 value) = value :=
  toNat_bmod_emod hValue

theorem map_asU32_asI32 {value : Option Nat} (hValue : ∀ count ∈ value, count < 2 ^ 32) :
    (value.map asI32).map asU32 = value := by
  cases value with
  | none => rfl
  | some count => exact congrArg some (asU32_asI32 (hValue count rfl))

end Counters

section Decimals

/-- A `NUMERIC(20, 8)` column keeps eight decimals, rounded half away from
zero. -/
def numeric (value : Decimal) : Decimal :=
  if 0 ≤ value then (value * 10 ^ 8 + 1 / 2).floor / 10 ^ 8
  else -((-value * 10 ^ 8 + 1 / 2).floor / 10 ^ 8)

/-- More than twelve digits before the point do not fit. -/
def numericOverflows (value : Decimal) : Bool :=
  decide (10 ^ 12 ≤ numeric value ∨ numeric value ≤ -10 ^ 12)

def FitsNumeric (value : Decimal) : Prop := numeric value = value ∧ numericOverflows value = false

instance decidableFitsNumeric (value : Decimal) : Decidable (FitsNumeric value) :=
  inferInstanceAs (Decidable (_ ∧ _))

theorem numeric_of_int (units : Int) : numeric (units / 10 ^ 8) = units / 10 ^ 8 := by
  have hScale (value : Decimal) : value / 10 ^ 8 * 10 ^ 8 = value :=
    div_mul_cancel₀ value (by norm_num)
  have hFloor (count : Int) : ((count : Decimal) + 1 / 2).floor = count := by
    apply le_antisymm
    · apply Int.lt_add_one_iff.mp
      rw [Rat.floor_lt_iff]
      push_cast
      linarith
    · rw [Rat.le_floor_iff]
      linarith
  unfold numeric
  split
  · rw [hScale, hFloor]
  · have hNegated : -((units : Decimal) / 10 ^ 8) * 10 ^ 8 = ((-units : Int) : Decimal) := by
      rw [neg_mul, hScale, Int.cast_neg]
    rw [hNegated, hFloor]
    push_cast
    ring

theorem numeric_numeric (value : Decimal) : numeric (numeric value) = numeric value := by
  have hUnits : ∃ units : Int, numeric value = units / 10 ^ 8 := by
    unfold numeric
    split
    · exact ⟨_, rfl⟩
    · refine ⟨-(-value * 10 ^ 8 + 1 / 2).floor, ?_⟩
      push_cast
      ring
  obtain ⟨units, hValue⟩ := hUnits
  rw [hValue, numeric_of_int]

theorem map_numeric {value : Option Decimal} (hValue : ∀ decimal ∈ value, FitsNumeric decimal) :
    value.map numeric = value := by
  cases value with
  | none => rfl
  | some decimal => exact congrArg some (hValue decimal rfl).1

end Decimals

section Times

/-- Midnight of 2000-01-01 UTC, from which times are sent in microseconds. -/
def postgresEpoch : DateTime := DateTime.seconds 946684800

/-- A `TIMESTAMPTZ` column keeps whole microseconds; the rest is cut off when
the time is sent. -/
def timestamptz (time : DateTime) : DateTime :=
  postgresEpoch + (time - postgresEpoch).tdiv 1000 * 1000

theorem timestamptz_timestamptz (time : DateTime) :
    timestamptz (timestamptz time) = timestamptz time := by
  unfold timestamptz
  rw [add_sub_cancel_left, Int.mul_tdiv_cancel _ (by norm_num)]

end Times

section Symbols
variable {symbols : List Symbol}

def joinSymbols (symbols : List Symbol) : String :=
  String.ofList ([','].intercalate (symbols.map (·.text.toList)))

def splitSymbols (text : String) : Except CoreError (List Symbol) :=
  (((text.toList.splitOn ',').map String.ofList).filter fun value => trim value ≠ "").mapM Symbol.new

theorem trim_text_ne (symbol : Symbol) : trim symbol.text ≠ "" := by
  rw [symbol.trim_text]
  exact symbol.nonempty

theorem Symbol.new_text (symbol : Symbol) : Symbol.new symbol.text = .ok symbol := by
  have hNonempty : normalizeSymbol symbol.text ≠ "" := by
    rw [symbol.normal]
    exact symbol.nonempty
  rw [Symbol.new, dif_neg hNonempty, Except.ok.injEq, Symbol.mk.injEq]
  exact symbol.normal

theorem mapM_new_text (symbols : List Symbol) :
    (symbols.map (·.text)).mapM Symbol.new = .ok symbols := by
  induction symbols with
  | nil => rfl
  | cons symbol rest ih =>
    rw [map_cons, mapM_cons, Symbol.new_text, ih]
    rfl

theorem splitSymbols_joinSymbols (hCommas : ∀ symbol ∈ symbols, ',' ∉ symbol.text.toList) :
    splitSymbols (joinSymbols symbols) = .ok symbols := by
  by_cases hSymbols : symbols = []
  · subst hSymbols
    decide +kernel
  have hSplit : ([','].intercalate (symbols.map (·.text.toList))).splitOn ',' =
      symbols.map (·.text.toList) := by
    apply splitOn_intercalate
    · simpa using hCommas
    · simpa using hSymbols
  rw [splitSymbols, joinSymbols, String.toList_ofList, hSplit, map_map]
  have hTexts : (String.ofList ∘ fun symbol : Symbol => symbol.text.toList) = (·.text) :=
    funext fun symbol => String.ofList_toList
  rw [hTexts, filter_eq_self.mpr, mapM_new_text]
  intro text hText
  obtain ⟨symbol, -, rfl⟩ := mem_map.mp hText
  exact decide_eq_true (trim_text_ne symbol)

end Symbols

end AegisQuant
