import AegisQuant.Core.Basic

/-! The text of identifiers. A UUID prints as its 32 hexadecimal digits, with
or without hyphens, and the text determines it. -/
namespace AegisQuant
open List

def hexDigit (digit : Nat) : Char := Char.ofNat (if digit < 10 then 48 + digit else 87 + digit)

namespace Uuid

def hexDigits (uuid : Uuid) : List Char :=
  (range 32).map fun place => hexDigit (uuid.value.toNat / 16 ^ (31 - place) % 16)

def simple (uuid : Uuid) : String := String.ofList uuid.hexDigits

def hyphenated (uuid : Uuid) : List Char :=
  let digits := uuid.hexDigits
  digits.take 8 ++ '-' :: (digits.drop 8).take 4 ++ '-' :: (digits.drop 12).take 4 ++
    '-' :: (digits.drop 16).take 4 ++ '-' :: digits.drop 20

def toString (uuid : Uuid) : String := String.ofList uuid.hyphenated

end Uuid

section Injectivity

theorem hexDigit_injective {first second : Nat} (hFirst : first < 16) (hSecond : second < 16)
    (hSame : hexDigit first = hexDigit second) : first = second := by
  have hTable : ∀ m < 16, ∀ n < 16, hexDigit m = hexDigit n → m = n := by decide
  exact hTable first hFirst second hSecond hSame

theorem hexDigit_not_separator {digit : Nat} (hDigit : digit < 16) :
    hexDigit digit ≠ '-' ∧ hexDigit digit ≠ ':' := by
  have hTable : ∀ n < 16, hexDigit n ≠ '-' ∧ hexDigit n ≠ ':' := by decide
  exact hTable digit hDigit

/-- Numbers with the same digits in the first `count` places agree there. -/
theorem mod_pow_eq_of_digits {first second : Nat} (count : Nat)
    (hDigits : ∀ place < count, first / 16 ^ place % 16 = second / 16 ^ place % 16) :
    first % 16 ^ count = second % 16 ^ count := by
  induction count with
  | zero => simp [Nat.mod_one]
  | succ count ih =>
    rw [Nat.mod_pow_succ, Nat.mod_pow_succ, hDigits count (Nat.lt_succ_self count),
      ih fun place hPlace => hDigits place (Nat.lt_succ_of_lt hPlace)]

theorem Uuid.hexDigits_injective : Function.Injective Uuid.hexDigits := by
  intro first second hSame
  have hDigits : ∀ place < 32, first.value.toNat / 16 ^ place % 16 =
      second.value.toNat / 16 ^ place % 16 := by
    intro place hPlace
    have hPlaces := map_inj_left.mp hSame (31 - place) (mem_range.mpr (by omega))
    rw [show 31 - (31 - place) = place by omega] at hPlaces
    exact hexDigit_injective (Nat.mod_lt _ (by decide)) (Nat.mod_lt _ (by decide)) hPlaces
  have hValues := mod_pow_eq_of_digits 32 hDigits
  have hFirst : first.value.toNat < 16 ^ 32 := first.value.isLt
  have hSecond : second.value.toNat < 16 ^ 32 := second.value.isLt
  rw [Nat.mod_eq_of_lt hFirst, Nat.mod_eq_of_lt hSecond] at hValues
  cases first
  cases second
  exact congrArg Uuid.mk (BitVec.eq_of_toNat_eq hValues)

theorem Uuid.not_separator_of_mem {uuid : Uuid} {digit : Char} (hDigit : digit ∈ uuid.hexDigits) :
    digit ≠ '-' ∧ digit ≠ ':' := by
  obtain ⟨place, _, rfl⟩ := mem_map.mp hDigit
  exact hexDigit_not_separator (Nat.mod_lt _ (by decide))

theorem Uuid.filter_hyphenated (uuid : Uuid) :
    uuid.hyphenated.filter (· ≠ '-') = uuid.hexDigits := by
  have hKeep (part : List Char) (hPart : ∀ digit ∈ part, digit ∈ uuid.hexDigits) :
      part.filter (· ≠ '-') = part :=
    filter_eq_self.mpr fun digit hDigit => by simp [(not_separator_of_mem (hPart digit hDigit)).1]
  have hPiece (start count : Nat) : ((uuid.hexDigits.drop start).take count).filter (· ≠ '-') =
        (uuid.hexDigits.drop start).take count :=
    hKeep _ fun digit hDigit => mem_of_mem_drop (mem_of_mem_take hDigit)
  have hFirst := hKeep (uuid.hexDigits.take 8) fun digit hDigit => mem_of_mem_take hDigit
  have hLast := hKeep (uuid.hexDigits.drop 20) fun digit hDigit => mem_of_mem_drop hDigit
  have hSplit : uuid.hexDigits = uuid.hexDigits.take 8 ++ ((uuid.hexDigits.drop 8).take 4 ++
      ((uuid.hexDigits.drop 12).take 4 ++ ((uuid.hexDigits.drop 16).take 4 ++
        uuid.hexDigits.drop 20))) := by
    have hJoin (start : Nat) : uuid.hexDigits.drop start =
        (uuid.hexDigits.drop start).take 4 ++ uuid.hexDigits.drop (start + 4) := by
      rw [← drop_drop, take_append_drop]
    rw [← hJoin 16, ← hJoin 12, ← hJoin 8, take_append_drop]
  have hHyphen (rest : List Char) : ('-' :: rest).filter (· ≠ '-') = rest.filter (· ≠ '-') :=
    filter_cons_of_neg (by decide)
  simp only [hyphenated, append_assoc, cons_append]
  simp only [filter_append, hHyphen, hFirst, hLast, hPiece]
  exact hSplit.symm

theorem Uuid.hyphenated_injective : Function.Injective Uuid.hyphenated := by
  intro first second hSame
  apply Uuid.hexDigits_injective
  rw [← filter_hyphenated, ← filter_hyphenated, hSame]

theorem Uuid.colon_not_mem_hyphenated (uuid : Uuid) : ':' ∉ uuid.hyphenated := by
  intro hColon
  have hDigit : ':' ∈ uuid.hyphenated.filter (· ≠ '-') := mem_filter.mpr ⟨hColon, by decide⟩
  rw [filter_hyphenated] at hDigit
  exact (not_separator_of_mem hDigit).2 rfl

theorem fields_eq_of_separated {α : Type} {separator : α} {first other rest otherRest : List α}
    (hFirst : separator ∉ first) (hOther : separator ∉ other)
    (hSame : first ++ separator :: rest = other ++ separator :: otherRest) :
    first = other ∧ rest = otherRest := by
  induction first generalizing other with
  | nil =>
    cases other with
    | nil => exact ⟨rfl, (cons.inj hSame).2⟩
    | cons char chars => exact absurd ((cons.inj hSame).1 ▸ mem_cons_self ..) hOther
  | cons char chars ih =>
    cases other with
    | nil => exact absurd ((cons.inj hSame).1 ▸ mem_cons_self ..) hFirst
    | cons char' chars' =>
      obtain ⟨rfl, hTail⟩ := cons.inj hSame
      obtain ⟨rfl, hRest⟩ := ih (fun hMem => hFirst (mem_cons_of_mem _ hMem))
        (fun hMem => hOther (mem_cons_of_mem _ hMem)) hTail
      exact ⟨rfl, hRest⟩

end Injectivity

end AegisQuant
