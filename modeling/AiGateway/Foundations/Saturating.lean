/-
Module: AiGateway.Foundations.Saturating
Layer: Foundations
Purpose: Saturating and checked arithmetic on unsigned 64-bit integers, each operation with the one
  lemma that reads it as arithmetic on natural numbers; and their decimal literals.
Trusted boundary: none
Main exports: saturatingAdd, saturatingSub, saturatingMul, checkedAdd, checkedMul, checkedSub,
  decimal, parseUnsigned, parseUnsigned_decimal
-/
import Mathlib.Data.Nat.Notation
import Mathlib.Tactic.Common

namespace AiGateway.Saturating

/-- The largest unsigned 64-bit integer. -/
def maxU64 : Nat := 18446744073709551615

/-- No `u64` exceeds the largest. -/
theorem toNat_le_maxU64 (a : UInt64) : a.toNat ≤ maxU64 := by
  have bound := a.toNat_lt
  simp only [maxU64]
  omega

/-- The unsigned 64-bit integer closest to a natural number. -/
def clamp (n : Nat) : UInt64 := UInt64.ofNat (min n maxU64)

/-- Clamping stops at the largest `u64`. -/
theorem toNat_clamp (n : Nat) : (clamp n).toNat = min n maxU64 := by
  simp only [clamp, maxU64, UInt64.toNat_ofNat']
  omega

/-- Addition that stops at the largest value. -/
def saturatingAdd (a b : UInt64) : UInt64 := clamp (a.toNat + b.toNat)

/-- Subtraction that stops at zero. -/
def saturatingSub (a b : UInt64) : UInt64 := clamp (a.toNat - b.toNat)

/-- Multiplication that stops at the largest value. -/
def saturatingMul (a b : UInt64) : UInt64 := clamp (a.toNat * b.toNat)

/-- A saturating sum is the sum, up to the largest `u64`. -/
@[simp] theorem toNat_saturatingAdd (a b : UInt64) :
    (saturatingAdd a b).toNat = min (a.toNat + b.toNat) maxU64 :=
  toNat_clamp _

/-- A saturating difference is the truncated one. -/
@[simp] theorem toNat_saturatingSub (a b : UInt64) :
    (saturatingSub a b).toNat = a.toNat - b.toNat := by
  rw [saturatingSub, toNat_clamp]
  exact Nat.min_eq_left (Nat.le_trans (Nat.sub_le _ _) (toNat_le_maxU64 a))

/-- A saturating product is the product, up to the largest `u64`. -/
@[simp] theorem toNat_saturatingMul (a b : UInt64) :
    (saturatingMul a b).toNat = min (a.toNat * b.toNat) maxU64 :=
  toNat_clamp _

/-- The representable value of a natural number, if it is representable. -/
def checked (n : Nat) : Option UInt64 :=
  if n ≤ maxU64 then some (UInt64.ofNat n) else none

/-- A checked number is the number itself. -/
theorem checked_eq_some {n : Nat} {a : UInt64} : checked n = some a ↔ n = a.toNat := by
  constructor
  · intro computed
    by_cases fits : n ≤ maxU64
    · simp only [checked, fits, if_true, Option.some.injEq] at computed
      subst computed
      simp only [maxU64] at fits
      simp only [UInt64.toNat_ofNat']
      omega
    · simp [checked, fits] at computed
  · rintro rfl
    simp [checked, toNat_le_maxU64]

/-- Checking fails past the largest `u64` only. -/
theorem checked_eq_none {n : Nat} : checked n = none ↔ maxU64 < n := by
  by_cases fits : n ≤ maxU64
  · simp [checked, fits]
  · simp [checked, fits, Nat.lt_of_not_le fits]

/-- Addition that fails on overflow. -/
def checkedAdd (a b : UInt64) : Option UInt64 := checked (a.toNat + b.toNat)

/-- Multiplication that fails on overflow. -/
def checkedMul (a b : UInt64) : Option UInt64 := checked (a.toNat * b.toNat)

/-- Subtraction that fails below zero. -/
def checkedSub (a b : UInt64) : Option UInt64 :=
  if b.toNat ≤ a.toNat then checked (a.toNat - b.toNat) else none

/-- A checked difference is exact. -/
theorem checkedSub_eq_some {a b c : UInt64} :
    checkedSub a b = some c ↔ a.toNat = b.toNat + c.toNat := by
  by_cases ordered : b.toNat ≤ a.toNat
  · simp only [checkedSub, ordered, if_true, checked_eq_some]
    omega
  · simp only [checkedSub, ordered, if_false, reduceCtorEq, false_iff]
    omega

/-- A checked difference fails when more is taken than there is. -/
theorem checkedSub_eq_none {a b : UInt64} :
    checkedSub a b = none ↔ a.toNat < b.toNat := by
  by_cases ordered : b.toNat ≤ a.toNat
  · have fits : a.toNat - b.toNat ≤ maxU64 :=
      Nat.le_trans (Nat.sub_le _ _) (toNat_le_maxU64 a)
    simp only [checkedSub, ordered, if_true, checked_eq_none]
    omega
  · simp [checkedSub, ordered, Nat.lt_of_not_le ordered]

/-! ### Decimal literals -/

/-- Two numbers with one decimal text are one number. -/
theorem repr_injective : Function.Injective Nat.repr := by
  intro first second same
  have digits : Nat.toDigits 10 first = Nat.toDigits 10 second := by
    rw [← Nat.toList_repr, ← Nat.toList_repr, same]
  rw [← @Nat.ofDigitChars_ten_toDigits first, digits, Nat.ofDigitChars_ten_toDigits]

/-- The literal of an unsigned integer. -/
def decimal (value : UInt64) : String := value.toNat.repr

/-- Two `u64`s with one decimal text are one. -/
theorem decimal_injective : Function.Injective decimal :=
  fun _ _ same => UInt64.toNat_inj.mp (repr_injective same)

/-- `parse` of an unsigned integer: digits, with a plus sign before them or without. -/
def parseUnsigned (text : List Char) : Option UInt64 :=
  let digits :=
    match text with
    | '+' :: rest => rest
    | _ => text
  if digits.isEmpty || !digits.all Char.isDigit then none
  else checked (digits.foldl (fun value digit => value * 10 + (digit.toNat - 48)) 0)

/-- Digits are read as the number they write, when it is a `u64`. -/
theorem parseUnsigned_of_digits {text : List Char} (nonempty : text ≠ [])
    (digits : ∀ character ∈ text, character.isDigit = true) :
    parseUnsigned text = checked (Nat.ofDigitChars 10 text 0) := by
  have unsigned : ∀ rest, text ≠ '+' :: rest := by
    rintro rest rfl
    exact absurd (digits '+' List.mem_cons_self) (by decide)
  have folded : text.foldl (fun value digit => value * 10 + (digit.toNat - 48)) 0 =
      Nat.ofDigitChars 10 text 0 := by
    rw [Nat.ofDigitChars_eq_foldl]
    congr 1
    funext value digit
    rw [Nat.mul_comm]
    rfl
  unfold parseUnsigned
  split
  case h_1 rest => exact (unsigned rest rfl).elim
  case h_2 =>
      dsimp only
      rw [if_neg, folded]
      simp [nonempty, List.all_eq_true.mpr digits]

/-- A literal is parsed as what it stands for. -/
theorem parseUnsigned_decimal (value : UInt64) :
    parseUnsigned (decimal value).toList = some value := by
  rw [decimal, Nat.toList_repr, parseUnsigned_of_digits Nat.toDigits_ne_nil,
    Nat.ofDigitChars_ten_toDigits, checked_eq_some]
  intro character member
  exact Nat.isDigit_of_mem_toDigits (by decide) (by decide) member

end AiGateway.Saturating
