import Mathlib.Algebra.Order.Ring.Unbundled.Rat
import Mathlib.Data.Rat.Cast.Defs
import Mathlib.Tactic.NormNum
import Storefront.Json.Writer
import Storefront.Proofs.Sense

/-!
# Decimals

`Numeral.value` is the number that a decimal stands for, with its fraction and its exponent.
`isInteger_iff` says which decimals are read as whole numbers of sixty-four signed bits: exactly
those that are written as one, and each as the number it stands for. A whole number reads back as
it was written.
-/

namespace Storefront.Json

/-! ## Digits -/

theorem digitsValue_eq (digits : List Char) :
    digitsValue digits = Nat.ofDigitChars 10 digits 0 := by
  simp only [digitsValue, digitValue, Nat.ofDigitChars_eq_foldl, Nat.mul_comm]

/-- Digits of which the first is no zero stand for more than zero. -/
theorem ofDigitChars_pos {digit : Char} (others : List Char) (isDigit : digit.isDigit = true)
    (leading : digit ≠ '0') : 0 < Nat.ofDigitChars 10 (digit :: others) 0 := by
  have zero : '0'.toNat = 48 := rfl
  have code : digit.toNat ≠ 48 := fun same => leading (Char.toNat_inj.mp same)
  have least : 48 ≤ digit.toNat := by
    have range := Char.isDigit_iff_toNat.mp isDigit
    omega
  rw [Nat.ofDigitChars_cons, Nat.ofDigitChars_eq_ofDigitChars_zero, zero]
  have place : 0 < 10 ^ others.length * (10 * 0 + (digit.toNat - 48)) :=
    Nat.mul_pos (Nat.pow_pos (by omega)) (by omega)
  omega

/-- Nothing but a zero alone stands for zero. -/
theorem WholeDigits.eq_zero {text digits rest : List Char} (whole : WholeDigits text digits rest)
    (zero : Nat.ofDigitChars 10 digits 0 = 0) : digits = ['0'] := by
  cases whole with
  | zero => rfl
  | digits are leading =>
      obtain ⟨digit, others, rfl, isDigit⟩ := are.head
      have positive := ofDigitChars_pos others isDigit (by simpa using leading)
      omega

/-- A number that is not zero is written without a zero in front. -/
theorem head_toDigits {number : Nat} (positive : 0 < number) :
    (Nat.toDigits 10 number).head? ≠ some '0' := by
  induction number using Nat.strongRecOn with
  | ind number inductionHypothesis =>
      by_cases small : number < 10
      · rw [Nat.toDigits_of_lt_base small]
        simpa [Nat.digitChar_eq_zero] using Nat.ne_of_gt positive
      · have front := inductionHypothesis (number / 10) (by omega) (by omega)
        rw [Nat.toDigits_of_base_le (by decide) (by omega),
          List.head?_append_of_ne_nil _ Nat.toDigits_ne_nil]
        exact front

theorem wholeDigits_toDigits (number : Nat) (rest : List Char) :
    WholeDigits (Nat.toDigits 10 number ++ rest) (Nat.toDigits 10 number) rest := by
  rcases Nat.eq_zero_or_pos number with rfl | positive
  · exact .zero
  · have digits : AreDigits (Nat.toDigits 10 number) :=
      ⟨Nat.toDigits_ne_nil, fun _ => Nat.isDigit_of_mem_toDigits (by decide) (by decide)⟩
    exact .digits digits (head_toDigits positive)

/-! ## The number a decimal stands for -/

namespace Numeral

/-- The power of ten that an exponent scales by. -/
def scale (numeral : Numeral) : ℤ :=
  match numeral.exponent with
  | none => 0
  | some (negative, digits) =>
      if negative then -Nat.ofDigitChars 10 digits 0 else Nat.ofDigitChars 10 digits 0

/-- The number a decimal stands for. -/
def value (numeral : Numeral) : ℚ :=
  let behind := numeral.fraction.getD []
  let magnitude : ℚ := Nat.ofDigitChars 10 (numeral.whole ++ behind) 0 *
    10 ^ (numeral.scale - behind.length)
  if numeral.negative then -magnitude else magnitude

/-- A decimal that a whole number of sixty-four signed bits is written as. The zero that has a sign
is none. -/
structure IsExact (numeral : Numeral) : Prop where
  noFraction : numeral.fraction = none
  noExponent : numeral.exponent = none
  noMinusZero : numeral ≠ ⟨true, ['0'], none, none⟩
  least : -2 ^ 63 ≤ numeral.value
  most : numeral.value ≤ 2 ^ 63 - 1

/-- A whole number as it is written. -/
def ofInt (number : Int) : Numeral :=
  ⟨number < 0, Nat.toDigits 10 number.natAbs, none, none⟩

/-- Whole digits stand for a whole number. -/
theorem value_whole (negative : Bool) (whole : List Char) :
    value ⟨negative, whole, none, none⟩ =
      ((if negative then -Nat.ofDigitChars 10 whole 0
        else Nat.ofDigitChars 10 whole 0 : Int) : ℚ) := by
  cases negative <;> simp [value, scale]

/-- A decimal that is written as a whole number stands for one. -/
theorem IsExact.exists_eq {numeral : Numeral} (exact : numeral.IsExact) :
    ∃ number : Int, numeral.value = number := by
  obtain ⟨negative, whole, fraction, exponent⟩ := numeral
  obtain ⟨rfl, rfl, -⟩ := exact
  exact ⟨_, value_whole negative whole⟩

theorem value_ofInt (number : Int) : (ofInt number).value = number := by
  have magnitude : Nat.ofDigitChars 10 (Nat.toDigits 10 number.natAbs) 0 = number.natAbs :=
    Nat.ofDigitChars_ten_toDigits
  rw [ofInt, value_whole, magnitude]
  congr 1
  by_cases negative : number < 0
  · simp only [negative, decide_true, if_true]
    omega
  · simp only [negative, decide_false, Bool.false_eq_true, if_false]
    omega

/-- Only a numeral of whole digits has a whole value. -/
theorem plain_of_wholeValue? {numeral : Numeral} {number : Int}
    (valued : numeral.wholeValue? = some number) :
    numeral.fraction = none ∧ numeral.exponent = none := by
  unfold wholeValue? at valued
  split at valued
  · next noFraction noExponent => exact ⟨noFraction, noExponent⟩
  · simp at valued

/-- The whole value of whole digits is the number they stand for, if it is small enough and no zero
that has a sign. -/
theorem wholeValue?_eq_some {negative : Bool} {whole : List Char} {number : Int}
    (least : minSigned ≤ number) (most : number ≤ maxSigned) :
    wholeValue? ⟨negative, whole, none, none⟩ = some number ↔
      value ⟨negative, whole, none, none⟩ = number ∧
        (negative = true → Nat.ofDigitChars 10 whole 0 ≠ 0) := by
  have lower : minSigned = -9223372036854775808 := rfl
  have upper : maxSigned = 9223372036854775807 := rfl
  have signed : Nat.pow 2 63 = 9223372036854775808 := rfl
  have unsigned : maxUnsigned = 18446744073709551615 := rfl
  rw [value_whole, Rat.intCast_inj]
  simp only [wholeValue?, digitsValue_eq, signed, unsigned]
  cases negative with
  | true =>
      simp only [if_true, forall_const, Bool.and_eq_true, decide_eq_true_eq]
      split
      · simp only [Option.some.injEq]
        omega
      · simp only [reduceCtorEq, false_iff]
        omega
  | false =>
      simp only [Bool.false_eq_true, if_false]
      split
      · simp
      · simp only [reduceCtorEq, false_iff]
        omega

end Numeral

/-- A number is read as a whole number if and only if it is written as one, and as no other than
the number it stands for. -/
theorem isInteger_iff {text rest : List Char} {numeral : Numeral}
    (written : NumberText text numeral rest) {number : Int} :
    IsInteger (.number numeral) number ↔ numeral.IsExact ∧ numeral.value = number := by
  have lower : (minSigned : ℚ) = -2 ^ 63 := by norm_num [minSigned]
  have upper : (maxSigned : ℚ) = 2 ^ 63 - 1 := by norm_num [maxSigned]
  obtain ⟨negative, whole, fraction, exponent⟩ := numeral
  constructor
  · rintro ⟨_, ⟨⟩, valued, least, most⟩
    obtain ⟨rfl, rfl⟩ := Numeral.plain_of_wholeValue? valued
    obtain ⟨same, signed⟩ := (Numeral.wholeValue?_eq_some least most).mp valued
    refine ⟨⟨rfl, rfl, ?_, ?_, ?_⟩, same⟩
    · rintro ⟨⟩
      exact signed rfl rfl
    · rw [same, ← lower]
      exact_mod_cast least
    · rw [same, ← upper]
      exact_mod_cast most
  · rintro ⟨⟨rfl, rfl, noMinusZero, least, most⟩, same⟩
    rw [same, ← lower] at least
    rw [same, ← upper] at most
    have fits : minSigned ≤ number ∧ number ≤ maxSigned :=
      ⟨by exact_mod_cast least, by exact_mod_cast most⟩
    refine ⟨_, rfl, (Numeral.wholeValue?_eq_some fits.1 fits.2).mpr ⟨same, ?_⟩, fits⟩
    -- No other zero than the one alone is spelled, so one with a sign would be `-0`.
    rintro rfl zero
    cases written with
    | negative before behind scaled => exact noMinusZero (before.eq_zero zero ▸ rfl)

/-! ## Whole numbers read back -/

theorem numberText_ofInt (number : Int) (rest : List Char) :
    NumberText (writeInteger number ++ rest) (.ofInt number) rest := by
  have digits := wholeDigits_toDigits number.natAbs rest
  by_cases negative : number < 0
  · simp only [writeInteger, Numeral.ofInt, negative, if_true, decide_true]
    exact .negative digits .none .none
  · simp only [writeInteger, Numeral.ofInt, negative, if_false, decide_false]
    exact .positive digits .none .none

/-- A whole number that fits is read as itself. -/
theorem isInteger_ofInt {number : Int} (least : minSigned ≤ number) (most : number ≤ maxSigned) :
    IsInteger (.number (.ofInt number)) number := by
  refine ⟨_, rfl, (Numeral.wholeValue?_eq_some least most).mpr ⟨Numeral.value_ofInt number, ?_⟩,
    least, most⟩
  intro negative
  rw [Nat.ofDigitChars_ten_toDigits]
  have below : number < 0 := by simpa using negative
  omega

theorem readInteger_writeInteger {number : Int} (least : minSigned ≤ number)
    (most : number ≤ maxSigned) : ReadsBack readInteger (writeInteger number) number :=
  Reads.integer.readsBack (fun rest => .number (numberText_ofInt number rest))
    (isInteger_ofInt least most)

end Storefront.Json
