import Mathlib.Data.Rat.Cast.Order
import Mathlib.Tactic.NormNum
import TraceView.Number.Decimal

namespace TraceView.Decimal

/-!
# Whole decimals

A decimal equals an integer exactly if its number is one, however it is written: with zeros after the
point, or with an exponent that moves the point behind the last digit that is not zero.
-/

/-- A whole number that ends in zeros has more digits than zeros. -/
theorem lt_length_toDigits {coefficient places : Nat} (whole : 10 ^ places ∣ coefficient)
    (positive : coefficient ≠ 0) : places < (Nat.toDigits 10 coefficient).length := by
  have large : 10 ^ places ≤ coefficient := Nat.le_of_dvd (Nat.pos_of_ne_zero positive) whole
  by_contra short
  have bounded : (Nat.toDigits 10 coefficient).length ≤ places := Nat.le_of_not_lt short
  have several : 0 < places := Nat.lt_of_lt_of_le Nat.length_toDigits_pos bounded
  have small := (Nat.length_toDigits_le_iff (by decide) several).mp bounded
  exact absurd small (Nat.not_lt.mpr large)

/-- A coefficient is scaled to the natural number that it denotes with its exponent, and to none if
it denotes none. -/
theorem scaled?_eq_some_iff {coefficient number : Nat} {exponent : Int} :
    scaled? coefficient exponent = some number ↔
      (coefficient : Rat) * (10 : Rat) ^ exponent = number := by
  unfold scaled?
  by_cases zero : coefficient = 0
  · rw [if_pos zero, zero, Nat.cast_zero, zero_mul, Option.some.injEq]
    exact_mod_cast Iff.rfl
  · rw [if_neg zero]
    by_cases natural : 0 ≤ exponent
    · rcases Int.eq_ofNat_of_zero_le natural with ⟨zeros, same⟩
      rw [if_pos natural, same, Int.toNat_natCast, zpow_natCast, Option.some.injEq]
      exact_mod_cast Iff.rfl
    · -- a negative exponent takes digits away, and each of them has to be a zero
      have taken : exponent = -((-exponent).toNat : Int) := by omega
      generalize (-exponent).toNat = places at taken
      have denoted : (coefficient : Rat) * (10 : Rat) ^ exponent = number ↔
          coefficient = number * 10 ^ places := by
        rw [taken, zpow_neg, zpow_natCast, ← div_eq_mul_inv, div_eq_iff (pow_ne_zero places (by norm_num))]
        exact_mod_cast Iff.rfl
      rw [if_neg natural, denoted]
      simp only [Nat.pow_eq]
      by_cases short : (Nat.toDigits 10 coefficient).length < places
      · rw [if_pos short]
        refine iff_of_false (fun impossible => nomatch impossible) fun same => ?_
        have several := lt_length_toDigits (Dvd.intro_left number same.symm) zero
        omega
      · rw [if_neg short]
        have unit : 0 < 10 ^ places := Nat.pow_pos (by decide)
        by_cases whole : coefficient % 10 ^ places = 0
        · rw [if_pos whole, Option.some.injEq,
            Nat.div_eq_iff_eq_mul_left unit (Nat.dvd_of_mod_eq_zero whole)]
        · rw [if_neg whole]
          refine iff_of_false (fun impossible => nomatch impossible) fun same => whole ?_
          rw [same, Nat.mul_mod_left]

/-- The integer with a sign and a magnitude is the number with them. -/
theorem exists_signed_iff {negative : Bool} {magnitude : Rat} (positive : 0 ≤ magnitude) {n : Int} :
    (Exists fun number : Nat => magnitude = number ∧ Numeral.signed negative number = n) ↔
      (if negative then -magnitude else magnitude) = (n : Rat) := by
  constructor
  · rintro ⟨number, same, rfl⟩
    rw [same]
    cases negative with
    | true => exact (Int.cast_neg (number : Int)).symm
    | false => rfl
  · have natural : forall m : Int, magnitude = m ->
        Exists fun number : Nat => magnitude = number ∧ (number : Int) = m := by
      intro m whole
      rw [whole] at positive
      have least : 0 ≤ m := by exact_mod_cast positive
      refine ⟨m.toNat, ?_, Int.toNat_of_nonneg least⟩
      rw [whole, ← Int.cast_natCast, Int.toNat_of_nonneg least]
    intro same
    cases negative with
    | true =>
        have opposite : magnitude = ((-n : Int) : Rat) := by
          rw [Int.cast_neg, ← same, if_pos rfl, neg_neg]
        rcases natural (-n) opposite with ⟨number, denoted, minus⟩
        exact ⟨number, denoted, by rw [Numeral.signed, if_pos rfl, minus, neg_neg]⟩
    | false => exact natural n same

/-- A finite decimal denotes its coefficient with its sign, times its power of ten. -/
theorem toRat?_finite (negative : Bool) (coefficient : Nat) (exponent : Int) :
    (finite negative coefficient exponent).toRat? =
      some ((Numeral.signed negative coefficient : Rat) * 10 ^ exponent) := by
  cases negative with
  | true =>
      have opposite : ((Numeral.signed true coefficient : Int) : Rat) = -(coefficient : Rat) :=
        Int.cast_neg (coefficient : Int)
      rw [opposite, neg_mul]
      rfl
  | false => rfl

/-- A decimal is read as an integer exactly if it is this integer. -/
theorem integer?_eq_ok_some_iff {d : Decimal} {n : Int} :
    d.integer? = .ok (some n) ↔ d.toRat? = some (n : Rat) := by
  cases d with
  | finite negative coefficient exponent =>
      have positive : 0 ≤ (coefficient : Rat) * (10 : Rat) ^ exponent :=
        mul_nonneg (Nat.cast_nonneg _) (zpow_nonneg (by norm_num) _)
      rw [integer?, toRat?, Except.ok.injEq, Option.map_eq_some_iff, Option.some.injEq,
        ← exists_signed_iff positive]
      simp only [scaled?_eq_some_iff]
  | infinite negative =>
      exact iff_of_false (fun impossible => nomatch impossible) fun impossible => nomatch impossible
  | nan negative payload =>
      exact iff_of_false (fun impossible => nomatch impossible) fun impossible => nomatch impossible

end TraceView.Decimal
