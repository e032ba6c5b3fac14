import TraceView.Number.Quantity
import TraceView.Proofs.Number.Bases

namespace TraceView.Quantity

/-!
# One form for each quantity

Two quantities are compared by their forms.  The form of an integer keeps all of it: the zeros that
are taken off its end are counted in the exponent, and its sign is that of the form.
-/

/-- How many zeros there are in front, by the first digit. -/
theorem length_zeros_cons (digit : Nat) (rest : List Char) :
    ((digit.digitChar :: rest).takeWhile (· == '0')).length =
      if digit = 0 then (rest.takeWhile (· == '0')).length + 1 else 0 := by
  rw [List.takeWhile_cons]
  by_cases zero : digit = 0
  · have here : (digit.digitChar == '0') = true := beq_iff_eq.mpr (Nat.digitChar_eq_zero.mpr zero)
    rw [if_pos zero, if_pos here, List.length_cons]
  · have other : ¬ (digit.digitChar == '0') = true :=
      fun same => zero (Nat.digitChar_eq_zero.mp (beq_iff_eq.mp same))
    rw [if_neg zero, if_neg other, List.length_nil]

/-- The zeros at the end of a number are a power of ten that divides it. -/
theorem pow_trailingZeros_dvd (n : Nat) : 10 ^ trailingZeros n ∣ n := by
  have several : 1 < 10 := by decide
  apply Numeral.toDigits_induction
    (fun number digits => 10 ^ (digits.reverse.takeWhile (· == '0')).length ∣ number) several
  · intro digit _
    rw [List.reverse_singleton, length_zeros_cons]
    by_cases zero : digit = 0
    · rw [zero]
      exact Nat.dvd_zero _
    · rw [if_neg zero]
      exact Nat.one_dvd digit
  · intro front digit _ _ divides
    rw [List.reverse_append, List.reverse_singleton, List.singleton_append, length_zeros_cons]
    by_cases zero : digit = 0
    · rw [if_pos zero, zero, Nat.add_zero, Nat.pow_succ']
      exact Nat.mul_dvd_mul_left 10 divides
    · rw [if_neg zero]
      exact Nat.one_dvd _

/-- Only zero has a form with the coefficient zero. -/
theorem coefficient_ne_zero {coefficient : Nat} (positive : coefficient ≠ 0) :
    coefficient / 10 ^ trailingZeros coefficient ≠ 0 := by
  intro zero
  have whole := Nat.div_mul_cancel (pow_trailingZeros_dvd coefficient)
  rw [zero, Nat.zero_mul] at whole
  exact positive whole.symm

/-- Numbers that are scaled alike and have one form are equal, and so are their signs. -/
theorem scaled_inj {negative other : Bool} {m n : Nat} {exponent : Int}
    (same : scaled negative m exponent = scaled other n exponent) :
    m = n ∧ (m ≠ 0 -> negative = other) := by
  unfold scaled at same
  by_cases first : m = 0
  · by_cases second : n = 0
    · exact ⟨first.trans second.symm, fun positive => absurd first positive⟩
    · rw [if_pos first, if_neg second] at same
      exact absurd (Quantity.finite.inj same).2.1.symm (coefficient_ne_zero second)
  · by_cases second : n = 0
    · rw [if_neg first, if_pos second] at same
      exact absurd (Quantity.finite.inj same).2.1 (coefficient_ne_zero first)
    · rw [if_neg first, if_neg second] at same
      rcases Quantity.finite.inj same with ⟨signs, coefficients, exponents⟩
      have zeros : trailingZeros m = trailingZeros n := by omega
      refine ⟨?_, fun _ => signs⟩
      calc m = m / 10 ^ trailingZeros m * 10 ^ trailingZeros m :=
            (Nat.div_mul_cancel (pow_trailingZeros_dvd m)).symm
        _ = n / 10 ^ trailingZeros n * 10 ^ trailingZeros n := by
            rw [show m / 10 ^ trailingZeros m = n / 10 ^ trailingZeros n from coefficients, zeros]
        _ = n := Nat.div_mul_cancel (pow_trailingZeros_dvd n)

/-- Different integers are different quantities. -/
theorem ofInt_inj {m n : Int} (same : ofInt m = ofInt n) : m = n := by
  rcases scaled_inj same with ⟨magnitudes, signs⟩
  by_cases zero : m.natAbs = 0
  · have otherZero : n.natAbs = 0 := magnitudes.symm.trans zero
    exact (Int.natAbs_eq_zero.mp zero).trans (Int.natAbs_eq_zero.mp otherZero).symm
  · have sign := decide_eq_decide.mp (signs zero)
    omega

theorem same_iff {p q : Quantity} : p.same q = true ↔ p = q ∧ p ≠ .undefined := by
  cases p with
  | undefined => exact iff_of_false Bool.false_ne_true fun both => both.2 rfl
  | finite negative coefficient exponent =>
      rw [same, beq_iff_eq]
      · exact (and_iff_left nofun).symm
      · exact nofun
  | infinite negative =>
      rw [same, beq_iff_eq]
      · exact (and_iff_left nofun).symm
      · exact nofun

theorem scaled_ne_undefined (negative : Bool) (coefficient : Nat) (exponent : Int) :
    scaled negative coefficient exponent ≠ .undefined := by
  unfold scaled
  by_cases zero : coefficient = 0
  · rw [if_pos zero]
    exact nofun
  · rw [if_neg zero]
    exact nofun

end TraceView.Quantity
