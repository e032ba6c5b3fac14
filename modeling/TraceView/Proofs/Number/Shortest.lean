import TraceView.Number.Shortest
import TraceView.Proofs.Number.Layouts
import TraceView.Proofs.Number.Rounding

namespace TraceView.Double

/-!
# Shortest texts are read back

The search for the shortest text stops at a decimal that gives the double, or at the nearest decimal of
seventeen digits, which is near enough to give it.  The text spells the decimal that was found, so reading
it gives the double again.
-/

/-! ## The first digit -/

section Leading

variable {numerator denominator : Nat}

theorem quotient_bounds (top : 0 < numerator) (bottom : 0 < denominator) {estimate : Int}
    (lengths : estimate =
      (Nat.toDigits 10 numerator).length - (Nat.toDigits 10 denominator).length) :
    (10 : Rat) ^ (estimate - 1) ≤ numerator / denominator ∧
      (numerator / denominator : Rat) < 10 ^ (estimate + 1) := by
  have ten : (10 : Rat) ≠ 0 := by norm_num
  have positive : (0 : Rat) < denominator := Nat.cast_pos.mpr bottom
  rcases scaled_bounds top 0 with ⟨least, most⟩
  rcases scaled_bounds bottom 0 with ⟨bottomLeast, bottomMost⟩
  rw [zpow_zero, mul_one] at least most bottomLeast bottomMost
  constructor
  · rw [le_div_iff₀ positive]
    calc (10 : Rat) ^ (estimate - 1) * denominator
        ≤ 10 ^ (estimate - 1) * 10 ^ (0 + ((Nat.toDigits 10 denominator).length : Int)) := by gcongr
      _ = 10 ^ (0 + ((Nat.toDigits 10 numerator).length : Int) - 1) := by
          rw [← zpow_add₀ ten]
          congr 1
          omega
      _ ≤ numerator := least
  · rw [div_lt_iff₀ positive]
    calc (numerator : Rat) < 10 ^ (0 + ((Nat.toDigits 10 numerator).length : Int)) := most
      _ = 10 ^ (estimate + 1) * 10 ^ (0 + ((Nat.toDigits 10 denominator).length : Int) - 1) := by
          rw [← zpow_add₀ ten]
          congr 1
          omega
      _ ≤ 10 ^ (estimate + 1) * denominator := by gcongr

/-- The first significant digit stands for the greatest power of ten that is not above the quotient. -/
theorem leadingPower_spec (top : 0 < numerator) (bottom : 0 < denominator) :
    (10 : Rat) ^ leadingPower numerator denominator ≤ numerator / denominator ∧
      (numerator / denominator : Rat) < 10 ^ (leadingPower numerator denominator + 1) := by
  unfold leadingPower
  generalize lengths : ((Nat.toDigits 10 numerator).length : Int) -
    (Nat.toDigits 10 denominator).length = estimate
  rcases quotient_bounds top bottom lengths.symm with ⟨least, most⟩
  rcases @shifted_spec 10 (by decide) numerator _ bottom estimate with ⟨positive, quotient⟩
  dsimp only
  generalize shifted 10 numerator denominator estimate = fraction at positive quotient ⊢
  have unit : (0 : Rat) < 10 ^ estimate := zpow_pos (by norm_num) estimate
  have reached : fraction.2 ≤ fraction.1 ↔ (10 : Rat) ^ estimate ≤ numerator / denominator := by
    rw [Nat.cast_ofNat] at quotient
    rw [← one_le_div unit, ← quotient, one_le_div (Nat.cast_pos.mpr positive), Nat.cast_le]
  by_cases full : fraction.2 ≤ fraction.1
  · rw [if_pos full]
    exact ⟨reached.mp full, most⟩
  · rw [if_neg full, sub_add_cancel]
    exact ⟨least, not_le.mp (mt reached.mpr full)⟩

/-- The place of the first digit in units of a later place. -/
theorem power_eq_places (count : Nat) (first : Int) :
    (10 : Rat) ^ first = 10 ^ count * 10 ^ (first - count) := by
  rw [← zpow_natCast, ← zpow_add₀ (by norm_num)]
  congr 1
  omega

end Leading

/-- The quotient of a magnitude has a positive denominator, and is the magnitude. -/
theorem magnitude_spec (significand : Nat) (exponent : Int) :
    0 < (magnitude significand exponent).2 ∧
      ((magnitude significand exponent).1 / (magnitude significand exponent).2 : Rat) =
        significand * 2 ^ exponent := by
  rcases @shifted_spec 2 (by decide) significand 1 Nat.one_pos (-exponent) with ⟨bottom, quotient⟩
  refine ⟨bottom, quotient.trans ?_⟩
  rw [Nat.cast_one, div_one, Nat.cast_ofNat, zpow_neg, div_inv_eq_mul]

theorem magnitude_pos {significand : Nat} {exponent : Int} (positive : 0 < significand) :
    0 < (magnitude significand exponent).1 := by
  rcases magnitude_spec significand exponent with ⟨_, value⟩
  refine Nat.pos_of_ne_zero fun zero => ?_
  rw [zero, Nat.cast_zero, zero_div] at value
  exact (mul_pos (Nat.cast_pos.mpr positive) (zpow_pos two_pos exponent)).ne value

/-! ## The search -/

section Search

variable {significand : Nat} {exponent : Int} {canonical : Canonical significand exponent}

theorem ofScaled_of_onGrid {double : Double} {numerator denominator coefficient : Nat} {power : Int}
    (found : onGrid? double numerator denominator power = some coefficient) :
    ofScaled false coefficient power = double := by
  unfold onGrid? at found
  dsimp only at found
  -- a neighbour is only found if it has been tested
  split_ifs at found <;> cases found <;> assumption

/-- The nearest decimal of seventeen digits is close to the double. -/
theorem isClose_seventeen {numerator denominator : Nat} (bottom : 0 < denominator) {first : Int}
    (reached : (10 : Rat) ^ first ≤ numerator / denominator) :
    IsClose
      (roundDiv (shifted 10 numerator denominator (first - 16)).1
        (shifted 10 numerator denominator (first - 16)).2 * 10 ^ (first - 16))
      (numerator / denominator) := by
  rcases @roundDiv_shifted 10 (by decide) numerator _ bottom (first - 16) with ⟨close, _⟩
  rw [Nat.cast_ofNat] at close
  rw [power_eq_places 16 first, Nat.cast_ofNat] at reached
  rw [IsClose]
  linarith

/-- Whichever decimal the search ends with, it gives the double. -/
theorem ofScaled_shortestFrom (positive : 0 < significand) {numerator denominator : Nat}
    (bottom : 0 < denominator)
    (value : (numerator / denominator : Rat) = significand * 2 ^ exponent) {first : Int}
    (reached : (10 : Rat) ^ first ≤ numerator / denominator) {more count : Nat}
    (total : more + count = 16) {coefficient : Nat} {last : Int}
    (found : shortestFrom (.finite false significand exponent canonical) numerator denominator first
      more count = (coefficient, last)) :
    ofScaled false coefficient last = .finite false significand exponent canonical := by
  induction more generalizing count with
  | zero =>
      have all : count = 16 := by omega
      subst all
      cases found
      have close := isClose_seventeen bottom reached
      rw [value] at close
      exact ofScaled_of_close positive close false
  | succ more inductionHypothesis =>
      rw [shortestFrom] at found
      split at found
      · next grid =>
          cases found
          exact ofScaled_of_onGrid grid
      · exact inductionHypothesis (by omega) found

/-- The digits are those of a decimal that gives the double. -/
theorem shortest_spec (positive : 0 < significand) :
    (shortest significand exponent canonical).1 ≠ [] ∧
      (forall c, c ∈ (shortest significand exponent canonical).1 -> c.isDigit = true) ∧
      Exists fun coefficient : Nat => Exists fun last : Int =>
        Layout.value (shortest significand exponent canonical).1
            (shortest significand exponent canonical).2 = coefficient * 10 ^ last ∧
          ofScaled false coefficient last = .finite false significand exponent canonical := by
  rcases magnitude_spec significand exponent with ⟨bottom, value⟩
  rcases leadingPower_spec (magnitude_pos positive) bottom with ⟨reached, _⟩
  unfold shortest
  dsimp only
  generalize found : shortestFrom (.finite false significand exponent canonical) _ _ _ 16 0 = result
  rcases result with ⟨coefficient, last⟩
  have made := ofScaled_shortestFrom positive bottom value reached rfl found
  have kept : Layout.value (Layout.trim (Nat.toDigits 10 coefficient))
      (last + (Nat.toDigits 10 coefficient).length - 1) = coefficient * 10 ^ last := by
    rw [Layout.value_trim, Layout.value_toDigits]
  have some : (0 : Rat) < coefficient * 10 ^ last :=
    mul_pos (Nat.cast_pos.mpr (coefficient_pos positive made)) (zpow_pos (by norm_num) last)
  rw [← kept] at some
  exact ⟨Layout.ne_nil_of_value some, Layout.isDigit_trim fun _ => Numeral.isDigit_of_mem,
    coefficient, last, kept, made⟩

end Search

/-! ## Reading -/

/-- A text is read as a finite decimal that gives the double. -/
def IsReadBack (text : String) (x : Double) : Prop :=
  Exists fun d : Decimal => Decimal.read text = some d ∧ d.IsFinite ∧ ofDecimal d = x

section Reading

variable {significand : Nat} {exponent : Int} {canonical : Canonical significand exponent}

/-- A text that spells a decimal of the double is read back, however it spells the decimal. -/
theorem isReadBack_of_spells {shown : String} {sign negative : Bool} {coefficient : Nat} {last : Int}
    (spells : Decimal.Spells shown negative (coefficient * 10 ^ last))
    (made : ofScaled sign coefficient last = .finite sign significand exponent canonical) :
    IsReadBack shown (.finite negative significand exponent canonical) := by
  rcases spells with ⟨other, power, read, same⟩
  exact ⟨_, read, trivial, ofScaled_of_same made same.symm negative⟩

/-- Zero is canonical in one way. -/
theorem exponent_of_zero {exponent : Int} (canonical : Canonical 0 exponent) : exponent = -1074 :=
  canonical.2.2.2.resolve_right (by decide)

/-- The shortest text of a finite double is read back. -/
theorem isReadBack_text (negative : Bool) (canonical : Canonical significand exponent) :
    IsReadBack (text (.finite negative significand exponent canonical))
      (.finite negative significand exponent canonical) := by
  by_cases zero : significand = 0
  · subst zero
    have least := exponent_of_zero canonical
    subst least
    have spells := @Decimal.spells_spelled ['0'] ['0'] negative none (List.cons_ne_nil _ _)
      (List.forall_mem_cons.mpr ⟨rfl, List.forall_mem_singleton.mpr rfl⟩)
    exact isReadBack_of_spells spells (ofScaled_zero false _)
  · rcases @shortest_spec significand exponent canonical (Nat.pos_of_ne_zero zero) with
      ⟨nonempty, decimal, coefficient, last, value, made⟩
    unfold text
    simp only [if_neg zero]
    refine isReadBack_of_spells ?_ made
    rw [← value]
    split
    · exact Decimal.spells_pointed negative nonempty decimal
    · exact Decimal.spells_scientific negative nonempty decimal

end Reading

end TraceView.Double
