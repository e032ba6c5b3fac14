import TraceView.Proofs.Number.SixDigits
import TraceView.Proofs.Number.Writable
import TraceView.Value.Display

namespace TraceView

/-!
# Numbers next to properties

A property shows an integer with all its digits and a double in one of two texts: the shortest one, which
keeps the number, or for whole doubles one with six significant digits, which keeps the number exactly when
six digits are enough for it.
-/

/-- An integer is written as its decimal text. -/
theorem Numeral.full_eq_toString (n : Int) : Numeral.full n = toString n := by
  cases n with
  | ofNat n => rfl
  | negSucc n => exact if_pos (Int.negSucc_lt_zero n)

namespace Value

theorem propertyText_int {n : Int} (fits : Numeral.Fits n) :
    (int n).propertyText = .ok (toString n) := by
  have short := Numeral.fits_iff_length.mp fits
  change Numeral.write n = _
  rw [Numeral.write, if_pos short, Numeral.full_eq_toString]

/-- A double that is not whole is shown with its shortest text. -/
theorem fractional_shown {x : Double} (fractional : x.isInteger = false) :
    (double x).propertyText = .ok x.text := by
  rw [propertyText, if_neg (ne_true_of_eq_false fractional)]

/-- A whole double is shown with six significant digits. -/
theorem whole_shown {x : Double} (whole : x.isInteger = true) :
    (double x).propertyText = .ok (x.sixDigits .general) := by
  rw [propertyText, if_pos whole]

/-- The text of a double is read as a decimal.  It gives the double unless the double is whole and is not
the nearest one to any number of six significant digits. -/
theorem double_shown {x : Double} {number : Rat} (denotes : x.toRat? = some number) :
    Exists fun text : String => Exists fun d : Decimal =>
      (double x).propertyText = .ok text ∧ Decimal.read text = some d ∧ d.IsFinite ∧
        (Double.ofDecimal d = x ↔
          (¬ Exists fun n : Int => number = n) ∨
            Exists fun coefficient : Nat => Exists fun power : Int =>
              coefficient < 10 ^ 6 ∧ Double.ofScaled x.isNegative coefficient power = x) := by
  rw [← Double.isInteger_iff denotes]
  cases x with
  | infinite => cases denotes
  | nan => cases denotes
  | finite negative significand exponent canonical =>
      by_cases whole :
          (Double.finite negative significand exponent canonical).isInteger = true
      · rcases Double.read_sixDigits whole with ⟨d, read, finite, back, _⟩
        refine ⟨_, d, whole_shown whole, read, finite, back.trans ?_⟩
        exact (or_iff_right (not_not.mpr whole)).symm
      · rcases Double.isReadBack_text negative canonical with ⟨d, read, finite, back⟩
        exact ⟨_, d, fractional_shown (eq_false_of_ne_true whole), read, finite,
          iff_of_true back (Or.inl whole)⟩

/-- The text of the double of an integer denotes the integer exactly when at most six digits stand before
the zeros at its end. -/
theorem integer_shown {n : Int} (short : |n| < 2 ^ 53) :
    Exists fun x : Double => Exists fun text : String => Exists fun d : Decimal =>
      Double.ofInt n = .ok x ∧ x.toRat? = some (n : Rat) ∧
        (double x).propertyText = .ok text ∧ Decimal.read text = some d ∧
        (d.toRat? = some (n : Rat) ↔
          Exists fun coefficient : Nat => Exists fun zeros : Nat =>
            coefficient < 10 ^ 6 ∧ n.natAbs = coefficient * 10 ^ zeros) := by
  rcases Double.ofInt_of_short short with ⟨x, made, denotes⟩
  have whole := (Double.isInteger_iff denotes).mpr ⟨n, rfl⟩
  cases x with
  | infinite => cases denotes
  | nan => cases denotes
  | finite negative significand exponent canonical =>
      rcases Double.read_sixDigits whole with ⟨d, read, _, _, exact⟩
      refine ⟨_, _, d, made, denotes, whole_shown whole, read, ?_⟩
      have size : (significand : Rat) * 2 ^ exponent = n.natAbs := by
        have shape : Double.signed negative (significand * 2 ^ exponent) = n := Option.some.inj denotes
        have absolute := congrArg abs shape
        rw [Double.abs_signed, abs_of_nonneg (by positivity), ← Int.cast_abs,
          Int.abs_eq_natAbs] at absolute
        exact absolute
      rw [← denotes, exact, size, Double.isShort_natCast]

/-- Numbers next to properties can be read again: a double up to the six digits that a whole one is shown
with, the double of an integer of 53 bits exactly if it has no more digits than that, and an integer
always. -/
theorem numbers_shown (x : Double) (n : Int) :
    (forall number : Rat, x.toRat? = some number ->
      Exists fun text : String => Exists fun d : Decimal =>
        (double x).propertyText = .ok text ∧ Decimal.read text = some d ∧ d.IsFinite ∧
          Double.Rounds d (Double.ofDecimal d) ∧
          (Double.ofDecimal d = x ↔
            (¬ Exists fun k : Int => number = k) ∨
              Exists fun coefficient : Nat => Exists fun power : Int =>
                coefficient < 10 ^ 6 ∧ Double.ofScaled x.isNegative coefficient power = x)) ∧
    (|n| < 2 ^ 53 ->
      Exists fun y : Double => Exists fun text : String => Exists fun d : Decimal =>
        Double.ofInt n = .ok y ∧ y.toRat? = some (n : Rat) ∧
          (double y).propertyText = .ok text ∧ Decimal.read text = some d ∧
          (d.toRat? = some (n : Rat) ↔
            Exists fun coefficient : Nat => Exists fun zeros : Nat =>
              coefficient < 10 ^ 6 ∧ n.natAbs = coefficient * 10 ^ zeros)) ∧
    (Numeral.Fits n ->
      (int n).propertyText = .ok (toString n) ∧ Numeral.read (toString n) = some n) := by
  refine ⟨fun number denotes => ?_, integer_shown, fun fits => ?_⟩
  · rcases double_shown denotes with ⟨text, d, shown, read, finite, back⟩
    exact ⟨text, d, shown, read, finite, Double.rounds_ofDecimal d, back⟩
  · exact ⟨propertyText_int fits, Numeral.read_write (propertyText_int fits)⟩

/-- The double next to a tenth, a whole double with six digits before its zeros and an integer with more
digits than doubles have. -/
theorem sampleNumbers_shown :
    (Exists fun text : String => Exists fun d : Decimal =>
      (double (.finite false 0x1999999999999A (-56) (by decide))).propertyText = .ok text ∧
        Decimal.read text = some d ∧
        Double.ofDecimal d = .finite false 0x1999999999999A (-56) (by decide)) ∧
    (|(123456000 : Int)| < 2 ^ 53 ∧
      Exists fun x : Double => Exists fun text : String => Exists fun d : Decimal =>
        Double.ofInt 123456000 = .ok x ∧ (double x).propertyText = .ok text ∧
          Decimal.read text = some d ∧ d.toRat? = some 123456000) ∧
    (Numeral.Fits (-100000000000000000001) ∧
      (int (-100000000000000000001)).propertyText = .ok (toString (-100000000000000000001 : Int))) := by
  refine ⟨?_, ⟨by decide, ?_⟩, ?_⟩
  · have denotes : Double.toRat? (.finite false 0x1999999999999A (-56) (by decide)) =
        some (0x1999999999999A / 2 ^ 56) := congrArg some (by norm_num)
    have fractional : ¬ Exists fun n : Int => (0x1999999999999A / 2 ^ 56 : Rat) = n := by
      rintro ⟨n, same⟩
      rw [div_eq_iff (by norm_num)] at same
      have integers : 0x1999999999999A = n * 2 ^ 56 := by exact_mod_cast same
      omega
    rcases (numbers_shown _ 0).1 _ denotes with ⟨text, d, shown, read, _, _, back⟩
    exact ⟨text, d, shown, read, back.mpr (Or.inl fractional)⟩
  · rcases (numbers_shown .nan 123456000).2.1 (by decide) with
      ⟨x, text, d, made, _, shown, read, exact⟩
    exact ⟨x, text, d, made, shown, read, exact.mpr ⟨123456, 3, by decide, rfl⟩⟩
  · have few : Numeral.Fits (-100000000000000000001) :=
      (by decide : 100000000000000000001 < 10 ^ 21).trans_le
        (Nat.pow_le_pow_right (by decide) (by decide))
    exact ⟨few, ((numbers_shown .nan (-100000000000000000001)).2.2 few).1⟩

/-- A whole double with seven digits loses the last one: what is read from its text is another double. -/
theorem sevenDigits_shown :
    Double.ofInt 1234567 = .ok (.finite false 0x12D68700000000 (-32) (by decide)) ∧
      (double (.finite false 0x12D68700000000 (-32) (by decide))).propertyText = .ok "1.23457e+06" ∧
      Decimal.read "1.23457e+06" = some (.finite false 123457 1) ∧
      Double.ofDecimal (.finite false 123457 1) ≠ .finite false 0x12D68700000000 (-32) (by decide) ∧
      (Decimal.finite false 123457 1).toRat? ≠ some 1234567 := by
  refine ⟨by decide, by decide, by decide, by decide, fun same => ?_⟩
  have number : (123457 : Rat) * 10 ^ (1 : Int) = 1234567 := Option.some.inj same
  norm_num at number

end Value

end TraceView
