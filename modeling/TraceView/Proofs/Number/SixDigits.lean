import TraceView.Number.SixDigits
import TraceView.Proofs.Number.Shortest

namespace TraceView.Double

/-!
# Six digits and the double

A number with six significant digits is the nearest one to the double, so it is the only one of its kind
that comes near the double at all.  It gives the double exactly when any number with six significant digits
does.
-/

/-! ## Numbers with few digits -/

/-- A number with at most this many significant digits. -/
def IsShort (digits : Nat) (p : Rat) : Prop :=
  Exists fun coefficient : Nat => Exists fun power : Int =>
    coefficient < 10 ^ digits ∧ p = coefficient * 10 ^ power

/-- A number is rounded to so many significant digits: no other number with so few digits comes as near as
a unit of the place after the last one. -/
structure IsRounded (digits : Nat) (p value : Rat) : Prop where
  short : IsShort digits p
  only : forall q, IsShort digits q -> |q - value| * 10 ^ (digits + 1) ≤ value -> q = p

theorem isShort_zero (digits : Nat) : IsShort digits 0 :=
  ⟨0, 0, Nat.pow_pos (by decide), by rw [Nat.cast_zero, zero_mul]⟩

/-- Zero is rounded to zero. -/
theorem isRounded_zero (digits : Nat) : IsRounded digits 0 0 := by
  refine ⟨isShort_zero digits, fun q _ near => ?_⟩
  rw [sub_zero] at near
  have unit : (0 : Rat) < 10 ^ (digits + 1) := by positivity
  exact abs_nonpos_iff.mp (nonpos_of_mul_nonpos_left near unit)

/-- A number is rounded to itself exactly when it has few digits. -/
theorem IsRounded.eq_iff {digits : Nat} {p value : Rat} (rounded : IsRounded digits p value)
    (positive : 0 ≤ value) : p = value ↔ IsShort digits value := by
  constructor
  · rintro rfl
    exact rounded.short
  · intro short
    refine (rounded.only value short ?_).symm
    rwa [sub_self, abs_zero, zero_mul]

/-- A natural number has few digits exactly when all further digits in front of its point are zeros. -/
theorem isShort_natCast {digits n : Nat} :
    IsShort digits n ↔
      Exists fun coefficient : Nat => Exists fun zeros : Nat =>
        coefficient < 10 ^ digits ∧ n = coefficient * 10 ^ zeros := by
  constructor
  · rintro ⟨coefficient, power, few, shape⟩
    by_cases below : power < 0
    · -- the digits behind the point are zeros as well
      have small : (n : Rat) ≤ coefficient := by
        rw [shape]
        exact mul_le_of_le_one_right (Nat.cast_nonneg _) (zpow_le_one_of_nonpos₀ (by norm_num) below.le)
      have natural : n ≤ coefficient := by exact_mod_cast small
      exact ⟨n, 0, natural.trans_lt few, by rw [pow_zero, mul_one]⟩
    · refine ⟨coefficient, power.toNat, few, ?_⟩
      rw [← Int.toNat_of_nonneg (not_lt.mp below), zpow_natCast] at shape
      exact_mod_cast shape
  · rintro ⟨coefficient, zeros, few, shape⟩
    refine ⟨coefficient, zeros, few, ?_⟩
    rw [shape, zpow_natCast]
    push_cast
    rfl

/-! ## The last place -/

section Place

variable {numerator denominator : Nat} (count : Nat)

/-- The multiple of the last place that a quotient is rounded to, with so many places after the first. -/
def multiple (numerator denominator count : Nat) : Nat :=
  roundDiv (shifted 10 numerator denominator (leadingPower numerator denominator - count)).1
    (shifted 10 numerator denominator (leadingPower numerator denominator - count)).2

theorem multiple_close (bottom : 0 < denominator) :
    2 * |(multiple numerator denominator count : Rat) *
        10 ^ (leadingPower numerator denominator - count) - numerator / denominator| ≤
      10 ^ (leadingPower numerator denominator - count) := by
  rcases @roundDiv_shifted 10 (by decide) numerator _ bottom
    (leadingPower numerator denominator - count) with ⟨close, _⟩
  rw [Nat.cast_ofNat] at close
  exact close

/-- The multiple has one digit more than there are places after the first, unless it is the next power of
ten. -/
theorem multiple_bounds (top : 0 < numerator) (bottom : 0 < denominator) :
    10 ^ count ≤ multiple numerator denominator count ∧
      multiple numerator denominator count ≤ 10 ^ (count + 1) := by
  rcases leadingPower_spec top bottom with ⟨least, most⟩
  have close := @multiple_close numerator _ count bottom
  have unit : (0 : Rat) < 10 ^ (leadingPower numerator denominator - count) :=
    zpow_pos (by norm_num) _
  rw [zpow_add_one₀ (by norm_num)] at most
  rw [power_eq_places count (leadingPower numerator denominator)] at least most
  generalize multiple numerator denominator count = k at close ⊢
  generalize (10 : Rat) ^ (leadingPower numerator denominator - count) = u at least most close unit
  rcases bounds_of_close close with ⟨below, above⟩
  constructor
  · have bound : (10 ^ count : Rat) * u < (k + 1) * u := by linarith
    have strict := lt_of_mul_lt_mul_right bound unit.le
    have natural : 10 ^ count < k + 1 := by exact_mod_cast strict
    exact Nat.le_of_lt_succ natural
  · have bound : (k : Rat) * u < (10 ^ (count + 1) + 1) * u := by
      rw [pow_succ]
      linarith
    have strict := lt_of_mul_lt_mul_right bound unit.le
    have natural : k < 10 ^ (count + 1) + 1 := by exact_mod_cast strict
    exact Nat.le_of_lt_succ natural

variable {m : Nat} {power first : Int}

/-- A number whose last place is a smaller one ends before the first digit, by a tenth of the last place. -/
theorem short_le (few : m < 10 ^ (count + 1)) (lower : power < first - count) :
    (m : Rat) * 10 ^ power ≤ 10 ^ first - 10 ^ (first - count - 1) := by
  have step : (10 : Rat) ^ power ≤ 10 ^ (first - count - 1) :=
    zpow_le_zpow_right₀ (by norm_num) (by omega)
  have last : (m : Rat) ≤ 10 ^ (count + 1) - 1 := by
    have bound : m + 1 ≤ 10 ^ (count + 1) := few
    rw [le_sub_iff_add_le]
    exact_mod_cast bound
  calc (m : Rat) * 10 ^ power
      ≤ (10 ^ (count + 1) - 1) * 10 ^ (first - count - 1) :=
        mul_le_mul last step (by positivity) ((Nat.cast_nonneg m).trans last)
    _ = 10 ^ first - 10 ^ (first - count - 1) := by
        rw [power_eq_places (count + 1) first, Nat.cast_add_one, ← sub_sub, sub_one_mul]

/-- A number whose last place is no smaller one is a multiple of the place. -/
theorem exists_multiple (higher : first - count ≤ power) :
    Exists fun j : Nat => (m : Rat) * 10 ^ power = j * 10 ^ (first - count) := by
  have shift : power - ((power - (first - count)).toNat : Int) = first - count := by omega
  refine ⟨m * 10 ^ (power - (first - count)).toNat, ?_⟩
  rw [power_eq_places (power - (first - count)).toNat power, shift]
  push_cast
  ring

/-- A number with as few digits that comes near is the multiple. -/
theorem multiple_only (top : 0 < numerator) (bottom : 0 < denominator) {q : Rat}
    (short : IsShort (count + 1) q)
    (near : |q - numerator / denominator| * 10 ^ (count + 2) ≤ numerator / denominator) :
    q = multiple numerator denominator count *
      10 ^ (leadingPower numerator denominator - count) := by
  rcases leadingPower_spec top bottom with ⟨least, most⟩
  have close := @multiple_close numerator _ count bottom
  generalize multiple numerator denominator count = k at close ⊢
  generalize leadingPower numerator denominator = first at least most close ⊢
  generalize (numerator / denominator : Rat) = v at near least most close
  rcases short with ⟨m, power, few, rfl⟩
  -- the error is below a tenth of the last place
  have error : |(m : Rat) * 10 ^ power - v| < 10 ^ (first - count - 1) := by
    have places : first + 1 - ((count + 2 : Nat) : Int) = first - count - 1 := by
      push_cast
      ring
    rw [power_eq_places (count + 2) (first + 1), places, mul_comm] at most
    exact lt_of_mul_lt_mul_right (near.trans_lt most) (by positivity)
  by_cases lower : power < first - count
  · have below := short_le count few lower
    rcases abs_lt.mp error with ⟨beneath, _⟩
    linarith
  · rcases @exists_multiple count m power first (not_lt.mp lower) with ⟨j, same⟩
    have unit : (0 : Rat) < 10 ^ (first - count) := zpow_pos (by norm_num) _
    have tenth : (10 : Rat) ^ (first - count - 1) = 10 ^ (first - count) / 10 :=
      zpow_sub_one₀ (by norm_num) _
    rw [same, tenth] at error
    have closer : 2 * |((j : Int) : Rat) * 10 ^ (first - count) - v| < 10 ^ (first - count) := by
      push_cast
      linarith
    have equal : (j : Int) = k := multiple_unique unit close closer
    rw [same, Nat.cast_inj.mp equal]

/-- The multiple has few digits: if it is the next power of ten, all but the first digit are zeros. -/
theorem isShort_multiple (top : 0 < numerator) (bottom : 0 < denominator) :
    IsShort (count + 1) (multiple numerator denominator count *
      10 ^ (leadingPower numerator denominator - count)) := by
  rcases multiple_bounds count top bottom with ⟨_, most⟩
  rcases lt_or_eq_of_le most with few | carried
  · exact ⟨_, _, few, rfl⟩
  · refine ⟨1, leadingPower numerator denominator + 1, Nat.one_lt_pow (by omega) (by decide), ?_⟩
    rw [carried, power_eq_places (count + 1) (leadingPower numerator denominator + 1)]
    push_cast
    rw [one_mul, add_sub_add_right_eq_sub]

/-- The multiple is the number rounded to its digits. -/
theorem isRounded_multiple (top : 0 < numerator) (bottom : 0 < denominator) :
    IsRounded (count + 1)
      (multiple numerator denominator count * 10 ^ (leadingPower numerator denominator - count))
      (numerator / denominator) :=
  ⟨isShort_multiple count top bottom, fun _ short near => multiple_only count top bottom short near⟩

theorem significant_eq (numerator denominator : Nat) :
    significant numerator denominator count =
      let digits := Nat.toDigits 10 (multiple numerator denominator count)
      if digits.length = count + 2 then
        (digits.take (count + 1), leadingPower numerator denominator + 1)
      else (digits, leadingPower numerator denominator) :=
  rfl

/-- A number between two powers of ten has as many digits as the greater one has zeros. -/
theorem length_toDigits {k : Nat} (least : 10 ^ count ≤ k) (few : k < 10 ^ (count + 1)) :
    (Nat.toDigits 10 k).length = count + 1 := by
  rcases digits_bounds ((Nat.pow_pos (by decide)).trans_le least) with ⟨reached, below⟩
  have longer : count < (Nat.toDigits 10 k).length :=
    (Nat.pow_lt_pow_iff_right (by decide)).mp (least.trans_lt below)
  have shorter : (Nat.toDigits 10 k).length - 1 < count + 1 :=
    (Nat.pow_lt_pow_iff_right (by decide)).mp (reached.trans_lt few)
  omega

/-- The digits that are kept, with the place of the first one, are the multiple. -/
theorem significant_spec (top : 0 < numerator) (bottom : 0 < denominator) :
    (forall c, c ∈ (significant numerator denominator count).1 -> c.isDigit = true) ∧
      Layout.value (significant numerator denominator count).1
          (significant numerator denominator count).2 =
        multiple numerator denominator count *
          10 ^ (leadingPower numerator denominator - count) := by
  rcases multiple_bounds count top bottom with ⟨least, most⟩
  rw [significant_eq]
  generalize multiple numerator denominator count = k at least most ⊢
  generalize leadingPower numerator denominator = first
  have decimal : forall c, c ∈ Nat.toDigits 10 k -> c.isDigit = true := fun _ => Numeral.isDigit_of_mem
  dsimp only
  rcases lt_or_eq_of_le most with few | carried
  · have length := length_toDigits count least few
    rw [if_neg (by omega)]
    refine ⟨decimal, ?_⟩
    rw [← Layout.value_toDigits, length]
    congr 1
    push_cast
    ring
  · have digits : Nat.toDigits 10 k = '1' :: List.replicate (count + 1) '0' := by
      rw [carried, Numeral.toDigits_pow]
    have length : (Nat.toDigits 10 k).length = count + 2 := by
      rw [digits, List.length_cons, List.length_replicate]
    have kept : (Nat.toDigits 10 k).take (count + 1) ++ List.replicate 1 '0' = Nat.toDigits 10 k := by
      rw [digits, List.take_succ_cons, List.take_replicate, min_eq_left (by omega), List.cons_append,
        List.replicate_append_replicate]
    rw [if_pos length]
    refine ⟨fun c listed => decimal c (List.mem_of_mem_take listed), ?_⟩
    rw [← Layout.value_append_zeros _ 1, kept, ← Layout.value_toDigits, length]
    congr 1
    push_cast
    ring

end Place

/-! ## Texts -/

section Texts

variable {significand : Nat} {exponent : Int} {canonical : Canonical significand exponent}

/-- A text with six significant digits spells the double rounded to six digits. -/
theorem spells_sixDigits (negative : Bool) (canonical : Canonical significand exponent) :
    Exists fun p : Rat =>
      Decimal.Spells (sixDigits .general (.finite negative significand exponent canonical)) negative p ∧
        IsRounded 6 p (significand * 2 ^ exponent) := by
  unfold sixDigits sixSignificant
  dsimp only
  by_cases zero : significand = 0
  · subst zero
    have spells := @Decimal.spells_spelled ['0'] [] negative none (List.cons_ne_nil _ _)
      (List.forall_mem_singleton.mpr rfl)
    have nothing : Numeral.denoted (['0'] ++ []) = 0 := rfl
    rw [nothing, Nat.cast_zero, zero_mul] at spells
    refine ⟨0, spells, ?_⟩
    rw [Nat.cast_zero, zero_mul]
    exact isRounded_zero 6
  · have positive := Nat.pos_of_ne_zero zero
    rcases magnitude_spec significand exponent with ⟨bottom, value⟩
    have top := @magnitude_pos _ exponent positive
    rw [if_neg zero, ← value]
    generalize (magnitude significand exponent).1 = numerator at top
    generalize (magnitude significand exponent).2 = denominator at bottom
    rcases significant_spec 5 top bottom with ⟨decimal, spelled⟩
    rcases multiple_bounds 5 top bottom with ⟨least, _⟩
    have some : (0 : Rat) < multiple numerator denominator 5 *
        10 ^ (leadingPower numerator denominator - (5 : Nat)) :=
      mul_pos (Nat.cast_pos.mpr ((Nat.pow_pos (by decide)).trans_le least)) (zpow_pos (by norm_num) _)
    refine ⟨_, ?_, isRounded_multiple 5 top bottom⟩
    rw [← spelled, ← Layout.value_trim] at some ⊢
    have nonempty := Layout.ne_nil_of_value some
    split
    · exact Decimal.spells_positional negative nonempty (Layout.isDigit_trim decimal)
    · exact Decimal.spells_scientific negative nonempty (Layout.isDigit_trim decimal)

theorem isInteger_finite {negative : Bool} :
    isInteger (.finite negative significand exponent canonical) = true ↔
      Exists fun n : Nat => (significand : Rat) * 2 ^ exponent = n := by
  rcases magnitude_spec significand exponent with ⟨bottom, value⟩
  have nonzero : ((magnitude significand exponent).2 : Rat) ≠ 0 := Nat.cast_ne_zero.mpr bottom.ne'
  have divides : isInteger (.finite negative significand exponent canonical) = true ↔
      (magnitude significand exponent).2 ∣ (magnitude significand exponent).1 :=
    beq_iff_eq.trans Nat.dvd_iff_mod_eq_zero.symm
  rw [divides, ← value]
  constructor
  · rintro ⟨n, multiple⟩
    exact ⟨n, by rw [multiple, Nat.cast_mul, mul_div_cancel_left₀ _ nonzero]⟩
  · rintro ⟨n, quotient⟩
    rw [div_eq_iff nonzero] at quotient
    exact ⟨n, by rw [mul_comm]; exact_mod_cast quotient⟩

/-- Whole doubles denote integers, and no others do. -/
theorem isInteger_iff {x : Double} {number : Rat} (denotes : x.toRat? = some number) :
    x.isInteger = true ↔ Exists fun n : Int => number = n := by
  cases x with
  | infinite => cases denotes
  | nan => cases denotes
  | finite negative significand exponent canonical =>
      have shape : signed negative (significand * 2 ^ exponent) = number := Option.some.inj denotes
      rw [isInteger_finite, ← shape]
      constructor
      · rintro ⟨n, value⟩
        rw [value]
        cases negative with
        | true => exact ⟨-n, by rw [Int.cast_neg]; rfl⟩
        | false => exact ⟨n, rfl⟩
      · rintro ⟨n, integer⟩
        refine ⟨n.natAbs, ?_⟩
        have size := congrArg abs integer
        rw [abs_signed, abs_of_nonneg (by positivity)] at size
        rw [size, ← Int.cast_abs, Int.abs_eq_natAbs]
        rfl

/-- Whole doubles other than zero are at least one. -/
theorem one_le_of_isInteger {negative : Bool} (positive : 0 < significand)
    (whole : isInteger (.finite negative significand exponent canonical) = true) :
    (1 : Rat) ≤ significand * 2 ^ exponent := by
  have value : (0 : Rat) < significand * 2 ^ exponent :=
    mul_pos (Nat.cast_pos.mpr positive) (zpow_pos two_pos exponent)
  rcases isInteger_finite.mp whole with ⟨n, integer⟩
  rw [integer, Nat.cast_pos] at value
  rw [integer]
  exact_mod_cast value

theorem signed_inj {negative : Bool} {p q : Rat} : signed negative p = signed negative q ↔ p = q := by
  cases negative with
  | true => exact neg_inj
  | false => exact Iff.rfl

/-- What is read from six digits gives the whole double exactly when some number with six digits does, and
is equal to it exactly when the double has no more digits. -/
theorem read_sixDigits {negative : Bool}
    (whole : isInteger (.finite negative significand exponent canonical) = true) :
    Exists fun d : Decimal =>
      Decimal.read (sixDigits .general (.finite negative significand exponent canonical)) = some d ∧
        d.IsFinite ∧
        (ofDecimal d = .finite negative significand exponent canonical ↔
          Exists fun coefficient : Nat => Exists fun power : Int => coefficient < 10 ^ 6 ∧
            ofScaled negative coefficient power =
              .finite negative significand exponent canonical) ∧
        (d.toRat? = toRat? (.finite negative significand exponent canonical) ↔
          IsShort 6 (significand * 2 ^ exponent)) := by
  rcases spells_sixDigits negative canonical with ⟨p, ⟨coefficient, power, read, same⟩, rounded⟩
  refine ⟨_, read, trivial, ⟨?_, ?_⟩, ?_⟩
  · intro made
    rcases rounded.short with ⟨m, k, few, shape⟩
    exact ⟨m, k, few, ofScaled_of_same made (same.trans shape) negative⟩
  · rintro ⟨m, k, few, made⟩
    by_cases zero : significand = 0
    · subst zero
      have least := exponent_of_zero canonical
      subst least
      have nothing := rounded.only 0 (isShort_zero 6)
        (by rw [Nat.cast_zero, zero_mul, sub_zero, abs_zero, zero_mul])
      refine ofScaled_of_same (ofScaled_zero negative 0) ?_ negative
      rw [same, ← nothing, Nat.cast_zero, zero_mul]
    · have near := near_of_ofScaled made (one_le_of_isInteger (Nat.pos_of_ne_zero zero) whole)
      have seven : (10 : Rat) ^ (6 + 1) ≤ 2 ^ 53 := by norm_num
      have equal := rounded.only (m * 10 ^ k) ⟨m, k, few, rfl⟩
        ((mul_le_mul_of_nonneg_left seven (abs_nonneg _)).trans near)
      exact ofScaled_of_same made (equal.trans same.symm) negative
  · rw [← rounded.eq_iff (by positivity), ← same, ← @signed_inj negative]
    exact Option.some_inj

end Texts

end TraceView.Double
