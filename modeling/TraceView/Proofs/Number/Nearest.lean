import Mathlib.Algebra.Order.Field.Power
import Mathlib.Algebra.Order.Round
import Mathlib.Data.Rat.Cast.Order
import Mathlib.Tactic.FieldSimp
import Mathlib.Tactic.Linarith
import Mathlib.Tactic.Ring
import TraceView.Number.Double

namespace TraceView

/-!
# Nearest doubles

Making a double rounds once: of all finite doubles it gives the one nearest to the exact number, and of
two that are equally near the one with the even significand.  From halfway between the largest double and
the next power of two on, it gives an infinite one.

At the exponent that is chosen, the multiples of the power of two include all doubles near the number:
those with a smaller exponent lie below the least number of this exponent, which is such a multiple
itself.  So it suffices that the significand is the nearest integer.
-/

namespace Double

/-! ## What it is to be nearest -/

/-- Where doubles end: halfway between the largest double and the next power of two. -/
def overflow : Rat :=
  2 ^ 1024 - 2 ^ 970

/-- A double that a number is rounded to: the nearest of the finite doubles, with an even significand if
another one is equally near, or an infinite double from the end of the doubles on. -/
inductive IsNearest : Double -> Rat -> Prop where
  | finite {negative : Bool} {significand : Nat} {exponent : Int}
      {canonical : Canonical significand exponent} {q value : Rat} (within : |q| < overflow)
      (denotes : (Double.finite negative significand exponent canonical).toRat? = some value)
      (nearest : forall other number, toRat? other = some number -> |value - q| ≤ |number - q|)
      (even : forall other number, toRat? other = some number -> |value - q| = |number - q| ->
        number = value ∨ significand % 2 = 0) :
      IsNearest (.finite negative significand exponent canonical) q
  | infinite {negative : Bool} {q : Rat} (beyond : overflow ≤ |q|)
      (sign : negative = true ↔ q < 0) : IsNearest (.infinite negative) q

/-- A number with a sign. -/
def signed (negative : Bool) (p : Rat) : Rat :=
  if negative then -p else p

theorem abs_signed (negative : Bool) (p : Rat) : |signed negative p| = |p| := by
  cases negative with
  | true => exact abs_neg p
  | false => rfl

/-- A finite double is a number of at most 53 bits times a power of two. -/
theorem exists_of_toRat? {x : Double} {number : Rat} (denotes : x.toRat? = some number) :
    Exists fun n : Int => Exists fun low : Int =>
      number = n * 2 ^ low ∧ |n| < 2 ^ 53 ∧ -1074 ≤ low := by
  cases x with
  | finite negative significand exponent canonical =>
      cases denotes
      have short : |(significand : Int)| < 2 ^ 53 := by
        rw [Nat.abs_cast]
        exact_mod_cast canonical.1
      cases negative with
      | false =>
          refine ⟨significand, exponent, ?_, short, canonical.2.1⟩
          push_cast
          rfl
      | true =>
          refine ⟨-significand, exponent, ?_, by rwa [abs_neg], canonical.2.1⟩
          push_cast
          exact (neg_mul _ _).symm
  | infinite negative => cases denotes
  | nan => cases denotes

/-- Signs do not matter to what is nearest. -/
theorem isNearest_finite {significand : Nat} {exponent : Int}
    (canonical : Canonical significand exponent) {p : Rat} (positive : 0 ≤ p) (within : p < overflow)
    (nearest : forall n low : Int, |n| < 2 ^ 53 -> -1074 ≤ low ->
      |significand * 2 ^ exponent - p| ≤ |n * 2 ^ low - p| ∧
        (|significand * 2 ^ exponent - p| = |n * 2 ^ low - p| ->
          (n : Rat) * 2 ^ low = significand * 2 ^ exponent ∨ significand % 2 = 0))
    (negative : Bool) :
    IsNearest (.finite negative significand exponent canonical) (signed negative p) := by
  have inside : |signed negative p| < overflow := by
    rw [abs_signed, abs_of_nonneg positive]
    exact within
  have both : forall other number, toRat? other = some number ->
      |signed negative (significand * 2 ^ exponent) - signed negative p| ≤
          |number - signed negative p| ∧
        (|signed negative (significand * 2 ^ exponent) - signed negative p| =
            |number - signed negative p| ->
          number = signed negative (significand * 2 ^ exponent) ∨ significand % 2 = 0) := by
    intro other number denotes
    rcases exists_of_toRat? denotes with ⟨n, low, rfl, short, least⟩
    cases negative with
    | false => exact nearest n low short least
    | true =>
        rcases nearest (-n) low (by rwa [abs_neg]) least with ⟨near, tie⟩
        have own : |signed true (significand * 2 ^ exponent) - signed true p| =
            |significand * 2 ^ exponent - p| := by
          rw [signed, signed, if_pos rfl, if_pos rfl, neg_sub_neg, abs_sub_comm]
        have mirrored : |(n : Rat) * 2 ^ low - signed true p| =
            |((-n : Int) : Rat) * 2 ^ low - p| := by
          rw [signed, if_pos rfl, Int.cast_neg, neg_mul, ← abs_neg]
          congr 1
          ring
        rw [own, mirrored]
        refine ⟨near, fun equal => (tie equal).imp_left fun same => ?_⟩
        rw [signed, if_pos rfl, ← same, Int.cast_neg, neg_mul, neg_neg]
  exact .finite inside rfl (fun other number denotes => (both other number denotes).1)
    fun other number denotes => (both other number denotes).2

/-- A number at least as great as the end of the doubles is rounded to an infinite double. -/
theorem isNearest_infinite {p : Rat} (beyond : overflow ≤ p) (negative : Bool) :
    IsNearest (.infinite negative) (signed negative p) := by
  have positive : 0 < p := by
    refine lt_of_lt_of_le ?_ beyond
    rw [overflow, sub_pos]
    exact pow_lt_pow_right₀ (by norm_num) (by norm_num)
  refine .infinite ?_ ?_
  · rw [abs_signed, abs_of_pos positive]
    exact beyond
  · cases negative with
    | true => exact iff_of_true rfl (neg_lt_zero.mpr positive)
    | false => exact iff_of_false Bool.false_ne_true (not_lt.mpr positive.le)

/-! ## Multiples of a unit -/

/-- Numbers that are at most half a unit apart. -/
theorem bounds_of_close {q p unit : Rat} (close : 2 * |q - p| ≤ unit) :
    -(unit / 2) ≤ q - p ∧ q - p ≤ unit / 2 :=
  abs_le.mp ((le_div_iff₀' two_pos).mpr close)

variable {p unit : Rat} {m : Int} {exponent : Int}

/-- A multiple of a unit within half a unit of a number is as near to it as any multiple, and a different
one is equally near only if both are half a unit away. -/
theorem nearest_multiple (positive : 0 < unit) (close : 2 * |m * unit - p| ≤ unit) (j : Int) :
    |m * unit - p| ≤ |j * unit - p| ∧
      (|m * unit - p| = |j * unit - p| -> j = m ∨ 2 * |m * unit - p| = unit) := by
  by_cases same : j = m
  · rw [same]
    exact ⟨le_rfl, fun _ => Or.inl rfl⟩
  · -- two different multiples are a unit apart
    have step : (1 : Rat) ≤ |(j : Rat) - m| := by
      rw [← Int.cast_sub, ← Int.cast_abs]
      exact_mod_cast Int.one_le_abs (sub_ne_zero.mpr same)
    have apart : unit ≤ |j * unit - m * unit| := by
      rw [← sub_mul, abs_mul, abs_of_pos positive]
      exact le_mul_of_one_le_left positive.le step
    have detour : |j * unit - m * unit| ≤ |j * unit - p| + |m * unit - p| := by
      rw [abs_sub_comm (m * unit) p]
      exact abs_sub_le _ p _
    constructor
    · linarith
    · intro equal
      right
      linarith

/-- No two multiples of a unit are within half a unit of one number, if one of them is nearer than that. -/
theorem multiple_unique {j : Int} (positive : 0 < unit) (close : 2 * |m * unit - p| ≤ unit)
    (closer : 2 * |j * unit - p| < unit) : j = m := by
  rcases nearest_multiple positive closer.le m with ⟨near, tie⟩
  have equal := le_antisymm near (nearest_multiple positive close j).1
  exact ((tie equal).resolve_right closer.ne).symm

/-- A multiple of a power of two is one of each smaller power of two. -/
theorem multiple_of_le {low high : Int} (lower : low ≤ high) (n : Int) :
    Exists fun j : Int => (n : Rat) * 2 ^ high = j * 2 ^ low := by
  refine ⟨n * 2 ^ (high - low).toNat, ?_⟩
  have gap : high = (high - low).toNat + low := by omega
  have two : (2 : Rat) ≠ 0 := by norm_num
  rw [gap, zpow_add₀ two, zpow_natCast, Int.cast_mul, Int.cast_pow, Int.cast_ofNat, mul_assoc, ← gap]

/-- Numbers with at most 53 bits at an exponent below another one are below the least number with a full
significand there. -/
theorem abs_lt_of_lt {low : Int} (lower : low < exponent) {n : Int} (short : |n| < 2 ^ 53) :
    |(n : Rat) * 2 ^ low| < 2 ^ 52 * 2 ^ exponent := by
  have two : (2 : Rat) ≠ 0 := by norm_num
  have positive : (0 : Rat) < 2 ^ low := zpow_pos (by norm_num) low
  have bound : |(n : Rat)| < 2 ^ 53 := by exact_mod_cast short
  have step : (2 : Rat) ^ (low + 1) ≤ 2 ^ exponent := zpow_le_zpow_right₀ (by norm_num) lower
  rw [zpow_add_one₀ two] at step
  rw [abs_mul, abs_of_pos positive]
  calc |(n : Rat)| * 2 ^ low < 2 ^ 53 * 2 ^ low := mul_lt_mul_of_pos_right bound positive
    _ = 2 ^ 52 * (2 ^ low * 2) := by ring
    _ ≤ 2 ^ 52 * 2 ^ exponent := mul_le_mul_of_nonneg_left step (by norm_num)

/-- The nearest multiple of a unit is as near as any number with 53 bits and an exponent of doubles, if
the unit is that of the least exponent or the number fills the significand. -/
theorem nearest_of_full (full : exponent = -1074 ∨ 2 ^ 52 * 2 ^ exponent ≤ p)
    (close : 2 * |m * 2 ^ exponent - p| ≤ 2 ^ exponent) {n low : Int} (short : |n| < 2 ^ 53)
    (least : -1074 ≤ low) :
    |m * 2 ^ exponent - p| ≤ |n * 2 ^ low - p| ∧
      (|m * 2 ^ exponent - p| = |n * 2 ^ low - p| ->
        (n : Rat) * 2 ^ low = m * 2 ^ exponent ∨ 2 * |m * 2 ^ exponent - p| = 2 ^ exponent) := by
  have positive : (0 : Rat) < 2 ^ exponent := zpow_pos (by norm_num) exponent
  by_cases lower : low < exponent
  · -- the least full number of the exponent lies between the two
    have reached : 2 ^ 52 * 2 ^ exponent ≤ p := full.resolve_left (by omega)
    have below := (abs_lt.mp (abs_lt_of_lt lower short)).2
    have nearer : |m * 2 ^ exponent - p| ≤ |((2 ^ 52 : Int) : Rat) * 2 ^ exponent - p| :=
      (nearest_multiple positive close _).1
    rw [Int.cast_pow, Int.cast_ofNat, abs_sub_comm (2 ^ 52 * 2 ^ exponent) p,
      abs_of_nonneg (sub_nonneg.mpr reached)] at nearer
    have further : p - 2 ^ 52 * 2 ^ exponent < |n * 2 ^ low - p| := by
      rw [abs_sub_comm]
      exact lt_of_lt_of_le (by linarith) (le_abs_self _)
    exact ⟨(nearer.trans_lt further).le, fun equal => absurd equal (nearer.trans_lt further).ne⟩
  · rcases multiple_of_le (not_lt.mp lower) n with ⟨j, same⟩
    rw [same]
    rcases nearest_multiple positive close j with ⟨nearest, tie⟩
    refine ⟨nearest, fun equal => ?_⟩
    exact (tie equal).imp_left fun equal => by rw [equal]

/-! ## Rounded quotients -/

/-- A rounded quotient is at most half a unit off, and even if it is exactly half a unit off. -/
theorem roundDiv_spec {numerator denominator : Nat} (positive : 0 < denominator) :
    2 * |(roundDiv numerator denominator : Int) * denominator - numerator| ≤ denominator ∧
      (2 * |(roundDiv numerator denominator : Int) * denominator - numerator| = denominator ->
        roundDiv numerator denominator % 2 = 0) := by
  have split := Nat.div_add_mod numerator denominator
  have small := Nat.mod_lt numerator positive
  have down : ((numerator / denominator : Nat) : Int) * denominator - numerator =
      -(numerator % denominator : Nat) := by
    nth_rewrite 2 [← split]
    push_cast
    ring
  have up : ((numerator / denominator + 1 : Nat) : Int) * denominator - numerator =
      denominator - (numerator % denominator : Nat) := by
    nth_rewrite 2 [← split]
    push_cast
    ring
  have off : |-((numerator % denominator : Nat) : Int)| = (numerator % denominator : Nat) := by
    rw [abs_neg, Nat.abs_cast]
  have rest : |(denominator : Int) - (numerator % denominator : Nat)| =
      denominator - (numerator % denominator : Nat) := abs_of_nonneg (by omega)
  unfold roundDiv
  simp only
  split_ifs with below above even
  · rw [down, off]
    omega
  · rw [up, rest]
    omega
  · rw [down, off]
    omega
  · rw [up, rest]
    omega

/-- The same of the quotient as a rational number. -/
theorem roundDiv_close {numerator denominator : Nat} (positive : 0 < denominator) :
    2 * |(roundDiv numerator denominator : Rat) - numerator / denominator| ≤ 1 ∧
      (2 * |(roundDiv numerator denominator : Rat) - numerator / denominator| = 1 ->
        roundDiv numerator denominator % 2 = 0) := by
  have above : (0 : Rat) < denominator := Nat.cast_pos.mpr positive
  rcases @roundDiv_spec numerator denominator positive with ⟨close, tie⟩
  have error : |(roundDiv numerator denominator : Rat) - numerator / denominator| =
      ((|(roundDiv numerator denominator : Int) * denominator - numerator| : Int) : Rat) /
        denominator := by
    rw [Int.cast_abs, ← abs_of_pos above, ← abs_div, abs_of_pos above]
    push_cast
    rw [sub_div, mul_div_cancel_right₀ _ above.ne']
  rw [error, ← mul_div_assoc, div_le_one above, div_eq_one_iff_eq above.ne']
  exact ⟨by exact_mod_cast close, fun equal => tie (by exact_mod_cast equal)⟩

/-! ## The exponent -/

/-- A shifted fraction has a positive denominator, and is the fraction divided by the power. -/
theorem shifted_spec {base : Nat} (some : 0 < base) (numerator : Nat) {denominator : Nat}
    (positive : 0 < denominator) (exponent : Int) :
    0 < (shifted base numerator denominator exponent).2 ∧
      ((shifted base numerator denominator exponent).1 : Rat) /
          (shifted base numerator denominator exponent).2 =
        (numerator / denominator : Rat) / (base : Rat) ^ exponent := by
  have baseNonzero : (base : Rat) ≠ 0 := Nat.cast_ne_zero.mpr some.ne'
  have nonzero : (denominator : Rat) ≠ 0 := Nat.cast_ne_zero.mpr positive.ne'
  unfold shifted
  by_cases up : 0 ≤ exponent
  · have power : (base : Rat) ^ exponent = (base : Rat) ^ exponent.toNat := by
      rw [← zpow_natCast, Int.toNat_of_nonneg up]
    rw [if_pos up]
    refine ⟨Nat.mul_pos positive (Nat.pow_pos some), ?_⟩
    simp only [Nat.pow_eq, Nat.cast_mul, Nat.cast_pow]
    rw [power, div_div]
  · have power : (base : Rat) ^ exponent = ((base : Rat) ^ (-exponent).toNat)⁻¹ := by
      rw [← zpow_natCast, Int.toNat_of_nonneg (by omega), zpow_neg, inv_inv]
    rw [if_neg up]
    refine ⟨positive, ?_⟩
    simp only [Nat.pow_eq, Nat.cast_mul, Nat.cast_pow]
    rw [power, div_inv_eq_mul, mul_div_right_comm]

/-- A positive number lies between two powers of two. -/
theorem log2_bounds {n : Nat} (positive : 0 < n) :
    (2 : Rat) ^ (n.log2 : Int) ≤ n ∧ (n : Rat) < 2 ^ ((n.log2 : Int) + 1) := by
  have two : (2 : Rat) ≠ 0 := by norm_num
  rw [zpow_add_one₀ two, zpow_natCast]
  constructor
  · exact_mod_cast Nat.log2_self_le positive.ne'
  · exact_mod_cast @Nat.lt_log2_self n

/-- Before and after it is compared with `2 ^ 53`, a quotient fills the significand at an exponent. -/
theorem full_exponent {numerator denominator : Nat} (top : 0 < numerator) (bottom : 0 < denominator)
    {low : Int} (estimate : low = (numerator.log2 : Int) - denominator.log2 - 53) :
    (2 : Rat) ^ 52 * 2 ^ low ≤ numerator / denominator ∧
      (numerator / denominator : Rat) < 2 ^ 53 * 2 ^ (low + 1) := by
  have two : (2 : Rat) ≠ 0 := by norm_num
  have positive : (0 : Rat) < denominator := Nat.cast_pos.mpr bottom
  rcases log2_bounds top with ⟨least, most⟩
  rcases log2_bounds bottom with ⟨bottomLeast, bottomMost⟩
  constructor
  · rw [le_div_iff₀ positive]
    calc (2 : Rat) ^ 52 * 2 ^ low * denominator
        ≤ 2 ^ 52 * 2 ^ low * 2 ^ ((denominator.log2 : Int) + 1) := by gcongr
      _ = 2 ^ (numerator.log2 : Int) := by
          rw [← zpow_natCast, ← zpow_add₀ two, ← zpow_add₀ two]
          congr 1
          push_cast
          omega
      _ ≤ numerator := least
  · rw [div_lt_iff₀ positive]
    calc (numerator : Rat) < 2 ^ ((numerator.log2 : Int) + 1) := most
      _ = 2 ^ 53 * 2 ^ (low + 1) * 2 ^ (denominator.log2 : Int) := by
          rw [← zpow_natCast, ← zpow_add₀ two, ← zpow_add₀ two]
          congr 1
          push_cast
          omega
      _ ≤ 2 ^ 53 * 2 ^ (low + 1) * denominator := by gcongr

/-- The chosen exponent is one of doubles.  At this exponent a quotient has at most 53 bits before the
point, and no fewer unless the exponent is the least one. -/
theorem exponentFor_spec {numerator denominator : Nat} (top : 0 < numerator)
    (bottom : 0 < denominator) :
    -1074 ≤ exponentFor numerator denominator ∧
      (numerator / denominator : Rat) < 2 ^ 53 * 2 ^ exponentFor numerator denominator ∧
      (exponentFor numerator denominator = -1074 ∨
        2 ^ 52 * 2 ^ exponentFor numerator denominator ≤ (numerator / denominator : Rat)) := by
  generalize estimate : (numerator.log2 : Int) - denominator.log2 - 53 = low
  rcases full_exponent top bottom estimate.symm with ⟨least, most⟩
  have two : (2 : Rat) ≠ 0 := by norm_num
  have unit : (0 : Rat) < 2 ^ low := zpow_pos (by norm_num) low
  rcases @shifted_spec 2 (by decide) numerator _ bottom low with ⟨positive, quotient⟩
  have bits : 0x20000000000000 ≤ (shifted 2 numerator denominator low).1 /
        (shifted 2 numerator denominator low).2 ↔
      2 ^ 53 * 2 ^ low ≤ (numerator / denominator : Rat) := by
    rw [Nat.le_div_iff_mul_le positive, ← le_div_iff₀ unit]
    have cast : (0 : Rat) < (shifted 2 numerator denominator low).2 := Nat.cast_pos.mpr positive
    push_cast at quotient
    rw [← quotient, le_div_iff₀ cast]
    exact_mod_cast Iff.rfl
  -- the exponent at which all 53 bits are used
  have full : Exists fun exact : Int =>
      exponentFor numerator denominator = (if exact < -1074 then -1074 else exact) ∧
        (2 : Rat) ^ 52 * 2 ^ exact ≤ numerator / denominator ∧
        (numerator / denominator : Rat) < 2 ^ 53 * 2 ^ exact := by
    refine ⟨if 0x20000000000000 ≤ (shifted 2 numerator denominator low).1 /
      (shifted 2 numerator denominator low).2 then low + 1 else low, ?_, ?_⟩
    · rw [exponentFor, estimate]
    · by_cases wide : 0x20000000000000 ≤ (shifted 2 numerator denominator low).1 /
          (shifted 2 numerator denominator low).2
      · rw [if_pos wide]
        refine ⟨?_, most⟩
        have reached := bits.mp wide
        rw [zpow_add_one₀ two]
        linarith
      · rw [if_neg wide]
        exact ⟨least, not_le.mp (mt bits.mpr wide)⟩
  rcases full with ⟨exact, chosen, least, most⟩
  rw [chosen]
  by_cases small : exact < -1074
  · rw [if_pos small]
    refine ⟨le_rfl, most.trans_le ?_, Or.inl rfl⟩
    have step : (2 : Rat) ^ exact ≤ 2 ^ (-1074 : Int) :=
      zpow_le_zpow_right₀ (by norm_num) small.le
    gcongr
  · rw [if_neg small]
    exact ⟨not_lt.mp small, most, Or.inr least⟩

/-! ## Rounding -/

/-- The end of the doubles in units of the largest exponent. -/
theorem overflow_eq : overflow = 2 ^ 53 * 2 ^ (971 : Int) - 2 ^ (971 : Int) / 2 := by
  have unit : (2 : Rat) ^ (971 : Int) = 2 ^ 970 * 2 := (zpow_ofNat 2 971).trans (pow_succ 2 970)
  have power : (2 : Rat) ^ 1024 = 2 ^ 53 * (2 ^ 970 * 2) := by
    rw [← pow_succ, ← pow_add]
  rw [overflow, unit, power, mul_div_cancel_right₀ _ (two_ne_zero' Rat)]

/-- An exponent and a significand that a positive number is rounded to: the significand is the nearest
integer, the even one if two are equally near, and it is full unless the exponent is the least one. -/
structure RoundedAt (p : Rat) (significand : Nat) (exponent : Int) : Prop where
  least : -1074 ≤ exponent
  fits : p < 2 ^ 53 * 2 ^ exponent
  full : exponent = -1074 ∨ 2 ^ 52 * 2 ^ exponent ≤ p
  close : 2 * |significand * 2 ^ exponent - p| ≤ 2 ^ exponent
  even : 2 * |significand * 2 ^ exponent - p| = 2 ^ exponent -> significand % 2 = 0

/-- A quotient rounded to a multiple of a power is at most half the power off, and an even multiple if it
is exactly half the power off. -/
theorem roundDiv_shifted {base : Nat} (some : 0 < base) (numerator : Nat) {denominator : Nat}
    (positive : 0 < denominator) (exponent : Int) :
    2 * |(roundDiv (shifted base numerator denominator exponent).1
          (shifted base numerator denominator exponent).2 : Rat) * base ^ exponent -
        numerator / denominator| ≤ (base : Rat) ^ exponent ∧
      (2 * |(roundDiv (shifted base numerator denominator exponent).1
            (shifted base numerator denominator exponent).2 : Rat) * base ^ exponent -
          numerator / denominator| = (base : Rat) ^ exponent ->
        roundDiv (shifted base numerator denominator exponent).1
          (shifted base numerator denominator exponent).2 % 2 = 0) := by
  have unit : (0 : Rat) < (base : Rat) ^ exponent := zpow_pos (Nat.cast_pos.mpr some) exponent
  rcases shifted_spec some numerator positive exponent with ⟨bottom, quotient⟩
  rcases @roundDiv_close (shifted base numerator denominator exponent).1 _ bottom with ⟨close, tie⟩
  generalize roundDiv (shifted base numerator denominator exponent).1
    (shifted base numerator denominator exponent).2 = multiple at close tie ⊢
  rw [quotient] at close tie
  have error : 2 * |multiple * (base : Rat) ^ exponent - numerator / denominator| =
      2 * |multiple - (numerator / denominator : Rat) / (base : Rat) ^ exponent| *
        (base : Rat) ^ exponent := by
    rw [mul_assoc, ← abs_of_pos unit, ← abs_mul, abs_of_pos unit, sub_mul,
      div_mul_cancel₀ _ unit.ne']
  rw [error]
  exact ⟨mul_le_of_le_one_left unit.le close, fun equal => tie ((mul_eq_right₀ unit.ne').mp equal)⟩

/-- Rounding a quotient at the chosen exponent. -/
theorem roundedAt_exponentFor {numerator denominator : Nat} (top : 0 < numerator)
    (bottom : 0 < denominator) :
    RoundedAt (numerator / denominator)
      (roundDiv
        (shifted 2 numerator denominator (exponentFor numerator denominator)).1
        (shifted 2 numerator denominator (exponentFor numerator denominator)).2)
      (exponentFor numerator denominator) := by
  rcases exponentFor_spec top bottom with ⟨least, fits, full⟩
  rcases @roundDiv_shifted 2 (by decide) numerator _ bottom (exponentFor numerator denominator) with
    ⟨close, even⟩
  rw [Nat.cast_ofNat] at close even
  exact ⟨least, fits, full, close, even⟩

namespace RoundedAt

variable {p : Rat} {significand : Nat} {exponent : Int}

/-- The significand is at most `2 ^ 53`, and at least `2 ^ 52` unless the exponent is the least one. -/
theorem significand_bounds (rounded : RoundedAt p significand exponent) :
    significand ≤ 2 ^ 53 ∧ (exponent = -1074 ∨ 2 ^ 52 ≤ significand) := by
  rcases rounded with ⟨_, fits, full, close, _⟩
  have unit : (0 : Rat) < 2 ^ exponent := zpow_pos (by norm_num) exponent
  rcases bounds_of_close close with ⟨below, above⟩
  constructor
  · have bound : (significand : Rat) * 2 ^ exponent < (2 ^ 53 + 1) * 2 ^ exponent := by linarith
    have small := lt_of_mul_lt_mul_right bound unit.le
    have natural : significand < 2 ^ 53 + 1 := by exact_mod_cast small
    exact Nat.le_of_lt_succ natural
  · refine full.imp_right fun reached => ?_
    have bound : (2 ^ 52 : Rat) * 2 ^ exponent < (significand + 1) * 2 ^ exponent := by linarith
    have large := lt_of_mul_lt_mul_right bound unit.le
    have natural : 2 ^ 52 < significand + 1 := by exact_mod_cast large
    exact Nat.le_of_lt_succ natural

/-- No double is nearer, and another one is as near only if the significand is even. -/
theorem nearest (rounded : RoundedAt p significand exponent) (n low : Int) (short : |n| < 2 ^ 53)
    (least : -1074 ≤ low) :
    |significand * 2 ^ exponent - p| ≤ |n * 2 ^ low - p| ∧
      (|significand * 2 ^ exponent - p| = |n * 2 ^ low - p| ->
        (n : Rat) * 2 ^ low = significand * 2 ^ exponent ∨ significand % 2 = 0) := by
  have close : 2 * |((significand : Int) : Rat) * 2 ^ exponent - p| ≤ 2 ^ exponent := rounded.close
  rcases nearest_of_full rounded.full close short least with ⟨near, tie⟩
  exact ⟨near, fun equal => (tie equal).imp_right rounded.even⟩

/-- At the largest exponent, a number that is not rounded up to the next power of two is below the end of
the doubles: halfway beyond the largest double, the even significand is that of the power. -/
theorem below_overflow_of_largest (rounded : RoundedAt p significand 971)
    (short : significand < 2 ^ 53) : p < overflow := by
  rcases rounded with ⟨_, fits, _, close, even⟩
  have positive : (0 : Rat) < 2 ^ (971 : Int) := zpow_pos (by norm_num) 971
  rw [overflow_eq]
  generalize (2 : Rat) ^ (971 : Int) = unit at positive fits close even ⊢
  rcases bounds_of_close close with ⟨below, _⟩
  have last : (significand : Rat) + 1 ≤ 2 ^ 53 := by exact_mod_cast short
  have bound := mul_le_mul_of_nonneg_right last positive.le
  refine lt_of_le_of_ne (by linarith) fun equal => ?_
  have largest : significand = 2 ^ 53 - 1 := by
    have reached : (2 : Rat) ^ 53 * unit ≤ (significand + 1) * unit := by linarith
    have natural : 2 ^ 53 ≤ significand + 1 := by
      exact_mod_cast le_of_mul_le_mul_right reached positive
    omega
  have off : (significand : Rat) * unit - p = -(unit / 2) := by
    rw [equal, largest]
    push_cast
    ring
  have tie : 2 * |significand * unit - p| = unit := by
    rw [off, abs_neg, abs_of_pos (half_pos positive)]
    ring
  have parity := even tie
  rw [largest] at parity
  exact absurd parity (by decide)

/-- A number that is rounded to a finite double is below the end of the doubles. -/
theorem below_overflow (rounded : RoundedAt p significand exponent)
    (finite : exponent < 971 ∨ (exponent = 971 ∧ significand < 2 ^ 53)) : p < overflow := by
  rcases finite with lower | ⟨same, short⟩
  · have positive : (0 : Rat) < 2 ^ (971 : Int) := zpow_pos (by norm_num) 971
    have step : (2 : Rat) ^ (exponent + 1) ≤ 2 ^ (971 : Int) :=
      zpow_le_zpow_right₀ (by norm_num) lower
    have fits := rounded.fits
    rw [zpow_add_one₀ (by norm_num)] at step
    rw [overflow_eq]
    generalize (2 : Rat) ^ (971 : Int) = unit at positive step ⊢
    linarith
  · subst same
    exact rounded.below_overflow_of_largest short

/-- A number that is rounded up to a power of two beyond all doubles is not below their end. -/
theorem overflow_le (rounded : RoundedAt p significand exponent)
    (infinite : 971 < exponent ∨ (exponent = 971 ∧ significand = 2 ^ 53)) : overflow ≤ p := by
  rcases rounded with ⟨_, _, full, close, _⟩
  have positive : (0 : Rat) < 2 ^ (971 : Int) := zpow_pos (by norm_num) 971
  rw [overflow_eq]
  rcases infinite with higher | ⟨same, carried⟩
  · have step : (2 : Rat) ^ ((971 : Int) + 1) ≤ 2 ^ exponent :=
      zpow_le_zpow_right₀ (by norm_num) higher
    rw [zpow_add_one₀ (by norm_num)] at step
    have reached := full.resolve_left (by omega)
    generalize (2 : Rat) ^ (971 : Int) = unit at positive step ⊢
    linarith
  · subst same
    generalize (2 : Rat) ^ (971 : Int) = unit at positive close ⊢
    rcases bounds_of_close close with ⟨_, above⟩
    rw [carried] at above
    push_cast at above
    linarith

/-- A significand that is rounded up to `2 ^ 53` is halved, and the exponent is the next one. -/
theorem isNearest_carry (rounded : RoundedAt p significand exponent) (positive : 0 ≤ p)
    (carry : significand = 2 ^ 53) (carried : Canonical 0x10000000000000 (exponent + 1))
    (negative : Bool) :
    IsNearest (.finite negative 0x10000000000000 (exponent + 1) carried) (signed negative p) := by
  have finite : exponent < 971 := by
    have high := carried.2.2.1
    omega
  have value : ((0x10000000000000 : Nat) : Rat) * 2 ^ (exponent + 1) = significand * 2 ^ exponent := by
    rw [carry, zpow_add_one₀ (by norm_num)]
    push_cast
    ring
  refine isNearest_finite carried positive (rounded.below_overflow (Or.inl finite)) ?_ negative
  rw [value]
  intro n low short least
  exact ⟨(rounded.nearest n low short least).1, fun _ => Or.inr (by decide)⟩

/-- The double that is made is the nearest one. -/
theorem isNearest_pack (rounded : RoundedAt p significand exponent) (positive : 0 ≤ p)
    (negative : Bool) : IsNearest (pack negative significand exponent) (signed negative p) := by
  rcases rounded.significand_bounds with ⟨most, full⟩
  have least := rounded.least
  unfold pack
  by_cases direct : Canonical significand exponent
  · rw [dif_pos direct]
    rcases direct with ⟨short, _, high, _⟩
    have finite : exponent < 971 ∨ (exponent = 971 ∧ significand < 2 ^ 53) :=
      (lt_or_eq_of_le high).imp_right fun same => ⟨same, short⟩
    exact isNearest_finite _ positive (rounded.below_overflow finite) rounded.nearest negative
  · rw [dif_neg direct]
    by_cases carry : significand = 0x20000000000000
    · rw [if_pos carry]
      by_cases carried : Canonical 0x10000000000000 (exponent + 1)
      · rw [dif_pos carried]
        exact rounded.isNearest_carry positive carry carried negative
      · rw [dif_neg carried]
        have high : ¬ exponent + 1 ≤ 971 := fun high =>
          carried ⟨by decide, by omega, high, Or.inr le_rfl⟩
        have infinite : 971 < exponent ∨ (exponent = 971 ∧ significand = 2 ^ 53) :=
          (by omega : 971 < exponent ∨ exponent = 971).imp_right fun same => ⟨same, carry⟩
        exact isNearest_infinite (rounded.overflow_le infinite) negative
    · rw [if_neg carry]
      have high : 971 < exponent :=
        not_le.mp fun low => direct ⟨lt_of_le_of_ne most carry, least, low, full⟩
      exact isNearest_infinite (rounded.overflow_le (Or.inl high)) negative

end RoundedAt

/-- A quotient gives the nearest double. -/
theorem isNearest_ofQuotient (negative : Bool) {numerator denominator : Nat} (top : 0 < numerator)
    (bottom : 0 < denominator) :
    IsNearest (ofQuotient negative numerator denominator)
      (signed negative (numerator / denominator)) := by
  rw [ofQuotient, if_neg top.ne']
  exact (roundedAt_exponentFor top bottom).isNearest_pack (by positivity) negative

/-! ## Decimals -/

/-- A positive number lies between two powers of ten, by the number of its digits. -/
theorem digits_bounds {n : Nat} (positive : 0 < n) :
    10 ^ ((Nat.toDigits 10 n).length - 1) ≤ n ∧ n < 10 ^ (Nat.toDigits 10 n).length := by
  have some : 0 < (Nat.toDigits 10 n).length := List.length_pos_iff.mpr Nat.toDigits_ne_nil
  constructor
  · by_cases single : (Nat.toDigits 10 n).length - 1 = 0
    · rw [single]
      exact positive
    · refine not_lt.mp fun below => ?_
      have shorter := (Nat.length_toDigits_le_iff (by decide) (Nat.pos_of_ne_zero single)).mpr below
      omega
  · exact (Nat.length_toDigits_le_iff (by decide) some).mp le_rfl

/-- So does a decimal. -/
theorem scaled_bounds {coefficient : Nat} (positive : 0 < coefficient) (exponent : Int) :
    (10 : Rat) ^ (exponent + (Nat.toDigits 10 coefficient).length - 1) ≤
        coefficient * 10 ^ exponent ∧
      (coefficient : Rat) * 10 ^ exponent <
        10 ^ (exponent + (Nat.toDigits 10 coefficient).length) := by
  have ten : (10 : Rat) ≠ 0 := by norm_num
  have unit : (0 : Rat) < 10 ^ exponent := zpow_pos (by norm_num) exponent
  rcases digits_bounds positive with ⟨least, most⟩
  have some : 0 < (Nat.toDigits 10 coefficient).length :=
    List.length_pos_iff.mpr Nat.toDigits_ne_nil
  generalize (Nat.toDigits 10 coefficient).length = digits at least most some ⊢
  constructor
  · have shape : exponent + (digits : Int) - 1 = exponent + (digits - 1 : Nat) := by omega
    have bound : ((10 : Rat) ^ (digits - 1)) ≤ coefficient := by exact_mod_cast least
    rw [shape, zpow_add₀ ten, zpow_natCast, mul_comm]
    exact mul_le_mul_of_nonneg_right bound unit.le
  · have bound : (coefficient : Rat) < 10 ^ digits := by exact_mod_cast most
    rw [zpow_add₀ ten, zpow_natCast, mul_comm (10 ^ exponent : Rat)]
    exact mul_lt_mul_of_pos_right bound unit

/-- Numbers that are at most half the least positive double are rounded to zero. -/
theorem RoundedAt.zero_of_small {p : Rat} (positive : 0 ≤ p) (small : 2 * p ≤ 2 ^ (-1074 : Int)) :
    RoundedAt p 0 (-1074) := by
  have unit : (0 : Rat) < 2 ^ (-1074 : Int) := zpow_pos (by norm_num) _
  have off : |((0 : Nat) : Rat) * 2 ^ (-1074 : Int) - p| = p := by
    rw [Nat.cast_zero, zero_mul, zero_sub, abs_neg, abs_of_nonneg positive]
  refine ⟨le_rfl, ?_, Or.inl rfl, by rwa [off], fun _ => rfl⟩
  generalize (2 : Rat) ^ (-1074 : Int) = least at unit small ⊢
  linarith

theorem pack_zero (negative : Bool) : pack negative 0 (-1074) = zero negative :=
  dif_pos (by decide)

/-- Zero is nearest to such numbers. -/
theorem isNearest_zero (negative : Bool) {p : Rat} (positive : 0 ≤ p)
    (small : 2 * p ≤ 2 ^ (-1074 : Int)) : IsNearest (zero negative) (signed negative p) := by
  rw [← pack_zero]
  exact (RoundedAt.zero_of_small positive small).isNearest_pack positive negative

/-- Half the least positive double is above this power of ten. -/
theorem two_mul_power_le : (2 : Rat) * 10 ^ (-331 : Int) ≤ 2 ^ (-1074 : Int) := by
  have natural : 2 * 2 ^ 1074 ≤ 10 ^ 331 := by decide +kernel
  have bound : (2 : Rat) * 2 ^ 1074 ≤ 10 ^ 331 := by exact_mod_cast natural
  rw [zpow_neg, zpow_neg, ← div_eq_mul_inv, zpow_ofNat, zpow_ofNat, div_le_iff₀ (by positivity),
    inv_mul_eq_div, le_div_iff₀ (by positivity)]
  exact bound

/-- The end of the doubles is below this power of ten. -/
theorem overflow_le_power : overflow ≤ 10 ^ (310 : Int) := by
  have natural : 2 ^ 1024 ≤ 10 ^ 310 := by decide +kernel
  have bound : (2 : Rat) ^ 1024 ≤ 10 ^ 310 := by exact_mod_cast natural
  rw [zpow_ofNat]
  exact (sub_le_self _ (by positivity)).trans bound

/-- What is done to a positive decimal: it is far below all positive doubles or beyond all doubles and
answered at once, or it is rounded as a quotient. -/
theorem ofScaled_cases {coefficient : Nat} (positive : 0 < coefficient) (exponent : Int) :
    (2 * (coefficient * 10 ^ exponent : Rat) ≤ 2 ^ (-1074 : Int) ∧
      forall negative, ofScaled negative coefficient exponent = zero negative) ∨
    (overflow ≤ coefficient * 10 ^ exponent ∧
      forall negative, ofScaled negative coefficient exponent = .infinite negative) ∨
    Exists fun top : Nat => Exists fun bottom : Nat => 0 < top ∧ 0 < bottom ∧
      (top / bottom : Rat) = coefficient * 10 ^ exponent ∧
      forall negative, ofScaled negative coefficient exponent = ofQuotient negative top bottom := by
  rcases scaled_bounds positive exponent with ⟨least, most⟩
  have nonzero : coefficient ≠ 0 := positive.ne'
  unfold ofScaled
  simp only [nonzero, decide_false, Bool.false_or, decide_eq_true_eq]
  generalize exponent + ((Nat.toDigits 10 coefficient).length : Int) = places at least most ⊢
  by_cases tiny : places < -330
  · have step : (10 : Rat) ^ places ≤ 10 ^ (-331 : Int) :=
      zpow_le_zpow_right₀ (by norm_num) (by omega)
    have small := mul_le_mul_of_nonneg_left (most.le.trans step) (by norm_num : (0 : Rat) ≤ 2)
    exact Or.inl ⟨small.trans two_mul_power_le, fun negative => if_pos tiny⟩
  · by_cases vast : 310 < places
    · have step : (10 : Rat) ^ (310 : Int) ≤ 10 ^ (places - 1) :=
        zpow_le_zpow_right₀ (by norm_num) (by omega)
      refine Or.inr (Or.inl ⟨overflow_le_power.trans (step.trans least), fun negative => ?_⟩)
      rw [if_neg tiny, if_pos vast]
    · rcases @shifted_spec 10 (by decide) coefficient 1 Nat.one_pos (-exponent) with
        ⟨bottom, quotient⟩
      generalize shifted 10 coefficient 1 (-exponent) = fraction at bottom quotient ⊢
      have value : (fraction.1 : Rat) / fraction.2 = coefficient * 10 ^ exponent := by
        rw [quotient, Nat.cast_one, div_one, Nat.cast_ofNat, zpow_neg, div_inv_eq_mul]
      have top : 0 < fraction.1 := by
        refine Nat.pos_of_ne_zero fun zero => ?_
        rw [zero, Nat.cast_zero, zero_div] at value
        have something : (coefficient : Rat) * 10 ^ exponent ≠ 0 :=
          mul_ne_zero (Nat.cast_ne_zero.mpr nonzero) (zpow_ne_zero _ (by norm_num))
        exact something value.symm
      refine Or.inr (Or.inr ⟨fraction.1, fraction.2, top, bottom, value, fun negative => ?_⟩)
      rw [if_neg tiny, if_neg vast]

theorem ofScaled_zero (negative : Bool) (exponent : Int) :
    ofScaled negative 0 exponent = zero negative :=
  rfl

/-- A decimal gives the nearest double. -/
theorem isNearest_ofScaled (negative : Bool) (coefficient : Nat) (exponent : Int) :
    IsNearest (ofScaled negative coefficient exponent)
      (signed negative (coefficient * 10 ^ exponent)) := by
  have positive : (0 : Rat) ≤ coefficient * 10 ^ exponent := by positivity
  by_cases nothing : coefficient = 0
  · rw [nothing, ofScaled_zero]
    refine isNearest_zero negative (by rw [Nat.cast_zero, zero_mul]) ?_
    rw [Nat.cast_zero, zero_mul, mul_zero]
    exact (zpow_pos (by norm_num) _).le
  · rcases ofScaled_cases (Nat.pos_of_ne_zero nothing) exponent with
      ⟨small, made⟩ | ⟨beyond, made⟩ | ⟨top, bottom, some, divides, value, made⟩
    · rw [made]
      exact isNearest_zero negative positive small
    · rw [made]
      exact isNearest_infinite beyond negative
    · rw [made, ← value]
      exact isNearest_ofQuotient negative some divides

/-- Whether a double has a minus sign. -/
def isNegative : Double -> Bool
  | .finite negative _ _ _ => negative
  | .infinite negative => negative
  | .nan => false

theorem isNegative_pack (negative : Bool) (significand : Nat) (exponent : Int) :
    (pack negative significand exponent).isNegative = negative := by
  unfold pack
  split_ifs <;> rfl

theorem isNegative_ofQuotient (negative : Bool) (numerator denominator : Nat) :
    (ofQuotient negative numerator denominator).isNegative = negative := by
  unfold ofQuotient
  split_ifs
  · rfl
  · exact isNegative_pack _ _ _

/-- A decimal and its double have the same sign, also if they are zero. -/
theorem isNegative_ofScaled (negative : Bool) (coefficient : Nat) (exponent : Int) :
    (ofScaled negative coefficient exponent).isNegative = negative := by
  unfold ofScaled
  simp only
  split_ifs
  · rfl
  · rfl
  · exact isNegative_ofQuotient _ _ _

/-- What a decimal gives: the nearest double with its sign, or the infinite or undefined one. -/
inductive Rounds : Decimal -> Double -> Prop where
  | finite {negative : Bool} {coefficient : Nat} {exponent : Int} {x : Double}
      (nearest : x.IsNearest (signed negative (coefficient * 10 ^ exponent)))
      (sign : x.isNegative = negative) :
      Rounds (.finite negative coefficient exponent) x
  | infinite (negative : Bool) : Rounds (.infinite negative) (.infinite negative)
  | nan (negative : Bool) (payload : Nat) : Rounds (.nan negative payload) .nan

theorem rounds_ofDecimal (d : Decimal) : Rounds d (ofDecimal d) := by
  cases d with
  | finite negative coefficient exponent =>
      exact .finite (isNearest_ofScaled negative coefficient exponent)
        (isNegative_ofScaled negative coefficient exponent)
  | infinite negative => exact .infinite negative
  | nan negative payload => exact .nan negative payload

end Double

end TraceView
