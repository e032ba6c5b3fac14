import TraceView.Proofs.Number.Nearest

namespace TraceView

/-!
# Doubles of near decimals

The double that a decimal gives depends on the number that the decimal denotes, and not on how it is
written.  It is the same for all decimals that are near enough to it: a relative error of half a unit in
the seventeenth digit is less than half the distance to the next double, even below a power of two, where
the doubles lie closer.
-/

namespace Double

/-! ## Rounding is a function -/

namespace RoundedAt

variable {p : Rat} {significand other : Nat} {exponent exponent' : Int}

theorem exponent_le (rounded : RoundedAt p significand exponent)
    (again : RoundedAt p other exponent') : exponent ≤ exponent' := by
  refine not_lt.mp fun lower => ?_
  have step : (2 : Rat) ^ (exponent' + 1) ≤ 2 ^ exponent := zpow_le_zpow_right₀ (by norm_num) lower
  have least := again.least
  have reached := rounded.full.resolve_left (by omega)
  have fits := again.fits
  rw [zpow_add_one₀ (by norm_num)] at step
  linarith

/-- A number is rounded in one way: two integers that are equally near and both even are one. -/
theorem unique (rounded : RoundedAt p significand exponent) (again : RoundedAt p other exponent') :
    significand = other ∧ exponent = exponent' := by
  have same : exponent = exponent' := le_antisymm (rounded.exponent_le again) (again.exponent_le rounded)
  subst same
  refine ⟨Classical.byContradiction fun different => ?_, rfl⟩
  have unit : (0 : Rat) < 2 ^ exponent := zpow_pos (by norm_num) exponent
  have integers : (other : Int) ≠ significand := fun equal => different (by exact_mod_cast equal.symm)
  have close : 2 * |((significand : Int) : Rat) * 2 ^ exponent - p| ≤ 2 ^ exponent := rounded.close
  have otherClose : 2 * |((other : Int) : Rat) * 2 ^ exponent - p| ≤ 2 ^ exponent := again.close
  rcases nearest_multiple unit close other with ⟨nearer, tie⟩
  rcases nearest_multiple unit otherClose significand with ⟨notFurther, otherTie⟩
  have equal := le_antisymm nearer notFurther
  have half := (tie equal).resolve_left integers
  have otherHalf := (otherTie equal.symm).resolve_left integers.symm
  have even := rounded.even half
  have otherEven := again.even otherHalf
  have apart : |(significand : Rat) * 2 ^ exponent - other * 2 ^ exponent| ≤ 2 ^ exponent := by
    have detour := abs_sub_le ((significand : Rat) * 2 ^ exponent) p (other * 2 ^ exponent)
    rw [abs_sub_comm p] at detour
    have first := rounded.close
    have second := again.close
    linarith
  rw [← sub_mul, abs_mul, abs_of_pos unit, mul_le_iff_le_one_left unit] at apart
  have adjacent : |(significand : Int) - other| ≤ 1 := by exact_mod_cast apart
  rw [abs_le] at adjacent
  omega

end RoundedAt

/-- A quotient is packed from the significand and the exponent that its value is rounded to. -/
theorem ofQuotient_eq_pack {numerator denominator significand : Nat} {exponent : Int}
    (top : 0 < numerator) (bottom : 0 < denominator)
    (rounded : RoundedAt (numerator / denominator) significand exponent) (negative : Bool) :
    ofQuotient negative numerator denominator = pack negative significand exponent := by
  rcases (roundedAt_exponentFor top bottom).unique rounded with ⟨same, sameExponent⟩
  rw [ofQuotient, if_neg top.ne', ← same, ← sameExponent]

/-- So is a decimal below the end of the doubles. -/
theorem exists_roundedAt {coefficient : Nat} {exponent : Int} (positive : 0 < coefficient)
    (below : (coefficient : Rat) * 10 ^ exponent < overflow) :
    Exists fun significand : Nat => Exists fun power : Int =>
      RoundedAt (coefficient * 10 ^ exponent) significand power ∧
        forall negative, ofScaled negative coefficient exponent = pack negative significand power := by
  rcases ofScaled_cases positive exponent with
    ⟨small, made⟩ | ⟨beyond, _⟩ | ⟨top, bottom, some, divides, value, made⟩
  · refine ⟨0, -1074, RoundedAt.zero_of_small (by positivity) small, fun negative => ?_⟩
    rw [made, pack_zero]
  · exact absurd below (not_lt.mpr beyond)
  · have rounded := roundedAt_exponentFor some divides
    rw [value] at rounded
    refine ⟨_, _, rounded, fun negative => ?_⟩
    rw [← value] at rounded
    rw [made, ofQuotient_eq_pack some divides rounded]

theorem ofScaled_eq_pack {coefficient significand : Nat} {exponent power : Int}
    (positive : 0 < coefficient)
    (rounded : RoundedAt (coefficient * 10 ^ exponent) significand power)
    (below : (coefficient : Rat) * 10 ^ exponent < overflow) (negative : Bool) :
    ofScaled negative coefficient exponent = pack negative significand power := by
  rcases exists_roundedAt positive below with ⟨_, _, own, made⟩
  rcases own.unique rounded with ⟨same, samePower⟩
  rw [made, same, samePower]

/-- A finite double is packed from its value, possibly with a significand that is halved. -/
theorem pack_eq_finite {significand other : Nat} {exponent power : Int} {negative sign : Bool}
    {canonical : Canonical significand exponent}
    (packed : pack negative other power = .finite sign significand exponent canonical) :
    (other : Rat) * 2 ^ power = significand * 2 ^ exponent ∧
      forall negative, pack negative other power = .finite negative significand exponent canonical := by
  unfold pack at packed ⊢
  split_ifs at packed ⊢ with direct carry carried
  · cases packed
    exact ⟨rfl, fun _ => rfl⟩
  · cases packed
    refine ⟨?_, fun _ => rfl⟩
    rw [carry, zpow_add_one₀ (by norm_num)]
    push_cast
    ring

/-! ## Decimals of one value -/

variable {significand : Nat} {exponent : Int} {canonical : Canonical significand exponent}

/-- A double that is not zero comes from a decimal that is not zero. -/
theorem coefficient_pos {coefficient : Nat} {power : Int} {sign : Bool} (positive : 0 < significand)
    (made : ofScaled sign coefficient power = .finite sign significand exponent canonical) :
    0 < coefficient := by
  refine Nat.pos_of_ne_zero fun nothing => ?_
  rw [nothing, ofScaled_zero] at made
  cases made
  exact lt_irrefl 0 positive

theorem below_overflow_of_finite {coefficient : Nat} {power : Int} {sign : Bool}
    (made : ofScaled sign coefficient power = .finite sign significand exponent canonical) :
    (coefficient : Rat) * 10 ^ power < overflow := by
  have nearest := isNearest_ofScaled sign coefficient power
  rw [made] at nearest
  cases nearest with
  | finite within => rwa [abs_signed, abs_of_nonneg (by positivity)] at within

/-- Two decimals of one value give one double, each with its sign. -/
theorem ofScaled_of_same {coefficient other : Nat} {power power' : Int} {sign : Bool}
    (made : ofScaled sign coefficient power = .finite sign significand exponent canonical)
    (same : (coefficient : Rat) * 10 ^ power = other * 10 ^ power') (negative : Bool) :
    ofScaled negative other power' = .finite negative significand exponent canonical := by
  have ten : forall power : Int, (10 : Rat) ^ power ≠ 0 := fun power => zpow_ne_zero power (by norm_num)
  by_cases nothing : coefficient = 0
  · have nothing' : other = 0 := by
      rw [nothing, Nat.cast_zero, zero_mul] at same
      exact_mod_cast (mul_eq_zero.mp same.symm).resolve_right (ten power')
    rw [nothing, ofScaled_zero] at made
    cases made
    rw [nothing', ofScaled_zero]
    rfl
  · have something : other ≠ 0 := by
      intro nothing'
      rw [nothing', Nat.cast_zero, zero_mul] at same
      exact nothing (by exact_mod_cast (mul_eq_zero.mp same).resolve_right (ten power))
    have below := below_overflow_of_finite made
    rcases exists_roundedAt (Nat.pos_of_ne_zero nothing) below with ⟨_, _, rounded, packed⟩
    rw [packed] at made
    rw [same] at rounded below
    rw [ofScaled_eq_pack (Nat.pos_of_ne_zero something) rounded below]
    exact (pack_eq_finite made).2 negative

/-! ## Near decimals -/

/-- A decimal of a double from one on differs from it in none of the first 53 bits. -/
theorem near_of_ofScaled {coefficient : Nat} {power : Int} {sign : Bool}
    (made : ofScaled sign coefficient power = .finite sign significand exponent canonical)
    (large : (1 : Rat) ≤ significand * 2 ^ exponent) :
    |(coefficient : Rat) * 10 ^ power - significand * 2 ^ exponent| * 2 ^ 53 ≤
      significand * 2 ^ exponent := by
  have positive : 0 < significand := by
    refine Nat.pos_of_ne_zero fun zero => ?_
    rw [zero, Nat.cast_zero, zero_mul] at large
    linarith
  have below := below_overflow_of_finite made
  rcases exists_roundedAt (coefficient_pos positive made) below with ⟨other, low, rounded, packed⟩
  rw [packed] at made
  rcases pack_eq_finite made with ⟨value, _⟩
  have unit : (2 : Rat) ^ 52 * 2 ^ low ≤ significand * 2 ^ exponent := by
    rcases rounded.significand_bounds.2 with least | full
    · refine le_trans ?_ large
      rw [least, ← zpow_natCast, ← zpow_add₀ (by norm_num)]
      exact zpow_le_one_of_nonpos₀ (by norm_num) (by norm_num)
    · rw [← value]
      have bits : (2 : Rat) ^ 52 ≤ other := by exact_mod_cast full
      gcongr
  have close := rounded.close
  rw [value, abs_sub_comm] at close
  linarith

/-- A number is as near to a double as the nearest decimal of seventeen digits is at least. -/
def IsClose (q value : Rat) : Prop :=
  |q - value| * (2 * 10 ^ 16) ≤ value

/-- A number close to a double is rounded to its significand at its exponent.  Below a power of two it is
rounded at the exponent before, where twice the significand is a carry. -/
theorem roundedAt_of_close {q : Rat} (canonical : Canonical significand exponent)
    (close : IsClose q (significand * 2 ^ exponent)) :
    RoundedAt q significand exponent ∨
      (significand = 2 ^ 52 ∧ RoundedAt q (2 ^ 53) (exponent - 1)) := by
  rcases canonical with ⟨short, least, _, full⟩
  have unit : (0 : Rat) < 2 ^ exponent := zpow_pos (by norm_num) exponent
  have half : (2 : Rat) ^ (exponent - 1) = 2 ^ exponent / 2 := zpow_sub_one₀ (by norm_num) exponent
  have last : (significand : Rat) ≤ 2 ^ 53 - 1 := by
    have bound : significand + 1 ≤ 2 ^ 53 := short
    rw [le_sub_iff_add_le]
    exact_mod_cast bound
  have largest := mul_le_mul_of_nonneg_right last unit.le
  rw [IsClose, abs_sub_comm] at close
  rcases abs_le.mp (le_refl |(significand : Rat) * 2 ^ exponent - q|) with ⟨below, above⟩
  by_cases reached : exponent = -1074 ∨ 2 ^ 52 * 2 ^ exponent ≤ q
  · -- the error is less than half a unit
    exact Or.inl ⟨least, by linarith, reached, by linarith, fun tie => by linarith⟩
  · rcases not_or.mp reached with ⟨more, beneath⟩
    have reaches : 2 ^ 52 ≤ significand := full.resolve_left more
    have exact : significand = 2 ^ 52 := by
      refine le_antisymm (not_lt.mp fun greater => beneath ?_) reaches
      have next : (2 : Rat) ^ 52 + 1 ≤ significand := by exact_mod_cast greater
      have bound := mul_le_mul_of_nonneg_right next unit.le
      linarith
    have doubled : ((2 ^ 53 : Nat) : Rat) * 2 ^ (exponent - 1) = significand * 2 ^ exponent := by
      rw [half, exact]
      push_cast
      ring
    have power : (significand : Rat) * 2 ^ exponent = 2 ^ 52 * 2 ^ exponent := by
      rw [exact]
      push_cast
      rfl
    -- here the unit is half as large, and so is the error
    refine Or.inr ⟨exact, by omega, ?_, Or.inr ?_, ?_, fun _ => by decide⟩
    · rw [half]
      linarith
    · rw [half]
      linarith
    · rw [doubled, half]
      linarith

/-- A positive decimal that is as near to a double as any of seventeen digits is gives the double. -/
theorem ofScaled_of_close {coefficient : Nat} {power : Int} (positive : 0 < significand)
    (close : IsClose (coefficient * 10 ^ power) (significand * 2 ^ exponent)) (negative : Bool) :
    ofScaled negative coefficient power = .finite negative significand exponent canonical := by
  have value : (0 : Rat) < significand * 2 ^ exponent :=
    mul_pos (Nat.cast_pos.mpr positive) (zpow_pos (by norm_num) exponent)
  have some : 0 < coefficient := by
    refine Nat.pos_of_ne_zero fun nothing => ?_
    rw [IsClose, nothing, Nat.cast_zero, zero_mul, zero_sub, abs_neg, abs_of_pos value] at close
    linarith
  have high := canonical.2.2.1
  rcases roundedAt_of_close canonical close with rounded | ⟨power, carry⟩
  · have finite : exponent < 971 ∨ (exponent = 971 ∧ significand < 2 ^ 53) :=
      (lt_or_eq_of_le high).imp_right fun same => ⟨same, canonical.1⟩
    rw [ofScaled_eq_pack some rounded (rounded.below_overflow finite), pack, dif_pos canonical]
  · subst power
    rw [ofScaled_eq_pack some carry (carry.below_overflow (Or.inl (by omega)))]
    have carried : Canonical 0x10000000000000 (exponent - 1 + 1) := by
      rw [sub_add_cancel]
      exact canonical
    rw [pack, dif_neg (fun direct => absurd direct.1 (by decide)), if_pos (by decide), dif_pos carried]
    simp only [sub_add_cancel]
    rfl

/-! ## Integers -/

/-- A natural number of at most 53 bits is a double, with its bits moved to the left end. -/
theorem exists_canonical {n : Nat} (positive : 0 < n) (short : n < 2 ^ 53) :
    Exists fun significand : Nat => Exists fun exponent : Int =>
      Canonical significand exponent ∧ (significand : Rat) * 2 ^ exponent = n := by
  have bits : n.log2 < 53 := (Nat.log2_lt positive.ne').mpr short
  have least : 2 ^ n.log2 ≤ n := Nat.log2_self_le positive.ne'
  have most : n < 2 ^ (n.log2 + 1) := Nat.lt_log2_self
  have full : 2 ^ n.log2 * 2 ^ (52 - n.log2) = 2 ^ 52 := by
    rw [← pow_add]
    congr 1
    omega
  refine ⟨n * 2 ^ (52 - n.log2), n.log2 - 52, ⟨?_, by omega, by omega, Or.inr ?_⟩, ?_⟩
  · calc n * 2 ^ (52 - n.log2) < 2 ^ (n.log2 + 1) * 2 ^ (52 - n.log2) :=
          Nat.mul_lt_mul_of_pos_right most (Nat.pow_pos (by decide))
      _ = 0x20000000000000 := by
          rw [pow_succ, mul_right_comm, full]
          rfl
  · calc 0x10000000000000 = 2 ^ n.log2 * 2 ^ (52 - n.log2) := full.symm
      _ ≤ n * 2 ^ (52 - n.log2) := Nat.mul_le_mul_right _ least
  · have inverse : (n.log2 : Int) - 52 = -((52 - n.log2 : Nat) : Int) := by omega
    rw [inverse, zpow_neg, zpow_natCast]
    push_cast
    exact mul_inv_cancel_right₀ (by positivity) _

/-- A number that is a double is rounded to itself. -/
theorem IsNearest.eq_of_denotes {x other : Double} {q : Rat} (nearest : x.IsNearest q)
    (within : |q| < overflow) (denotes : other.toRat? = some q) : x.toRat? = some q := by
  cases nearest with
  | infinite beyond => exact absurd within (not_lt.mpr beyond)
  | finite _ own near =>
      have error := near other q denotes
      rw [sub_self, abs_zero] at error
      rw [own, sub_eq_zero.mp (abs_nonpos_iff.mp error)]

theorem signed_natAbs (n : Int) : signed (n < 0) n.natAbs = n := by
  have size : (n.natAbs : Rat) = ((n.natAbs : Int) : Rat) := rfl
  rw [signed, size]
  by_cases negative : n < 0
  · rw [if_pos (decide_eq_true negative), Int.ofNat_natAbs_of_nonpos negative.le, Int.cast_neg, neg_neg]
  · rw [if_neg (ne_true_of_eq_false (decide_eq_false negative)),
      Int.natAbs_of_nonneg (not_lt.mp negative)]

/-- An integer of at most 53 bits is a double. -/
theorem toRat?_ofQuotient_one {n : Int} (short : |n| < 2 ^ 53) :
    (ofQuotient (n < 0) n.natAbs 1).toRat? = some (n : Rat) := by
  by_cases zero : n = 0
  · subst zero
    exact congrArg some (by rw [Int.cast_zero]; norm_num)
  · have positive : 0 < n.natAbs := Int.natAbs_pos.mpr zero
    have bits : n.natAbs < 2 ^ 53 := by
      rw [Int.abs_eq_natAbs] at short
      exact_mod_cast short
    have nearest := isNearest_ofQuotient (n < 0) positive Nat.one_pos
    rw [Nat.cast_one, div_one, signed_natAbs] at nearest
    rcases exists_canonical positive bits with ⟨significand, exponent, canonical, value⟩
    refine @IsNearest.eq_of_denotes _ (.finite (n < 0) significand exponent canonical) _ nearest ?_ ?_
    · have bound : |(n : Rat)| < 2 ^ 53 := by exact_mod_cast short
      have natural : 2 ^ 53 + 2 ^ 970 < 2 ^ 1024 := by decide +kernel
      rw [overflow, lt_sub_iff_add_lt]
      exact (add_lt_add_of_lt_of_le bound le_rfl).trans (by exact_mod_cast natural)
    · rw [← signed_natAbs, ← value]
      rfl

/-- So it is converted without an error. -/
theorem ofInt_of_short {n : Int} (short : |n| < 2 ^ 53) :
    Exists fun x : Double => ofInt n = .ok x ∧ x.toRat? = some (n : Rat) := by
  have denotes := toRat?_ofQuotient_one short
  refine ⟨_, ?_, denotes⟩
  unfold ofInt
  cases made : ofQuotient (n < 0) n.natAbs 1 with
  | infinite =>
      rw [made] at denotes
      cases denotes
  | finite => rfl
  | nan => rfl

end Double

end TraceView
