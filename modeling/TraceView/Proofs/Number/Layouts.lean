import Mathlib.Data.List.DropRight
import TraceView.Proofs.Number.Nearest
import TraceView.Proofs.Number.Spelling

namespace TraceView

/-!
# Numbers laid out in digits

Significant digits and the power of ten of the first one are one number, in whichever notation they are
laid out: positional notation moves the point and fills up with zeros, scientific notation keeps the
power.  Zeros at the end may be left out of the digits, because the first digit keeps its place.
-/

/-- A text is read as a decimal with this sign and this magnitude. -/
def Decimal.Spells (text : String) (negative : Bool) (p : Rat) : Prop :=
  Exists fun coefficient : Nat => Exists fun exponent : Int =>
    Decimal.read text = some (.finite negative coefficient exponent) ∧
      (coefficient : Rat) * 10 ^ exponent = p

namespace Numeral

/-- Each zero at the end makes a number ten times as large. -/
theorem denoted_append_zeros (digits : List Char) (count : Nat) :
    denoted (digits ++ List.replicate count '0') = denoted digits * 10 ^ count := by
  rw [denoted, Nat.ofDigitChars_append, Nat.ofDigitChars_replicate_zero, Nat.mul_comm, denoted]

end Numeral

namespace Layout

/-- The number with these significant digits, of which the first one stands for a power of ten. -/
def value (digits : List Char) (power : Int) : Rat :=
  Numeral.denoted digits * 10 ^ (power + 1 - digits.length)

theorem value_toDigits (n : Nat) (last : Int) :
    value (Nat.toDigits 10 n) (last + (Nat.toDigits 10 n).length - 1) = n * 10 ^ last := by
  rw [value, Numeral.denoted_toDigits]
  congr 2
  omega

theorem value_append_zeros (digits : List Char) (count : Nat) (power : Int) :
    value (digits ++ List.replicate count '0') power = value digits power := by
  have ten : (10 : Rat) ≠ 0 := by norm_num
  have split : power + 1 - digits.length =
      count + (power + 1 - (digits ++ List.replicate count '0').length : Int) := by
    rw [List.length_append, List.length_replicate]
    push_cast
    ring
  rw [value, value, Numeral.denoted_append_zeros, split, zpow_add₀ ten, zpow_natCast]
  push_cast
  ring

/-! ## Zeros at the end -/

/-- What is left out at the end is nothing but zeros. -/
theorem exists_trim (digits : List Char) :
    Exists fun count => digits = trim digits ++ List.replicate count '0' := by
  have zeros : digits.rtakeWhile (· == '0') =
      List.replicate (digits.rtakeWhile (· == '0')).length '0' := by
    refine List.eq_replicate_of_mem fun c listed => ?_
    exact beq_iff_eq.mp (@List.mem_rtakeWhile_imp _ (· == '0') digits c listed)
  refine ⟨(digits.rtakeWhile (· == '0')).length, ?_⟩
  rw [← zeros]
  exact List.rdropWhile_append_rtakeWhile.symm

theorem value_trim (digits : List Char) (power : Int) : value (trim digits) power = value digits power := by
  rcases exists_trim digits with ⟨count, split⟩
  conv => rhs; rw [split]
  rw [value_append_zeros]

variable {digits : List Char} {power : Int}

theorem ne_nil_of_value (positive : 0 < value digits power) : digits ≠ [] := by
  rintro rfl
  rw [value, Numeral.denoted, Nat.ofDigitChars_nil, Nat.cast_zero, zero_mul] at positive
  exact lt_irrefl _ positive

theorem isDigit_trim (decimal : forall c, c ∈ digits -> c.isDigit = true) :
    forall c, c ∈ trim digits -> c.isDigit = true := by
  rcases exists_trim digits with ⟨count, split⟩
  intro c listed
  apply decimal
  rw [split]
  exact List.mem_append_left _ listed

/-! ## Notations -/

/-- Both parts of positional notation have nothing but digits, the first one has some, and together they
are the number. -/
theorem positional_spec (nonempty : digits ≠ []) (decimal : forall c, c ∈ digits -> c.isDigit = true) :
    (positional digits power).1 ≠ [] ∧
      (forall c, c ∈ (positional digits power).1 ++ (positional digits power).2 ->
        c.isDigit = true) ∧
      (Numeral.denoted ((positional digits power).1 ++ (positional digits power).2) : Rat) *
        10 ^ (-((positional digits power).2.length : Int)) = value digits power := by
  have some : 0 < digits.length := List.length_pos_iff.mpr nonempty
  unfold positional
  by_cases small : power < 0
  · -- the zero before the point and those after it are zeros in front of the digits
    simp only [if_pos small, List.singleton_append, ← List.cons_append, ← List.replicate_succ]
    refine ⟨List.cons_ne_nil _ _, Numeral.isDigit_zeros_append decimal, ?_⟩
    rw [Numeral.denoted_zeros, value, List.length_append, List.length_replicate]
    congr 2
    omega
  · simp only [if_neg small]
    by_cases long : digits.length ≤ (power + 1).toNat
    · -- all digits stand before the point
      rw [List.take_of_length_le long, List.drop_of_length_le long, List.append_nil]
      refine ⟨List.append_ne_nil_of_left_ne_nil nonempty _, ?_, ?_⟩
      · refine List.forall_mem_append.mpr ⟨decimal, fun c listed => ?_⟩
        rw [(List.mem_replicate.mp listed).2]
        rfl
      · have places : power + 1 - digits.length = ((power + 1).toNat - digits.length : Nat) := by
          omega
        rw [Numeral.denoted_append_zeros, List.length_nil, value, places, zpow_natCast]
        push_cast
        ring
    · have none : (power + 1).toNat - digits.length = 0 := by omega
      rw [none, List.replicate_zero, List.append_nil, List.take_append_drop, List.length_drop]
      refine ⟨List.ne_nil_of_length_pos ?_, decimal, ?_⟩
      · rw [List.length_take]
        omega
      · rw [value]
        congr 2
        omega

end Layout

namespace Decimal

variable {digits : List Char} {power : Int}

theorem spells_spelled {whole fraction : List Char} (negative : Bool) (power : Option Int)
    (nonempty : whole ≠ []) (decimal : forall c, c ∈ whole ++ fraction -> c.isDigit = true) :
    Spells (Layout.withSign negative (spelled whole fraction power)) negative
      (Numeral.denoted (whole ++ fraction) * 10 ^ (power.getD 0 - fraction.length)) :=
  ⟨_, _, read_spelled negative power nonempty decimal, rfl⟩

theorem spelled_none (whole fraction : List Char) :
    spelled whole fraction none =
      if fraction.isEmpty then whole else whole ++ '.' :: fraction := by
  rw [spelled, Option.map_none, Option.getD_none, List.append_nil]
  split
  · exact List.append_nil _
  · rfl

/-- Positional notation without a point after a whole number. -/
theorem spells_positional (negative : Bool) (nonempty : digits ≠ [])
    (decimal : forall c, c ∈ digits -> c.isDigit = true) :
    Spells (Layout.withSign negative
      (if (Layout.positional digits power).2.isEmpty then (Layout.positional digits power).1
        else (Layout.positional digits power).1 ++ '.' :: (Layout.positional digits power).2))
      negative (Layout.value digits power) := by
  rcases @Layout.positional_spec digits power nonempty decimal with ⟨some, parts, value⟩
  have spells := spells_spelled negative none some parts
  rw [Option.getD_none, zero_sub, value, spelled_none] at spells
  exact spells

/-- Positional notation with a zero after a whole number. -/
theorem spells_pointed (negative : Bool) (nonempty : digits ≠ [])
    (decimal : forall c, c ∈ digits -> c.isDigit = true) :
    Spells (Layout.withSign negative ((Layout.positional digits power).1 ++ '.' ::
      (if (Layout.positional digits power).2.isEmpty then ['0']
        else (Layout.positional digits power).2))) negative (Layout.value digits power) := by
  rcases @Layout.positional_spec digits power nonempty decimal with ⟨some, parts, value⟩
  generalize Layout.positional digits power = layout at some parts value ⊢
  rcases layout with ⟨whole, fraction⟩
  dsimp only at some parts value ⊢
  cases fraction with
  | nil =>
      rw [List.append_nil] at parts value
      have zero : forall c, c ∈ whole ++ ['0'] -> c.isDigit = true :=
        List.forall_mem_append.mpr ⟨parts, List.forall_mem_singleton.mpr rfl⟩
      have spells := spells_spelled negative none some zero
      have longer := Numeral.denoted_append_zeros whole 1
      rw [List.replicate_one] at longer
      rw [List.length_nil, Nat.cast_zero, neg_zero, zpow_zero, mul_one] at value
      have same : ((Numeral.denoted whole * 10 ^ 1 : Nat) : Rat) * 10 ^ (0 - (['0'].length : Int)) =
          Layout.value digits power := by
        rw [← value, List.length_singleton, Nat.cast_mul, Nat.pow_one, Nat.cast_ofNat, Nat.cast_one,
          zero_sub, zpow_neg_one]
        exact mul_inv_cancel_right₀ (by norm_num) _
      rw [longer, spelled_none, Option.getD_none, same] at spells
      exact spells
  | cons c rest =>
      have spells := spells_spelled negative none some parts
      rw [Option.getD_none, zero_sub, value, spelled_none] at spells
      exact spells

/-- Scientific notation. -/
theorem spells_scientific (negative : Bool) (nonempty : digits ≠ [])
    (decimal : forall c, c ∈ digits -> c.isDigit = true) :
    Spells (Layout.withSign negative (Layout.scientific digits power)) negative
      (Layout.value digits power) := by
  cases digits with
  | nil => exact absurd rfl nonempty
  | cons first rest =>
      have spells := @spells_spelled [first] rest negative (some power) (List.cons_ne_nil _ _) decimal
      have shape : Layout.scientific (first :: rest) power = spelled [first] rest (some power) := by
        cases rest <;> rfl
      have places : power + 1 - (first :: rest).length = power - rest.length := by
        rw [List.length_cons]
        omega
      rw [shape, Layout.value, places]
      exact spells

end Decimal

end TraceView
