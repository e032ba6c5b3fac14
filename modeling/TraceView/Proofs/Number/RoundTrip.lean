import Mathlib.Algebra.Group.Nat.Defs
import TraceView.Number.Numeral

namespace TraceView.Numeral

/-!
# Numerals that are read back

Reading is more liberal than writing, but on the numerals that are written it gives back the
integer.  They begin with a minus sign or an ASCII digit, so there is no blank or plus sign to take
away, and they hold digits only, so no underscore is skipped.
-/

/-- The ASCII digits are digits, with the values that they have as characters. -/
theorem digit?_of_isDigit {c : Char} (digit : c.isDigit = true) :
    Text.digit? c = some (c.toNat - '0'.toNat) := by
  have bounds : 48 ≤ c.toNat ∧ c.toNat ≤ 57 := Char.isDigit_iff_toNat.mp digit
  have first : (decide (0x30 ≤ c.toNat) && decide (c.toNat < 0x30 + 10)) = true := by
    rw [Bool.and_eq_true, decide_eq_true_eq, decide_eq_true_eq]
    omega
  simp only [Text.digit?, Text.zeros, List.find?_cons, first, Option.map_some]
  rfl

theorem isBlank_of_isDigit {c : Char} (digit : c.isDigit = true) : Text.isBlank c = false := by
  have bounds : 48 ≤ c.toNat ∧ c.toNat ≤ 57 := Char.isDigit_iff_toNat.mp digit
  simp only [Text.isBlank, Bool.or_eq_false_iff, Bool.and_eq_false_iff, decide_eq_false_iff_not,
    beq_eq_false_iff_ne]
  omega

theorem digitRun_singleton {c : Char} {digit : Nat} (first : Text.digit? c = some digit) :
    digitRun [c] = some [digit] := by
  unfold digitRun
  simp only [first]

theorem digitRun_cons {c next : Char} {digit : Nat} (first : Text.digit? c = some digit)
    (different : next ≠ '_') (more : List Char) :
    digitRun (c :: next :: more) = (digitRun (next :: more)).map (digit :: ·) := by
  rw [digitRun.eq_def]
  simp only [first]

/-- Digits without underscores are read one by one. -/
theorem digitRun_of_isDigit {digits : List Char} (nonempty : digits ≠ [])
    (all : forall c, c ∈ digits -> c.isDigit = true) :
    digitRun digits = some (digits.map fun c => c.toNat - '0'.toNat) := by
  induction digits with
  | nil => exact absurd rfl nonempty
  | cons c rest inductionHypothesis =>
      have first := digit?_of_isDigit (all c List.mem_cons_self)
      cases rest with
      | nil => exact digitRun_singleton first
      | cons next more =>
          have later : forall d, d ∈ next :: more -> d.isDigit = true :=
            fun d member => all d (List.mem_cons_of_mem _ member)
          have different : next ≠ '_' := by
            intro same
            have digit := later next List.mem_cons_self
            rw [same] at digit
            cases digit
          rw [digitRun_cons first different, inductionHypothesis (List.cons_ne_nil _ _) later]
          rfl

theorem ofDigits_toDigits (n : Nat) :
    ofDigits ((Nat.toDigits 10 n).map fun c => c.toNat - '0'.toNat) = n := by
  rw [ofDigits, List.foldl_map, ← Nat.ofDigitChars_eq_foldl, Nat.ofDigitChars_ten_toDigits]

/-- Nothing is taken away from a text whose first and last characters are no blanks. -/
theorem strip_of_ends {text : List Char} (first : forall c, text.head? = some c -> Text.isBlank c = false)
    (last : forall c, text.getLast? = some c -> Text.isBlank c = false) :
    Text.strip text = text := by
  have kept : forall characters : List Char,
      (forall c, characters.head? = some c -> Text.isBlank c = false) ->
        characters.dropWhile Text.isBlank = characters := by
    intro characters visible
    cases characters with
    | nil => rfl
    | cons c rest => rw [List.dropWhile_cons_of_neg (Bool.eq_false_iff.mp (visible c rfl))]
  rw [Text.strip, kept text first, kept text.reverse, List.reverse_reverse]
  intro c ending
  rw [List.head?_reverse] at ending
  exact last c ending

theorem isDigit_of_mem {n : Nat} {c : Char} (member : c ∈ Nat.toDigits 10 n) : c.isDigit = true :=
  Nat.isDigit_of_mem_toDigits (by decide) (by decide) member

theorem toList_toString (n : Nat) : (toString n).toList = Nat.toDigits 10 n := by
  rw [Nat.toString_eq_ofList_toDigits, String.toList_ofList]

theorem digitRun_toDigits (n : Nat) :
    digitRun (Nat.toDigits 10 n) =
      some ((Nat.toDigits 10 n).map fun c => c.toNat - '0'.toNat) :=
  digitRun_of_isDigit Nat.toDigits_ne_nil fun _ => isDigit_of_mem

/-- A sign, or none. -/
def IsSign (text : List Char) : Prop :=
  text = [] ∨ text = ['+'] ∨ text = ['-']

/-- A sign is split off from what follows it, which has none of its own. -/
theorem splitSign_append {sign rest : List Char} (signed : IsSign sign)
    (unsigned : forall c, rest.head? = some c -> c ≠ '-' ∧ c ≠ '+') :
    splitSign (sign ++ rest) = (sign == ['-'], rest) := by
  rcases signed with same | same | same
  · rw [same, List.nil_append]
    cases rest with
    | nil => rfl
    | cons c more =>
        rcases unsigned c rfl with ⟨noMinus, noPlus⟩
        simp only [splitSign]
        split
        · next same => exact absurd (List.cons.inj same).1 noMinus
        · next same => exact absurd (List.cons.inj same).1 noPlus
        · rfl
  · rw [same]
    rfl
  · rw [same]
    rfl

theorem unsigned_of_isDigit {c : Char} (digit : c.isDigit = true) : c ≠ '-' ∧ c ≠ '+' := by
  constructor <;> rintro rfl <;> cases digit

/-- Digits alone have no sign. -/
theorem splitSign_of_isDigit {c : Char} (digit : c.isDigit = true) (rest : List Char) :
    splitSign (c :: rest) = (false, c :: rest) := by
  apply @splitSign_append [] (c :: rest) (.inl rfl)
  intro first same
  cases same
  exact unsigned_of_isDigit digit

theorem splitSign_toDigits (n : Nat) :
    splitSign (Nat.toDigits 10 n) = (false, Nat.toDigits 10 n) := by
  cases digits : Nat.toDigits 10 n with
  | nil => rfl
  | cons c rest =>
      apply splitSign_of_isDigit
      apply @isDigit_of_mem n
      rw [digits]
      exact List.mem_cons_self

theorem strip_toDigits (n : Nat) : Text.strip (Nat.toDigits 10 n) = Nat.toDigits 10 n := by
  apply strip_of_ends
  · intro c first
    exact isBlank_of_isDigit (isDigit_of_mem (List.mem_of_mem_head? first))
  · intro c last
    exact isBlank_of_isDigit (isDigit_of_mem (List.mem_of_mem_getLast? last))

theorem strip_minus_toDigits (n : Nat) :
    Text.strip ('-' :: Nat.toDigits 10 n) = '-' :: Nat.toDigits 10 n := by
  apply strip_of_ends
  · intro c first
    cases first
    decide
  · intro c last
    rw [List.getLast?_cons_of_ne_nil Nat.toDigits_ne_nil] at last
    exact isBlank_of_isDigit (isDigit_of_mem (List.mem_of_mem_getLast? last))

/-- A written integer is read back. -/
theorem read_write {n : Int} {text : String} (written : write n = .ok text) :
    read text = some n := by
  unfold write at written
  have digits := toList_toString n.natAbs
  by_cases short : (Nat.toDigits 10 n.natAbs).length ≤ digitLimit
  · rw [if_pos short] at written
    cases written
    unfold full
    by_cases negative : n < 0
    · rw [if_pos negative]
      have characters : ("-" ++ toString n.natAbs).toList = '-' :: Nat.toDigits 10 n.natAbs := by
        rw [String.toList_append, digits]
        rfl
      simp only [read, characters, strip_minus_toDigits, splitSign, digitRun_toDigits,
        Option.bind_some, List.length_map, short, if_true, ofDigits_toDigits, signed,
        Option.some.injEq]
      omega
    · rw [if_neg negative]
      simp only [read, digits, strip_toDigits, splitSign_toDigits, digitRun_toDigits,
        Option.bind_some, List.length_map, short, if_true, ofDigits_toDigits, signed,
        Bool.false_eq_true, if_false, Option.some.injEq]
      omega
  · rw [if_neg short] at written
    cases written

/-! ## Powers of ten -/

theorem toDigits_pow (count : Nat) :
    Nat.toDigits 10 (10 ^ count) = '1' :: List.replicate count '0' := by
  induction count with
  | zero => rfl
  | succ count inductionHypothesis =>
      have larger : 10 ≤ 10 ^ (count + 1) := by
        rw [Nat.pow_succ]
        exact Nat.le_mul_of_pos_left 10 (Nat.pow_pos (by decide))
      rw [Nat.toDigits_of_base_le (by decide) larger, Nat.pow_succ, Nat.mul_div_cancel _ (by decide),
        inductionHypothesis, Nat.mul_mod_left, List.replicate_succ', List.cons_append]
      rfl

/-- The digits of a power of ten. -/
theorem full_pow (count : Nat) :
    full ((10 ^ count : Nat) : Int) = String.ofList ('1' :: List.replicate count '0') := by
  have positive : ¬ (((10 ^ count : Nat) : Int) < 0) := Int.not_lt.mpr (Int.natCast_nonneg _)
  rw [full, if_neg positive, Int.natAbs_natCast, Nat.toString_eq_ofList_toDigits, toDigits_pow]

/-- A one with zeros after it is read as a power of ten. -/
theorem read_pow {count : Nat} (short : count < digitLimit) :
    read (String.ofList ('1' :: List.replicate count '0')) = some ((10 ^ count : Nat) : Int) := by
  apply read_write
  rw [write, Int.natAbs_natCast, toDigits_pow, List.length_cons, List.length_replicate,
    if_pos (Nat.succ_le_of_lt short), full_pow]

end TraceView.Numeral
