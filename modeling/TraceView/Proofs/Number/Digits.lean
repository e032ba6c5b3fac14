import TraceView.Proofs.Number.RoundTrip

namespace TraceView.Numeral

/-!
# Digits in base ten

A number has one spelling without zeros in front, and texts of equally many digits sort like the
numbers that they denote.  Texts that begin with fields of one width therefore sort by these fields
first.
-/

/-! ## Values of digits -/

/-- The number that ASCII digits denote, most significant first. -/
def denoted (digits : List Char) : Nat :=
  Nat.ofDigitChars 10 digits 0

theorem denoted_toDigits (n : Nat) : denoted (Nat.toDigits 10 n) = n :=
  Nat.ofDigitChars_ten_toDigits

theorem denoted_cons (c : Char) (rest : List Char) :
    denoted (c :: rest) = 10 ^ rest.length * (c.toNat - '0'.toNat) + denoted rest := by
  rw [denoted, Nat.ofDigitChars_cons, Nat.ofDigitChars_eq_ofDigitChars_zero, Nat.mul_zero,
    Nat.zero_add, denoted]

/-- Zeros in front change nothing. -/
theorem denoted_zeros (count : Nat) (digits : List Char) :
    denoted (List.replicate count '0' ++ digits) = denoted digits := by
  rw [denoted, Nat.ofDigitChars_append, Nat.ofDigitChars_replicate_zero, Nat.mul_zero, denoted]

theorem digit_bounds {c : Char} (digit : c.isDigit = true) :
    '0'.toNat ≤ c.toNat ∧ c.toNat - '0'.toNat < 10 := by
  have bounds : 48 ≤ c.toNat ∧ c.toNat ≤ 57 := Char.isDigit_iff_toNat.mp digit
  change 48 ≤ c.toNat ∧ c.toNat - 48 < 10
  omega

/-- A digit is the one of its value. -/
theorem toDigits_of_isDigit {c : Char} (digit : c.isDigit = true) :
    Nat.toDigits 10 (c.toNat - '0'.toNat) = [c] := by
  rcases digit_bounds digit with ⟨least, small⟩
  rw [Nat.toDigits_of_lt_base small]
  apply congrArg (fun character => [character])
  apply Char.toNat_inj.mp
  rw [Nat.toNat_digitChar_of_lt_ten small]
  exact Nat.add_sub_of_le least

variable {first second : List Char}

/-- A number is smaller than the power of ten with as many zeros as it has digits. -/
theorem denoted_lt (decimal : forall c, c ∈ first -> c.isDigit = true) :
    denoted first < 10 ^ first.length := by
  induction first with
  | nil => exact Nat.one_pos
  | cons c rest inductionHypothesis =>
      rcases List.forall_mem_cons.mp decimal with ⟨digit, others⟩
      have least := Nat.le_of_lt_succ (digit_bounds digit).2
      calc denoted (c :: rest)
          = 10 ^ rest.length * (c.toNat - '0'.toNat) + denoted rest := denoted_cons c rest
        _ < 10 ^ rest.length * (c.toNat - '0'.toNat) + 10 ^ rest.length :=
            Nat.add_lt_add_left (inductionHypothesis others) _
        _ ≤ 10 ^ rest.length * 9 + 10 ^ rest.length :=
            Nat.add_le_add_right (Nat.mul_le_mul_left _ least) _
        _ = 10 ^ (c :: rest).length := by
            rw [List.length_cons, Nat.pow_succ, ← Nat.mul_succ]

/-- Where a stretch of characters of one kind ends, if another kind follows it or nothing. -/
theorem span_append {p : Char -> Bool} {front rest : List Char}
    (kind : forall c, c ∈ front -> p c = true)
    (other : forall c, rest.head? = some c -> p c = false) :
    (front ++ rest).takeWhile p = front ∧ (front ++ rest).dropWhile p = rest := by
  have stops : rest.takeWhile p = [] ∧ rest.dropWhile p = rest := by
    cases rest with
    | nil => exact ⟨rfl, rfl⟩
    | cons c more =>
        have different := other c rfl
        constructor
        · rw [List.takeWhile_cons, different]
          rfl
        · rw [List.dropWhile_cons, different]
          rfl
  constructor
  · rw [List.takeWhile_append_of_pos kind, stops.1, List.append_nil]
  · rw [List.dropWhile_append_of_pos kind, stops.2]

/-- A stretch of characters of one kind is found in one way before what follows it. -/
theorem span_inj {p : Char -> Bool} {front other rest more : List Char}
    (kind : forall c, c ∈ front -> p c = true) (otherKind : forall c, c ∈ other -> p c = true)
    (stops : forall c, rest.head? = some c -> p c = false)
    (otherStops : forall c, more.head? = some c -> p c = false)
    (same : front ++ rest = other ++ more) : front = other ∧ rest = more := by
  rcases span_append kind stops with ⟨taken, left⟩
  rcases span_append otherKind otherStops with ⟨otherTaken, otherLeft⟩
  rw [same] at taken left
  exact ⟨taken.symm.trans otherTaken, left.symm.trans otherLeft⟩

/-! ## Spellings -/

/-- A text spells a number: it has a digit, it has nothing but digits, and no zero stands in front
of another digit. -/
structure Spells (text : String) (n : Nat) : Prop where
  nonempty : text.toList ≠ []
  decimal : forall c, c ∈ text.toList -> c.isDigit = true
  unpadded : text.toList.head? = some '0' -> text.toList = ['0']
  value : denoted text.toList = n

theorem toDigits_injective : Function.Injective (Nat.toDigits 10) :=
  Function.LeftInverse.injective denoted_toDigits

theorem toString_inj {n m : Nat} (same : toString n = toString m) : n = m := by
  apply toDigits_injective
  rw [← toList_toString, ← toList_toString, same]

/-- The digits of a positive number followed by further digits are those of one number. -/
theorem toDigits_append {digits : List Char} (decimal : forall c, c ∈ digits -> c.isDigit = true)
    {front : Nat} (positive : 0 < front) :
    Nat.toDigits 10 front ++ digits = Nat.toDigits 10 (Nat.ofDigitChars 10 digits front) := by
  induction digits generalizing front with
  | nil => rw [List.append_nil, Nat.ofDigitChars_nil]
  | cons c rest inductionHypothesis =>
      rcases List.forall_mem_cons.mp decimal with ⟨digit, others⟩
      have small := (digit_bounds digit).2
      have longer : 0 < 10 * front + (c.toNat - '0'.toNat) := by omega
      rw [Nat.ofDigitChars_cons, ← inductionHypothesis others longer,
        ← Nat.toDigits_append_toDigits (by decide) positive small, toDigits_of_isDigit digit,
        List.append_assoc, List.singleton_append]

/-- No zero stands in front of a positive number, in any base. -/
theorem head?_toDigits_ne {base n : Nat} (several : 1 < base) (positive : 0 < n) :
    (Nat.toDigits base n).head? ≠ some '0' := by
  induction n using Nat.strongRecOn with
  | ind n inductionHypothesis =>
      by_cases small : n < base
      · rw [Nat.toDigits_of_lt_base small]
        intro zero
        have same : n = 0 := Nat.digitChar_eq_zero.mp (Option.some.inj zero)
        omega
      · have leading := inductionHypothesis (n / base) (Nat.div_lt_self positive several)
          (Nat.div_pos (Nat.le_of_not_lt small) (Nat.lt_trans Nat.one_pos several))
        rw [Nat.toDigits_of_base_le several (Nat.le_of_not_lt small)]
        cases digits : Nat.toDigits base (n / base) with
        | nil => exact absurd digits Nat.toDigits_ne_nil
        | cons c rest =>
            rw [digits] at leading
            exact leading

/-- The digits of a number are its only spelling. -/
theorem spells_iff {text : String} {n : Nat} : Spells text n ↔ text = toString n := by
  have letters := toList_toString n
  constructor
  · rintro ⟨nonempty, decimal, unpadded, value⟩
    apply String.toList_injective
    rw [letters, ← value]
    cases digits : text.toList with
    | nil => exact absurd digits nonempty
    | cons c rest =>
        rw [digits] at decimal unpadded
        rcases List.forall_mem_cons.mp decimal with ⟨digit, others⟩
        by_cases zero : c = '0'
        · rw [unpadded (congrArg some zero)]
          rfl
        · -- the first digit alone is a positive number, to which the others are appended
          have least := (digit_bounds digit).1
          have different : c.toNat ≠ '0'.toNat := zero ∘ Char.toNat_inj.mp
          have positive : 0 < c.toNat - '0'.toNat := by omega
          rw [denoted, Nat.ofDigitChars_cons, Nat.mul_zero, Nat.zero_add,
            ← toDigits_append others positive, toDigits_of_isDigit digit, List.singleton_append]
  · intro same
    subst same
    refine ⟨?_, ?_, ?_, ?_⟩
    · rw [letters]
      exact Nat.toDigits_ne_nil
    · rw [letters]
      exact fun c => isDigit_of_mem
    · rw [letters]
      intro zero
      cases n with
      | zero => rfl
      | succ n => exact absurd zero (head?_toDigits_ne (by decide) n.succ_pos)
    · rw [letters, denoted_toDigits]

/-! ## The order of texts -/

/-- Numbers in one base compare by their leading parts, and then by what is left. -/
theorem radix_lt_iff {base high other low rest : Nat} (small : low < base) (below : rest < base) :
    base * high + low < base * other + rest ↔ high < other ∨ high = other ∧ low < rest := by
  rcases Nat.lt_trichotomy high other with less | same | greater
  · have step : base * high + base ≤ base * other := Nat.mul_le_mul_left base less
    omega
  · subst same
    omega
  · have step : base * other + base ≤ base * high := Nat.mul_le_mul_left base greater
    omega

/-- One more character in front of two texts comes before all that they are sorted by. -/
theorem cons_append_lt_iff {c d : Char} {front other more rest : List Char} {follows : Prop}
    (sorted : front ++ more < other ++ rest ↔ front < other ∨ front = other ∧ follows) :
    c :: front ++ more < d :: other ++ rest ↔
      c :: front < d :: other ∨ c :: front = d :: other ∧ follows := by
  rw [List.cons_append, List.cons_append, List.cons_lt_cons_iff, List.cons_lt_cons_iff, sorted,
    List.cons.injEq, or_assoc, and_or_left, and_assoc]

/-- Texts that begin with fields of one length sort by these fields, and then by what follows. -/
theorem append_lt_append_iff {front other more rest : List Char}
    (same : front.length = other.length) :
    front ++ more < other ++ rest ↔ front < other ∨ front = other ∧ more < rest := by
  induction front generalizing other with
  | nil =>
      cases other with
      | nil =>
          simp only [List.nil_append, List.not_lt_nil, false_or, true_and]
      | cons d others => cases same
  | cons c fronts inductionHypothesis =>
      cases other with
      | nil => cases same
      | cons d others => exact cons_append_lt_iff (inductionHypothesis (Nat.succ.inj same))

/-- Texts that begin with digits and a mark that comes before all digits sort by the digits, as texts,
and then by what follows. -/
theorem digits_append_lt_iff {front other more rest : List Char} {mark : Char}
    (before : forall c : Char, c.isDigit = true -> mark < c)
    (decimal : forall c, c ∈ front -> c.isDigit = true)
    (otherDecimal : forall c, c ∈ other -> c.isDigit = true) :
    front ++ mark :: more < other ++ mark :: rest ↔ front < other ∨ front = other ∧ more < rest := by
  induction front generalizing other with
  | nil =>
      cases other with
      | nil =>
          simp only [List.nil_append, List.cons_lt_cons_iff, Std.lt_irrefl, true_and, false_or]
      | cons d others =>
          -- fewer digits come first, because the mark stands against a digit
          have later : mark < d := before d (otherDecimal d List.mem_cons_self)
          simp only [List.nil_append, List.cons_append, List.cons_lt_cons_iff, later,
            List.nil_lt_cons, true_or]
  | cons c fronts inductionHypothesis =>
      rcases List.forall_mem_cons.mp decimal with ⟨digit, digits⟩
      cases other with
      | nil =>
          have earlier : mark < c := before c digit
          have notLater : ¬ c < mark := Nat.lt_asymm earlier
          have different : c ≠ mark := (Std.ne_of_lt earlier).symm
          simp only [List.nil_append, List.cons_append, List.cons_lt_cons_iff, notLater, different,
            false_and, or_self, List.not_lt_nil, reduceCtorEq]
      | cons d others =>
          rcases List.forall_mem_cons.mp otherDecimal with ⟨_, otherDigits⟩
          exact cons_append_lt_iff (inductionHypothesis digits otherDigits)

/-- Texts of equally many digits sort like the numbers that they denote. -/
theorem lt_iff_denoted_lt (decimal : forall c, c ∈ first -> c.isDigit = true)
    (otherDecimal : forall c, c ∈ second -> c.isDigit = true)
    (same : first.length = second.length) :
    first < second ↔ denoted first < denoted second := by
  induction first generalizing second with
  | nil =>
      cases second with
      | nil => exact iff_of_false (List.not_lt_nil _) (Nat.lt_irrefl _)
      | cons d rest => cases same
  | cons c rest inductionHypothesis =>
      cases second with
      | nil => cases same
      | cons d others =>
          rcases List.forall_mem_cons.mp decimal with ⟨digit, digits⟩
          rcases List.forall_mem_cons.mp otherDecimal with ⟨otherDigit, otherDigits⟩
          have equal : rest.length = others.length := Nat.succ.inj same
          have least := (digit_bounds digit).1
          have otherLeast := (digit_bounds otherDigit).1
          have leading : c < d ↔ c.toNat - '0'.toNat < d.toNat - '0'.toNat := by
            change c.toNat < d.toNat ↔ _
            omega
          have heading : c = d ↔ c.toNat - '0'.toNat = d.toNat - '0'.toNat := by
            rw [← Char.toNat_inj]
            omega
          have below := denoted_lt digits
          rw [equal] at below
          rw [List.cons_lt_cons_iff, inductionHypothesis digits otherDigits equal, denoted_cons,
            denoted_cons, equal, radix_lt_iff below (denoted_lt otherDigits), leading, heading]

end TraceView.Numeral
