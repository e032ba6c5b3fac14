import TraceView.Number.Layout
import TraceView.Proofs.Number.Digits
import TraceView.Proofs.Number.Named

namespace TraceView

/-!
# Spelled decimals

A decimal may be spelled as digits, with further digits after a point and with an exponent.  Reading
takes the three parts apart again: its coefficient is the number that all the digits denote, and each
digit after the point lowers the exponent by one.

There are more ways to spell an exponent than to write one.  The mark may be a capital, the sign may
be missing, and any number of digits will do.
-/

namespace Numeral

/-- The values of digits, read as one number. -/
theorem ofDigits_map (digits : List Char) :
    ofDigits (digits.map fun c => c.toNat - '0'.toNat) = denoted digits := by
  rw [ofDigits, List.foldl_map, denoted, Nat.ofDigitChars_eq_foldl]

theorem isDigit_zeros_append {count : Nat} {digits : List Char}
    (decimal : forall c, c ∈ digits -> c.isDigit = true) :
    forall c, c ∈ List.replicate count '0' ++ digits -> c.isDigit = true := by
  refine List.forall_mem_append.mpr ⟨fun c listed => ?_, decimal⟩
  rw [(List.mem_replicate.mp listed).2]
  rfl

end Numeral

namespace Decimal

/-- A spelled number has nothing but digits and five marks in it. -/
def IsLetter (c : Char) : Prop :=
  c.isDigit = true ∨ c ∈ ['.', 'e', 'E', '+', '-']

/-- So it has no blanks, and none of the letters that names of numbers have. -/
theorem IsLetter.plain {c : Char} (letter : IsLetter c) :
    Text.isBlank c = false ∧ c.toLower ≠ 'n' := by
  rcases letter with digit | mark
  · exact ⟨Numeral.isBlank_of_isDigit digit, Text.toLower_ne_of_isDigit digit⟩
  · simp only [List.mem_cons, List.not_mem_nil, or_false] at mark
    rcases mark with same | same | same | same | same <;> rw [same] <;> decide

theorem IsLetter.of_sign {sign : List Char} (signed : Numeral.IsSign sign) :
    forall c, c ∈ sign -> IsLetter c := by
  rcases signed with same | same | same <;> rw [same]
  · exact fun c impossible => absurd impossible List.not_mem_nil
  · exact List.forall_mem_singleton.mpr (Or.inr (by decide))
  · exact List.forall_mem_singleton.mpr (Or.inr (by decide))

/-! ## Exponents -/

/-- The exponent of a spelled decimal: a mark, a sign if there is one, and digits. -/
structure Power where
  mark : Char
  sign : List Char
  digits : List Char
  marked : mark = 'e' ∨ mark = 'E'
  signed : Numeral.IsSign sign
  nonempty : digits ≠ []
  decimal : forall c, c ∈ digits -> c.isDigit = true

namespace Power

def text (power : Power) : List Char :=
  power.mark :: (power.sign ++ power.digits)

def number (power : Power) : Int :=
  Numeral.signed (power.sign == ['-']) (Numeral.denoted power.digits)

theorem isLetter_text (power : Power) : forall c, c ∈ power.text -> IsLetter c := by
  refine List.forall_mem_cons.mpr ⟨Or.inr ?_, List.forall_mem_append.mpr ⟨?_, ?_⟩⟩
  · rcases power.marked with same | same <;> rw [same] <;> decide
  · exact IsLetter.of_sign power.signed
  · exact fun c listed => Or.inl (power.decimal c listed)

/-- An exponent is read after its mark. -/
theorem readExponent_tail (power : Power) :
    readExponent (power.sign ++ power.digits) = some power.number := by
  have split := @Numeral.splitSign_append _ power.digits power.signed fun c first =>
    Numeral.unsigned_of_isDigit (power.decimal c (List.mem_of_mem_head? first))
  have run := Numeral.digitRun_of_isDigit power.nonempty power.decimal
  simp only [readExponent, split, run, Option.map_some, Numeral.ofDigits_map, number]

/-- An exponent as it is written: with its sign, and with two digits at least. -/
def written (power : Int) : Power where
  mark := 'e'
  sign := [if power < 0 then '-' else '+']
  digits := List.replicate (2 - (Nat.toDigits 10 power.natAbs).length) '0' ++
    Nat.toDigits 10 power.natAbs
  marked := Or.inl rfl
  signed := by
    by_cases below : power < 0
    · exact Or.inr (Or.inr (by rw [if_pos below]))
    · exact Or.inr (Or.inl (by rw [if_neg below]))
  nonempty := List.append_ne_nil_of_right_ne_nil _ Nat.toDigits_ne_nil
  decimal := Numeral.isDigit_zeros_append fun _ => Numeral.isDigit_of_mem

theorem number_written (power : Int) : (written power).number = power := by
  change Numeral.signed ([if power < 0 then '-' else '+'] == ['-'])
    (Numeral.denoted (List.replicate (2 - (Nat.toDigits 10 power.natAbs).length) '0' ++
      Nat.toDigits 10 power.natAbs)) = power
  rw [Numeral.denoted_zeros, Numeral.denoted_toDigits]
  by_cases below : power < 0
  · rw [if_pos below]
    change -(power.natAbs : Int) = power
    omega
  · rw [if_neg below]
    change (power.natAbs : Int) = power
    omega

end Power

/-! ## Parts -/

theorem part_eq {digits : List Char} (decimal : forall c, c ∈ digits -> c.isDigit = true) :
    part digits = some (digits.map fun c => c.toNat - '0'.toNat) := by
  cases digits with
  | nil => rfl
  | cons c rest => exact Numeral.digitRun_of_isDigit (List.cons_ne_nil c rest) decimal

/-- A decimal in the parts that it is spelled with: a minus sign if it is negative, digits, further
digits after a point if there are any, and an exponent if there is one. -/
structure Spelling where
  negative : Bool
  whole : List Char
  fraction : List Char
  power : Option Power
  nonempty : whole ≠ []
  decimal : forall c, c ∈ whole ++ fraction -> c.isDigit = true

namespace Spelling

variable (s : Spelling)

/-- The digits, with a point between those before it and those after it. -/
def mantissa : List Char :=
  s.whole ++ (if s.fraction.isEmpty then [] else '.' :: s.fraction)

/-- The mark of the exponent and the exponent, if there is one. -/
def tail : List Char :=
  (s.power.map Power.text).getD []

def text : List Char :=
  (if s.negative then ['-'] else []) ++ (s.mantissa ++ s.tail)

/-- The number that all the digits denote. -/
def coefficient : Nat :=
  Numeral.denoted (s.whole ++ s.fraction)

/-- The power of ten that the last digit stands for. -/
def exponent : Int :=
  (s.power.map Power.number).getD 0 - s.fraction.length

def value : Decimal :=
  .finite s.negative s.coefficient s.exponent

/-- A number from its parts: all the digits are those of the coefficient. -/
theorem ofParts_eq (exponent : Int) :
    ofParts s.negative s.whole s.fraction exponent =
      some (.finite s.negative s.coefficient (exponent - s.fraction.length)) := by
  rcases List.forall_mem_append.mp s.decimal with ⟨before, after⟩
  have something : (s.whole.map fun c => c.toNat - '0'.toNat).isEmpty = false := by
    rw [List.isEmpty_map, List.isEmpty_eq_false_iff]
    exact s.nonempty
  simp only [ofParts, part_eq before, part_eq after, something, Option.bind_eq_bind,
    Option.bind_some, Bool.false_and, Bool.false_eq_true, if_false, List.length_map,
    ← List.map_append, Numeral.ofDigits_map, coefficient]

theorem isLetter_mantissa : forall c, c ∈ s.mantissa -> IsLetter c := by
  rcases List.forall_mem_append.mp s.decimal with ⟨before, after⟩
  refine List.forall_mem_append.mpr ⟨fun c listed => Or.inl (before c listed), ?_⟩
  split
  · exact fun c impossible => absurd impossible List.not_mem_nil
  · exact List.forall_mem_cons.mpr ⟨Or.inr (by decide), fun c listed => Or.inl (after c listed)⟩

theorem isLetter_tail : forall c, c ∈ s.tail -> IsLetter c := by
  unfold tail
  cases s.power with
  | none => exact fun c impossible => absurd impossible List.not_mem_nil
  | some power => exact power.isLetter_text

theorem isLetter_text : forall c, c ∈ s.text -> IsLetter c := by
  refine List.forall_mem_append.mpr
    ⟨?_, List.forall_mem_append.mpr ⟨s.isLetter_mantissa, s.isLetter_tail⟩⟩
  cases s.negative with
  | true => exact IsLetter.of_sign (.inr (.inr rfl))
  | false => exact IsLetter.of_sign (.inl rfl)

/-- The digits before the mark of the exponent, and the exponent. -/
theorem span_mark :
    (s.mantissa ++ s.tail).takeWhile (fun c => !(c == 'e' || c == 'E')) = s.mantissa ∧
      (s.mantissa ++ s.tail).dropWhile (fun c => !(c == 'e' || c == 'E')) = s.tail := by
  rcases List.forall_mem_append.mp s.decimal with ⟨before, after⟩
  have unmarked : forall c : Char, c.isDigit = true -> (!(c == 'e' || c == 'E')) = true := by
    intro c digit
    rw [Bool.not_eq_true', Bool.or_eq_false_iff, beq_eq_false_iff_ne, beq_eq_false_iff_ne]
    constructor <;> rintro rfl <;> cases digit
  apply Numeral.span_append
  · refine List.forall_mem_append.mpr ⟨fun c listed => unmarked c (before c listed), ?_⟩
    split
    · exact fun c impossible => absurd impossible List.not_mem_nil
    · exact List.forall_mem_cons.mpr ⟨by decide, fun c listed => unmarked c (after c listed)⟩
  · intro c first
    unfold tail at first
    cases power : s.power with
    | none =>
        rw [power] at first
        cases first
    | some power' =>
        rw [power] at first
        cases first
        rcases power'.marked with same | same <;> rw [same] <;> decide

/-- The digits before the point, and the point with the digits after it. -/
theorem span_point :
    s.mantissa.takeWhile (· != '.') = s.whole ∧
      s.mantissa.dropWhile (· != '.') = (if s.fraction.isEmpty then [] else '.' :: s.fraction) := by
  rcases List.forall_mem_append.mp s.decimal with ⟨before, _⟩
  apply Numeral.span_append
  · intro c listed
    have digit := before c listed
    rw [bne_iff_ne]
    rintro rfl
    cases digit
  · intro c first
    cases fraction : s.fraction with
    | nil =>
        rw [fraction] at first
        cases first
    | cons next rest =>
        rw [fraction] at first
        cases first
        rfl

/-! ## Reading -/

theorem splitSign_text : Numeral.splitSign s.text = (s.negative, s.mantissa ++ s.tail) := by
  have unsigned : forall c, (s.mantissa ++ s.tail).head? = some c -> c ≠ '-' ∧ c ≠ '+' := by
    intro c first
    rcases List.exists_cons_of_ne_nil s.nonempty with ⟨digit, rest, whole⟩
    rw [mantissa, whole] at first
    cases first
    apply Numeral.unsigned_of_isDigit
    apply s.decimal
    rw [whole]
    exact List.mem_cons_self
  unfold text
  cases s.negative with
  | true => exact Numeral.splitSign_append (.inr (.inr rfl)) unsigned
  | false => exact Numeral.splitSign_append (.inl rfl) unsigned

theorem readBody_text : readBody s.text = some s.value := by
  have unnamed : Unnamed s.text := by
    intro lettered
    rcases List.mem_map.mp lettered with ⟨c, listed, lower⟩
    exact (s.isLetter_text c listed).plain.2 lower
  rcases s.span_mark with ⟨mantissa, rest⟩
  rcases s.span_point with ⟨integral, pointed⟩
  have fractional : (if s.fraction.isEmpty then [] else '.' :: s.fraction).drop 1 = s.fraction := by
    cases s.fraction <;> rfl
  rw [readBody_of_unnamed unnamed, s.splitSign_text]
  simp only [mantissa, rest, integral, pointed, fractional]
  unfold tail value exponent
  cases s.power with
  | none => exact s.ofParts_eq 0
  | some power =>
      change (readExponent (power.sign ++ power.digits)).bind
        (ofParts s.negative s.whole s.fraction) = _
      rw [power.readExponent_tail, Option.bind_some, s.ofParts_eq, Option.map_some,
        Option.getD_some]

/-- A spelled number is read as what its digits and its exponent say. -/
theorem read_text : read (String.ofList s.text) = some s.value := by
  have stripped : Text.strip s.text = s.text :=
    Numeral.strip_of_ends
      (fun c first => (s.isLetter_text c (List.mem_of_mem_head? first)).plain.1)
      (fun c last => (s.isLetter_text c (List.mem_of_mem_getLast? last)).plain.1)
  rw [read, readPlain, String.toList_ofList, stripped, s.readBody_text, Option.some_or]

end Spelling

/-! ## Written decimals -/

/-- Digits, then a point and further digits if there are any, then an exponent if there is one. -/
def spelled (whole fraction : List Char) (power : Option Int) : List Char :=
  whole ++ (if fraction.isEmpty then [] else '.' :: fraction) ++ (power.map Layout.exponent).getD []

variable {whole fraction : List Char}

/-- A number is read as it is written. -/
theorem read_spelled (negative : Bool) (power : Option Int) (nonempty : whole ≠ [])
    (decimal : forall c, c ∈ whole ++ fraction -> c.isDigit = true) :
    read (Layout.withSign negative (spelled whole fraction power)) =
      some (.finite negative (Numeral.denoted (whole ++ fraction))
        (power.getD 0 - fraction.length)) := by
  have read := Spelling.read_text
    ⟨negative, whole, fraction, power.map Power.written, nonempty, decimal⟩
  have same : Layout.withSign negative (spelled whole fraction power) =
      String.ofList (Spelling.text
        ⟨negative, whole, fraction, power.map Power.written, nonempty, decimal⟩) := by
    cases negative <;> cases power <;> rfl
  have number : ((power.map Power.written).map Power.number).getD 0 = power.getD 0 := by
    cases power with
    | none => rfl
    | some power => exact Power.number_written power
  rw [same, read, Spelling.value, Spelling.exponent, number]
  rfl

end Decimal

end TraceView
