import TraceView.Json.Reader
import TraceView.Proofs.Json.Lexemes
import TraceView.Proofs.Number.Nearest
import TraceView.Proofs.Number.Numerals
import TraceView.Proofs.Number.Whole

namespace TraceView

/-!
# Spelled numbers of a document

A document spells a number as decimals are spelled, except that no zero stands in front of another
digit.  Where a value may begin, the bytes of such a number are read as one value: an integer if there
is neither a point nor an exponent, and otherwise a decimal.  Both are the number that is spelled.

An integer must not have too many digits, and a decimal must have an exponent that decimals may have.
Only the second condition depends on the spelling, and in practice it is a condition on zeros: other
integers would need more digits than a document can have.
-/

namespace Decimal.Spelling

def number (s : Spelling) : Rat :=
  (Numeral.signed s.negative s.coefficient : Rat) * 10 ^ s.exponent

theorem toRat?_value (s : Spelling) : s.value.toRat? = some s.number :=
  toRat?_finite s.negative s.coefficient s.exponent

theorem length_pos (s : Spelling) : 0 < s.text.length := by
  have digits := List.length_pos_iff.mpr s.nonempty
  simp only [text, mantissa, List.length_append]
  omega

/-- There are no more digits than characters. -/
theorem coefficient_lt (s : Spelling) : s.coefficient < 10 ^ s.text.length := by
  have digits : (s.whole ++ s.fraction).length ≤ s.text.length := by
    rw [text, mantissa]
    cases s.fraction <;> simp only [List.length_append, List.isEmpty_nil, List.isEmpty_cons, if_true,
      Bool.false_eq_true, if_false, List.length_cons, List.length_nil] <;> omega
  exact Nat.lt_of_lt_of_le (Numeral.denoted_lt s.decimal) (Nat.pow_le_pow_right (by decide) digits)

/-- The number without its sign. -/
theorem natAbs_of_number {s : Spelling} {n : Int} (same : s.number = n) :
    (s.coefficient : Rat) * 10 ^ s.exponent = n.natAbs := by
  have power : (0 : Rat) ≤ 10 ^ s.exponent := zpow_nonneg (by norm_num) _
  have magnitude : |(Numeral.signed s.negative s.coefficient : Rat)| = s.coefficient := by
    rw [← Int.cast_abs]
    cases s.negative with
    | true =>
        change ((|-(s.coefficient : Int)| : Int) : Rat) = _
        rw [abs_neg, Nat.abs_cast, Int.cast_natCast]
    | false =>
        change ((|(s.coefficient : Int)| : Int) : Rat) = _
        rw [Nat.abs_cast, Int.cast_natCast]
  have absolute := congrArg abs same
  rw [number, abs_mul, magnitude, abs_of_nonneg power] at absolute
  rw [absolute, Nat.cast_natAbs, Int.cast_abs]

/-- An integer other than zero that has no more digits than texts may have, spelled with as many
characters as a text may have, has an exponent that decimals may have. -/
theorem isInRange_of_number {s : Spelling} {n : Int} (same : s.number = n) (nonzero : n ≠ 0)
    (fits : Numeral.Fits n) (short : s.text.length ≤ 10 ^ 18) : s.value.isInRange = true := by
  have several : (1 : Rat) < 10 := by norm_num
  have denoted := natAbs_of_number same
  have positive : 0 < s.coefficient := by
    apply Nat.pos_of_ne_zero
    intro zero
    rw [zero, Nat.cast_zero, zero_mul] at denoted
    exact nonzero (Int.natAbs_eq_zero.mp (Nat.cast_eq_zero.mp denoted.symm))
  have digits : (Nat.toDigits 10 s.coefficient).length ≤ s.text.length :=
    (Nat.length_toDigits_le_iff (by decide) s.length_pos).mpr s.coefficient_lt
  rcases Double.scaled_bounds positive s.exponent with ⟨least, most⟩
  rw [denoted] at least most
  -- the first digit is one of the integer, so it stands for a small power of ten
  have upper : s.exponent + (Nat.toDigits 10 s.coefficient).length - 1 < (Numeral.digitLimit : Nat) := by
    have large : ((n.natAbs : Nat) : Rat) < 10 ^ ((Numeral.digitLimit : Nat) : Int) := by
      rw [zpow_natCast]
      exact_mod_cast fits
    exact (zpow_lt_zpow_iff_right₀ several).mp (lt_of_le_of_lt least large)
  have lower : 0 < s.exponent + (Nat.toDigits 10 s.coefficient).length := by
    have one : (10 : Rat) ^ (0 : Int) ≤ (n.natAbs : Nat) := by
      rw [zpow_zero]
      exact_mod_cast Int.natAbs_pos.mpr nonzero
    exact (zpow_lt_zpow_iff_right₀ several).mp (lt_of_le_of_lt one most)
  have limit : Numeral.digitLimit = 4300 := rfl
  simp only [value, isInRange, Bool.and_eq_true, decide_eq_true_eq]
  omega

end Decimal.Spelling

namespace Json

/-! ## Characters of a number -/

namespace NumberPart

/-- How far a number has been read after further characters, if all of them belong to it. -/
def follow (part : NumberPart) (text : List Char) : Option NumberPart :=
  text.foldlM next part

theorem follow_cons {part further : NumberPart} {c : Char} (goes : part.next c = some further)
    (text : List Char) : part.follow (c :: text) = further.follow text := by
  rw [follow, List.foldlM_cons, goes]
  rfl

theorem follow_append {part further : NumberPart} {text : List Char}
    (goes : part.follow text = some further) (more : List Char) :
    part.follow (text ++ more) = further.follow more := by
  rw [follow] at goes
  rw [follow, List.foldlM_append, goes]
  rfl

/-- The first of several characters belongs to a number if all of them do. -/
theorem exists_next {part last : NumberPart} {c : Char} {text : List Char}
    (goes : part.follow (c :: text) = some last) :
    Exists fun further : NumberPart =>
      part.next c = some further ∧ further.follow text = some last := by
  rw [follow, List.foldlM_cons] at goes
  exact Option.bind_eq_some_iff.mp goes

theorem follow_digits {part : NumberPart} {digits : List Char}
    (stays : forall c : Char, c.isDigit = true -> part.next c = some part)
    (decimal : forall c, c ∈ digits -> c.isDigit = true) : part.follow digits = some part := by
  induction digits with
  | nil => rfl
  | cons c rest inductionHypothesis =>
      rcases List.forall_mem_cons.mp decimal with ⟨digit, others⟩
      rw [follow_cons (stays c digit), inductionHypothesis others]

/-- One digit or several lead to a part in which digits may go on. -/
theorem follow_areDigits {part further : NumberPart} {digits : List Char}
    (goes : forall c : Char, c.isDigit = true -> part.next c = some further)
    (stays : forall c : Char, c.isDigit = true -> further.next c = some further)
    (nonempty : digits ≠ []) (decimal : forall c, c ∈ digits -> c.isDigit = true) :
    part.follow digits = some further := by
  cases digits with
  | nil => exact absurd rfl nonempty
  | cons c rest =>
      rcases List.forall_mem_cons.mp decimal with ⟨digit, others⟩
      rw [follow_cons (goes c digit), follow_digits stays others]

/-- An exponent is read where its mark belongs. -/
theorem follow_power (exponent : Decimal.Power) {part : NumberPart}
    (marks : part.next exponent.mark = some mark) : part.follow exponent.text = some power := by
  rw [Decimal.Power.text, follow_cons marks]
  have digits : forall part : NumberPart,
      (forall c : Char, c.isDigit = true -> part.next c = some power) ->
        part.follow exponent.digits = some power :=
    fun _ goes => follow_areDigits goes (fun _ digit => if_pos digit) exponent.nonempty
      exponent.decimal
  rcases exponent.signed with same | same | same <;> rw [same]
  · exact digits mark fun _ digit => if_pos digit
  · exact (follow_cons rfl _).trans (digits markSign fun _ digit => if_pos digit)
  · exact (follow_cons rfl _).trans (digits markSign fun _ digit => if_pos digit)

end NumberPart

/-! ## Parts of a number -/

/-- A number in the parts that documents spell it with: those of a decimal, without a zero in front of
another digit. -/
structure Spelling extends Decimal.Spelling where
  unpadded : whole.head? = some '0' -> whole = ['0']

theorem isIntegral_iff {text : List Char} :
    IsIntegral text ↔ Exists fun negative : Bool => Exists fun digits : List Char =>
      text = (if negative then ['-'] else []) ++ digits ∧ AreDigits digits ∧
        (digits.head? = some '0' -> digits = ['0']) := by
  constructor
  · rintro ⟨sign, digits, same, signed, shape⟩
    have unpadded : AreDigits digits ∧ (digits.head? = some '0' -> digits = ['0']) := by
      rcases shape with rfl | ⟨areDigits, leading⟩
      · exact ⟨NumberPart.areDigits_singleton rfl, fun _ => rfl⟩
      · exact ⟨areDigits, fun zero => absurd zero leading⟩
    rcases signed with rfl | rfl
    · exact ⟨false, digits, same, unpadded⟩
    · exact ⟨true, digits, same, unpadded⟩
  · rintro ⟨negative, digits, same, areDigits, unpadded⟩
    refine ⟨_, digits, same, ?_, ?_⟩
    · cases negative with
      | true => exact .inr rfl
      | false => exact .inl rfl
    · by_cases zero : digits.head? = some '0'
      · exact .inl (unpadded zero)
      · exact .inr ⟨areDigits, zero⟩

/-- An integer followed by digits after a point and by an exponent, or by one of them, or by none. -/
theorem exists_spelling {whole fraction : List Char} (integral : IsIntegral whole)
    (decimal : forall c, c ∈ fraction -> c.isDigit = true) (power : Option Decimal.Power) :
    Exists fun s : Spelling => s.text =
      whole ++ ((if fraction.isEmpty then [] else '.' :: fraction) ++
        (power.map Decimal.Power.text).getD []) := by
  rcases isIntegral_iff.mp integral with ⟨negative, digits, rfl, ⟨nonempty, areDigits⟩, unpadded⟩
  refine ⟨⟨⟨negative, digits, fraction, power, nonempty,
    List.forall_mem_append.mpr ⟨areDigits, decimal⟩⟩, unpadded⟩, ?_⟩
  simp only [Decimal.Spelling.text, Decimal.Spelling.mantissa, Decimal.Spelling.tail,
    List.append_assoc]

/-- An integer or a number with a point has such parts, whatever exponent follows it. -/
theorem exists_spelling_of_mantissa {front : List Char} (shape : IsIntegral front ∨ IsPointed front)
    (power : Option Decimal.Power) :
    Exists fun s : Spelling => s.text = front ++ (power.map Decimal.Power.text).getD [] := by
  rcases shape with integral | ⟨whole, digits, rfl, integral, nonempty, areDigits⟩
  · exact exists_spelling integral (fun _ none => absurd none List.not_mem_nil) power
  · rcases exists_spelling integral areDigits power with ⟨s, same⟩
    rw [if_neg (nonempty ∘ List.isEmpty_iff.mp)] at same
    exact ⟨s, by rw [same, List.append_assoc]⟩

namespace Spelling

variable (s : Spelling)

theorem mantissa_shape :
    s.fraction = [] ∧ IsIntegral ((if s.negative then ['-'] else []) ++ s.mantissa) ∨
      IsPointed ((if s.negative then ['-'] else []) ++ s.mantissa) := by
  rcases List.forall_mem_append.mp s.decimal with ⟨before, after⟩
  have integral : IsIntegral ((if s.negative then ['-'] else []) ++ s.whole) :=
    isIntegral_iff.mpr ⟨s.negative, s.whole, rfl, ⟨s.nonempty, before⟩, s.unpadded⟩
  rw [Decimal.Spelling.mantissa]
  cases digits : s.fraction with
  | nil => exact .inl ⟨rfl, by simpa only [List.isEmpty_nil, if_true, List.append_nil] using integral⟩
  | cons c rest =>
      rw [digits] at after
      refine .inr ⟨_, c :: rest, ?_, integral, List.cons_ne_nil c rest, after⟩
      rw [List.append_assoc]
      rfl

theorem text_shape : IsIntegral s.text ∨ IsDecimal s.text := by
  rw [Decimal.Spelling.text, Decimal.Spelling.tail, ← List.append_assoc]
  cases s.power with
  | none =>
      rw [Option.map_none, Option.getD_none, List.append_nil]
      exact s.mantissa_shape.imp And.right .inl
  | some power =>
      exact .inr (.inr ⟨_, power.mark, power.sign, power.digits, rfl,
        s.mantissa_shape.imp And.right id, power.marked, power.signed, power.nonempty,
        power.decimal⟩)

end Spelling

/-- The numbers of documents are those with such parts. -/
theorem exists_spelling_iff {text : List Char} :
    IsIntegral text ∨ IsDecimal text ↔ Exists fun s : Spelling => s.text = text := by
  constructor
  · rintro (integral | pointed | ⟨front, mark, sign, digits, rfl, shape, isMark, signed, areDigits⟩)
    · simpa only [Option.map_none, Option.getD_none, List.append_nil] using
        exists_spelling_of_mantissa (.inl integral) none
    · simpa only [Option.map_none, Option.getD_none, List.append_nil] using
        exists_spelling_of_mantissa (.inr pointed) none
    · exact exists_spelling_of_mantissa shape
        (some ⟨mark, sign, digits, isMark, signed, areDigits.1, areDigits.2⟩)
  · rintro ⟨s, rfl⟩
    exact s.text_shape

namespace Spelling

variable (s : Spelling)

/-- How far the number has been read after the digits before the point. -/
def integralPart : NumberPart :=
  if s.whole = ['0'] then .zero else .whole

/-- How far it has been read before the exponent. -/
def mantissaPart : NumberPart :=
  if s.fraction.isEmpty then s.integralPart else .fraction

/-- How far it has been read at its end. -/
def lastPart : NumberPart :=
  if s.power.isNone then s.mantissaPart else .power

theorem follow_whole : NumberPart.minus.follow s.whole = some s.integralPart := by
  rcases List.forall_mem_append.mp s.decimal with ⟨before, _⟩
  rw [integralPart]
  by_cases zero : s.whole = ['0']
  · rw [if_pos zero, zero]
    rfl
  · rw [if_neg zero]
    rcases List.exists_cons_of_ne_nil s.nonempty with ⟨c, rest, same⟩
    rw [same] at before ⊢
    rcases List.forall_mem_cons.mp before with ⟨digit, others⟩
    have different : ¬ (c == '0') = true := by
      intro leading
      apply zero
      apply s.unpadded
      rw [same, beq_iff_eq.mp leading]
      rfl
    have goes : NumberPart.minus.next c = some .whole := (if_neg different).trans (if_pos digit)
    rw [NumberPart.follow_cons goes]
    exact NumberPart.follow_digits (fun _ digit => if_pos digit) others

theorem follow_mantissa : NumberPart.minus.follow s.mantissa = some s.mantissaPart := by
  rcases List.forall_mem_append.mp s.decimal with ⟨_, after⟩
  rw [Decimal.Spelling.mantissa, NumberPart.follow_append s.follow_whole, mantissaPart]
  cases digits : s.fraction with
  | nil => rfl
  | cons c rest =>
      rw [digits] at after
      have point : s.integralPart.next '.' = some .point := by
        unfold integralPart
        split <;> rfl
      exact (NumberPart.follow_cons point _).trans (NumberPart.follow_areDigits
        (fun _ digit => if_pos digit) (fun _ digit => if_pos digit) (List.cons_ne_nil c rest) after)

theorem next_mark {mark : Char} (marked : mark = 'e' ∨ mark = 'E') :
    s.mantissaPart.next mark = some .mark := by
  unfold mantissaPart integralPart
  rcases marked with same | same <;> rw [same] <;> repeat' split
  all_goals rfl

theorem follow_body : NumberPart.minus.follow (s.mantissa ++ s.tail) = some s.lastPart := by
  rw [NumberPart.follow_append s.follow_mantissa, Decimal.Spelling.tail, lastPart]
  cases s.power with
  | none => rfl
  | some power => exact NumberPart.follow_power power (s.next_mark power.marked)

/-- Where a value may begin, a digit begins a number as it does after a minus sign. -/
theorem start_of_next {c : Char} {part : NumberPart} (goes : NumberPart.minus.next c = some part) :
    Scanner.start .trace c = ([], .ok (.number part [c])) := by
  by_cases zero : (c == '0') = true
  · rw [NumberPart.next, if_pos zero] at goes
    cases goes
    rw [beq_iff_eq.mp zero]
    rfl
  · rw [NumberPart.next, if_neg zero] at goes
    by_cases digit : c.isDigit = true
    · rw [if_pos digit] at goes
      cases goes
      have apart : forall other : Char, other.isDigit = false -> (c == other) = false := by
        intro other none
        apply beq_eq_false_iff_ne.mpr
        rintro rfl
        cases none.symm.trans digit
      simp only [Scanner.start, Scanner.isBlank, apart ' ' rfl, apart '\t' rfl, apart '\n' rfl,
        apart '\r' rfl, apart '\x0b' rfl, apart '\x0c' rfl, apart '"' rfl, apart '-' rfl, zero, digit,
        Bool.or_self, Bool.and_false, Bool.false_eq_true, if_false, if_true]
    · rw [if_neg digit] at goes
      cases goes

/-- The first character of a number begins it, and the others belong to it. -/
theorem text_cases :
    Exists fun c : Char => Exists fun rest : List Char => Exists fun part : NumberPart =>
      s.text = c :: rest ∧ Scanner.start .trace c = ([], .ok (.number part [c])) ∧
        part.follow rest = some s.lastPart := by
  have body := s.follow_body
  unfold Decimal.Spelling.text
  cases s.negative with
  | true => exact ⟨'-', s.mantissa ++ s.tail, .minus, rfl, rfl, body⟩
  | false =>
      rcases List.exists_cons_of_ne_nil s.nonempty with ⟨c, rest, same⟩
      have begun : s.mantissa ++ s.tail =
          c :: (rest ++ (if s.fraction.isEmpty then [] else '.' :: s.fraction) ++ s.tail) := by
        rw [Decimal.Spelling.mantissa, same]
        rfl
      rw [begun] at body
      rcases NumberPart.exists_next body with ⟨part, goes, follows⟩
      exact ⟨c, _, part, begun, start_of_next goes, follows⟩

end Spelling

/-! ## Bytes of a number -/

/-- The bytes that may follow a value: blanks, a comma and the ends of an array and an object. -/
def enders : List UInt8 := traceBlanks ++ [44, 93, 125]

/-- None of them belongs to a number. -/
theorem NumberPart.next_of_ends (part : NumberPart) {byte : UInt8} (listed : byte ∈ enders) :
    part.next (Char.ofNat byte.toNat) = none := by
  have none : forall code, code ∈ enders.map UInt8.toNat -> part.next (Char.ofNat code) = none := by
    cases part <;> decide
  exact none byte.toNat (List.mem_map_of_mem listed)

/-- A number is complete when a character follows that does not belong to it. -/
theorem Scanner.inNumber_end {dialect : Dialect} {part : NumberPart} {written : List Char}
    {c : Char} {token : Token} (ends : part.next c = none) (begun : part ≠ .minus)
    (complete : numberToken dialect part written = .ok token) :
    inNumber dialect part written c = (token :: (start dialect c).1, (start dialect c).2) := by
  have unnamed : (part == .minus) = false := beq_eq_false_iff_ne.mpr begun
  simp only [inNumber, ends, unnamed, Bool.and_false, Bool.false_and, Bool.false_eq_true, if_false,
    complete]

namespace Reading

variable {dialect : Dialect} {part last : NumberPart} {written : List Char} {reader next : Reader}

/-- The bytes of characters that belong to a number are read into it. -/
theorem run_follow {bytes : List UInt8} (follows : part.follow (letters bytes) = some last)
    (rest : List UInt8) :
    run dialect (.number part written) reader (bytes ++ rest) =
      run dialect (.number last ((letters bytes).reverse ++ written)) reader rest := by
  induction bytes generalizing part written with
  | nil =>
      cases follows
      rfl
  | cons byte more inductionHypothesis =>
      rcases NumberPart.exists_next follows with ⟨further, goes, later⟩
      have stepped : (Scanner.number part written).step dialect byte =
          ([], .ok (.number further (Char.ofNat byte.toNat :: written))) := by
        simp only [Scanner.step, Scanner.inNumber, goes]
      have spelled : letters (byte :: more) = Char.ofNat byte.toNat :: letters more := rfl
      rw [List.cons_append, run, stepped, spelled, List.reverse_cons, List.append_assoc,
        List.singleton_append]
      exact inductionHypothesis later

/-- A complete number is given out before the byte that ends it is read, or at the end. -/
theorem run_complete {token : Token} (begun : part ≠ .minus)
    (complete : numberToken dialect part written = .ok token)
    (fed : reader.feed token = .ok next) {rest : List UInt8}
    (ends : forall byte, rest.head? = some byte -> byte ∈ enders) :
    run dialect (.number part written) reader rest = run dialect .between next rest := by
  have stepped : forall byte, byte ∈ enders ->
      (Scanner.number part written).step dialect byte =
        (token :: (Scanner.between.step dialect byte).1, (Scanner.between.step dialect byte).2) :=
    fun byte listed => Scanner.inNumber_end (part.next_of_ends listed) begun complete
  have given : forall tokens, reader.feedAll (token :: tokens) = next.feedAll tokens := by
    intro tokens
    rw [Reader.feedAll, fed]
  cases rest with
  | nil => simp only [run, atEnd, stepped 32 (by decide), given]
  | cons byte more => simp only [run, stepped byte (ends byte rfl), given]

end Reading

/-- Whether a value may begin. -/
def Reader.AwaitsValue (reader : Reader) : Prop :=
  reader.expects = .value ∨ reader.expects = .firstItem

/-! ## What is read -/

namespace Spelling

variable (s : Spelling)

/-- Whether the number is spelled without a point and an exponent. -/
def isPlain : Bool :=
  s.fraction.isEmpty && s.power.isNone

def token : Token :=
  if s.isPlain then .integer (Numeral.signed s.negative s.coefficient) else .decimal s.value

/-- What a document holds where the number is spelled. -/
def tree : Json :=
  if s.isPlain then .integer (Numeral.signed s.negative s.coefficient) else .decimal s.value

theorem feed_token {reader : Reader} (awaits : reader.AwaitsValue) :
    reader.feed s.token = .ok (Reader.deliver s.tree reader.frames) := by
  unfold token tree Reader.feed
  rcases awaits with value | item
  · rw [value]
    cases s.isPlain <;> rfl
  · rw [item]
    cases s.isPlain <;> rfl

variable {s} {n : Int}

theorem parts_of_isPlain (plain : s.isPlain = true) : s.fraction = [] ∧ s.power = none := by
  rw [isPlain, Bool.and_eq_true, List.isEmpty_iff, Option.isNone_iff_eq_none] at plain
  exact plain

theorem number_of_isPlain (plain : s.isPlain = true) :
    s.number = (Numeral.signed s.negative s.coefficient : Int) := by
  rcases parts_of_isPlain plain with ⟨fraction, power⟩
  have exponent : s.exponent = 0 := by
    rw [Decimal.Spelling.exponent, fraction, power]
    rfl
  rw [Decimal.Spelling.number, exponent, zpow_zero, mul_one]

/-- What is read is the number that is spelled. -/
theorem integer?_tree (same : s.number = n) : s.tree.exactValue.integer? = .ok (some n) := by
  unfold tree
  by_cases plain : s.isPlain = true
  · rw [if_pos plain]
    rw [number_of_isPlain plain, Int.cast_inj] at same
    rw [same]
    rfl
  · rw [if_neg plain]
    exact Decimal.integer?_eq_ok_some_iff.mpr (s.toRat?_value.trans (congrArg some same))

/-- The digits of an integer are as many as it has. -/
theorem length_whole (plain : s.isPlain = true) (same : s.number = n) (fits : Numeral.Fits n) :
    s.whole.length ≤ Numeral.digitLimit := by
  rcases parts_of_isPlain plain with ⟨fraction, _⟩
  have decimal := s.decimal
  rw [fraction, List.append_nil] at decimal
  have spells : Numeral.Spells (String.ofList s.whole) s.coefficient := by
    constructor <;> rw [String.toList_ofList]
    · exact s.nonempty
    · exact decimal
    · exact s.unpadded
    · rw [Decimal.Spelling.coefficient, fraction, List.append_nil]
  have digits : s.whole = Nat.toDigits 10 n.natAbs := by
    have magnitude : n.natAbs = s.coefficient := by
      rw [number_of_isPlain plain, Int.cast_inj] at same
      rw [← same]
      cases s.negative with
      | true => exact Int.natAbs_neg _
      | false => rfl
    rw [magnitude, ← Numeral.toList_toString, ← Numeral.spells_iff.mp spells, String.toList_ofList]
  rw [digits]
  exact Numeral.fits_iff_length.mp fits

theorem read_of_isPlain (plain : s.isPlain = true)
    (short : s.whole.length ≤ Numeral.digitLimit) :
    Numeral.read (String.ofList s.text) = some (Numeral.signed s.negative s.coefficient) := by
  rcases parts_of_isPlain plain with ⟨fraction, power⟩
  have decimal := s.decimal
  rw [fraction, List.append_nil] at decimal
  have signed : Numeral.IsSign (if s.negative then ['-'] else []) := by
    cases s.negative with
    | true => exact .inr (.inr rfl)
    | false => exact .inl rfl
  have read := (Numeral.Spelling.ofDecimal [] (if s.negative then ['-'] else []) s.whole s.whole []
    (fun _ impossible => absurd impossible List.not_mem_nil) signed (.plain s.nonempty) decimal
    short).read_text
  have text : s.text = [] ++ ((if s.negative then ['-'] else []) ++ s.whole) ++ [] := by
    rw [Decimal.Spelling.text, Decimal.Spelling.mantissa, Decimal.Spelling.tail, fraction, power]
    simp only [List.isEmpty_nil, if_true, Option.map_none, Option.getD_none, List.append_nil,
      List.nil_append]
  have number : Numeral.signed ((if s.negative then ['-'] else []) == ['-'])
      (Numeral.ofDigits (s.whole.map fun c : Char => c.toNat - '0'.toNat)) =
        Numeral.signed s.negative s.coefficient := by
    rw [Numeral.ofDigits_map, Decimal.Spelling.coefficient, fraction, List.append_nil]
    cases s.negative <;> rfl
  rw [text]
  exact read.trans (congrArg some number)

/-- The token of a number that can be held. -/
theorem numberToken_text (same : s.number = n) (fits : Numeral.Fits n)
    (range : s.value.isInRange = true) :
    numberToken .trace s.lastPart s.text.reverse = .ok s.token := by
  unfold token lastPart mantissaPart integralPart
  by_cases plain : s.isPlain = true
  · rcases parts_of_isPlain plain with ⟨fraction, power⟩
    have read := read_of_isPlain plain (length_whole plain same fits)
    rw [if_pos plain, fraction, power]
    by_cases zero : s.whole = ['0'] <;>
      simp only [zero, List.isEmpty_nil, Option.isNone_none, if_true, if_false, numberToken,
        List.reverse_reverse, Dialect.integer_trace, read]
  · have read := s.read_text
    rw [if_neg plain]
    have complete : forall part, part = .fraction ∨ part = .power ->
        numberToken .trace part s.text.reverse = .ok (.decimal s.value) := by
      rintro part (rfl | rfl) <;>
        simp only [numberToken, List.reverse_reverse, read, range, Bool.not_true, Bool.and_false,
          Bool.false_eq_true, if_false]
    apply complete
    cases power : s.power with
    | some power => exact .inr rfl
    | none =>
        cases fraction : s.fraction with
        | cons c rest => exact .inl rfl
        | nil =>
            rw [isPlain, power, fraction] at plain
            exact absurd rfl plain

end Spelling

/-- Where a value may begin, a spelled number is read as one. -/
theorem Reading.run_spelling {s : Spelling} {n : Int} (same : s.number = n) (fits : Numeral.Fits n)
    (range : s.value.isInRange = true) {reader : Reader} (awaits : reader.AwaitsValue)
    {bytes rest : List UInt8} (spelled : letters bytes = s.text)
    (ends : forall byte, rest.head? = some byte -> byte ∈ enders) :
    run .trace .between reader (bytes ++ rest) =
      run .trace .between (Reader.deliver s.tree reader.frames) rest := by
  rcases s.text_cases with ⟨c, more, part, text, starts, follows⟩
  have begun : s.lastPart ≠ .minus := by
    unfold Spelling.lastPart Spelling.mantissaPart Spelling.integralPart
    repeat' split
    all_goals exact nofun
  have complete := Spelling.numberToken_text same fits range
  rw [text] at spelled
  cases bytes with
  | nil => cases spelled
  | cons byte others =>
      rcases List.cons.inj spelled with ⟨first, later⟩
      have stepped : Scanner.between.step .trace byte = ([], .ok (.number part [c])) := by
        rw [← starts, ← first]
        rfl
      have read : (letters others).reverse ++ [c] = s.text.reverse := by
        rw [text, List.reverse_cons, ← later]
        rfl
      rw [List.cons_append, run, stepped]
      change run .trace (.number part [c]) reader (others ++ rest) = _
      rw [run_follow (later ▸ follows), read]
      exact run_complete begun complete (s.feed_token awaits) ends

end Json

end TraceView
