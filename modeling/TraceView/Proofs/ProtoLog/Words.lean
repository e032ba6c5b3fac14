import TraceView.Proofs.Number.Bases
import TraceView.Proofs.Number.Whole
import TraceView.Proofs.Number.Writable
import TraceView.ProtoLog.Message

namespace TraceView.ProtoLog

/-!
# Words

A message shows an integer in base sixteen or eight as a word: the integer is taken modulo `2 ^ 64`, so
a negative one has the word of its two's complement.  The digits of a word are read back to the word,
and of all integers with one word only one has 64 bits with a sign.  So no two such integers are shown
alike, whether they are given as numbers or by their texts.
-/

/-- How words are shown. -/
inductive WordStyle where
  | octal
  | hexadecimal
  deriving DecidableEq, Repr

namespace WordStyle

/-- The notation of integers in which a style shows words. -/
def radix : WordStyle -> Radix
  | .octal => .octal
  | .hexadecimal => .hexadecimal

/-- The template that shows one word. -/
def template : WordStyle -> String
  | .octal => "%o"
  | .hexadecimal => "%x"

def base : WordStyle -> Nat
  | .octal => 8
  | .hexadecimal => 16

/-- How many digits the largest word has. -/
def width : WordStyle -> Nat
  | .octal => 22
  | .hexadecimal => 16

end WordStyle

/-- The word of an integer: its residue modulo `2 ^ 64`. -/
def word (n : Int) : Nat :=
  (n % 2 ^ 64).toNat

/-- The integer of 64 bits with a sign that has a word. -/
def ofWord (word : Nat) : Int :=
  if 2 ^ 63 ≤ word then (word : Int) - 2 ^ 64 else word

/-- The ways in which an integer is given as a parameter: as a number, also as one with a point or an
exponent, or by its decimal text, if it has one. -/
inductive Gives : Value -> Int -> Prop where
  | number (n : Int) : Gives (.int n) n
  | decimal {d : Decimal} {n : Int} (whole : d.toRat? = some (n : Rat)) : Gives (.decimal d) n
  | text {n : Int} (fits : Numeral.Fits n) : Gives (.string (Numeral.full n)) n

/-! ## Words -/

theorem word_lt (n : Int) : word n < 2 ^ 64 := by
  unfold word
  omega

theorem ofWord_word {n : Int} (least : -2 ^ 63 ≤ n) (most : n < 2 ^ 63) : ofWord (word n) = n := by
  unfold ofWord word
  split <;> omega

/-! ## What is shown -/

theorem Gives.integer? {value : Value} {n : Int} (gives : Gives value n) :
    value.integer? = .ok (some n) := by
  cases gives with
  | number => rfl
  | decimal whole => exact Decimal.integer?_eq_ok_some_iff.mpr whole
  | text fits =>
      have written : Numeral.write n = .ok (Numeral.full n) :=
        if_pos (Numeral.fits_iff_length.mp fits)
      exact congrArg Except.ok (Numeral.read_write written)

theorem Gives.isNull {value : Value} {n : Int} (gives : Gives value n) : value.isNull = false := by
  cases gives <;> rfl

theorem integerText_word (style : WordStyle) (n : Int) :
    integerText style.radix n = .ok (String.ofList (Nat.toDigits style.base (word n))) := by
  cases style <;> rfl

/-- A template of one directive shows what the directive does. -/
theorem fill_single {c : Char} {directive : Directive} (named : Directive.named? c = some directive)
    {parameters : Parameters} {text : String}
    (shown : directiveText directive parameters = .ok text) :
    fill ['%', c] parameters = .ok text.toList := by
  simp only [fill, named, shown]
  exact congrArg Except.ok (List.append_nil _)

/-- A template for one word shows the digits of the word of the first integer. -/
theorem messageText_word (style : WordStyle) {value : Value} {n : Int} (gives : Gives value n)
    {parameters : Parameters} (first : parameters.integers.head? = some value) :
    messageText style.template parameters =
      .ok (String.ofList (Nat.toDigits style.base (word n))) := by
  have shown : directiveText (.integer style.radix) parameters =
      .ok (String.ofList (Nat.toDigits style.base (word n))) := by
    rw [← integerText_word]
    simp only [directiveText, Parameters.next?, first, parameterText, gives.isNull, gives.integer?,
      Bool.false_eq_true, if_false]
  have filled : fill style.template.toList parameters =
      .ok (String.ofList (Nat.toDigits style.base (word n))).toList := by
    cases style <;> exact fill_single rfl shown
  rw [messageText, filled]
  exact congrArg Except.ok String.ofList_toList

theorem spellsIn_word (style : WordStyle) (n : Int) :
    Numeral.SpellsIn style.base (String.ofList (Nat.toDigits style.base (word n))) (word n) := by
  cases style <;> exact Numeral.spellsIn_toDigits (by decide) (by decide) (word n)

theorem length_word_le (style : WordStyle) (n : Int) :
    (String.ofList (Nat.toDigits style.base (word n))).length ≤ style.width := by
  have small := word_lt n
  rw [String.length_ofList]
  cases style with
  | octal =>
      have wider : (2 : Nat) ^ 64 ≤ 8 ^ 22 := by decide
      exact (Nat.length_toDigits_le_iff (by decide) (by decide)).mpr (Nat.lt_of_lt_of_le small wider)
  | hexadecimal =>
      have same : (2 : Nat) ^ 64 = 16 ^ 16 := by decide
      rw [same] at small
      exact (Nat.length_toDigits_le_iff (by decide) (by decide)).mpr small

/-! ## Reading back -/

/-- What a style shows for an integer that is given as a number or by its text.

It is the text of the word in the base of the style: digits in lower case, without zeros in front, and
no more than the largest word has.  An integer of 64 bits with a sign is read back from it, so two
such integers are never shown alike, however each is given. -/
theorem words_read_back (style : WordStyle) :
    (forall (value : Value) (n : Int) (parameters : Parameters), Gives value n ->
      parameters.integers.head? = some value ->
        Exists fun text : String => messageText style.template parameters = .ok text ∧
          Numeral.SpellsIn style.base text (word n) ∧ text.length ≤ style.width ∧
          (-2 ^ 63 ≤ n -> n < 2 ^ 63 ->
            ofWord (Numeral.denotedIn style.base text.toList) = n)) ∧
    forall (value other : Value) (n m : Int) (parameters others : Parameters), Gives value n ->
      Gives other m -> parameters.integers.head? = some value ->
      others.integers.head? = some other -> (-2 ^ 63 ≤ n ∧ n < 2 ^ 63) ->
      (-2 ^ 63 ≤ m ∧ m < 2 ^ 63) -> n ≠ m ->
        messageText style.template parameters ≠ messageText style.template others := by
  have readBack : forall n : Int, -2 ^ 63 ≤ n -> n < 2 ^ 63 ->
      ofWord (Numeral.denotedIn style.base (Nat.toDigits style.base (word n))) = n := by
    intro n least most
    have spelled := (spellsIn_word style n).value
    rw [String.toList_ofList] at spelled
    rw [spelled, ofWord_word least most]
  constructor
  · intro value n parameters gives first
    refine ⟨_, messageText_word style gives first, spellsIn_word style n, length_word_le style n, ?_⟩
    rw [String.toList_ofList]
    exact readBack n
  · intro value other n m parameters others gives gives' first first' within within' different same
    rw [messageText_word style gives first, messageText_word style gives' first'] at same
    have digits := String.ofList_injective (Except.ok.inj same)
    apply different
    rw [← readBack n within.1 within.2, digits, readBack m within'.1 within'.2]

/-- The least integer, given as a text, and a decimal with a fraction of zero. -/
theorem leastWord_read_back :
    Gives (.string "-9223372036854775808") (-2 ^ 63) ∧
      Gives (.decimal (.finite true 10 (-1))) (-1) ∧
      (Exists fun text : String =>
        messageText "%x" ⟨[], [.string "-9223372036854775808", .int 7], [], []⟩ = .ok text ∧
          text = "8000000000000000" ∧ ofWord (Numeral.denotedIn 16 text.toList) = -2 ^ 63) ∧
      messageText "%o" ⟨[], [.string "-9223372036854775808"], [], []⟩ ≠
        messageText "%o" ⟨[], [.decimal (.finite true 10 (-1))], [], []⟩ := by
  have least : Gives (.string "-9223372036854775808") (-2 ^ 63) := by
    have fits : Numeral.Fits (-2 ^ 63) :=
      Nat.lt_of_lt_of_le (by decide : (-2 ^ 63 : Int).natAbs < 10 ^ 19)
        (Nat.pow_le_pow_right (by decide) (by decide))
    exact Gives.text fits
  have whole : Gives (.decimal (.finite true 10 (-1))) (-1) :=
    .decimal (Decimal.integer?_eq_ok_some_iff.mp (by decide))
  rcases words_read_back .hexadecimal with ⟨shows, _⟩
  rcases shows _ _ ⟨[], [.string "-9223372036854775808", .int 7], [], []⟩ least rfl with
    ⟨text, shown, _, _, readBack⟩
  refine ⟨least, whole, ⟨text, shown, ?_, readBack (by decide) (by decide)⟩, ?_⟩
  · have digits : messageText "%x" ⟨[], [.string "-9223372036854775808", .int 7], [], []⟩ =
        .ok "8000000000000000" := messageText_word .hexadecimal least rfl
    exact Except.ok.inj (shown.symm.trans digits)
  · exact (words_read_back .octal).2 _ _ _ _ _ _ least whole rfl rfl ⟨by decide, by decide⟩
      ⟨by decide, by decide⟩ (by decide)

end TraceView.ProtoLog
