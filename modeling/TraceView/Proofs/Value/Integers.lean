import TraceView.Proofs.Json.Spelling

namespace TraceView

/-!
# Integers of 64-bit fields

A 64-bit field holds an integer in any of three ways: as an integer, as a decimal, or as a text.  Each
way has many spellings, and the integer is found from all of them and from nothing else: from a decimal
exactly if it is whole, from a text exactly if it is a sign and digits between blanks, and from no value
of another kind.

The blanks are those of the Unicode class `White_Space`.  The information separators U+001C to U+001F
are not among them, although file names are split at them.  A document that spells a zero with an
exponent that decimals do not have cannot be read at all.
-/

namespace Value

/-! ## Decimals -/

section Decimals

variable {negative : Bool} {coefficient : Nat} {exponent : Int}

theorem integer?_decimal_iff {n : Int} :
    (decimal (.finite negative coefficient exponent)).integer? = .ok (some n) ↔
      (Numeral.signed negative coefficient : Rat) * 10 ^ exponent = n := by
  change (Decimal.finite negative coefficient exponent).integer? = .ok (some n) ↔ _
  rw [Decimal.integer?_eq_ok_some_iff, Decimal.toRat?_finite, Option.some.injEq]

theorem integer?_decimal_none_iff :
    (decimal (.finite negative coefficient exponent)).integer? = .ok none ↔
      ¬ Exists fun n : Int => (Numeral.signed negative coefficient : Rat) * 10 ^ exponent = n := by
  have answers : Exists fun found : Option Int =>
      (decimal (.finite negative coefficient exponent)).integer? = .ok found := ⟨_, rfl⟩
  rcases answers with ⟨found, answer⟩
  simp only [← integer?_decimal_iff, answer, Except.ok.injEq]
  cases found with
  | none => exact iff_of_true rfl fun ⟨_, impossible⟩ => nomatch impossible
  | some n => exact iff_of_false nofun fun none => none ⟨n, rfl⟩

end Decimals

/-! ## Texts -/

theorem integer?_string_iff {text : String} {n : Int} :
    (string text).integer? = .ok (some n) ↔
      Exists fun s : Numeral.Spelling => s.text = text.toList ∧ s.number = n := by
  rw [← Numeral.read_eq_some_iff, integer?, Except.ok.injEq]

theorem integer?_string_none_iff {text : String} :
    (string text).integer? = .ok none ↔
      ¬ Exists fun s : Numeral.Spelling => s.text = text.toList := by
  rw [integer?, Except.ok.injEq, Option.eq_none_iff_forall_ne_some]
  constructor
  · rintro none ⟨s, same⟩
    exact none s.number (Numeral.read_eq_some_iff.mpr ⟨s, same, rfl⟩)
  · intro none n found
    rcases Numeral.read_eq_some_iff.mp found with ⟨s, same, _⟩
    exact none ⟨s, same⟩

/-! ## All values -/

/-- Null, truth values, doubles, constants, lists and mappings stand for no integer. -/
theorem integer?_eq_none {value : Value}
    (other : value.kind ∉ [Kind.int, .decimal, .string]) : value.integer? = .ok none := by
  have known : Kind.int ∈ [Kind.int, .decimal, .string] ∧
      Kind.decimal ∈ [Kind.int, .decimal, .string] ∧
        Kind.string ∈ [Kind.int, .decimal, .string] := by decide
  cases value with
  | int n => exact absurd known.1 other
  | decimal d => exact absurd known.2.1 other
  | string text => exact absurd known.2.2 other
  | _ => rfl

/-- The integer of a field of a document is the one that is found, if one is found. -/
theorem toInt?_eq_some_iff {value : Value} {n : Int} :
    value.toInt? = some n ↔ value.integer? = .ok (some n) := by
  unfold toInt?
  cases value.integer? with
  | error fault => exact iff_of_false nofun nofun
  | ok found => exact ⟨congrArg Except.ok, Except.ok.inj⟩

/-- An integer is found from each of its spellings, and from nothing else: from decimals, from texts with
blanks, a sign, zeros in front and underscores, and from the numbers of a document, which may have zeros
after a point and exponents. -/
theorem integers_spelled :
    (forall (negative : Bool) (coefficient : Nat) (exponent : Int),
      (forall n : Int, (decimal (.finite negative coefficient exponent)).integer? = .ok (some n) ↔
        (Numeral.signed negative coefficient : Rat) * 10 ^ exponent = n) ∧
      ((decimal (.finite negative coefficient exponent)).integer? = .ok none ↔
        ¬ Exists fun n : Int =>
          (Numeral.signed negative coefficient : Rat) * 10 ^ exponent = n)) ∧
    (forall (n : Int) (zeros : Nat) (before sign written after : List Char),
      (forall c, c ∈ before ++ after -> c.toNat ∈ Text.whiteSpace) -> Numeral.SignOf n sign ->
      Numeral.Grouped written (List.replicate zeros '0' ++ Nat.toDigits 10 n.natAbs) ->
      zeros + (Nat.toDigits 10 n.natAbs).length ≤ 4300 ->
      (string (String.ofList (before ++ (sign ++ written) ++ after))).integer? = .ok (some n)) ∧
    (forall text : String,
      (forall n : Int, (string text).integer? = .ok (some n) ↔
        Exists fun s : Numeral.Spelling => s.text = text.toList ∧ s.number = n) ∧
      ((string text).integer? = .ok none ↔
        ¬ Exists fun s : Numeral.Spelling => s.text = text.toList)) ∧
    (forall text : List Char, Json.IsIntegral text ∨ Json.IsDecimal text ↔
      Exists fun s : Json.Spelling => s.text = text) ∧
    (forall (s : Json.Spelling) (n : Int), s.number = n ->
      (Nat.toDigits 10 n.natAbs).length ≤ 4300 ->
      n ≠ 0 ∧ s.text.length ≤ 10 ^ 18 ∨ s.value.isInRange = true ->
      forall (bytes rest : List UInt8) (reader : Json.Reader), Json.letters bytes = s.text ->
      (forall byte, rest.head? = some byte -> byte ∈ Json.enders) -> reader.AwaitsValue ->
      Json.Reading.run .trace .between reader (bytes ++ rest) =
          Json.Reading.run .trace .between (Json.Reader.deliver s.tree reader.frames) rest ∧
        s.tree.exactValue.integer? = .ok (some n)) ∧
    (forall value : Value, value.kind ∉ [Kind.int, .decimal, .string] ->
      value.integer? = .ok none) ∧
    (forall (value : Value) (n : Int),
      value.toInt? = some n ↔ value.integer? = .ok (some n)) := by
  refine ⟨?decimals, ?ornate, ?texts, fun _ => Json.exists_spelling_iff, ?numbers,
    fun _ => integer?_eq_none, fun _ _ => toInt?_eq_some_iff⟩
  case decimals =>
    exact fun _ _ _ => ⟨fun _ => integer?_decimal_iff, integer?_decimal_none_iff⟩
  case ornate =>
    intro n zeros before sign written after blank signOf grouped short
    exact congrArg Except.ok (Numeral.read_ornate blank signOf grouped short)
  case texts =>
    exact fun _ => ⟨fun _ => integer?_string_iff, integer?_string_none_iff⟩
  case numbers =>
    intro s n same short held bytes rest reader spelled ends awaits
    have fits := Numeral.fits_iff_length.mpr short
    have range : s.value.isInRange = true :=
      held.elim (fun large => Decimal.Spelling.isInRange_of_number same large.1 fits large.2) id
    exact ⟨Json.Reading.run_spelling same fits range awaits spelled ends,
      Json.Spelling.integer?_tree same⟩

/-- The number `-1.20e+01`, which has all the parts that numbers may have. -/
def sampleSpelling : Json.Spelling where
  negative := true
  whole := ['1']
  fraction := ['2', '0']
  power := some (.written 1)
  nonempty := List.cons_ne_nil '1' []
  decimal := List.all_eq_true.mp rfl
  unpadded := nofun

theorem number_sampleSpelling : sampleSpelling.number = (-12 : Int) := by
  have coefficient : Numeral.signed sampleSpelling.negative sampleSpelling.coefficient = -120 := by
    decide
  have exponent : sampleSpelling.exponent = -1 := by decide
  rw [Decimal.Spelling.number, coefficient, exponent]
  norm_num

/-- Minus twelve as a decimal, as a text with all ornaments and as a number at the end of an object, and
values from which no integer is found. -/
theorem sampleSpellings_read :
    ((Numeral.signed true 120 : Rat) * 10 ^ (-1 : Int) = (-12 : Int) ∧
      (decimal (.finite true 120 (-1))).integer? = .ok (some (-12))) ∧
    (Numeral.SignOf (-12) ['-'] ∧ 1 + (Nat.toDigits 10 (-12 : Int).natAbs).length ≤ 4300 ∧
      (string (String.ofList (['\u2028'] ++ (['-'] ++ ['0', '_', '1', '2']) ++ ['\t']))).integer? =
        .ok (some (-12))) ∧
    (Json.letters "-1.20e+01".toUTF8.toList = sampleSpelling.text ∧
      (Nat.toDigits 10 (-12 : Int).natAbs).length ≤ 4300 ∧
      Json.Reading.run .trace .between .empty ("-1.20e+01".toUTF8.toList ++ [125]) =
        Json.Reading.run .trace .between (Json.Reader.deliver sampleSpelling.tree []) [125] ∧
      sampleSpelling.tree.exactValue.integer? = .ok (some (-12))) ∧
    ((list []).kind ∉ [Kind.int, .decimal, .string] ∧ (list []).integer? = .ok none) := by
  have whole : (Numeral.signed true 120 : Rat) * 10 ^ (-1 : Int) = (-12 : Int) := by
    rw [show Numeral.signed true 120 = -120 from rfl]
    norm_num
  have signOf : Numeral.SignOf (-12) ['-'] := .inl ⟨by decide, rfl⟩
  have blank : forall c, c ∈ ['\u2028'] ++ ['\t'] -> c.toNat ∈ Text.whiteSpace :=
    List.forall_mem_cons.mpr ⟨by decide, List.forall_mem_singleton.mpr (by decide)⟩
  have grouped : Numeral.Grouped ['0', '_', '1', '2']
      (List.replicate 1 '0' ++ Nat.toDigits 10 (-12 : Int).natAbs) :=
    .apart '0' (.close '1' (.last '2'))
  have spelled : Json.letters "-1.20e+01".toUTF8.toList = sampleSpelling.text := by
    decide +kernel
  have ends : forall byte, [125].head? = some byte -> byte ∈ Json.enders := by
    intro byte same
    cases same
    decide
  have kind : (list []).kind ∉ [Kind.int, .decimal, .string] := by decide
  have few : (Nat.toDigits 10 (-12 : Int).natAbs).length ≤ 4300 := by decide
  rcases integers_spelled with ⟨decimals, ornate, _, _, numbers, others, _⟩
  refine ⟨⟨whole, ((decimals true 120 (-1)).1 (-12)).mpr whole⟩, ⟨signOf, by decide, ?_⟩,
    ⟨spelled, few, ?_⟩, ⟨kind, others (list []) kind⟩⟩
  · exact ornate (-12) 1 ['\u2028'] ['-'] ['0', '_', '1', '2'] ['\t'] blank signOf grouped (by decide)
  · exact numbers sampleSpelling (-12) number_sampleSpelling few (.inr (by decide))
      "-1.20e+01".toUTF8.toList [125] .empty spelled ends (.inl rfl)

/-- The number `0e+1000000000000000000`. -/
def vastZero : Json.Spelling where
  negative := false
  whole := ['0']
  fraction := []
  power := some (.written (10 ^ 18))
  nonempty := List.cons_ne_nil '0' []
  decimal := List.all_eq_true.mp rfl
  unpadded := fun _ => rfl

/-- An information separator is not taken away from a text, although it separates words elsewhere, a
second sign is not read, and a zero with an exponent out of range is no value of a document. -/
theorem spellings_refused :
    (Text.isAsciiBlank '\x1c' = true ∧ (string "5").integer? = .ok (some 5) ∧
      (string "\x1c5").integer? = .ok none) ∧
    ((string "-5").integer? = .ok (some (-5)) ∧ (string "+-5").integer? = .ok none) ∧
    (vastZero.number = (0 : Int) ∧
      Json.letters "0e+1000000000000000000".toUTF8.toList = vastZero.text ∧
      Json.read .trace "0e+1000000000000000000".toUTF8.toList = .stopped none .outOfRange) := by
  refine ⟨⟨by decide, by decide, by decide⟩, ⟨by decide, by decide⟩, ?_, by decide +kernel, ?_⟩
  · have coefficient : Numeral.signed vastZero.negative vastZero.coefficient = 0 := by decide
    rw [Decimal.Spelling.number, coefficient, Int.cast_zero, zero_mul]
  · with_unfolding_all rfl

end Value

end TraceView
