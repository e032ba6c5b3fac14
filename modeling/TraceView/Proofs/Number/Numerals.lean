import Mathlib.Data.List.TakeWhile
import TraceView.Proofs.Number.Spelling
import TraceView.Proofs.Number.Writable

namespace TraceView

/-!
# Texts of integers

A text of an integer has five parts: blanks, a sign, digits with underscores between some of them,
and blanks again.  Reading takes them apart, so it succeeds on the texts with such parts and on no
others, and it gives the integer with this sign and these digits.

The parts are given without the reader.  The blanks are listed, and where an underscore may stand is
said by the digits around it.
-/

namespace Text

/-- The code points of the Unicode class `White_Space`. -/
def whiteSpace : List Nat :=
  [9, 10, 11, 12, 13, 32, 0x85, 0xA0, 0x1680, 0x2000, 0x2001, 0x2002, 0x2003, 0x2004, 0x2005,
    0x2006, 0x2007, 0x2008, 0x2009, 0x200A, 0x2028, 0x2029, 0x202F, 0x205F, 0x3000]

theorem isBlank_iff {c : Char} : isBlank c = true ↔ c.toNat ∈ whiteSpace := by
  simp only [isBlank, whiteSpace, Bool.or_eq_true, Bool.and_eq_true, decide_eq_true_eq, beq_iff_eq,
    List.mem_cons, List.not_mem_nil, or_false]
  omega

/-- No script has a digit among the blanks. -/
theorem isBlank_of_digit? {c : Char} {value : Nat} (digit : digit? c = some value) :
    isBlank c = false := by
  have none : forall code, code ∈ whiteSpace -> digit? (Char.ofNat code) = none := by decide
  apply Bool.eq_false_iff.mpr
  intro blank
  have absent := none c.toNat (isBlank_iff.mp blank)
  rw [Char.ofNat_toNat, digit] at absent
  cases absent

/-! ## Blanks at the ends -/

/-- A text is what is left of it with blanks on both sides. -/
theorem exists_strip (text : List Char) :
    Exists fun before : List Char => Exists fun after : List Char =>
      text = before ++ strip text ++ after ∧
        forall c, c ∈ before ++ after -> isBlank c = true := by
  have front := @List.takeWhile_append_dropWhile _ isBlank text
  have back := @List.takeWhile_append_dropWhile _ isBlank (text.dropWhile isBlank).reverse
  refine ⟨text.takeWhile isBlank, ((text.dropWhile isBlank).reverse.takeWhile isBlank).reverse,
    ?_, List.forall_mem_append.mpr ⟨?_, ?_⟩⟩
  · rw [strip, List.append_assoc, ← List.reverse_append, back, List.reverse_reverse, front]
  · exact fun c listed => List.mem_takeWhile_imp listed
  · exact fun c listed => List.mem_takeWhile_imp (List.mem_reverse.mp listed)

/-- Blanks on both sides are taken away from a text that has none. -/
theorem strip_append {before core after : List Char} (nonempty : core ≠ [])
    (blank : forall c, c ∈ before ++ after -> isBlank c = true)
    (visible : forall c, c ∈ core -> isBlank c = false) :
    strip (before ++ core ++ after) = core := by
  rcases List.forall_mem_append.mp blank with ⟨front, back⟩
  have begins : forall c, (core ++ after).head? = some c -> isBlank c = false := by
    intro c begun
    rcases List.exists_cons_of_ne_nil nonempty with ⟨first, rest, same⟩
    rw [same] at begun
    cases begun
    apply visible
    rw [same]
    exact List.mem_cons_self
  have ends : forall c, core.reverse.head? = some c -> isBlank c = false :=
    fun c ended => visible c (List.mem_reverse.mp (List.mem_of_mem_head? ended))
  have reversed : forall c, c ∈ after.reverse -> isBlank c = true :=
    fun c listed => back c (List.mem_reverse.mp listed)
  rw [strip, List.append_assoc, (Numeral.span_append front begins).2, List.reverse_append,
    (Numeral.span_append reversed ends).2, List.reverse_reverse]

end Text

namespace Numeral

/-! ## Digits with underscores -/

/-- How digits may be written: a single underscore may stand between two neighbours. -/
inductive Grouped : List Char -> List Char -> Prop where
  | last (digit : Char) : Grouped [digit] [digit]
  | close (digit : Char) {written digits : List Char} (rest : Grouped written digits) :
      Grouped (digit :: written) (digit :: digits)
  | apart (digit : Char) {written digits : List Char} (rest : Grouped written digits) :
      Grouped (digit :: '_' :: written) (digit :: digits)

namespace Grouped

variable {written digits : List Char}

/-- Digits may be written without underscores. -/
theorem plain (nonempty : digits ≠ []) : Grouped digits digits := by
  induction digits with
  | nil => exact absurd rfl nonempty
  | cons digit rest inductionHypothesis =>
      cases rest with
      | nil => exact .last digit
      | cons next more => exact .close digit (inductionHypothesis (List.cons_ne_nil next more))

/-- What is written begins with a digit. -/
theorem exists_cons (grouped : Grouped written digits) :
    Exists fun digit : Char => Exists fun rest : List Char =>
      written = digit :: rest ∧ digit ∈ digits := by
  cases grouped with
  | last digit => exact ⟨digit, [], rfl, List.mem_cons_self⟩
  | close digit rest => exact ⟨digit, _, rfl, List.mem_cons_self⟩
  | apart digit rest => exact ⟨digit, _, rfl, List.mem_cons_self⟩

/-- Nothing is written but digits and underscores. -/
theorem mem_cases (grouped : Grouped written digits) :
    forall c, c ∈ written -> c ∈ digits ∨ c = '_' := by
  induction grouped with
  | last digit => exact fun c listed => .inl listed
  | close digit rest inductionHypothesis =>
      refine List.forall_mem_cons.mpr ⟨.inl List.mem_cons_self, fun c listed => ?_⟩
      exact (inductionHypothesis c listed).imp_left (List.mem_cons_of_mem digit)
  | apart digit rest inductionHypothesis =>
      refine List.forall_mem_cons.mpr ⟨.inl List.mem_cons_self, ?_⟩
      refine List.forall_mem_cons.mpr ⟨.inr rfl, fun c listed => ?_⟩
      exact (inductionHypothesis c listed).imp_left (List.mem_cons_of_mem digit)

end Grouped

/-- Digits with these values, of any script. -/
def AreValued (digits : List Char) (values : List Nat) : Prop :=
  digits.map Text.digit? = values.map some

theorem AreValued.exists_of_mem {digits : List Char} {values : List Nat}
    (valued : AreValued digits values) {c : Char} (listed : c ∈ digits) :
    Exists fun value : Nat => Text.digit? c = some value := by
  have found : Text.digit? c ∈ values.map some := by
    rw [← valued]
    exact List.mem_map_of_mem listed
  rcases List.mem_map.mp found with ⟨value, _, same⟩
  exact ⟨value, same.symm⟩

theorem areValued_cons_iff {digit : Char} {digits : List Char} {value : Nat} {values : List Nat} :
    AreValued (digit :: digits) (value :: values) ↔
      Text.digit? digit = some value ∧ AreValued digits values := by
  rw [AreValued, List.map_cons, List.map_cons, List.cons.injEq, AreValued]

theorem areValued_of_isDigit {digits : List Char}
    (decimal : forall c, c ∈ digits -> c.isDigit = true) :
    AreValued digits (digits.map fun c => c.toNat - '0'.toNat) := by
  rw [AreValued, List.map_map]
  exact List.map_congr_left fun c listed => digit?_of_isDigit (decimal c listed)

theorem digitRun_underscore {c : Char} {digit : Nat} (first : Text.digit? c = some digit)
    (more : List Char) : digitRun (c :: '_' :: more) = (digitRun more).map (digit :: ·) := by
  rw [digitRun.eq_def]
  simp only [first]

/-- Grouped digits are read one by one. -/
theorem digitRun_of_grouped {written digits : List Char} {values : List Nat}
    (grouped : Grouped written digits) (valued : AreValued digits values) :
    digitRun written = some values := by
  induction grouped generalizing values with
  | last digit =>
      cases values with
      | nil => cases valued
      | cons value others =>
          rcases areValued_cons_iff.mp valued with ⟨first, none⟩
          cases others with
          | nil => exact digitRun_singleton first
          | cons other more => cases none
  | close digit rest inductionHypothesis =>
      cases values with
      | nil => cases valued
      | cons value others =>
          rcases areValued_cons_iff.mp valued with ⟨first, later⟩
          rcases rest.exists_cons with ⟨next, more, same, listed⟩
          have different : next ≠ '_' := by
            rintro rfl
            rcases later.exists_of_mem listed with ⟨_, value⟩
            have none : Text.digit? '_' = none := by decide
            cases none.symm.trans value
          have run := inductionHypothesis later
          rw [same] at run ⊢
          rw [digitRun_cons first different, run, Option.map_some]
  | apart digit rest inductionHypothesis =>
      cases values with
      | nil => cases valued
      | cons value others =>
          rcases areValued_cons_iff.mp valued with ⟨first, later⟩
          rw [digitRun_underscore first, inductionHypothesis later, Option.map_some]

/-- What is read as digits is grouped. -/
theorem grouped_of_digitRun {written : List Char} {values : List Nat}
    (run : digitRun written = some values) :
    Exists fun digits : List Char => Grouped written digits ∧ AreValued digits values := by
  fun_induction digitRun written generalizing values with
  | case1 => cases run
  | case2 => cases run
  | case3 c digit first =>
      cases run
      exact ⟨[c], .last c, areValued_cons_iff.mpr ⟨first, rfl⟩⟩
  | case4 c digit more first inductionHypothesis =>
      rcases Option.map_eq_some_iff.mp run with ⟨later, found, same⟩
      cases same
      rcases inductionHypothesis found with ⟨digits, grouped, valued⟩
      exact ⟨c :: digits, .apart c grouped, areValued_cons_iff.mpr ⟨first, valued⟩⟩
  | case5 c digit next more different first inductionHypothesis =>
      rcases Option.map_eq_some_iff.mp run with ⟨later, found, same⟩
      cases same
      rcases inductionHypothesis found with ⟨digits, grouped, valued⟩
      exact ⟨c :: digits, .close c grouped, areValued_cons_iff.mpr ⟨first, valued⟩⟩

/-! ## Whole texts -/

/-- An integer in the parts that its texts have: digits of any script, with underscores between some of
them, a sign before them if there is one, and blanks around both. -/
structure Spelling where
  before : List Char
  sign : List Char
  written : List Char
  digits : List Char
  values : List Nat
  after : List Char
  blank : forall c, c ∈ before ++ after -> c.toNat ∈ Text.whiteSpace
  signed : IsSign sign
  grouped : Grouped written digits
  valued : AreValued digits values
  short : values.length ≤ digitLimit

namespace Spelling

variable (s : Spelling)

/-- The text with these parts. -/
def text : List Char :=
  s.before ++ (s.sign ++ s.written) ++ s.after

def number : Int :=
  Numeral.signed (s.sign == ['-']) (ofDigits s.values)

theorem visible : forall c, c ∈ s.sign ++ s.written -> Text.isBlank c = false := by
  refine List.forall_mem_append.mpr ⟨?_, fun c listed => ?_⟩
  · rcases s.signed with same | same | same <;> rw [same]
    · exact fun _ impossible => absurd impossible List.not_mem_nil
    · exact List.forall_mem_singleton.mpr rfl
    · exact List.forall_mem_singleton.mpr rfl
  · rcases s.grouped.mem_cases c listed with digit | underscore
    · rcases s.valued.exists_of_mem digit with ⟨_, value⟩
      exact Text.isBlank_of_digit? value
    · rw [underscore]
      decide

theorem strip_text : Text.strip s.text = s.sign ++ s.written := by
  rcases s.grouped.exists_cons with ⟨digit, rest, same, _⟩
  have nonempty : s.sign ++ s.written ≠ [] := by
    rw [same]
    exact List.append_ne_nil_of_right_ne_nil _ (List.cons_ne_nil digit rest)
  exact Text.strip_append nonempty (fun c listed => Text.isBlank_iff.mpr (s.blank c listed)) s.visible

theorem splitSign_strip :
    splitSign (Text.strip s.text) = (s.sign == ['-'], s.written) := by
  rw [s.strip_text]
  apply splitSign_append s.signed
  intro c first
  rcases s.grouped.exists_cons with ⟨digit, rest, same, listed⟩
  rw [same] at first
  cases first
  rcases s.valued.exists_of_mem listed with ⟨value, found⟩
  have none : Text.digit? '-' = none ∧ Text.digit? '+' = none := by decide
  constructor
  · rintro rfl
    cases none.1.symm.trans found
  · rintro rfl
    cases none.2.symm.trans found

/-- A text with these parts is read as the integer with this sign and these digits. -/
theorem read_text : read (String.ofList s.text) = some s.number := by
  simp only [read, String.toList_ofList, s.splitSign_strip, digitRun_of_grouped s.grouped s.valued,
    Option.bind_some, s.short, if_true, number]

/-- Digits of ASCII between blanks, after a sign. -/
def ofDecimal (before sign written digits after : List Char)
    (blank : forall c, c ∈ before ++ after -> c.toNat ∈ Text.whiteSpace) (signed : IsSign sign)
    (grouped : Grouped written digits) (decimal : forall c, c ∈ digits -> c.isDigit = true)
    (short : digits.length ≤ digitLimit) : Spelling where
  before := before
  sign := sign
  written := written
  digits := digits
  values := digits.map fun c : Char => c.toNat - '0'.toNat
  after := after
  blank := blank
  signed := signed
  grouped := grouped
  valued := areValued_of_isDigit decimal
  short := Nat.le_trans (Nat.le_of_eq (List.length_map _)) short

end Spelling

/-- A text is a sign, if it begins with one, and what follows it. -/
theorem exists_splitSign (text : List Char) :
    Exists fun sign : List Char =>
      IsSign sign ∧ (splitSign text).1 = (sign == ['-']) ∧ text = sign ++ (splitSign text).2 := by
  unfold splitSign
  split
  · exact ⟨['-'], .inr (.inr rfl), rfl, rfl⟩
  · exact ⟨['+'], .inr (.inl rfl), rfl, rfl⟩
  · exact ⟨[], .inl rfl, rfl, rfl⟩

/-- A text that is read has such parts. -/
theorem exists_spelling {text : String} {n : Int} (found : read text = some n) :
    Exists fun s : Spelling => s.text = text.toList ∧ s.number = n := by
  have opened : read text = (digitRun (splitSign (Text.strip text.toList)).2).bind fun values =>
      if values.length ≤ digitLimit then
        some (signed (splitSign (Text.strip text.toList)).1 (ofDigits values))
      else none := rfl
  rw [opened] at found
  rcases Text.exists_strip text.toList with ⟨before, after, same, blank⟩
  rcases exists_splitSign (Text.strip text.toList) with ⟨sign, signed, negative, body⟩
  rcases Option.bind_eq_some_iff.mp found with ⟨values, run, within⟩
  rcases grouped_of_digitRun run with ⟨digits, grouped, valued⟩
  by_cases short : values.length ≤ digitLimit
  · rw [if_pos short, Option.some.injEq] at within
    refine ⟨⟨before, sign, (splitSign (Text.strip text.toList)).2, digits, values, after,
      fun c listed => Text.isBlank_iff.mp (blank c listed), signed, grouped, valued, short⟩, ?_, ?_⟩
    · rw [Spelling.text, ← body, ← same]
    · rw [Spelling.number, ← negative, within]
  · rw [if_neg short] at within
    cases within

/-- A text is read as an integer exactly if it spells this integer. -/
theorem read_eq_some_iff {text : String} {n : Int} :
    read text = some n ↔ Exists fun s : Spelling => s.text = text.toList ∧ s.number = n := by
  constructor
  · exact exists_spelling
  · rintro ⟨s, same, rfl⟩
    rw [← s.read_text, same, String.ofList_toList]

/-! ## Decimal texts with ornaments -/

/-- The signs that an integer may have.  Zero may have any of them. -/
def SignOf (n : Int) (sign : List Char) : Prop :=
  n ≤ 0 ∧ sign = ['-'] ∨ 0 ≤ n ∧ (sign = [] ∨ sign = ['+'])

theorem SignOf.isSign {n : Int} {sign : List Char} (signOf : SignOf n sign) : IsSign sign := by
  rcases signOf with ⟨_, minus⟩ | ⟨_, none | plus⟩
  · exact .inr (.inr minus)
  · exact .inl none
  · exact .inr (.inl plus)

theorem SignOf.signed_natAbs {n : Int} {sign : List Char} (signOf : SignOf n sign) :
    signed (sign == ['-']) n.natAbs = n := by
  rcases signOf with ⟨negative, rfl⟩ | ⟨positive, rfl | rfl⟩
  · change -(n.natAbs : Int) = n
    omega
  · exact Int.natAbs_of_nonneg positive
  · exact Int.natAbs_of_nonneg positive

/-- The decimal text of an integer may have zeros after its sign, underscores between its digits and
blanks around it. -/
theorem read_ornate {n : Int} {zeros : Nat} {before sign written after : List Char}
    (blank : forall c, c ∈ before ++ after -> c.toNat ∈ Text.whiteSpace) (signOf : SignOf n sign)
    (grouped : Grouped written (List.replicate zeros '0' ++ Nat.toDigits 10 n.natAbs))
    (short : zeros + (Nat.toDigits 10 n.natAbs).length ≤ digitLimit) :
    read (String.ofList (before ++ (sign ++ written) ++ after)) = some n := by
  have decimal := @isDigit_zeros_append zeros (Nat.toDigits 10 n.natAbs) fun _ => isDigit_of_mem
  have length : (List.replicate zeros '0' ++ Nat.toDigits 10 n.natAbs).length ≤ digitLimit := by
    rwa [List.length_append, List.length_replicate]
  have read := (Spelling.ofDecimal before sign written _ after blank signOf.isSign grouped decimal
    length).read_text
  have number : signed (sign == ['-'])
      (ofDigits ((List.replicate zeros '0' ++ Nat.toDigits 10 n.natAbs).map
        fun c => c.toNat - '0'.toNat)) = n := by
    rw [ofDigits_map, denoted_zeros, denoted_toDigits, signOf.signed_natAbs]
  exact read.trans (congrArg some number)

end Numeral

end TraceView
