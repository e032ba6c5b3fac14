import Mathlib.Data.List.Basic
import TraceView.Json.Token

namespace TraceView.Json

/-!
# Documents and their bytes

A document is written as its tokens are: each token has lexemes, and the lexemes stand one after the
other, with blanks around them.  The lexemes are given here by a grammar of their own, independently
of the scanner: the characters of marks and words, the forms of numbers, and the characters of texts
in each of the ways to write them.

A token that denotes nothing has its lexemes too, because it is recognised before it is refused.  What
the scanner keeps of a number or a text that it has begun is the beginning of such a lexeme, and each
byte that it accepts continues it.
-/

/-- Bytes as characters, one for each. -/
def letters (bytes : List UInt8) : List Char :=
  bytes.map fun byte => Char.ofNat byte.toNat

theorem letters_append (bytes more : List UInt8) :
    letters (bytes ++ more) = letters bytes ++ letters more :=
  List.map_append

theorem letter_injective {first second : UInt8}
    (same : Char.ofNat first.toNat = Char.ofNat second.toNat) : first = second := by
  have number : forall byte : UInt8, (Char.ofNat byte.toNat).toNat = byte.toNat := by
    intro byte
    rw [Char.ofNat, dif_pos (.inl (Nat.lt_trans byte.toNat_lt (by decide)))]
    rfl
  apply UInt8.toNat_inj.mp
  rw [← number first, ← number second, same]

/-! ## Numbers -/

/-- One digit or several. -/
def AreDigits (text : List Char) : Prop :=
  text ≠ [] ∧ forall c, c ∈ text -> c.isDigit = true

/-- An integer: digits with a minus sign if it is negative, and without leading zeros. -/
def IsIntegral (text : List Char) : Prop :=
  Exists fun sign : List Char => Exists fun digits : List Char =>
    text = sign ++ digits ∧ (sign = [] ∨ sign = ['-']) ∧
      (digits = ['0'] ∨ AreDigits digits ∧ digits.head? ≠ some '0')

/-- An integer with a point and digits after it. -/
def IsPointed (text : List Char) : Prop :=
  Exists fun whole : List Char => Exists fun digits : List Char =>
    text = whole ++ '.' :: digits ∧ IsIntegral whole ∧ AreDigits digits

def IsMark (c : Char) : Prop :=
  c = 'e' ∨ c = 'E'

/-- A number with an exponent. -/
def IsPowered (text : List Char) : Prop :=
  Exists fun mantissa : List Char => Exists fun mark : Char => Exists fun sign : List Char =>
    Exists fun digits : List Char =>
      text = mantissa ++ mark :: (sign ++ digits) ∧ (IsIntegral mantissa ∨ IsPointed mantissa) ∧
        IsMark mark ∧ (sign = [] ∨ sign = ['+'] ∨ sign = ['-']) ∧ AreDigits digits

/-- A number with a point or an exponent. -/
def IsDecimal (text : List Char) : Prop :=
  IsPointed text ∨ IsPowered text

/-! ## Texts -/

/-- The number that hexadecimal digits denote, most significant first. -/
def hexadecimal (digits : List Nat) : Nat :=
  digits.foldl (fun value digit => 16 * value + digit) 0

/-- Hexadecimal digits of a number. -/
def SpellHex (bytes : List UInt8) (digits : List Nat) : Prop :=
  (letters bytes).map Text.hexDigit? = digits.map some

/-- The four hexadecimal digits of a code point. -/
def IsNumbered (bytes : List UInt8) (code : Nat) : Prop :=
  Exists fun digits : List Nat =>
    SpellHex bytes digits ∧ digits.length = 4 ∧ hexadecimal digits = code

/-- The first half of a pair. -/
def IsHigh (code : Nat) : Prop :=
  0xD800 ≤ code ∧ code < 0xDC00

/-- The second half of a pair. -/
def IsLow (code : Nat) : Prop :=
  0xDC00 ≤ code ∧ code < 0xE000

/-- A piece of a text as it is written, with the bytes that it stands for. -/
inductive IsPiece : List UInt8 -> List UInt8 -> Prop where
  | plain {byte : UInt8} (printable : 32 ≤ byte.toNat) (quote : byte ≠ 34) (backslash : byte ≠ 92) :
      IsPiece [byte] [byte]
  | escape {letter : UInt8} {meant : Nat}
      (listed : PartialText.escapes.lookup (Char.ofNat letter.toNat) = some meant) :
      IsPiece [92, letter] [UInt8.ofNat meant]
  | code {digits : List UInt8} {code : Nat} (numbered : IsNumbered digits code) :
      IsPiece (92 :: 117 :: digits) (encode code)
  /-- The two halves of a pair, which denote one character. -/
  | pair {first second : List UInt8} {high low : Nat} (before : IsNumbered first high)
      (isHigh : IsHigh high) (after : IsNumbered second low) (isLow : IsLow low) :
      IsPiece (92 :: 117 :: (first ++ 92 :: 117 :: second))
        (encode (0x10000 + (high - 0xD800) * 1024 + (low - 0xDC00)))

/-- What stands between the quotes of a text, with the bytes that it stands for. -/
inductive IsContent : List UInt8 -> List UInt8 -> Prop where
  | nothing : IsContent [] []
  | more {written meant piece bytes : List UInt8} (front : IsContent written meant)
      (last : IsPiece piece bytes) : IsContent (written ++ piece) (meant ++ bytes)

/-! ## Tokens -/

/-- The tokens that are always written alike. -/
def fixedLexemes : List (Token × String) :=
  [(.openBrace, "\x7b"), (.closeBrace, "\x7d"), (.openBracket, "["), (.closeBracket, "]"),
    (.colon, ":"), (.comma, ","), (.null, "null"), (.bool true, "true"), (.bool false, "false")]

/-- The bytes of a token. -/
inductive Lexeme : Token -> List UInt8 -> Prop where
  | fixed {token : Token} {text : String} {bytes : List UInt8}
      (listed : (token, text) ∈ fixedLexemes) (spelled : letters bytes = text.toList) :
      Lexeme token bytes
  | integer {bytes : List UInt8} {n : Int} (shape : IsIntegral (letters bytes))
      (value : Numeral.read (String.ofList (letters bytes)) = some n) : Lexeme (.integer n) bytes
  /-- An integer with too many digits. -/
  | long {bytes : List UInt8} (shape : IsIntegral (letters bytes))
      (value : Numeral.read (String.ofList (letters bytes)) = none) :
      Lexeme (.faultyNumber .long) bytes
  | decimal {bytes : List UInt8} {d : Decimal} (shape : IsDecimal (letters bytes))
      (value : Decimal.read (String.ofList (letters bytes)) = some d)
      (inRange : d.isInRange = true) : Lexeme (.decimal d) bytes
  /-- A decimal with an exponent that decimals do not have. -/
  | vast {bytes : List UInt8} {d : Decimal} (shape : IsDecimal (letters bytes))
      (value : Decimal.read (String.ofList (letters bytes)) = some d)
      (outOfRange : d.isInRange = false) : Lexeme (.faultyNumber .outOfRange) bytes
  | string {written meant : List UInt8} {text : String} (content : IsContent written meant)
      (value : String.fromUTF8? ⟨meant.toArray⟩ = some text) :
      Lexeme (.string text) (34 :: (written ++ [34]))
  /-- A text that is not UTF-8. -/
  | garbled {written meant : List UInt8} (content : IsContent written meant)
      (value : String.fromUTF8? ⟨meant.toArray⟩ = none) :
      Lexeme (.faultyString .garbled) (34 :: (written ++ [34]))

/-- The bytes of tokens with blanks around them. -/
inductive Lexed (blanks : List UInt8) : List Token -> List UInt8 -> Prop where
  | nothing : Lexed blanks [] []
  | blank {tokens : List Token} {bytes : List UInt8} {byte : UInt8}
      (front : Lexed blanks tokens bytes) (member : byte ∈ blanks) :
      Lexed blanks tokens (bytes ++ [byte])
  | token {tokens : List Token} {bytes lexeme : List UInt8} {token : Token}
      (front : Lexed blanks tokens bytes) (last : Lexeme token lexeme) :
      Lexed blanks (tokens ++ [token]) (bytes ++ lexeme)

/-- The blanks of a document: the space, the line feed, the carriage return and the tab. -/
def blanks : List UInt8 := [32, 10, 13, 9]

/-- The blanks that are read as such in a trace: the vertical tab and the form feed, too. -/
def traceBlanks : List UInt8 := blanks ++ [11, 12]

/-- A quote with what is no more than the beginning of a text. -/
def Unfinished (bytes : List UInt8) : Prop :=
  Exists fun written : List UInt8 => Exists fun meant : List UInt8 =>
    bytes = 34 :: written ∧ IsContent written meant

/-- Bytes without a vertical tab and a form feed hold no other blanks than those of a document. -/
theorem Lexed.of_traceBlanks {tokens : List Token} {bytes : List UInt8}
    (written : Lexed traceBlanks tokens bytes) (tab : 11 ∉ bytes) (feed : 12 ∉ bytes) :
    Lexed blanks tokens bytes := by
  induction written with
  | nothing => exact .nothing
  | blank front member inductionHypothesis =>
      rw [List.mem_append, List.mem_singleton, not_or] at tab feed
      refine .blank (inductionHypothesis tab.1 feed.1) ?_
      rcases List.mem_append.mp member with strict | vertical
      · exact strict
      · rcases List.mem_cons.mp vertical with same | last
        · exact absurd same.symm tab.2
        · exact absurd (List.mem_singleton.mp last).symm feed.2
  | token front last inductionHypothesis =>
      rw [List.mem_append, not_or] at tab feed
      exact .token (inductionHypothesis tab.1 feed.1) last

/-! ## What the scanner has read -/

/-- What has been read of a number. -/
def NumberPart.Reads : NumberPart -> List Char -> Prop
  | .minus, text => text = ['-']
  | .zero, text => text = ['0'] ∨ text = ['-', '0']
  | .whole, text => Exists fun sign : List Char => Exists fun digits : List Char =>
      text = sign ++ digits ∧ (sign = [] ∨ sign = ['-']) ∧ AreDigits digits ∧
        digits.head? ≠ some '0'
  | .point, text => Exists fun whole : List Char => text = whole ++ ['.'] ∧ IsIntegral whole
  | .fraction, text => IsPointed text
  | .mark, text => Exists fun mantissa : List Char => Exists fun mark : Char =>
      text = mantissa ++ [mark] ∧ (IsIntegral mantissa ∨ IsPointed mantissa) ∧ IsMark mark
  | .markSign, text => Exists fun mantissa : List Char => Exists fun mark : Char =>
      Exists fun sign : Char =>
        text = mantissa ++ [mark, sign] ∧ (IsIntegral mantissa ∨ IsPointed mantissa) ∧
          IsMark mark ∧ (sign = '+' ∨ sign = '-')
  | .power, text => IsPowered text

namespace NumberPart

theorem areDigits_singleton {c : Char} (digit : c.isDigit = true) : AreDigits [c] :=
  ⟨List.cons_ne_nil _ _, fun _ member => List.mem_singleton.mp member ▸ digit⟩

theorem areDigits_append {text : List Char} {c : Char} (digits : AreDigits text)
    (digit : c.isDigit = true) : AreDigits (text ++ [c]) := by
  refine ⟨List.append_ne_nil_of_left_ne_nil digits.1 _, ?_⟩
  intro other member
  rcases List.mem_append.mp member with inside | last
  · exact digits.2 other inside
  · rw [List.mem_singleton.mp last]
    exact digit

theorem isIntegral_of_zero {text : List Char} (reads : zero.Reads text) : IsIntegral text := by
  rcases reads with same | same
  · exact ⟨[], ['0'], same, .inl rfl, .inl rfl⟩
  · exact ⟨['-'], ['0'], same, .inr rfl, .inl rfl⟩

theorem isIntegral_of_whole {text : List Char} (reads : whole.Reads text) : IsIntegral text := by
  rcases reads with ⟨sign, digits, same, signed, areDigits, nonzero⟩
  exact ⟨sign, digits, same, signed, .inr ⟨areDigits, nonzero⟩⟩

theorem reads_mark {text : List Char} {c : Char} (mantissa : IsIntegral text ∨ IsPointed text)
    (isMark : (c == 'e' || c == 'E') = true) : mark.Reads (text ++ [c]) := by
  refine ⟨text, c, rfl, mantissa, ?_⟩
  rw [Bool.or_eq_true, beq_iff_eq, beq_iff_eq] at isMark
  exact isMark

/-! ### What may follow

A number goes on with a digit, a point, the mark of an exponent or its sign, and with which of them
depends on how far it has been read. -/

theorem reads_of_minus {next : NumberPart} {text : List Char} {c : Char}
    (reads : minus.Reads text) (belongs : minus.next c = some next) : next.Reads (text ++ [c]) := by
  rw [NumberPart.next] at belongs
  cases reads
  by_cases isZero : (c == '0') = true
  · rw [if_pos isZero] at belongs
    cases belongs
    rw [beq_iff_eq.mp isZero]
    exact .inr rfl
  · rw [if_neg isZero] at belongs
    by_cases digit : c.isDigit = true
    · rw [if_pos digit] at belongs
      cases belongs
      refine ⟨['-'], [c], rfl, .inr rfl, areDigits_singleton digit, ?_⟩
      intro same
      exact isZero (beq_iff_eq.mpr (Option.some.inj same))
    · rw [if_neg digit] at belongs
      cases belongs

/-- After an integer there may be a point or the mark of an exponent. -/
theorem reads_of_integral {next : NumberPart} {text : List Char} {c : Char}
    (integral : IsIntegral text) (belongs : zero.next c = some next) : next.Reads (text ++ [c]) := by
  rw [NumberPart.next] at belongs
  by_cases isPoint : (c == '.') = true
  · rw [if_pos isPoint] at belongs
    cases belongs
    rw [beq_iff_eq.mp isPoint]
    exact ⟨text, rfl, integral⟩
  · rw [if_neg isPoint] at belongs
    by_cases isMark : (c == 'e' || c == 'E') = true
    · rw [if_pos isMark] at belongs
      cases belongs
      exact reads_mark (.inl integral) isMark
    · rw [if_neg isMark] at belongs
      cases belongs

theorem reads_of_whole {next : NumberPart} {text : List Char} {c : Char}
    (reads : whole.Reads text) (belongs : whole.next c = some next) : next.Reads (text ++ [c]) := by
  by_cases digit : c.isDigit = true
  · rw [NumberPart.next, if_pos digit] at belongs
    cases belongs
    rcases reads with ⟨sign, digits, same, signed, areDigits, nonzero⟩
    refine ⟨sign, digits ++ [c], ?_, signed, areDigits_append areDigits digit, ?_⟩
    · rw [same, List.append_assoc]
    · rwa [List.head?_append_of_ne_nil _ areDigits.1]
  · rw [NumberPart.next, if_neg digit] at belongs
    exact reads_of_integral (isIntegral_of_whole reads) belongs

theorem reads_of_point {next : NumberPart} {text : List Char} {c : Char}
    (reads : point.Reads text) (belongs : point.next c = some next) : next.Reads (text ++ [c]) := by
  rw [NumberPart.next] at belongs
  by_cases digit : c.isDigit = true
  · rw [if_pos digit] at belongs
    cases belongs
    rcases reads with ⟨whole, same, integral⟩
    refine ⟨whole, [c], ?_, integral, areDigits_singleton digit⟩
    rw [same, List.append_assoc]
    rfl
  · rw [if_neg digit] at belongs
    cases belongs

theorem reads_of_fraction {next : NumberPart} {text : List Char} {c : Char}
    (pointed : IsPointed text) (belongs : fraction.next c = some next) :
    next.Reads (text ++ [c]) := by
  rw [NumberPart.next] at belongs
  by_cases digit : c.isDigit = true
  · rw [if_pos digit] at belongs
    cases belongs
    rcases pointed with ⟨whole, digits, same, integral, areDigits⟩
    refine ⟨whole, digits ++ [c], ?_, integral, areDigits_append areDigits digit⟩
    rw [same, List.append_assoc]
    rfl
  · rw [if_neg digit] at belongs
    by_cases isMark : (c == 'e' || c == 'E') = true
    · rw [if_pos isMark] at belongs
      cases belongs
      exact reads_mark (.inr pointed) isMark
    · rw [if_neg isMark] at belongs
      cases belongs

theorem reads_of_mark {next : NumberPart} {text : List Char} {c : Char}
    (reads : mark.Reads text) (belongs : mark.next c = some next) : next.Reads (text ++ [c]) := by
  rw [NumberPart.next] at belongs
  rcases reads with ⟨mantissa, mark, same, shape, isMark⟩
  by_cases digit : c.isDigit = true
  · rw [if_pos digit] at belongs
    cases belongs
    refine ⟨mantissa, mark, [], [c], ?_, shape, isMark, .inl rfl, areDigits_singleton digit⟩
    rw [same, List.append_assoc]
    rfl
  · rw [if_neg digit] at belongs
    by_cases signed : (c == '+' || c == '-') = true
    · rw [if_pos signed] at belongs
      cases belongs
      rw [Bool.or_eq_true, beq_iff_eq, beq_iff_eq] at signed
      refine ⟨mantissa, mark, c, ?_, shape, isMark, signed⟩
      rw [same, List.append_assoc]
      rfl
    · rw [if_neg signed] at belongs
      cases belongs

theorem reads_of_markSign {next : NumberPart} {text : List Char} {c : Char}
    (reads : markSign.Reads text) (belongs : markSign.next c = some next) :
    next.Reads (text ++ [c]) := by
  rw [NumberPart.next] at belongs
  rcases reads with ⟨mantissa, mark, sign, same, shape, isMark, signed⟩
  by_cases digit : c.isDigit = true
  · rw [if_pos digit] at belongs
    cases belongs
    refine ⟨mantissa, mark, [sign], [c], ?_, shape, isMark, ?_, areDigits_singleton digit⟩
    · rw [same, List.append_assoc]
      rfl
    · exact .inr (signed.imp (congrArg fun c => [c]) (congrArg fun c => [c]))
  · rw [if_neg digit] at belongs
    cases belongs

theorem reads_of_power {next : NumberPart} {text : List Char} {c : Char}
    (powered : IsPowered text) (belongs : power.next c = some next) : next.Reads (text ++ [c]) := by
  rw [NumberPart.next] at belongs
  rcases powered with ⟨mantissa, mark, sign, digits, same, shape, isMark, signed, areDigits⟩
  by_cases digit : c.isDigit = true
  · rw [if_pos digit] at belongs
    cases belongs
    refine ⟨mantissa, mark, sign, digits ++ [c], ?_, shape, isMark, signed,
      areDigits_append areDigits digit⟩
    rw [same, List.append_assoc, List.cons_append, List.append_assoc]
  · rw [if_neg digit] at belongs
    cases belongs

/-- A character that belongs to a number is added to what has been read of it. -/
theorem reads_next {part next : NumberPart} {text : List Char} {c : Char}
    (reads : part.Reads text) (belongs : part.next c = some next) :
    next.Reads (text ++ [c]) := by
  cases part with
  | minus => exact reads_of_minus reads belongs
  | zero => exact reads_of_integral (isIntegral_of_zero reads) belongs
  | whole => exact reads_of_whole reads belongs
  | point => exact reads_of_point reads belongs
  | fraction => exact reads_of_fraction reads belongs
  | mark => exact reads_of_mark reads belongs
  | markSign => exact reads_of_markSign reads belongs
  | power => exact reads_of_power reads belongs

end NumberPart

/-- An integer has a token of its own, whether it begins with zero or not. -/
theorem lexeme_of_integral {written : List Char} {token : Token} {bytes : List UInt8}
    (spelled : letters bytes = written.reverse) (shape : IsIntegral (letters bytes))
    (complete : numberToken .trace .whole written = .ok token) : Lexeme token bytes := by
  simp only [numberToken, ← spelled] at complete
  split at complete
  · rename_i n value
    cases complete
    exact .integer shape value
  · rename_i value
    cases complete
    exact .long shape value

/-- A decimal has a token, too, whether it has an exponent or not. -/
theorem lexeme_of_decimal {written : List Char} {token : Token} {bytes : List UInt8}
    (spelled : letters bytes = written.reverse) (shape : IsDecimal (letters bytes))
    (complete : numberToken .trace .power written = .ok token) : Lexeme token bytes := by
  simp only [numberToken, ← spelled] at complete
  split at complete
  · rename_i d value
    cases range : d.isInRange with
    | true =>
        rw [range] at complete
        cases complete
        exact .decimal shape value range
    | false =>
        rw [range] at complete
        cases complete
        exact .vast shape value range
  · cases complete

theorem broken_of_numberToken {part : NumberPart} {written : List Char} {problem : Problem}
    (incomplete : numberToken .trace part written = .error problem) : problem = .broken := by
  have integer : numberToken .trace .whole written = .error problem -> problem = .broken := by
    intro failed
    cases value : Numeral.read (String.ofList written.reverse) <;>
      simp only [numberToken, Dialect.integer_trace, value, reduceCtorEq] at failed
  have decimal : numberToken .trace .power written = .error problem -> problem = .broken := by
    intro failed
    cases value : Decimal.read (String.ofList written.reverse) with
    | some d => simp only [numberToken, value, reduceCtorEq] at failed
    | none =>
        simp only [numberToken, value] at failed
        exact (Except.error.inj failed).symm
  cases part with
  | zero => exact integer incomplete
  | whole => exact integer incomplete
  | fraction => exact decimal incomplete
  | power => exact decimal incomplete
  | _ => exact (Except.error.inj incomplete).symm

/-- The token of a number has the bytes that have been read of it. -/
theorem lexeme_numberToken {part : NumberPart} {written : List Char} {token : Token}
    {bytes : List UInt8} (reads : part.Reads written.reverse)
    (spelled : letters bytes = written.reverse)
    (complete : numberToken .trace part written = .ok token) : Lexeme token bytes := by
  rw [← spelled] at reads
  cases part with
  | zero => exact lexeme_of_integral spelled (NumberPart.isIntegral_of_zero reads) complete
  | whole => exact lexeme_of_integral spelled (NumberPart.isIntegral_of_whole reads) complete
  | fraction => exact lexeme_of_decimal spelled (.inl reads) complete
  | power => exact lexeme_of_decimal spelled (.inr reads) complete
  | _ => cases complete

namespace PartialText

/-- What has been read of a text, up to a character that is complete. -/
def Halved (t : PartialText) (written : List UInt8) : Prop :=
  match t.half with
  | none => IsContent written t.bytes.reverse
  | some high => Exists fun front : List UInt8 => Exists fun digits : List UInt8 =>
      written = front ++ 92 :: 117 :: digits ∧ IsContent front t.bytes.reverse ∧
        IsNumbered digits high ∧ IsHigh high

/-- What has been read of a text. -/
def Reads (t : PartialText) (written : List UInt8) : Prop :=
  match t.part with
  | .plain => t.Halved written
  | .escape => Exists fun front : List UInt8 => written = front ++ [92] ∧ t.Halved front
  | .hexadecimal toCome code => Exists fun front : List UInt8 => Exists fun bytes : List UInt8 =>
      Exists fun digits : List Nat =>
        written = front ++ 92 :: 117 :: bytes ∧ t.Halved front ∧ SpellHex bytes digits ∧
          digits.length + toCome = 4 ∧ 1 ≤ toCome ∧ Json.hexadecimal digits = code
  | .continuation _ => t.Halved written

variable {t next : PartialText} {written : List UInt8}

/-- A half that has no partner is a piece of its own. -/
theorem Halved.settled (halved : t.Halved written) : IsContent written t.settled.reverse := by
  unfold Halved at halved
  unfold PartialText.settled
  cases half : t.half with
  | none =>
      rw [half] at halved
      exact halved
  | some high =>
      rw [half] at halved
      rcases halved with ⟨front, digits, same, content, numbered, _⟩
      simp only [List.reverse_append, List.reverse_reverse]
      rw [same]
      exact .more content (.code numbered)

/-- A byte that stands for itself. -/
theorem Halved.push {byte : UInt8} (halved : t.Halved written) (printable : 32 ≤ byte.toNat)
    (quote : byte ≠ 34) (backslash : byte ≠ 92) (part : TextPart) :
    (t.push byte part).Halved (written ++ [byte]) := by
  have more := IsContent.more halved.settled (.plain printable quote backslash)
  rw [← List.reverse_cons] at more
  exact more

/-- A character that is given by its number. -/
theorem Halved.pushCode {digits : List UInt8} {code : Nat} (halved : t.Halved written)
    (numbered : IsNumbered digits code) :
    (t.pushCode code).Reads (written ++ 92 :: 117 :: digits) := by
  have single : IsContent (written ++ 92 :: 117 :: digits)
      ((encode code).reverse ++ t.settled).reverse := by
    rw [List.reverse_append, List.reverse_reverse]
    exact .more halved.settled (.code numbered)
  have alone : (if 0xD800 ≤ code && code < 0xDC00 then
      (⟨t.settled, some code, .plain⟩ : PartialText)
      else ⟨(encode code).reverse ++ t.settled, none, .plain⟩).Reads
        (written ++ 92 :: 117 :: digits) := by
    by_cases isHigh : (0xD800 ≤ code && code < 0xDC00) = true
    · rw [if_pos isHigh]
      rw [Bool.and_eq_true, decide_eq_true_eq, decide_eq_true_eq] at isHigh
      exact ⟨written, digits, rfl, halved.settled, numbered, isHigh⟩
    · rw [if_neg isHigh]
      exact single
  unfold PartialText.pushCode
  cases half : t.half with
  | none => exact alone
  | some high =>
      cases isLow : (0xDC00 ≤ code && code < 0xE000 : Bool) with
      | false => exact alone
      | true =>
          rw [Bool.and_eq_true, decide_eq_true_eq, decide_eq_true_eq] at isLow
          unfold Halved at halved
          rw [half] at halved
          rcases halved with ⟨front, first, same, content, before, isHigh⟩
          have pair := IsContent.more content (.pair before isHigh numbered isLow)
          change IsContent (written ++ 92 :: 117 :: digits)
            ((encode (0x10000 + (high - 0xD800) * 1024 + (code - 0xDC00))).reverse ++
              t.bytes).reverse
          rw [List.reverse_append, List.reverse_reverse, same, List.append_assoc]
          exact pair

theorem spellHex_append {bytes : List UInt8} {digits : List Nat} {byte : UInt8} {digit : Nat}
    (spelled : SpellHex bytes digits) (value : Text.hexDigit? (Char.ofNat byte.toNat) = some digit) :
    SpellHex (bytes ++ [byte]) (digits ++ [digit]) := by
  rw [SpellHex, letters_append, List.map_append, List.map_append, spelled]
  exact congrArg (digits.map some ++ [·]) value

/-! ### What may follow

A text goes on with a character that stands for itself, with a backslash, or with what the character
that has been begun still needs. -/

theorem reads_of_plain {byte : UInt8} (plain : t.part = .plain) (halved : t.Halved written)
    (quote : byte ≠ 34) (further : t.read byte = .ok next) : next.Reads (written ++ [byte]) := by
  simp only [PartialText.read, plain] at further
  by_cases backslash : (Char.ofNat byte.toNat == '\\') = true
  · rw [if_pos backslash] at further
    cases further
    have same : byte = 92 := letter_injective (beq_iff_eq.mp backslash)
    exact ⟨written, same ▸ rfl, halved⟩
  · rw [if_neg backslash] at further
    have other : byte ≠ 92 := fun same => backslash (same ▸ rfl)
    by_cases control : byte.toNat < 0x20
    · rw [if_pos control] at further
      cases further
    · rw [if_neg control] at further
      have pushed := halved.push (Nat.le_of_not_lt control) quote other
      -- the ranges differ only in how many bytes have to follow
      repeat' split at further
      all_goals cases further
      all_goals exact pushed _

theorem reads_of_escape {byte : UInt8} (escape : t.part = .escape) (halved : t.Halved written)
    (further : t.read byte = .ok next) : next.Reads (written ++ [92] ++ [byte]) := by
  simp only [PartialText.read, escape] at further
  rw [List.append_assoc]
  by_cases numbered : (Char.ofNat byte.toNat == 'u') = true
  · rw [if_pos numbered] at further
    cases further
    have letter : byte = 117 := letter_injective (beq_iff_eq.mp numbered)
    exact ⟨written, [], [], by rw [letter]; rfl, halved, rfl, rfl, by decide, rfl⟩
  · rw [if_neg numbered] at further
    cases listed : escapes.lookup (Char.ofNat byte.toNat) with
    | none =>
        rw [listed] at further
        cases further
    | some meant =>
        rw [listed] at further
        cases further
        have more := IsContent.more halved.settled (.escape listed)
        rw [← List.reverse_cons] at more
        exact more

theorem reads_of_hexadecimal {byte : UInt8} {toCome code : Nat} {bytes : List UInt8}
    {digits : List Nat} (numbered : t.part = .hexadecimal toCome code) (halved : t.Halved written)
    (spelled : SpellHex bytes digits) (length : digits.length + toCome = 4) (left : 1 ≤ toCome)
    (value : Json.hexadecimal digits = code) (further : t.read byte = .ok next) :
    next.Reads (written ++ 92 :: 117 :: (bytes ++ [byte])) := by
  simp only [PartialText.read, numbered] at further
  cases found : Text.hexDigit? (Char.ofNat byte.toNat) with
  | none =>
      rw [found] at further
      cases further
  | some digit =>
      simp only [found] at further
      have extended := spellHex_append spelled found
      have number : Json.hexadecimal (digits ++ [digit]) = 16 * code + digit := by
        rw [Json.hexadecimal, List.foldl_append, ← value]
        rfl
      have longer : (digits ++ [digit]).length = digits.length + 1 := List.length_append
      by_cases last : toCome ≤ 1
      · rw [if_pos last] at further
        cases further
        exact halved.pushCode ⟨digits ++ [digit], extended, by omega, number⟩
      · rw [if_neg last] at further
        cases further
        exact ⟨written, bytes ++ [byte], digits ++ [digit], rfl, halved, extended, by omega,
          by omega, number⟩

theorem reads_of_continuation {byte : UInt8} {toCome : Nat} (begun : t.part = .continuation toCome)
    (halved : t.Halved written) (further : t.read byte = .ok next) :
    next.Reads (written ++ [byte]) := by
  simp only [PartialText.read, begun] at further
  by_cases belongs : (0x80 ≤ byte.toNat && byte.toNat < 0xC0) = true
  · rw [if_pos belongs] at further
    cases further
    rw [Bool.and_eq_true, decide_eq_true_eq, decide_eq_true_eq] at belongs
    have pushed := halved.push (Nat.le_trans (by decide) belongs.1)
      (fun same => absurd belongs.1 (same ▸ by decide))
      (fun same => absurd belongs.1 (same ▸ by decide))
    split
    · exact pushed _
    · exact pushed _
  · rw [if_neg belongs] at further
    cases further

/-- A byte that does not end a text is added to what has been read of it. -/
theorem reads_read {byte : UInt8} (reads : t.Reads written) (goesOn : t.part = .plain -> byte ≠ 34)
    (further : t.read byte = .ok next) : next.Reads (written ++ [byte]) := by
  unfold Reads at reads
  cases part : t.part with
  | plain =>
      rw [part] at reads
      exact reads_of_plain part reads (goesOn part) further
  | escape =>
      rw [part] at reads
      rcases reads with ⟨front, same, halved⟩
      rw [same]
      exact reads_of_escape part halved further
  | hexadecimal toCome code =>
      rw [part] at reads
      rcases reads with ⟨front, bytes, digits, same, halved, spelled, length, left, value⟩
      rw [same, List.append_assoc]
      exact reads_of_hexadecimal part halved spelled length left value further
  | continuation toCome =>
      rw [part] at reads
      exact reads_of_continuation part reads further

theorem broken_of_read {byte : UInt8} {problem : Problem} (refused : t.read byte = .error problem) :
    problem = .broken := by
  unfold PartialText.read at refused
  cases part : t.part with
  | plain =>
      simp only [part] at refused
      repeat' split at refused
      all_goals cases refused
      all_goals rfl
  | escape =>
      simp only [part] at refused
      repeat' split at refused
      all_goals cases refused
      rfl
  | hexadecimal toCome code =>
      simp only [part] at refused
      repeat' split at refused
      all_goals cases refused
      rfl
  | continuation toCome =>
      simp only [part] at refused
      repeat' split at refused
      all_goals cases refused
      rfl

/-- A blank belongs to a text only where a character is complete. -/
theorem halved_of_blank (reads : t.Reads written) (further : t.read 32 = .ok next) :
    t.Halved written := by
  unfold PartialText.read at further
  unfold Reads at reads
  cases part : t.part with
  | plain =>
      rw [part] at reads
      exact reads
  | escape =>
      simp only [part] at further
      cases further
  | hexadecimal toCome code =>
      simp only [part] at further
      cases further
  | continuation toCome =>
      rw [part] at reads
      exact reads

/-- The token of a text has the quotes and what has been read between them. -/
theorem lexeme_finish (halved : t.Halved written) :
    Lexeme t.finish (34 :: (written ++ [34])) := by
  unfold finish
  cases value : String.fromUTF8? ⟨t.settled.reverse.toArray⟩ with
  | some text => exact .string halved.settled value
  | none => exact .garbled halved.settled value

end PartialText

end TraceView.Json
